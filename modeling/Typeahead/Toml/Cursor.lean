-- Reading TOML text byte by byte. A step either reads a value and returns the
-- rest of the text, or misses. A miss says where the reading stopped, whether
-- it is final (no other reading of the same text may be tried), what was
-- being read and what would have fitted, and the cause it found.
import Typeahead.Toml.Tree

namespace Typeahead.Toml

/-- The bytes not yet read and their offset in the text. -/
structure Cursor where
  rest : List UInt8
  pos : Nat
  deriving Repr

/-- What a miss notes about itself. -/
inductive Note where
  /-- What was being read: the miss reads "invalid" and this. -/
  | label (what : String)
  /-- One of the things that would have fitted. -/
  | expected (what : String)
  deriving Repr, DecidableEq

/-- A failed step. -/
structure Miss where
  final : Bool
  pos : Nat
  notes : List Note
  cause : Option String
  deriving Repr

/-- A step of reading. -/
abbrev Step (α : Type) := Cursor → Except Miss (α × Cursor)

/-- The message of a miss: what was being read, what would have fitted and
the cause, one to a line. -/
def Miss.message (m : Miss) : String :=
  let label := m.notes.findSome? (fun | .label s => some s | _ => none)
  let expected := m.notes.filterMap (fun | .expected s => some s | _ => none)
  let lines := (label.map ("invalid " ++ ·)).toList
    ++ (if expected.isEmpty then [] else ["expected " ++ ", ".intercalate expected])
    ++ m.cause.toList
  "\n".intercalate lines

/-- A miss at the cursor that other readings may still follow. -/
def Cursor.miss (c : Cursor) : Miss := ⟨false, c.pos, [], none⟩

/-- A final miss at the cursor. -/
def Cursor.stop (c : Cursor) (notes : List Note) (cause : Option String) : Miss :=
  ⟨true, c.pos, notes, cause⟩

/-- A miss with more notes. -/
def Miss.note (m : Miss) (ns : List Note) : Miss := { m with notes := m.notes ++ ns }

/-- The same miss made final. -/
def Miss.cut (m : Miss) : Miss := { m with final := true }

/-- Adds notes to the miss of a step. -/
def noting {α : Type} (ns : List Note) (r : Except Miss α) : Except Miss α :=
  r.mapError (·.note ns)

/-- Makes the miss of a step final. -/
def cutting {α : Type} (r : Except Miss α) : Except Miss α :=
  r.mapError Miss.cut

/-- How a character that would have fitted is named. -/
def charNote (c : Char) : Note :=
  if c = '\n' then .expected "newline" else .expected ("`" ++ c.toString ++ "`")

/-- The cursor after `n` bytes. -/
def Cursor.skip (c : Cursor) (n : Nat) : Cursor := ⟨c.rest.drop n, c.pos + n⟩

/-- The next byte, if any. -/
def Cursor.peek? (c : Cursor) : Option UInt8 := c.rest.head?

/-- Whether the text ahead starts with these bytes. -/
def Cursor.startsWith (c : Cursor) (bs : List UInt8) : Bool := bs.isPrefixOf c.rest

/-- The longest run of bytes ahead that satisfy `p`, and the cursor after it. -/
def Cursor.span (c : Cursor) (p : UInt8 → Bool) : List UInt8 × Cursor :=
  let run := c.rest.takeWhile p
  (run, c.skip run.length)

/-- At most `n` bytes ahead that satisfy `p`, and the cursor after them. -/
def Cursor.spanUpTo (c : Cursor) (n : Nat) (p : UInt8 → Bool) : List UInt8 × Cursor :=
  let run := (c.rest.take n).takeWhile p
  (run, c.skip run.length)

/-! ## Classes of bytes -/

/-- A blank within a line: space or tab. -/
def isWs (b : UInt8) : Bool := b == 32 || b == 9

/-- A decimal digit. -/
def isDigit (b : UInt8) : Bool := 48 ≤ b && b ≤ 57

/-- A hexadecimal digit. -/
def isHexDigit (b : UInt8) : Bool :=
  isDigit b || (65 ≤ b && b ≤ 70) || (97 ≤ b && b ≤ 102)

/-- A byte that a comment may hold. -/
def isCommentByte (b : UInt8) : Bool := b == 9 || (32 ≤ b && b ≤ 126) || b ≥ 128

/-- A byte of a bare key. -/
def isBareKeyByte (b : UInt8) : Bool :=
  isDigit b || (65 ≤ b && b ≤ 90) || (97 ≤ b && b ≤ 122) || b == 45 || b == 95

/-- A byte that stands for itself in a basic string. -/
def isBasicByte (b : UInt8) : Bool :=
  b == 9 || b == 32 || b == 33 || (35 ≤ b && b ≤ 91) || (93 ≤ b && b ≤ 126) || b ≥ 128

/-- A byte of a literal string. -/
def isLiteralByte (b : UInt8) : Bool :=
  b == 9 || (32 ≤ b && b ≤ 38) || (40 ≤ b && b ≤ 126) || b ≥ 128

/-! ## Blanks, line ends and comments -/

/-- Skips blanks within a line. -/
def Cursor.ws (c : Cursor) : Cursor := (c.span isWs).2

/-- Reads a line end, `LF` or `CR LF`. After a lone `CR` the miss stands past it. -/
def newline (c : Cursor) : Except Miss Cursor :=
  match c.rest with
  | 10 :: _ => .ok (c.skip 1)
  | 13 :: 10 :: _ => .ok (c.skip 2)
  | 13 :: _ => .error (c.skip 1).miss
  | _ => .error c.miss

/-- Reads a line end or the end of the text. -/
def lineEnding (c : Cursor) : Except Miss Cursor :=
  match newline c with
  | .ok c' => .ok c'
  | .error _ => if c.rest.isEmpty then .ok c else .error c.miss

/-- Reads a comment, from `#` to the first byte a comment may not hold. -/
def comment? (c : Cursor) : Option Cursor :=
  match c.rest with
  | 35 :: _ => some ((c.skip 1).span isCommentByte).2
  | _ => none

/-- Reads what may end a line after a value: blanks, a comment, and the line end. -/
def lineTrailing (c : Cursor) : Except Miss Cursor :=
  let c := c.ws
  let c := (comment? c).getD c
  lineEnding c

/-- Skips blanks, line ends and comments, as between the items of an array. -/
def wsCommentNewline (c : Cursor) (fuel : Nat) : Except Miss Cursor :=
  match fuel with
  | 0 => .ok c
  | fuel + 1 =>
    let c := c.ws
    match c.rest with
    | 35 :: _ =>
      match comment? c with
      | some c' => do let c'' ← newline c'; wsCommentNewline c'' fuel
      | none => .ok c
    | 10 :: _ | 13 :: _ => do let c' ← newline c; wsCommentNewline c' fuel
    | _ => .ok c

/-- Skips blanks and line ends. -/
def wsNewline (c : Cursor) (fuel : Nat) : Cursor :=
  match fuel with
  | 0 => c
  | fuel + 1 =>
    match newline c with
    | .ok c' => wsNewline c' fuel
    | .error _ =>
      let (run, c') := c.span isWs
      if run.isEmpty then c else wsNewline c' fuel

end Typeahead.Toml
