-- The four string forms of TOML: basic strings with escapes, literal strings
-- that hold their text as written, and the multi-line form of each. A line
-- end right after the opening quotes is dropped, and a multi-line basic
-- string drops a backslash at the end of a line with the blanks after it.
import Typeahead.Toml.Cursor
import Typeahead.Text.Utf8
import Typeahead.Text.Percent

namespace Typeahead.Toml

/-- The text of bytes read from valid UTF-8 input. -/
def textOf (bs : List UInt8) : String := Text.lossyString bs

/-- The bytes of one character. -/
def charBytes (c : Char) : List UInt8 := Text.utf8Bytes [c]

/-- The value of hexadecimal digits. -/
def hexValue (ds : List UInt8) : Nat :=
  ds.foldl (fun acc d =>
    let v := if isDigit d then d.toNat - 48 else if d ≤ 70 then d.toNat - 55 else d.toNat - 87
    acc * 16 + v) 0

/-- Whether a number is a Unicode scalar value. -/
def isScalar (v : Nat) : Bool := v < 0xD800 || (0xE000 ≤ v && v ≤ 0x10FFFF)

/-- Reads `n` hexadecimal digits naming a character. -/
def hexEscape (n : Nat) (what : String) (c : Cursor) : Except Miss (Char × Cursor) :=
  let (ds, c') := c.spanUpTo n isHexDigit
  if ds.length ≠ n then .error (c.stop [.label what] none)
  else
    let v := hexValue ds
    if isScalar v then .ok (Char.ofNat v, c')
    else .error (c.stop [.label what] (some "value is out of range"))

/-- What may follow a backslash. -/
def escapeNotes : List Note :=
  .label "escape sequence" :: ['b', 'f', 'n', 'r', 't', 'u', 'U', '\\', '"'].map charNote

/-- Reads what follows a backslash. With nothing to read the miss is not final. -/
def escapeChar (c : Cursor) : Except Miss (Char × Cursor) :=
  match c.rest with
  | [] => .error c.miss
  | b :: _ =>
    let c1 := c.skip 1
    if b == 98 then .ok ('\x08', c1)
    else if b == 102 then .ok ('\x0c', c1)
    else if b == 110 then .ok ('\n', c1)
    else if b == 114 then .ok ('\r', c1)
    else if b == 116 then .ok ('\t', c1)
    else if b == 117 then hexEscape 4 "unicode 4-digit hex code" c1
    else if b == 85 then hexEscape 8 "unicode 8-digit hex code" c1
    else if b == 92 then .ok ('\\', c1)
    else if b == 34 then .ok ('"', c1)
    else .error (c1.stop escapeNotes none)

/-- Reads the body of a basic string up to the first byte it cannot hold. -/
def basicBody (c : Cursor) (acc : List UInt8) (fuel : Nat) : Except Miss (List UInt8 × Cursor) :=
  match fuel with
  | 0 => .ok (acc, c)
  | fuel + 1 =>
    let (run, c') := c.span isBasicByte
    if !run.isEmpty then basicBody c' (acc ++ run) fuel
    else
      match c.rest with
      | 92 :: _ =>
        match escapeChar (c.skip 1) with
        | .ok (ch, c') => basicBody c' (acc ++ charBytes ch) fuel
        | .error m => if m.final then .error m else .ok (acc, c)
      | _ => .ok (acc, c)

/-- Reads a basic string; the cursor stands at its opening quote. -/
def basicString (c : Cursor) : Except Miss (String × Cursor) := do
  let (bytes, c') ← basicBody (c.skip 1) [] c.rest.length
  match c'.rest with
  | 34 :: _ => .ok (textOf bytes, c'.skip 1)
  | _ => .error (c'.stop [.label "basic string"] none)

/-- Reads a literal string; the cursor stands at its opening apostrophe. -/
def literalString (c : Cursor) : Except Miss (String × Cursor) :=
  let (run, c') := (c.skip 1).span isLiteralByte
  match c'.rest with
  | 39 :: _ => .ok (textOf run, c'.skip 1)
  | _ => .error (c'.stop [.label "literal string"] none)

/-! ## Multi-line strings -/

/-- Reads one backslash at a line end with the blanks and line ends after it. -/
def escapedLineEnd? (c : Cursor) : Option Cursor :=
  match c.rest with
  | 92 :: _ =>
    match newline (c.skip 1).ws with
    | .ok c' => some (wsNewline c' c'.rest.length)
    | .error _ => none
  | _ => none

/-- Reads escaped line ends, one after another, as long as there are. -/
def escapedLineEnds (c : Cursor) (fuel : Nat) : Cursor :=
  match fuel with
  | 0 => c
  | fuel + 1 =>
    match escapedLineEnd? c with
    | some c' => escapedLineEnds c' fuel
    | none => c

/-- Reads one piece of a multi-line basic string: a run of plain bytes, escaped
line ends, one escape, or one line end. -/
def mlBasicPiece (c : Cursor) : Except Miss (List UInt8 × Cursor) :=
  let (run, c') := c.span isBasicByte
  if !run.isEmpty then .ok (run, c')
  else
    match escapedLineEnd? c with
    | some c' => .ok ([], escapedLineEnds c' c'.rest.length)
    | none =>
      let escaped : Except Miss (List UInt8 × Cursor) :=
        match c.rest with
        | 92 :: _ => (escapeChar (c.skip 1)).map (fun (ch, c') => (charBytes ch, c'))
        | _ => .error c.miss
      match escaped with
      | .ok r => .ok r
      | .error m =>
        if m.final then .error m
        else
          match newline c with
          | .ok c' => .ok ([10], c')
          | .error m' => .error m'

/-- Reads pieces of a multi-line basic string as long as there are. -/
def mlBasicPieces (c : Cursor) (acc : List UInt8) (fuel : Nat) : Except Miss (List UInt8 × Cursor) :=
  match fuel with
  | 0 => .ok (acc, c)
  | fuel + 1 =>
    match mlBasicPiece c with
    | .ok (bs, c') => mlBasicPieces c' (acc ++ bs) fuel
    | .error m => if m.final then .error m else .ok (acc, c)

/-- One or two quotes that the text inside a string holds, followed by a byte
for which `next` holds. -/
def innerQuotes? (q : UInt8) (next : Cursor → Bool) (c : Cursor) : Option (List UInt8 × Cursor) :=
  if c.startsWith [q, q] && next (c.skip 2) then some ([q, q], c.skip 2)
  else if c.startsWith [q] && next (c.skip 1) then some ([q], c.skip 1)
  else none

/-- Whether the next byte is there and is not `q`. -/
def notQuote (q : UInt8) (c : Cursor) : Bool :=
  match c.rest with
  | b :: _ => b != q
  | [] => false

/-- Reads the inside of a multi-line basic string: pieces, and quotes that
more pieces follow. -/
def mlBasicQuoted (c : Cursor) (acc : List UInt8) (fuel : Nat) : Except Miss (List UInt8 × Cursor) :=
  match fuel with
  | 0 => .ok (acc, c)
  | fuel + 1 =>
    match innerQuotes? 34 (notQuote 34) c with
    | none => .ok (acc, c)
    | some (q, c') =>
      match mlBasicPiece c' with
      | .error m => if m.final then .error m else .ok (acc, c')
      | .ok (bs, c'') => do
        let (acc', c3) ← mlBasicPieces c'' (acc ++ q ++ bs) c''.rest.length
        mlBasicQuoted c3 acc' fuel

/-- The body of a multi-line basic string, up to its closing quotes. -/
def mlBasicBody (c : Cursor) : Except Miss (List UInt8 × Cursor) := do
  let (acc, c) ← mlBasicPieces c [] c.rest.length
  let (acc, c) ← mlBasicQuoted c acc c.rest.length
  match innerQuotes? 34 (·.startsWith [34, 34, 34]) c with
  | some (q, c') => .ok (acc ++ q, c')
  | none => .ok (acc, c)

/-- Drops a line end right after the opening quotes. -/
def dropFirstNewline (c : Cursor) : Cursor :=
  match newline c with
  | .ok c' => c'
  | .error _ => c

/-- Reads a multi-line basic string; the cursor stands at its opening quotes. -/
def mlBasicString (c : Cursor) : Except Miss (String × Cursor) :=
  noting [.label "multiline basic string"] do
    let (bytes, c') ← mlBasicBody (dropFirstNewline (c.skip 3))
    if c'.startsWith [34, 34, 34] then .ok (textOf bytes, c'.skip 3)
    else .error (c'.stop [] none)

/-- Reads one byte or line end of a multi-line literal string. -/
def mlLiteralPiece? (c : Cursor) : Option Cursor :=
  match c.rest with
  | b :: _ => if isLiteralByte b then some (c.skip 1) else (newline c).toOption
  | [] => none

/-- Reads bytes and line ends of a multi-line literal string as long as there are. -/
def mlLiteralPieces (c : Cursor) (fuel : Nat) : Cursor :=
  match fuel with
  | 0 => c
  | fuel + 1 =>
    match mlLiteralPiece? c with
    | some c' => mlLiteralPieces c' fuel
    | none => c

/-- Reads quotes that more pieces follow, as long as there are. -/
def mlLiteralQuoted (c : Cursor) (fuel : Nat) : Cursor :=
  match fuel with
  | 0 => c
  | fuel + 1 =>
    match innerQuotes? 39 (notQuote 39) c with
    | none => c
    | some (_, c') =>
      match mlLiteralPiece? c' with
      | none => c
      | some c'' => mlLiteralQuoted (mlLiteralPieces c'' c''.rest.length) fuel

/-- `CR LF` pairs written as `LF`. -/
def unixLines : List UInt8 → List UInt8
  | 13 :: 10 :: r => 10 :: unixLines r
  | b :: r => b :: unixLines r
  | [] => []

/-- Reads a multi-line literal string; the cursor stands at its opening apostrophes. -/
def mlLiteralString (c : Cursor) : Except Miss (String × Cursor) :=
  let c1 := dropFirstNewline (c.skip 3)
  let c2 := mlLiteralPieces c1 c1.rest.length
  let c3 := mlLiteralQuoted c2 c2.rest.length
  let c4 := match innerQuotes? 39 (·.startsWith [39, 39, 39]) c3 with
    | some (_, c') => c'
    | none => c3
  let body := unixLines (c1.rest.take (c4.pos - c1.pos))
  if c4.startsWith [39, 39, 39] then .ok (textOf body, c4.skip 3)
  else .error (c4.stop [.label "multiline literal string"] none)

/-- Reads a string of any of the four forms. -/
def quotedString (c : Cursor) : Except Miss (String × Cursor) :=
  if c.startsWith [34, 34, 34] then mlBasicString c
  else if c.startsWith [34] then basicString c
  else if c.startsWith [39, 39, 39] then mlLiteralString c
  else if c.startsWith [39] then literalString c
  else .error c.miss

end Typeahead.Toml
