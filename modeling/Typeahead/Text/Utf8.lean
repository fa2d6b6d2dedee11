-- UTF-8 bytes to characters. A strict reading refuses any ill-formed
-- sequence; a lenient reading puts one U+FFFD in place of each maximal
-- part of a sequence that could still have begun a well-formed one.

namespace Typeahead.Text

/-- A continuation byte: `10xxxxxx`. -/
def isCont (b : UInt8) : Bool := 0x80 ≤ b.toNat && b.toNat ≤ 0xBF

/-- The range the second byte of a sequence must fall in, given its first
byte, and the length of the whole sequence; `none` for a byte that starts
no sequence. -/
def leadInfo (b : Nat) : Option (Nat × Nat × Nat) :=
  if 0xC2 ≤ b && b ≤ 0xDF then some (0x80, 0xBF, 2)
  else if b = 0xE0 then some (0xA0, 0xBF, 3)
  else if (0xE1 ≤ b && b ≤ 0xEC) || b = 0xEE || b = 0xEF then some (0x80, 0xBF, 3)
  else if b = 0xED then some (0x80, 0x9F, 3)
  else if b = 0xF0 then some (0x90, 0xBF, 4)
  else if 0xF1 ≤ b && b ≤ 0xF3 then some (0x80, 0xBF, 4)
  else if b = 0xF4 then some (0x80, 0x8F, 4)
  else none

/-- The code point of a sequence from its first byte and its continuation bytes. -/
def codePoint (lead : Nat) (conts : List UInt8) : Nat :=
  let first := match conts.length with
    | 1 => lead % 0x20
    | 2 => lead % 0x10
    | _ => lead % 0x08
  conts.foldl (fun acc b => acc * 64 + b.toNat % 64) first

/-- Reads one character after its first non-ASCII byte `lead`: the character,
or `none` for an ill-formed part, and how many of the following bytes it took. -/
def readAfter (lead : Nat) (rest : List UInt8) : Option Char × Nat :=
  match leadInfo lead with
  | none => (none, 0)
  | some (lo, hi, len) =>
    match rest with
    | b1 :: r1 =>
      if lo ≤ b1.toNat && b1.toNat ≤ hi then
        if len = 2 then (some (Char.ofNat (codePoint lead [b1])), 1)
        else match r1 with
          | b2 :: r2 =>
            if isCont b2 then
              if len = 3 then (some (Char.ofNat (codePoint lead [b1, b2])), 2)
              else match r2 with
                | b3 :: _ =>
                  if isCont b3 then (some (Char.ofNat (codePoint lead [b1, b2, b3])), 3)
                  else (none, 2)
                | [] => (none, 2)
            else (none, 1)
          | [] => (none, 1)
      else (none, 0)
    | [] => (none, 0)

theorem readAfter_le (lead : Nat) (rest : List UInt8) : (readAfter lead rest).2 ≤ rest.length := by
  unfold readAfter
  repeat' split
  all_goals simp_all

/-- The characters of a byte text, each ill-formed part read as U+FFFD. -/
def decodeLossy : List UInt8 → List Char
  | [] => []
  | b :: rest =>
    if b.toNat < 0x80 then Char.ofNat b.toNat :: decodeLossy rest
    else
      let (c, n) := readAfter b.toNat rest
      c.getD '�' :: decodeLossy (rest.drop n)
termination_by bs => bs.length
decreasing_by
  · simp
  · simp only [List.length_drop, List.length_cons]; omega

/-- The characters of a byte text, or `none` if any part is ill-formed. -/
def decode? : List UInt8 → Option (List Char)
  | [] => some []
  | b :: rest =>
    if b.toNat < 0x80 then (decode? rest).map (Char.ofNat b.toNat :: ·)
    else
      match readAfter b.toNat rest with
      | (some c, n) => (decode? (rest.drop n)).map (c :: ·)
      | (none, _) => none
termination_by bs => bs.length
decreasing_by
  · simp
  · simp only [List.length_drop, List.length_cons]; omega

/-- A byte text read leniently, as a `String`. -/
def lossyString (bs : List UInt8) : String := String.ofList (decodeLossy bs)

end Typeahead.Text
