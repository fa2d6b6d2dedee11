-- Percent-encoding of a query. Every UTF-8 byte is written as `%` and two
-- upper-case hex digits, except the ASCII letters, digits and `- _ . ~`,
-- which stand for themselves. Filling a template puts the encoded query in
-- place of every `{text}`.

namespace Typeahead.Text

/-- The upper-case hex digit of a value below 16. -/
def hexDigit (n : Nat) : Char :=
  if n < 10 then Char.ofNat (48 + n) else Char.ofNat (55 + n)

/-- A byte that stands for itself: an ASCII letter or digit, or one of `- _ . ~`. -/
def isUnreserved (b : UInt8) : Bool :=
  let n := b.toNat
  (48 ≤ n && n ≤ 57) || (65 ≤ n && n ≤ 90) || (97 ≤ n && n ≤ 122) ||
    n == 45 || n == 95 || n == 46 || n == 126

/-- The written form of one byte. -/
def encodeByte (b : UInt8) : List Char :=
  if isUnreserved b then [Char.ofNat b.toNat]
  else ['%', hexDigit (b.toNat / 16), hexDigit (b.toNat % 16)]

/-- The UTF-8 bytes of a text. -/
def utf8Bytes (cs : List Char) : List UInt8 := cs.flatMap String.utf8EncodeChar

/-- Percent-encodes the UTF-8 bytes of a text. -/
def encodeChars (cs : List Char) : List Char := (utf8Bytes cs).flatMap encodeByte

/-- Percent-encodes a query. -/
def encode (s : String) : String := String.ofList (encodeChars s.toList)

/-- Puts `value` in place of every `{text}`, scanning left to right. -/
def fillChars (value : List Char) : List Char → List Char
  | '{' :: 't' :: 'e' :: 'x' :: 't' :: '}' :: rest => value ++ fillChars value rest
  | c :: rest => c :: fillChars value rest
  | [] => []

/-- Whether a template holds `{text}`. -/
def holdsPlaceholder : List Char → Bool
  | '{' :: 't' :: 'e' :: 'x' :: 't' :: '}' :: _ => true
  | _ :: rest => holdsPlaceholder rest
  | [] => false

/-- Puts the encoded query in place of every `{text}` of a template. -/
def fillTemplate (template text : String) : String :=
  String.ofList (fillChars (encodeChars text.toList) template.toList)

theorem encodeByte_unreserved {b : UInt8} (h : isUnreserved b = true) :
    encodeByte b = [Char.ofNat b.toNat] := by
  simp [encodeByte, h]

theorem fillChars_nil (value : List Char) : fillChars value [] = [] := rfl

end Typeahead.Text
