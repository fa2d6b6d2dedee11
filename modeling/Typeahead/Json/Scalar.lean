-- The scalars of a JSON text: literal words, strings with their escapes,
-- and numbers. A number is a natural number while it fits in 64 bits, a
-- negative integer while it fits in 64 signed bits, and otherwise a
-- binary64 value computed from at most 64 bits of significand and a power
-- of ten; a value too large for binary64 is a fault.
import Typeahead.Json.Cursor
import Typeahead.Number.Binary64
import Typeahead.Text.Utf8
import Typeahead.Text.Quote

namespace Typeahead.Json

open Typeahead.Number

/-- A number as the reader keeps it. -/
inductive Num where
  | nat (n : Nat)
  | negInt (magnitude : Nat)
  | float (x : Float64)
  deriving Repr, DecidableEq

/-- How a number is named in a message about a value of the wrong kind. -/
def Num.describe : Num → String
  | .nat n => "integer `" ++ toString n ++ "`"
  | .negInt n => "integer `-" ++ toString n ++ "`"
  | .float x => "floating point `" ++ x.compactText ++ "`"

/-- The largest value of 64 unsigned bits. -/
def u64Max : Nat := Nat.pow 2 64 - 1

/-- The largest value of 32 signed bits. -/
def i32Max : Nat := Nat.pow 2 31 - 1

/-- An ASCII digit. -/
def isDigit (b : UInt8) : Bool := 48 ≤ b.toNat && b.toNat ≤ 57

/-- The value of a hex digit. -/
def hexValue? (b : UInt8) : Option Nat :=
  let n := b.toNat
  if 48 ≤ n && n ≤ 57 then some (n - 48)
  else if 65 ≤ n && n ≤ 70 then some (n - 55)
  else if 97 ≤ n && n ≤ 102 then some (n - 87)
  else none

/-- Reads the rest of a literal word, byte by byte. -/
def readWord (c : Cursor) : List UInt8 → Except Fault Cursor
  | [] => .ok c
  | e :: es =>
    match c.peek? with
    | none => .error (c.fault .eofValue)
    | some b => if b = e then readWord c.bump es else .error (c.bump.fault .expectedIdent)

/-- The bytes of `ull`, `rue` and `alse`, the rests of `null`, `true` and `false`. -/
def restOfNull : List UInt8 := [117, 108, 108]
def restOfTrue : List UInt8 := [114, 117, 101]
def restOfFalse : List UInt8 := [97, 108, 115, 101]

/-! ## Strings -/

/-- Reads four hex digits of a `\u` escape. -/
def readHex4 (c : Cursor) : Except Fault (Nat × Cursor) :=
  match c.rest with
  | a :: b :: d :: e :: _ =>
    let c' := c.bump.bump.bump.bump
    match hexValue? a, hexValue? b, hexValue? d, hexValue? e with
    | some w, some x, some y, some z => .ok (((w * 16 + x) * 16 + y) * 16 + z, c')
    | _, _, _, _ => .error (c'.fault .invalidEscape)
  | _ => .error ((c.skipWhile (fun _ => true)).fault .eofString)

/-- Reads the code point of a `\u` escape after its `u`, pairing a high
surrogate with the low one that must follow. -/
def readUnicodeEscape (c : Cursor) : Except Fault (Char × Cursor) := do
  let (n, c) ← readHex4 c
  if 0xDC00 ≤ n && n ≤ 0xDFFF then throw (c.fault .loneLeadingSurrogate)
  else if 0xD800 ≤ n && n ≤ 0xDBFF then
    let c ← match c.peek? with
      | none => throw (c.fault .eofString)
      | some 92 => pure c.bump
      | some _ => throw (c.bump.fault .unexpectedEndOfHexEscape)
    let c ← match c.peek? with
      | none => throw (c.fault .eofString)
      | some 117 => pure c.bump
      | some _ => throw (c.bump.fault .unexpectedEndOfHexEscape)
    let (n2, c) ← readHex4 c
    if n2 < 0xDC00 || n2 > 0xDFFF then throw (c.fault .loneLeadingSurrogate)
    else pure (Char.ofNat (((n - 0xD800) * 0x400 + (n2 - 0xDC00)) + 0x10000), c)
  else pure (Char.ofNat n, c)

/-- Reads an escape after its backslash, adding its bytes to `acc` (reversed). -/
def readEscape (acc : List UInt8) (c : Cursor) : Except Fault (List UInt8 × Cursor) :=
  match c.peek? with
  | none => .error (c.fault .eofString)
  | some b =>
    let c' := c.bump
    let one (x : UInt8) : Except Fault (List UInt8 × Cursor) := .ok (x :: acc, c')
    match b.toNat with
    | 34 => one 34
    | 92 => one 92
    | 47 => one 47
    | 98 => one 8
    | 102 => one 12
    | 110 => one 10
    | 114 => one 13
    | 116 => one 9
    | 117 => do
      let (ch, c'') ← readUnicodeEscape c'
      pure ((String.utf8EncodeChar ch).reverse ++ acc, c'')
    | _ => .error (c'.fault .invalidEscape)

/-- Reads the rest of a string after its opening quote; `acc` holds the bytes
read so far, reversed. -/
def readStringFrom (fuel : Nat) (acc : List UInt8) (c : Cursor) : Except Fault (List UInt8 × Cursor) :=
  match fuel with
  | 0 => .error (c.fault .eofString)
  | f + 1 =>
    match c.peek? with
    | none => .error (c.fault .eofString)
    | some b =>
      if b = 34 then .ok (acc.reverse, c.bump)
      else if b = 92 then
        match readEscape acc c.bump with
        | .ok (acc', c') => readStringFrom f acc' c'
        | .error e => .error e
      else if b.toNat < 0x20 then .error (c.bump.fault .controlCharacter)
      else readStringFrom f (b :: acc) c.bump

/-- Reads a string after its opening quote. -/
def readString (c : Cursor) : Except Fault (String × Cursor) :=
  match readStringFrom (c.rest.length + 1) [] c with
  | .ok (bs, c') => .ok (Text.lossyString bs, c')
  | .error e => .error e

/-- Reads past the rest of an escape in a string whose value is not kept. -/
def skipEscape (c : Cursor) : Except Fault Cursor :=
  match c.peek? with
  | none => .error (c.fault .eofString)
  | some b =>
    let c' := c.bump
    if b = 34 || b = 92 || b = 47 || b = 98 || b = 102 || b = 110 || b = 114 || b = 116 then .ok c'
    else if b = 117 then (readHex4 c').map (·.2)
    else .error (c'.fault .invalidEscape)

/-- Reads past the rest of a string whose value is not kept. -/
def skipStringFrom (fuel : Nat) (c : Cursor) : Except Fault Cursor :=
  match fuel with
  | 0 => .error (c.fault .eofString)
  | f + 1 =>
    match c.peek? with
    | none => .error (c.fault .eofString)
    | some b =>
      if b = 34 then .ok c.bump
      else if b = 92 then
        match skipEscape c.bump with
        | .ok c' => skipStringFrom f c'
        | .error e => .error e
      else if b.toNat < 0x20 then .error (c.fault .controlCharacter)
      else skipStringFrom f c.bump

/-! ## Numbers -/

/-- The binary64 value nearest to `10^k`. -/
def powerOfTen (k : Nat) : Number.Dyadic := (roundQuotient (Nat.pow 10 k) 1).getD ⟨0, 0⟩

/-- Scales a binary64 value by `10^e` the way the reader does: one rounded
multiplication or division by the binary64 power of ten when `|e| ≤ 308`,
and before that rounded divisions by `10^308` while `e` is below -308 and
the value is not zero. `none` when the value overflows; past the fuel (the
value is zero after three divisions) it is zero. -/
def scaleByTen (fuel : Nat) (f : Number.Dyadic) (e : Int) : Option Number.Dyadic :=
  match fuel with
  | 0 => some ⟨0, 0⟩
  | fuel + 1 =>
    if e.natAbs ≤ 308 then
      if e ≥ 0 then f.mul (powerOfTen e.natAbs) else f.div (powerOfTen e.natAbs)
    else if f.mant = 0 then some f
    else if e ≥ 0 then none
    else (f.div (powerOfTen 308)).bind (scaleByTen fuel · (e + 308))

/-- A binary64 value from its decimal parts, or a fault when it is too
large: the significand (below 2^64) rounded to binary64, then scaled. The
result is not always the binary64 value nearest to the decimal. -/
def floatOfParts (c : Cursor) (positive : Bool) (sig : Nat) (e : Int) : Except Fault Num :=
  match (roundQuotient sig 1).bind (scaleByTen 8 · e) with
  | some v => .ok (.float (.finite (!positive) v))
  | none => .error (c.fault .numberOutOfRange)

/-- Reads the digits of an exponent after `e`, with its sign. -/
def readExponentDigits (fuel : Nat) (acc : Nat) (c : Cursor) : Option Nat × Cursor :=
  match fuel with
  | 0 => (some acc, c)
  | f + 1 =>
    match c.peek? with
    | some b =>
      if isDigit b then
        let d := b.toNat - 48
        if acc * 10 + d > i32Max then (none, c.bump)
        else readExponentDigits f (acc * 10 + d) c.bump
      else (some acc, c)
    | none => (some acc, c)

/-- Reads an exponent after its `e` and gives the number it ends. -/
def readExponent (c : Cursor) (positive : Bool) (sig : Nat) (start : Int) : Except Fault (Num × Cursor) :=
  let c := c.bump
  let (up, c) := match c.peek? with
    | some 43 => (true, c.bump)
    | some 45 => (false, c.bump)
    | _ => (true, c)
  match c.peek? with
  | none => .error (c.fault .eofValue)
  | some b =>
    let c := c.bump
    if !isDigit b then .error (c.fault .invalidNumber)
    else
      match readExponentDigits c.rest.length (b.toNat - 48) c with
      | (some x, c) =>
        let e : Int := if up then start + x else start - x
        (floatOfParts c positive sig e).map (·, c)
      | (none, c) =>
        if sig ≠ 0 && up then .error (c.fault .numberOutOfRange)
        else
          let c := c.skipWhile isDigit
          .ok (.float (.finite (!positive) ⟨0, 0⟩), c)

/-- Reads past digits that no longer fit, then the exponent if one follows. -/
def readAfterOverflow (c : Cursor) (positive : Bool) (sig : Nat) (e : Int) : Except Fault (Num × Cursor) :=
  let c := c.skipWhile isDigit
  match c.peek? with
  | some 101 | some 69 => readExponent c positive sig e
  | _ => (floatOfParts c positive sig e).map (·, c)

/-- Reads the digits after a decimal point. -/
def readFractionDigits (fuel : Nat) (sig : Nat) (e : Int) (c : Cursor) : Nat × Int × Cursor × Bool :=
  match fuel with
  | 0 => (sig, e, c, false)
  | f + 1 =>
    match c.peek? with
    | some b =>
      if isDigit b then
        let d := b.toNat - 48
        if sig * 10 + d > u64Max then (sig, e, c, true)
        else readFractionDigits f (sig * 10 + d) (e - 1) c.bump
      else (sig, e, c, false)
    | none => (sig, e, c, false)

/-- Reads a fraction after its decimal point. -/
def readFraction (c : Cursor) (positive : Bool) (sig : Nat) (e0 : Int) : Except Fault (Num × Cursor) :=
  let c := c.bump
  match readFractionDigits c.rest.length sig 0 c with
  | (sig, after, c, true) => readAfterOverflow c positive sig (e0 + after)
  | (sig, after, c, false) =>
    if after = 0 then
      match c.peek? with
      | some _ => .error (c.peekFault .invalidNumber)
      | none => .error (c.peekFault .eofValue)
    else
      match c.peek? with
      | some 101 | some 69 => readExponent c positive sig (e0 + after)
      | _ => (floatOfParts c positive sig (e0 + after)).map (·, c)

/-- Reads the digits of an integer too long for 64 bits: they count only as
powers of ten. -/
def readLongInteger (fuel : Nat) (positive : Bool) (sig : Nat) (e : Int) (c : Cursor) :
    Except Fault (Num × Cursor) :=
  match fuel with
  | 0 => (floatOfParts c positive sig e).map (·, c)
  | f + 1 =>
    match c.peek? with
    | some b =>
      if isDigit b then readLongInteger f positive sig (e + 1) c.bump
      else if b = 46 then readFraction c positive sig e
      else if b = 101 || b = 69 then readExponent c positive sig e
      else (floatOfParts c positive sig e).map (·, c)
    | none => (floatOfParts c positive sig e).map (·, c)

/-- The number that ends after the integer part `sig`. -/
def finishInteger (c : Cursor) (positive : Bool) (sig : Nat) : Except Fault (Num × Cursor) :=
  match c.peek? with
  | some 46 => readFraction c positive sig 0
  | some 101 | some 69 => readExponent c positive sig 0
  | _ =>
    if positive then .ok (.nat sig, c)
    else if sig = 0 then .ok (.float (.finite true ⟨0, 0⟩), c)
    else if sig ≤ Nat.pow 2 63 then .ok (.negInt sig, c)
    else (floatOfParts c false sig 0).map (·, c)

/-- Reads the digits of an integer part after its first digit. -/
def readIntegerDigits (fuel : Nat) (positive : Bool) (sig : Nat) (c : Cursor) : Except Fault (Num × Cursor) :=
  match fuel with
  | 0 => finishInteger c positive sig
  | f + 1 =>
    match c.peek? with
    | some b =>
      if isDigit b then
        let d := b.toNat - 48
        if sig * 10 + d > u64Max then readLongInteger c.rest.length positive sig 0 c
        else readIntegerDigits f positive (sig * 10 + d) c.bump
      else finishInteger c positive sig
    | none => finishInteger c positive sig

/-- Reads a number after its sign. -/
def readNumber (c : Cursor) (positive : Bool) : Except Fault (Num × Cursor) :=
  match c.peek? with
  | none => .error (c.fault .eofValue)
  | some b =>
    let c' := c.bump
    if b = 48 then
      if isDigit c'.peekOrNul then .error (c'.peekFault .invalidNumber)
      else finishInteger c' positive 0
    else if isDigit b then readIntegerDigits c'.rest.length positive (b.toNat - 48) c'
    else .error (c'.fault .invalidNumber)

/-- Reads past a number whose value is not kept: digits, a fraction and an
exponent are checked for form only. -/
def skipNumber (c : Cursor) : Except Fault Cursor := do
  let c ← match c.peek? with
    | some 48 =>
      let c := c.bump
      if isDigit c.peekOrNul then throw (c.peekFault .invalidNumber) else pure c
    | some b =>
      if isDigit b then pure (c.bump.skipWhile isDigit) else throw (c.bump.fault .invalidNumber)
    | none => throw (c.fault .invalidNumber)
  let skipExponent (c : Cursor) : Except Fault Cursor := do
    let c := c.bump
    let c := match c.peek? with
      | some 43 | some 45 => c.bump
      | _ => c
    match c.peek? with
    | some b => if isDigit b then pure (c.bump.skipWhile isDigit) else throw (c.bump.fault .invalidNumber)
    | none => throw (c.fault .invalidNumber)
  match c.peek? with
  | some 46 =>
    let c := c.bump
    match c.peek? with
    | some b =>
      if isDigit b then
        let c := c.skipWhile isDigit
        match c.peek? with
        | some 101 | some 69 => skipExponent c
        | _ => pure c
      else throw (c.peekFault .invalidNumber)
    | none => throw (c.peekFault .invalidNumber)
  | some 101 | some 69 => skipExponent c
  | _ => pure c

end Typeahead.Json
