-- Numbers and date-times in TOML text. Integers are 64-bit and signed, in
-- decimal or with a `0x`, `0o` or `0b` prefix; a single underscore may stand
-- between two digits. Floats are rounded to binary64, and one that rounds to
-- positive infinity is refused. A date-time is only recognised here: what it
-- holds is never asked for.
import Typeahead.Toml.Quoted
import Typeahead.Number.Binary64

namespace Typeahead.Toml

/-- What a final miss says of a number beyond the 64-bit range. -/
def tooLarge : String := "number too large to fit in target type"

/-- What a final miss says of a number below the 64-bit range. -/
def tooSmall : String := "number too small to fit in target type"

/-- Reads more digits, with single underscores between them. An underscore
not followed by a digit is a final miss after it. -/
def moreDigits (isD : UInt8 → Bool) (c : Cursor) (fuel : Nat) : Except Miss Cursor :=
  match fuel with
  | 0 => .ok c
  | fuel + 1 =>
    match c.rest with
    | b :: _ =>
      if isD b then moreDigits isD (c.skip 1) fuel
      else if b == 95 then
        let c1 := c.skip 1
        match c1.rest with
        | d :: _ => if isD d then moreDigits isD (c1.skip 1) fuel
          else .error (c1.stop [.expected "digit"] none)
        | [] => .error (c1.stop [.expected "digit"] none)
      else .ok c
    | [] => .ok c

/-- Skips a sign, if there is one. -/
def Cursor.sign (c : Cursor) : Cursor :=
  match c.rest with
  | 43 :: _ | 45 :: _ => c.skip 1
  | _ => c

/-- Reads a decimal integer: a sign, then `0` or digits not starting with `0`. -/
def decInt (c : Cursor) : Except Miss Cursor :=
  noting [.label "integer"] <|
    let c1 := c.sign
    match c1.rest with
    | b :: _ =>
      if 49 ≤ b && b ≤ 57 then moreDigits isDigit (c1.skip 1) c1.rest.length
      else if b == 48 then .ok (c1.skip 1)
      else .error c1.miss
    | [] => .error c1.miss

/-- Reads digits that may start with `0`. -/
def zeroPrefixable (c : Cursor) : Except Miss Cursor :=
  match c.rest with
  | b :: _ => if isDigit b then moreDigits isDigit (c.skip 1) c.rest.length else .error c.miss
  | [] => .error c.miss

/-- The bytes read between two cursors. -/
def between (c c' : Cursor) : List UInt8 := c.rest.take (c'.pos - c.pos)

/-- The value of digits in a radix. -/
def digitsValue (radix : Nat) (ds : List UInt8) : Nat :=
  ds.foldl (fun acc d =>
    let v := if isDigit d then d.toNat - 48 else if d ≤ 70 then d.toNat - 55 else d.toNat - 87
    acc * radix + v) 0

/-- The greatest 64-bit signed integer. -/
def i64Max : Nat := Nat.pow 2 63 - 1

/-- An integer read from signed decimal text, or which way it leaves the range. -/
def signedValue (text : List UInt8) : Except String Int :=
  let ds := text.filter (· != 95)
  match ds with
  | 45 :: r =>
    let v := digitsValue 10 r
    if v > i64Max + 1 then .error tooSmall else .ok (Int.neg v)
  | 43 :: r =>
    let v := digitsValue 10 r
    if v > i64Max then .error tooLarge else .ok v
  | r =>
    let v := digitsValue 10 r
    if v > i64Max then .error tooLarge else .ok v

/-- Whether a byte is an octal digit. -/
def isOctDigit (b : UInt8) : Bool := 48 ≤ b && b ≤ 55

/-- Whether a byte is a binary digit. -/
def isBinDigit (b : UInt8) : Bool := b == 48 || b == 49

/-- Reads an integer after a radix prefix. -/
def radixInt (c : Cursor) (radix : Nat) (isD : UInt8 → Bool) (what : String) :
    Except Miss (Int × Cursor) := do
  let c1 := c.skip 2
  let c2 ← noting [.label what] <|
    match c1.rest with
    | b :: _ =>
      if isD b then moreDigits isD (c1.skip 1) c1.rest.length
      else .error (c1.stop [] none)
    | [] => .error (c1.stop [] none)
  let v := digitsValue radix ((between c1 c2).filter (· != 95))
  if v > i64Max then .error (c.stop [] (some tooLarge)) else .ok (v, c2)

/-- Reads an integer. -/
def integer (c : Cursor) : Except Miss (Int × Cursor) :=
  if c.startsWith [48, 120] then radixInt c 16 isHexDigit "hexadecimal integer"
  else if c.startsWith [48, 111] then radixInt c 8 isOctDigit "octal integer"
  else if c.startsWith [48, 98] then radixInt c 2 isBinDigit "binary integer"
  else do
    let c' ← decInt c
    match signedValue (between c c') with
    | .ok v => .ok (v, c')
    | .error why => .error (c.stop [] (some why))

/-! ## Floats -/

/-- Reads an exponent: `e` or `E`, a sign, digits. -/
def exponentPart (c : Cursor) : Except Miss Cursor :=
  match c.rest with
  | b :: _ =>
    if b == 101 || b == 69 then cutting (zeroPrefixable (c.skip 1).sign)
    else .error c.miss
  | [] => .error c.miss

/-- Reads a fraction: a point and digits. -/
def fractionPart (c : Cursor) : Except Miss Cursor :=
  match c.rest with
  | 46 :: _ => cutting (noting [.expected "digit"] (zeroPrefixable (c.skip 1)))
  | _ => .error c.miss

/-- The value of float text as written: sign, digits, fraction and exponent. -/
def floatValue (text : List UInt8) : Number.Float64 :=
  let ds := text.filter (· != 95)
  let (neg, ds) := match ds with
    | 45 :: r => (true, r)
    | 43 :: r => (false, r)
    | r => (false, r)
  let whole := ds.takeWhile isDigit
  let r := ds.drop whole.length
  let frac := match r with
    | 46 :: r' => r'.takeWhile isDigit
    | _ => []
  let r := match r with
    | 46 :: r' => r'.drop frac.length
    | _ => r
  let e : Int := match r with
    | _ :: 45 :: r' => Int.neg (digitsValue 10 r')
    | _ :: 43 :: r' => digitsValue 10 r'
    | _ :: r' => digitsValue 10 r'
    | [] => 0
  Number.Float64.ofDecimal neg (digitsValue 10 (whole ++ frac)) (e - frac.length)

/-- Reads `inf` or `nan` after a sign. -/
def specialFloat (c : Cursor) : Except Miss (Number.Float64 × Cursor) :=
  let neg := c.startsWith [45]
  let c1 := c.sign
  if c1.startsWith [105, 110, 102] then .ok (.infinite neg, c1.skip 3)
  else if c1.startsWith [110, 97, 110] then .ok (.nan, c1.skip 3)
  else .error c1.miss

/-- Reads the digits of a float: an integer part, then an exponent, or a
fraction and perhaps an exponent. -/
def floatDigits (c : Cursor) : Except Miss Cursor := do
  let c1 ← decInt c
  match exponentPart c1 with
  | .ok c2 => .ok c2
  | .error m =>
    if m.final then .error m
    else do
      let c2 ← fractionPart c1
      match exponentPart c2 with
      | .ok c3 => .ok c3
      | .error m' => if m'.final then .error m' else .ok c2

/-- Reads a float. -/
def float (c : Cursor) : Except Miss (Number.Float64 × Cursor) :=
  noting [.label "floating-point number"] <|
    match floatDigits c with
    | .ok c' =>
      let v := floatValue (between c c')
      if v = .infinite false then .error (c.stop [] none) else .ok (v, c')
    | .error m => if m.final then .error m else specialFloat c

/-! ## Date-times -/

/-- Reads exactly `n` digits whose value lies in `lo ..= hi`, and gives the value. -/
def boundedValue (c : Cursor) (n lo hi : Nat) : Except Miss (Nat × Cursor) :=
  let (ds, c') := c.spanUpTo n isDigit
  if ds.length < n then .error c.miss
  else
    let v := digitsValue 10 ds
    if lo ≤ v && v ≤ hi then .ok (v, c')
    else .error { c.miss with cause := some "value is out of range" }

/-- Reads exactly `n` digits whose value lies in `lo ..= hi`. -/
def boundedDigits (c : Cursor) (n lo hi : Nat) : Except Miss Cursor :=
  (boundedValue c n lo hi).map (·.2)

/-- The number of days of a month in a year of the Gregorian calendar: a
year divisible by 4 is a leap year, unless it is a century year that 400
does not divide. -/
def daysInMonth (year month : Nat) : Nat :=
  let leap := year % 4 == 0 && (year % 100 != 0 || year % 400 == 0)
  if month == 2 then (if leap then 29 else 28)
  else if month == 4 || month == 6 || month == 9 || month == 11 then 30
  else 31

/-- Reads one byte, or misses at the cursor. -/
def Cursor.byte (c : Cursor) (b : UInt8) : Except Miss Cursor :=
  if c.startsWith [b] then .ok (c.skip 1) else .error c.miss

/-- Reads a time of day: hours, minutes, seconds and a fraction. Past the first
colon every miss is final. -/
def partialTime (c : Cursor) : Except Miss Cursor := do
  let c1 ← boundedDigits c 2 0 23
  let c2 ← c1.byte 58
  cutting do
    let c3 ← boundedDigits c2 2 0 59
    let c4 ← c3.byte 58
    let c5 ← boundedDigits c4 2 0 60
    match c5.rest with
    | 46 :: _ =>
      let (ds, c6) := (c5.skip 1).span isDigit
      .ok (if ds.isEmpty then c5 else c6)
    | _ => .ok c5

/-- Reads a time offset after a time, if there is one. -/
def timeOffset (c : Cursor) : Except Miss Cursor :=
  noting [.label "time offset"] <|
    match c.rest with
    | 90 :: _ | 122 :: _ => .ok (c.skip 1)
    | 43 :: _ | 45 :: _ =>
      cutting do
        let c1 ← boundedDigits (c.skip 1) 2 0 23
        let c2 ← c1.byte 58
        boundedDigits c2 2 0 59
    | _ => .error c.miss

/-- Reads a date, and a time and offset after it if they are there. Past the
year's dash every miss is final; a day past the end of its month misses at
the day. -/
def dateAndTime (c : Cursor) : Except Miss Cursor :=
  noting [.label "date-time"] do
    let (ys, c1) := c.spanUpTo 4 isDigit
    if ys.length < 4 then .error c.miss
    else
      let c2 ← c1.byte 45
      let c3 ← cutting do
        let (month, c3) ← boundedValue c2 2 1 12
        let c4 ← c3.byte 45
        let (day, c5) ← boundedValue c4 2 1 31
        if day > daysInMonth (digitsValue 10 ys) month then
          .error { c4.miss with cause := some "value is out of range" }
        else .ok c5
      match c3.rest with
      | b :: _ =>
        if b == 84 || b == 116 || b == 32 then
          match partialTime (c3.skip 1) with
          | .ok c4 =>
            match timeOffset c4 with
            | .ok c5 => .ok c5
            | .error m => if m.final then .error m else .ok c4
          | .error m => if m.final then .error m else .ok c3
        else .ok c3
      | [] => .ok c3

/-- Reads a date-time of any of its four forms. -/
def dateTime (c : Cursor) : Except Miss Cursor :=
  match dateAndTime c with
  | .ok c' => .ok c'
  | .error m => if m.final then .error m else noting [.label "time"] (partialTime c)

end Typeahead.Toml
