-- Binary64 numbers as exact dyadic values. A decimal `n · 10^e` is rounded
-- to the nearest `mant · 2^exp` that binary64 can hold, ties to an even
-- mantissa, and a finite value is written back with the fewest significant
-- digits that read back to it, placed without an exponent.

namespace Typeahead.Number

/-- A finite non-negative binary64 value `mant · 2^exp`. -/
structure Dyadic where
  mant : Nat
  exp : Int
  deriving Repr, DecidableEq

/-- The number of bits of `n`: the least `b` with `n < 2^b`. -/
def bitLength (n : Nat) : Nat := if n = 0 then 0 else Nat.log2 n + 1

/-- `p / q` rounded to the nearest natural number, a tie going to the even one. -/
def divRoundEven (p q : Nat) : Nat :=
  let r := p / q
  let rem := p % q
  if 2 * rem > q then r + 1
  else if 2 * rem < q then r
  else if r % 2 = 0 then r else r + 1

/-- `p · 2^k` for an integer shift `k`, as the fraction `(num, den)`. -/
def shifted (p : Nat) (k : Int) : Nat × Nat :=
  if k ≥ 0 then (p * Nat.pow 2 k.toNat, 1) else (p, Nat.pow 2 (-k).toNat)

/-- The binary exponent `b` of a positive fraction `p / q`: `2^b ≤ p/q < 2^(b+1)`. -/
def binaryExponent (p q : Nat) : Int :=
  let b0 : Int := (Nat.log2 p : Int) - (Nat.log2 q : Int)
  let (n, d) := shifted q b0
  -- `q · 2^b0` is `n / d`; the exponent is one less when `p` is below it
  if p * d < n then b0 - 1 else b0

/-- The least binary exponent of a binary64 mantissa step (the subnormal step). -/
def minExp : Int := -1074

/-- Rounds a positive fraction `p / q` to binary64; `none` when it is too large. -/
def roundFraction (p q : Nat) : Option Dyadic :=
  let b := binaryExponent p q
  let e := max (b - 52) minExp
  let (n, d) := shifted q e
  -- the mantissa is `p / (q · 2^e)`, rounded
  let m := divRoundEven (p * d) n
  let (m, e) := if m = Nat.pow 2 53 then (Nat.pow 2 52, e + 1) else (m, e)
  if e + 52 > 971 + 52 then none else some ⟨m, e⟩

/-- The exact value of a dyadic as a fraction `(num, den)`. -/
def Dyadic.fraction (v : Dyadic) : Nat × Nat := shifted v.mant v.exp

/-- Rounds a non-negative fraction to binary64, zero staying zero; `none`
when it is too large. -/
def roundQuotient (p q : Nat) : Option Dyadic :=
  if p = 0 then some ⟨0, 0⟩ else roundFraction p q

/-- The binary64 sum of two values: the exact sum, rounded. -/
def Dyadic.add (x y : Dyadic) : Option Dyadic :=
  let (p, q) := x.fraction
  let (r, s) := y.fraction
  roundQuotient (p * s + r * q) (q * s)

/-- The binary64 quotient of a value by a positive whole number. -/
def Dyadic.divNat (x : Dyadic) (k : Nat) : Option Dyadic :=
  let (p, q) := x.fraction
  roundQuotient p (q * k)

/-- Whether one value is below another. -/
def Dyadic.lt (x y : Dyadic) : Bool :=
  let (p, q) := x.fraction
  let (r, s) := y.fraction
  p * s < r * q

/-- Rounds the decimal `n · 10^e` to binary64; `none` when it overflows.
A value of more than 310 digits before the point overflows, and one whose
first digit lies more than 330 places after the point rounds to zero. -/
def ofDecimal (n : Nat) (e : Int) : Option Dyadic :=
  let digits : Int := (Nat.toDigits 10 n).length
  if n = 0 then some ⟨0, 0⟩
  else if e + digits > 310 then none
  else if e + digits < -330 then some ⟨0, 0⟩
  else if e ≥ 0 then roundFraction (n * Nat.pow 10 e.toNat) 1
  else roundFraction n (Nat.pow 10 (-e).toNat)

/-! ## Shortest digits -/

/-- A value `num / 2^den2` on a common dyadic grid: the value, the ends of its
rounding interval, and whether the ends read back to it. -/
structure Interval where
  low : Nat
  mid : Nat
  high : Nat
  den2 : Nat
  inclusive : Bool

/-- The interval of reals that round to `mant · 2^exp`: halfway to each
neighbour, with a narrower lower half at the bottom of a binade. -/
def Dyadic.interval (v : Dyadic) : Interval :=
  let narrow := v.mant = Nat.pow 2 52 && v.exp > minExp
  -- all four points are multiples of 2^(exp-2)
  let low := if narrow then 4 * v.mant - 1 else 4 * v.mant - 2
  let mid := 4 * v.mant
  let high := 4 * v.mant + 2
  let (l, m, h, d) :=
    if v.exp - 2 ≥ 0 then
      let s := Nat.pow 2 (v.exp - 2).toNat
      (low * s, mid * s, high * s, 0)
    else (low, mid, high, (2 - v.exp).toNat)
  ⟨l, m, h, d, v.mant % 2 = 0⟩

/-- Whether `c · 10^t` lies in the interval. -/
def Interval.holds (iv : Interval) (c : Nat) (t : Int) : Bool :=
  -- compare `c · 10^t` with `x / 2^den2` as `c · 10^t · 2^den2` with `x`
  let (num, scale) := if t ≥ 0 then (c * Nat.pow 10 t.toNat * Nat.pow 2 iv.den2, 1)
    else (c * Nat.pow 2 iv.den2, Nat.pow 10 (-t).toNat)
  if iv.inclusive then iv.low * scale ≤ num && num ≤ iv.high * scale
  else iv.low * scale < num && num < iv.high * scale

/-- The decimal exponent `E` of a positive value `x / 2^d`: `10^E ≤ x/2^d < 10^(E+1)`. -/
def decimalExponent (x d : Nat) : Int :=
  let den := Nat.pow 2 d
  if x ≥ den then
    ((Nat.toDigits 10 (x / den)).length : Int) - 1
  else
    -- the least `k` with `x · 10^k ≥ den`
    let k := ((List.range 400).find? (fun k => x * Nat.pow 10 (k + 1) ≥ den)).getD 0
    Int.neg ((k : Int) + 1)

/-- The shortest decimal `c · 10^t` in the interval, the nearer of two on the
first grid that has one; a tie goes to the even one when `evenTie` holds and
up otherwise. -/
def Interval.shortest (iv : Interval) (evenTie : Bool) : Nat × Int :=
  let e := decimalExponent iv.mid iv.den2
  let try1 (k : Nat) : Option (Nat × Int) :=
    let t : Int := e - (k : Int) + 1
    -- floor of the value on the grid `10^t`
    let (num, den) := if t ≥ 0 then (iv.mid, Nat.pow 10 t.toNat * Nat.pow 2 iv.den2)
      else (iv.mid * Nat.pow 10 (-t).toNat, Nat.pow 2 iv.den2)
    let lo := num / den
    let hi := lo + 1
    let okLo := lo > 0 && iv.holds lo t
    let okHi := iv.holds hi t
    if okLo && okHi then
      let r := num % den
      if 2 * r > den || (2 * r = den && !(evenTie && lo % 2 = 0)) then some (hi, t) else some (lo, t)
    else if okLo then some (lo, t)
    else if okHi then some (hi, t)
    else none
  match (List.range 17).findSome? (fun k => try1 (k + 1)) with
  | some r => r
  | none => (iv.mid, -(iv.den2 : Int))

/-- Drops the trailing zeros of `c`, raising the exponent for each. -/
def stripZeros (c : Nat) (t : Int) (fuel : Nat) : Nat × Int :=
  match fuel with
  | 0 => (c, t)
  | f + 1 => if c ≠ 0 && c % 10 = 0 then stripZeros (c / 10) (t + 1) f else (c, t)

/-- The positional text of `c · 10^t`, without an exponent. -/
def positional (c : Nat) (t : Int) : String :=
  let ds := Nat.toDigits 10 c
  if t ≥ 0 then String.ofList (ds ++ List.replicate t.toNat '0')
  else
    let k := (-t).toNat
    if ds.length > k then
      String.ofList (ds.take (ds.length - k) ++ '.' :: ds.drop (ds.length - k))
    else String.ofList ('0' :: '.' :: List.replicate (k - ds.length) '0' ++ ds)

/-- The shortest positional text of a finite value, a tie between two
nearest candidates going up. -/
def Dyadic.text (v : Dyadic) : String :=
  if v.mant = 0 then "0"
  else
    let (c, t) := v.interval.shortest false
    let (c, t) := stripZeros c t 400
    positional c t

/-- The compact text of a finite value from its shortest digits: for the
digits `d₁…dₗ` and the point `p = l + t` of `d · 10^t`, positional when the
point falls within sixteen places (`d` and zeros and `.0` for a whole
number, else with a point inside or after `0.0000`), and otherwise one digit,
the rest after a point, and a signed exponent `e+p-1` or `e-…`. A tie
between two nearest candidates goes to the even one. -/
def Dyadic.compactText (v : Dyadic) : String :=
  if v.mant = 0 then "0.0"
  else
    let (c, t) := v.interval.shortest true
    let (c, t) := stripZeros c t 400
    let ds := Nat.toDigits 10 c
    let point : Int := ds.length + t
    let zeros (n : Nat) : List Char := List.replicate n '0'
    if 0 ≤ t && point ≤ 16 then String.ofList (ds ++ zeros t.toNat ++ ['.', '0'])
    else if 0 < point && point ≤ 16 then
      String.ofList (ds.take point.toNat ++ '.' :: ds.drop point.toNat)
    else if -5 < point && point ≤ 0 then String.ofList ('0' :: '.' :: zeros (-point).toNat ++ ds)
    else
      let e := point - 1
      let tail := 'e' :: (if e < 0 then '-' else '+') :: Nat.toDigits 10 e.natAbs
      match ds with
      | d :: rest@(_ :: _) => String.ofList (d :: '.' :: rest ++ tail)
      | _ => String.ofList (ds ++ tail)

/-- The binary64 product of two values; `none` when it overflows. -/
def Dyadic.mul (x y : Dyadic) : Option Dyadic :=
  let (p, q) := shifted (x.mant * y.mant) (x.exp + y.exp)
  roundQuotient p q

/-- The binary64 quotient of two values, the second not zero. -/
def Dyadic.div (x y : Dyadic) : Option Dyadic :=
  let (p, q) := x.fraction
  let (r, s) := y.fraction
  roundQuotient (p * s) (q * r)

/-! ## Floating-point values -/

/-- A binary64 value as a reader of decimal text produces it. -/
inductive Float64 where
  | finite (negative : Bool) (v : Dyadic)
  | infinite (negative : Bool)
  | nan
  deriving Repr, DecidableEq

/-- The decimal `± n · 10^e` read as binary64. -/
def Float64.ofDecimal (negative : Bool) (n : Nat) (e : Int) : Float64 :=
  match Number.ofDecimal n e with
  | some v => .finite negative v
  | none => .infinite negative

/-- The text of a value: shortest digits, `inf` and `NaN` for the others. -/
def Float64.text : Float64 → String
  | .finite neg v => (if neg then "-" else "") ++ v.text
  | .infinite neg => if neg then "-inf" else "inf"
  | .nan => "NaN"

/-- The text of a value with a decimal point always present in a finite one. -/
def Float64.pointText (x : Float64) : String :=
  match x with
  | .finite _ _ => let s := x.text; if s.toList.contains '.' then s else s ++ ".0"
  | _ => x.text

/-- The compact text of a value, with its sign. -/
def Float64.compactText : Float64 → String
  | .finite neg v => (if neg then "-" else "") ++ v.compactText
  | .infinite neg => if neg then "-inf" else "inf"
  | .nan => "NaN"

/-- Whether the value is finite. -/
def Float64.isFinite : Float64 → Bool
  | .finite _ _ => true
  | _ => false

end Typeahead.Number
