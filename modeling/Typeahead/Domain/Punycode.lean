-- Punycode (RFC 3492): a label of any code points written with ASCII
-- letters, digits and hyphens. The ASCII code points are copied first and
-- a hyphen ends them; each other code point is then told by how far the
-- insertion state moves to reach it, as a number in a variable-length
-- base-36 notation whose digit thresholds follow a bias that adapts to the
-- deltas met so far. Decoding holds every quantity to 32 bits and refuses
-- what is not a code point, as the rules for domain names ask.
namespace Typeahead.Domain

/-! ## Shared parts -/

/-- The threshold of the digit at position `k` (a multiple of 36) under a
bias: between 1 and 26. -/
def threshold (k bias : Nat) : Nat :=
  if k ≤ bias then 1 else if bias + 26 ≤ k then 26 else k - bias

theorem threshold_pos (k bias : Nat) : 1 ≤ threshold k bias := by
  unfold threshold
  split
  · omega
  · split <;> omega

theorem threshold_le (k bias : Nat) : threshold k bias ≤ 26 := by
  unfold threshold
  split
  · omega
  · split <;> omega

/-- Divides a delta by 35 until it is at most 455, counting 36 a step. -/
def adaptLoop (delta k : Nat) : Nat × Nat :=
  if 455 < delta then adaptLoop (delta / 35) (k + 36) else (delta, k)
termination_by delta
decreasing_by exact Nat.div_lt_self (by omega) (by omega)

/-- The bias after a delta, with `points` code points placed so far; the
first delta is damped by 700, later ones by 2. -/
def adapt (delta points : Nat) (first : Bool) : Nat :=
  let d := if first then delta / 700 else delta / 2
  let d := d + d / points
  let (d, k) := adaptLoop d 0
  k + 36 * d / (d + 38)

/-- The character of a digit: `a` to `z` for 0 to 25, `0` to `9` for 26 to 35. -/
def digitChar (d : Nat) : Char :=
  if d < 26 then Char.ofNat (0x61 + d) else Char.ofNat (0x30 + d - 26)

/-- The value of a digit character, in either case. -/
def digitValue (c : Char) : Option Nat :=
  let n := c.toNat
  if 0x61 ≤ n && n ≤ 0x7A then some (n - 0x61)
  else if 0x41 ≤ n && n ≤ 0x5A then some (n - 0x41)
  else if 0x30 ≤ n && n ≤ 0x39 then some (n - 0x30 + 26)
  else none

/-- The digits read back to their values. -/
theorem digitValue_digitChar {d : Nat} (h : d < 36) : digitValue (digitChar d) = some d := by
  have hall : ∀ e ∈ List.range 36, digitValue (digitChar e) = some e := by decide
  exact hall d (List.mem_range.mpr h)

/-! ## Encoding -/

/-- The digits of a delta `q`, least significant first, from position `k`. -/
def encodeDigits (bias k q : Nat) : List Char :=
  let t := threshold k bias
  if q < t then [digitChar q]
  else digitChar (t + (q - t) % (36 - t)) :: encodeDigits bias (k + 36) ((q - t) / (36 - t))
termination_by q
decreasing_by
  have _h1 := threshold_pos k bias
  have _h2 := threshold_le k bias
  calc (q - threshold k bias) / (36 - threshold k bias)
      ≤ q - threshold k bias := Nat.div_le_self _ _
    _ < q := by omega

/-- The state of encoding: the text so far, the delta, the bias and the
number of code points handled. -/
structure Encoding where
  out : List Char
  delta : Nat
  bias : Nat
  handled : Nat

/-- Passes one code point of the input while placing the code point `m`:
smaller ones move the delta on, `m` itself writes the delta. `basics` is
the number of ASCII code points. -/
def passOne (basics m : Nat) (st : Encoding) (c : Nat) : Encoding :=
  if c < m then { st with delta := st.delta + 1 }
  else if c == m then
    { out := st.out ++ encodeDigits st.bias 36 st.delta, delta := 0,
      bias := adapt st.delta (st.handled + 1) (st.handled == basics),
      handled := st.handled + 1 }
  else st

/-- Places the other code points in increasing order; `n` is the least one
not yet placed. -/
def encodeLoop (input : List Nat) (basics : Nat) : List Nat → Nat → Encoding → Encoding
  | [], _, st => st
  | m :: rest, n, st =>
    let st := { st with delta := st.delta + (m - n) * (st.handled + 1) }
    let st := input.foldl (passOne basics m) st
    encodeLoop input basics rest (m + 1) { st with delta := st.delta + 1 }

/-- Inserts a number into an increasing list without repeating it. -/
def insertSorted (x : Nat) : List Nat → List Nat
  | [] => [x]
  | y :: ys => if x < y then x :: y :: ys else if x == y then y :: ys else y :: insertSorted x ys

/-- The distinct numbers of a list, in increasing order. -/
def sortedDistinct : List Nat → List Nat
  | [] => []
  | x :: xs => insertSorted x (sortedDistinct xs)

/-- The Punycode of code points: the ASCII ones, a hyphen if there were
any, and the deltas of the others. -/
def encode (input : List Nat) : List Char :=
  let basic := input.filter (· < 0x80)
  let others := sortedDistinct (input.filter (0x80 ≤ ·))
  let st := encodeLoop input basic.length others 0x80 ⟨[], 0, 72, basic.length⟩
  basic.map Char.ofNat ++ (if basic.isEmpty then [] else ['-']) ++ st.out

/-! ## Decoding -/

/-- The bound of the 32-bit quantities of decoding. -/
def limit : Nat := 4294967296

/-- Reads one variable-length number, adding its digits to `i` with weight
`w` from position `k`: the new `i` and the rest of the input, or `none` when
the input ends inside it, a character is no digit, or a quantity passes 32
bits. -/
def decodeNumber (bias : Nat) : List Char → Nat → Nat → Nat → Option (Nat × List Char)
  | [], _, _, _ => none
  | c :: rest, k, w, i =>
    match digitValue c with
    | none => none
    | some d =>
      let i := i + d * w
      let t := threshold k bias
      if limit ≤ i then none
      else if d < t then some (i, rest)
      else if limit ≤ w * (36 - t) then none
      else decodeNumber bias rest (k + 36) (w * (36 - t)) i

/-- Reading a number takes at least one character. -/
theorem decodeNumber_length : ∀ (bias : Nat) (l : List Char) (k w i : Nat) (r : Nat × List Char),
    decodeNumber bias l k w i = some r → r.2.length < l.length
  | _, [], _, _, _, _, h => by simp [decodeNumber] at h
  | bias, c :: rest, k, w, i, r, h => by
    rw [decodeNumber] at h
    split at h
    · simp at h
    · dsimp only at h
      split at h
      · simp at h
      · split at h
        · rw [← Option.some.inj h]; simp
        · split at h
          · simp at h
          · have := decodeNumber_length bias rest (k + 36) _ _ r h
            simp; omega

/-- Whether a number is a Unicode scalar value: a code point that is not a surrogate. -/
def isScalar (n : Nat) : Bool := n < 0xD800 || (0xE000 ≤ n && n < 0x110000)

/-- Inserts the code points one number at a time: `n` is the last code
point inserted and `i` the insertion state. -/
def decodeLoop (out : List Nat) (n i bias : Nat) (cs : List Char) : Option (List Nat) :=
  if cs.isEmpty then some out
  else
    match h : decodeNumber bias cs 36 1 i with
    | none => none
    | some (i', rest) =>
      let len := out.length + 1
      let n' := n + i' / len
      let pos := i' % len
      if limit ≤ n' || !isScalar n' then none
      else
        have : rest.length < cs.length := decodeNumber_length bias cs 36 1 i _ h
        decodeLoop (out.take pos ++ n' :: out.drop pos) n' (pos + 1)
          (adapt (i' - i) len (i == 0)) rest
termination_by cs.length

/-- The position of the last hyphen of a text. -/
def lastHyphen (cs : List Char) : Option Nat :=
  (cs.reverse.findIdx? (· == '-')).map (cs.length - 1 - ·)

/-- Decodes Punycode. The ASCII code points stand before the last hyphen;
when that hyphen comes first, it is read as a digit instead and fails. -/
def decode (cs : List Char) : Option (List Nat) :=
  let (basic, rest) := match lastHyphen cs with
    | some p => (cs.take p, if p > 0 then cs.drop (p + 1) else cs)
    | none => ([], cs)
  if basic.any (0x80 ≤ ·.toNat) then none
  else decodeLoop (basic.map Char.toNat) 0x80 0 72 rest

/-- The empty text decodes to no code points. -/
theorem decode_nil : decode [] = some [] := by
  simp [decode, lastHyphen, decodeLoop]

end Typeahead.Domain
