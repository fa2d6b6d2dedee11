-- Unicode Normalization Form C. A text is fully decomposed by the
-- canonical decompositions; the marks after each starter are put in order
-- of their combining classes, keeping the order of marks of one class; and
-- then each character is joined to the last starter before it when the
-- pair has a canonical composition and no character between them blocks
-- it, that is, none has class zero or a class not below its own. Hangul
-- syllables are decomposed and composed by their arithmetic.
import Typeahead.Text.Canonical

namespace Typeahead.Text

/-- The first Hangul syllable. -/
def hangulFirst : Nat := 0xAC00

/-- The number of Hangul syllables: 19 leading consonants, 21 vowels and 28
trailing parts (the first of which is none). -/
def hangulCount : Nat := 11172

/-- Whether a code point is a Hangul syllable. -/
def isHangul (n : Nat) : Bool := hangulFirst ≤ n && n < hangulFirst + hangulCount

/-- The full canonical decomposition of a code point. -/
def decomposeCode (n : Nat) : List Nat :=
  if isHangul n then
    let s := n - hangulFirst
    let t := s % 28
    [0x1100 + s / 588, 0x1161 + s % 588 / 28] ++ (if t == 0 then [] else [0x11A7 + t])
  else (decompositionOf? n).getD [n]

/-- Inserts a mark into a run of marks in order of class, after every mark
of a class not above its own. -/
def insertMark (m : Nat) : List Nat → List Nat
  | [] => [m]
  | x :: xs => if combiningClass m < combiningClass x then m :: x :: xs else x :: insertMark m xs

/-- Puts every run of marks in order of class; `run` is the current run, in order. -/
def reorderFrom (run : List Nat) : List Nat → List Nat
  | [] => run
  | c :: cs => if combiningClass c == 0 then run ++ c :: reorderFrom [] cs else reorderFrom (insertMark c run) cs

/-- The canonical composition of a pair, Hangul included. -/
def composePair (a b : Nat) : Option Nat :=
  if 0x1100 ≤ a && a ≤ 0x1112 && 0x1161 ≤ b && b ≤ 0x1175 then
    some (hangulFirst + ((a - 0x1100) * 21 + (b - 0x1161)) * 28)
  else if isHangul a && (a - hangulFirst) % 28 == 0 && 0x11A8 ≤ b && b ≤ 0x11C2 then
    some (a + (b - 0x11A7))
  else compositionOf? a b

/-- The state of composition: the finished characters (last first), the
last starter, the characters after it (last first), and the class of the
last of those (zero when there are none). -/
structure Composing where
  done : List Nat
  starter : Option Nat
  after : List Nat
  lastClass : Nat

/-- The text composed so far. -/
def Composing.text (st : Composing) : List Nat :=
  (st.after ++ (st.starter.toList ++ st.done)).reverse

/-- Takes one more character: joined to the starter when they compose and
nothing between blocks, else placed after it (a starter starts anew). -/
def Composing.push (st : Composing) (c : Nat) : Composing :=
  let cc := combiningClass c
  let joined := match st.starter with
    | some s => if st.lastClass < cc || st.lastClass == 0 then composePair s c else none
    | none => none
  match joined with
  | some j => { st with starter := some j }
  | none =>
    if cc == 0 then ⟨st.after ++ (st.starter.toList ++ st.done), some c, [], 0⟩
    else { st with after := c :: st.after, lastClass := cc }

/-- Canonical composition of a decomposed, ordered text. -/
def compose (cs : List Nat) : List Nat := (cs.foldl Composing.push ⟨[], none, [], 0⟩).text

/-- The Normalization Form C of a text of code points. -/
def nfc (cs : List Nat) : List Nat := compose (reorderFrom [] (cs.flatMap decomposeCode))

/-- The empty text is normalized. -/
theorem nfc_nil : nfc [] = [] := by
  simp [nfc, reorderFrom, compose, Composing.text]

end Typeahead.Text
