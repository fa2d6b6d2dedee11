-- The ASCII form of a domain name, as URLs read hosts. Each code point is
-- mapped (kept, dropped, replaced, or refused), the result is brought to
-- Normalization Form C and cut into labels at full stops. A label written
-- `xn--…` is Punycode and stands for the code points it decodes to, which
-- must be valid and normalized as they are; any other label is written as
-- Punycode after `xn--` when it holds a code point beyond ASCII. A label may
-- not start with a mark; a zero width joiner or non-joiner must stand where
-- it affects joining; the ASCII characters that URLs reserve are refused;
-- and a domain with a right-to-left label must keep every label's writing
-- direction clear.
import Typeahead.Domain.Mapping
import Typeahead.Domain.Punycode
import Typeahead.Text.Bidi
import Typeahead.Text.Joining
import Typeahead.Text.Normal

namespace Typeahead.Domain

/-- The characters a domain may not hold: controls, the space, DEL, and
`%#/:<>?@[\]^|`. -/
def isDenied (n : Nat) : Bool :=
  n ≤ 0x20 || n == 0x7F || "%#/:<>?@[\\]^|".toList.contains (Char.ofNat n)

/-- A label of a mapped domain. -/
inductive Label where
  /-- A label written as its code points. -/
  | plain (codes : List Nat)
  /-- A label written in Punycode after `xn--`, and the code points it decodes to. -/
  | encoded (ascii : List Nat) (codes : List Nat)
  deriving Repr, DecidableEq

/-- The code points a label stands for. -/
def Label.codes : Label → List Nat
  | .plain cs => cs
  | .encoded _ cs => cs

/-- The ASCII text of a label. -/
def Label.ascii : Label → String
  | .plain cs =>
    if cs.all (· < 0x80) then String.ofList (cs.map Char.ofNat)
    else "xn--" ++ String.ofList (encode cs)
  | .encoded a _ => String.ofList (a.map Char.ofNat)

/-- The prefix of a label written in Punycode. -/
def punyPrefix : List Nat := [0x78, 0x6E, 0x2D, 0x2D]

/-- Reads a label of a mapped domain: one after `xn--` must be ASCII,
decode, and stand for something beyond ASCII. -/
def readLabel (cs : List Nat) : Option Label :=
  if punyPrefix.isPrefixOf cs then
    let rest := cs.drop 4
    if rest.any (0x80 ≤ ·) then none
    else
      match decode (rest.map Char.ofNat) with
      | some ds => if ds.all (· < 0x80) then none else some (.encoded cs ds)
      | none => none
  else some (.plain cs)

/-- Whether, past transparent marks, the nearest character joins in one of the wanted ways. -/
def joinsAt (cs : List Nat) (wanted : List Text.Joining) : Bool :=
  match cs.dropWhile (fun n => Text.joiningOf (Char.ofNat n) == some .transparent) with
  | n :: _ =>
    match Text.joiningOf (Char.ofNat n) with
    | some j => wanted.contains j
    | none => false
  | [] => false

/-- Whether a code point fits between the characters before it (nearest
first) and after it: a zero width joiner only after a virama; a non-joiner
after a virama, or between a character joining to the right and one joining
to the left. -/
def joinerFits (before after : List Nat) (c : Nat) : Bool :=
  let afterVirama := match before with
    | b :: _ => Text.isVirama (Char.ofNat b)
    | [] => false
  if c == 0x200D then afterVirama
  else if c == 0x200C then
    afterVirama || (joinsAt before [.left, .dual] && joinsAt after [.right, .dual])
  else true

/-- Whether every joiner of a label fits; `before` holds the code points passed, nearest first. -/
def joinersFit (before : List Nat) : List Nat → Bool
  | [] => true
  | c :: rest => joinerFits before rest c && joinersFit (c :: before) rest

/-- Whether a label is valid: it does not start with a mark and its joiners
fit; a decoded label must moreover be normalized, hold only valid code
points and not look like Punycode itself. -/
def Label.valid (l : Label) : Bool :=
  let cs := l.codes
  let noMarkFirst := match cs with
    | c :: _ => !Text.isMark (Char.ofNat c)
    | [] => true
  let decodedOk := match l with
    | .plain _ => true
    | .encoded _ ds => !punyPrefix.isPrefixOf ds && Text.nfc ds == ds && ds.all isValidCode
  noMarkFirst && joinersFit [] cs && decodedOk

/-! ## Writing direction -/

/-- The class of a code point. -/
def bidiOf (n : Nat) : Text.BidiClass := Text.bidiClass (Char.ofNat n)

/-- A right-to-left code point, or an Arabic digit. -/
def isRtl (n : Nat) : Bool := [.r, .al, .an].contains (bidiOf n)

/-- The code points of a label without its trailing non-spacing marks. -/
def withoutTrailingMarks (cs : List Nat) : List Nat :=
  (cs.reverse.dropWhile (fun n => bidiOf n == .nsm)).reverse

/-- The rule of a label in a domain with right-to-left labels: it starts
with a strong character; a left-to-right label then holds only
left-to-right characters, European numbers and neutrals and ends with a
left-to-right character or a European number; a right-to-left label holds
no left-to-right character, ends with a right-to-left character or a
number, and does not mix European and Arabic numbers. Marks at the end do
not count. -/
def bidiRule (cs : List Nat) : Bool :=
  match cs with
  | [] => true
  | c :: rest =>
    let last := (withoutTrailingMarks cs).getLast?.map bidiOf
    match bidiOf c with
    | .l =>
      rest.all (fun n => [.l, .en, .es, .cs, .et, .on, .bn, .nsm].contains (bidiOf n)) &&
        (last == some .l || last == some .en)
    | .r | .al =>
      rest.all (fun n => [.r, .al, .an, .en, .es, .cs, .et, .on, .bn, .nsm].contains (bidiOf n)) &&
        [some .r, some .al, some .en, some .an].contains last &&
        !(rest.any (fun n => bidiOf n == .en) && rest.any (fun n => bidiOf n == .an))
    | _ => false

/-! ## The ASCII form -/

/-- Maps the code points of a domain; `none` when one is refused. -/
def mapDomain (cs : List Nat) : Option (List Nat) := (cs.mapM mapCode).map List.flatten

/-- The ASCII form of a domain, or `none` when it is not a valid one. -/
def toAscii (cs : List Char) : Option String := do
  let mapped := Text.nfc (← mapDomain (cs.map Char.toNat))
  if mapped.any isDenied then none
  let labels ← (mapped.splitOn 0x2E).mapM readLabel
  if !labels.all Label.valid then none
  if labels.any (·.codes.any isRtl) && !labels.all (bidiRule ·.codes) then none
  pure (".".intercalate (labels.map Label.ascii))

end Typeahead.Domain
