-- The patterns a log filter accepts as the value of a field. A value that
-- is not a truth value or a number is a regular expression, compiled to a
-- deterministic automaton, and a directive whose value does not compile
-- makes the whole filter text invalid. This reads the syntax as the
-- expression reader does: groups with their flags and capture names,
-- escapes, bracketed classes with ranges, nested classes, ASCII classes
-- and set operations, and repetitions, which must follow something that
-- can repeat. A word boundary in Unicode mode is refused, since the
-- automaton cannot hold one, and so is, with Unicode off, what could match
-- bytes that are not UTF-8. Long Unicode property names in braces are
-- taken as they are.
import Typeahead.Text.Blank
import Typeahead.Text.Classes

namespace Typeahead.Pattern

/-- The flags in force: Unicode mode and free spacing. -/
structure Flags where
  unicode : Bool
  spaced : Bool
  deriving Repr, DecidableEq

/-- The characters with a meaning of their own. -/
def isMeta (c : Char) : Bool := "\\.+*?()|[]\x7b\x7d^$#&-~".toList.contains c

/-- The characters an escape may stand before with no other effect: the
special ones, and every other ASCII character but letters, digits, `<` and
`>`. -/
def isEscapable (c : Char) : Bool :=
  isMeta c || (c.toNat < 128 && !c.isAlphanum && c != '<' && c != '>')

/-- A special character may always be escaped. -/
theorem isEscapable_of_isMeta {c : Char} (h : isMeta c = true) : isEscapable c = true := by
  simp [isEscapable, h]

/-- A hexadecimal digit. -/
def hexValue (c : Char) : Option Nat :=
  if c.isDigit then some (c.toNat - 48)
  else if 'a' ≤ c && c ≤ 'f' then some (c.toNat - 87)
  else if 'A' ≤ c && c ≤ 'F' then some (c.toNat - 55)
  else none

/-- Skips blanks and comments (from `#` to the end of the line) in free
spacing mode; otherwise the text is left as it is. -/
def skipSpace (spaced : Bool) (cs : List Char) : List Char :=
  let rec go : Nat → List Char → List Char
    | 0, cs => cs
    | fuel + 1, c :: rest =>
      if Text.isBlank c then go fuel rest
      else if c == '#' then go fuel ((rest.dropWhile (· != '\n')).drop 1)
      else c :: rest
    | _ + 1, [] => []
  if spaced then go (cs.length + 1) cs else cs

/-! ## Escapes -/

/-- What an escape stands for. -/
inductive Escape where
  /-- One character; `byte` when it is a raw byte written `\xHH` with Unicode off. -/
  | literal (code : Nat) (byte : Bool)
  /-- A class of characters, such as `\d` or `\pL`. -/
  | set
  /-- The start or end of the text. -/
  | assertion
  /-- A word boundary. -/
  | boundary
  deriving Repr, DecidableEq

/-- Reads hexadecimal digits, in free spacing mode with blanks between
them: exactly `n` of them, or in braces one or more. The value must be a
code point that is not a surrogate. -/
def readHex (spaced : Bool) (n : Nat) (cs : List Char) : Option (Nat × List Char) :=
  let valid (v : Nat) : Bool := v < 0xD800 || (0xE000 ≤ v && v < 0x110000)
  let rec fixed : Nat → Nat → List Char → Option (Nat × List Char)
    | 0, v, cs => some (v, cs)
    | k + 1, v, c :: rest =>
      (hexValue c).bind fun d => fixed k (16 * v + d) (if k = 0 then rest else skipSpace spaced rest)
    | _ + 1, _, [] => none
  let rec braced : Nat → Nat → Nat → List Char → Option (Nat × List Char)
    | 0, _, _, _ => none
    | fuel + 1, count, v, cs =>
      match skipSpace spaced cs with
      | [] => none
      | '}' :: rest => if count = 0 || count > 8 then none else some (v, skipSpace spaced rest)
      | c :: rest => (hexValue c).bind fun d => braced fuel (count + 1) (16 * v + d) rest
  let cs := skipSpace spaced cs
  match cs with
  | '{' :: rest => (braced (rest.length + 1) 0 0 rest).bind fun (v, r) => if valid v then some (v, r) else none
  | _ => (fixed n 0 cs).bind fun (v, r) => if valid v then some (v, skipSpace spaced r) else none

/-- Reads a Unicode class after `\p` or `\P`: one letter naming a general
category (`C`, `L`, `M`, `N`, `P`, `S` or `Z`, in either case), or a name
in braces. -/
def readProperty (spaced : Bool) (cs : List Char) : Option (List Char) :=
  match skipSpace spaced cs with
  | [] => none
  | '{' :: rest =>
    match rest.dropWhile (· != '}') with
    | _ :: after => some after
    | [] => none
  | c :: rest => if "CLMNPSZclmnpsz".toList.contains c then some (skipSpace spaced rest) else none

/-- The names of the special word boundaries written `\b{…}`. -/
def boundaryNames : List String := ["start", "end", "start-half", "end-half"]

/-- Reads what may follow `\b`: a special word boundary in braces, when a
letter or hyphen opens them; otherwise nothing more. -/
def readBoundary (spaced : Bool) (cs : List Char) : Option (List Char) :=
  let isNameChar (c : Char) : Bool := c.isAlpha || c == '-'
  match cs with
  | '{' :: rest =>
    match skipSpace spaced rest with
    | c :: _ =>
      if !isNameChar c then some cs
      else
        let body := skipSpace spaced rest
        let name := body.takeWhile (fun c => isNameChar c || (spaced && Text.isBlank c))
        match body.drop name.length with
        | '}' :: after =>
          if boundaryNames.contains (String.ofList (name.filter isNameChar)) then some after else none
        | _ => none
    | [] => none
  | _ => some cs

/-- Reads an escape after its backslash. Digits are back-references, which
are refused; unknown letters are refused. -/
def readEscape (f : Flags) : List Char → Option (Escape × List Char)
  | [] => none
  | c :: rest =>
    if c.isDigit then none
    else if c == 'x' || c == 'u' || c == 'U' then
      let digits := if c == 'x' then 2 else if c == 'u' then 4 else 8
      let fixedForm := match skipSpace f.spaced rest with
        | '{' :: _ => false
        | _ => true
      (readHex f.spaced digits rest).map fun (v, r) =>
        (.literal v (c == 'x' && fixedForm && !f.unicode), r)
    else if c == 'p' || c == 'P' then
      if f.unicode then (readProperty f.spaced rest).map (.set, ·) else none
    else if "dswDSW".toList.contains c then
      if !f.unicode && "DSW".toList.contains c then none else some (.set, rest)
    else if isEscapable c then some (.literal c.toNat false, rest)
    else
      match c with
      | 'a' => some (.literal 7 false, rest)
      | 'f' => some (.literal 12 false, rest)
      | 't' => some (.literal 9 false, rest)
      | 'n' => some (.literal 10 false, rest)
      | 'r' => some (.literal 13 false, rest)
      | 'v' => some (.literal 11 false, rest)
      | 'A' | 'z' => some (.assertion, rest)
      | 'b' => (readBoundary f.spaced rest).map (.boundary, ·)
      | 'B' | '<' | '>' => some (.boundary, rest)
      | _ => none

/-- Whether a literal can stand: with Unicode off, a raw byte must be ASCII. -/
def Escape.fits (f : Flags) : Escape → Bool
  | .literal code byte => !(byte && code ≥ 0x80)
  | .boundary => !f.unicode
  | _ => true

/-! ## Classes -/

/-- The names of the ASCII classes written `[:name:]` inside a class. -/
def asciiClassNames : List String :=
  ["alnum", "alpha", "ascii", "blank", "cntrl", "digit", "graph", "lower", "print", "punct",
    "space", "upper", "word", "xdigit"]

/-- Reads an ASCII class after its `[`: `:name:]` or `:^name:]`. -/
def readAsciiClass (cs : List Char) : Option (List Char) :=
  match cs with
  | ':' :: rest =>
    let rest := match rest with
      | '^' :: r => r
      | r => r
    let name := rest.takeWhile (· != ':')
    match rest.drop name.length with
    | ':' :: ']' :: after => if asciiClassNames.contains (String.ofList name) then some after else none
    | _ => none
  | _ => none

/-- Reads the opening of a class after its `[`: a `^` for a negated class,
then any `-` and a `]` first of all, which stand for themselves. With
Unicode off a negated class would match bytes that are not UTF-8. -/
def openClass (f : Flags) (cs : List Char) : Option (List Char) :=
  let cs := skipSpace f.spaced cs
  let (negated, cs) := match cs with
    | '^' :: rest => (true, skipSpace f.spaced rest)
    | _ => (false, cs)
  let rec dashes : Nat → Bool → List Char → Option (Bool × List Char)
    | 0, _, _ => none
    | fuel + 1, _, '-' :: rest =>
      match skipSpace f.spaced rest with
      | [] => none
      | more => dashes fuel true more
    | _ + 1, seen, cs => some (seen, cs)
  if negated && !f.unicode then none
  else if cs.isEmpty then none
  else
    (dashes (cs.length + 1) false cs).bind fun (seen, cs) =>
      match cs with
      | ']' :: rest =>
        if seen then some cs
        else
          match skipSpace f.spaced rest with
          | [] => none
          | more => some more
      | _ => some cs

/-- One item of a class: an escape or a character standing for itself.
Assertions and word boundaries cannot stand in a class; with Unicode off
neither can a character beyond ASCII. -/
def readClassItem (f : Flags) : List Char → Option (Escape × List Char)
  | [] => none
  | '\\' :: rest =>
    (readEscape f rest).bind fun (e, r) =>
      match e with
      | .literal code byte => if !f.unicode && code ≥ 0x80 then none else some (.literal code byte, r)
      | .set => some (.set, r)
      | _ => none
  | c :: rest => if !f.unicode && c.toNat ≥ 0x80 then none else some (.literal c.toNat false, rest)

/-- Reads one item of a class or a range `a-z` of two characters in order.
A `-` before `]` or another `-` stands for itself. -/
def readClassRange (f : Flags) (cs : List Char) : Option (List Char) :=
  (readClassItem f cs).bind fun (a, rest) =>
    match skipSpace f.spaced rest with
    | [] => none
    | '-' :: more =>
      match skipSpace f.spaced more with
      | [] => none
      | ']' :: _ | '-' :: _ => some (skipSpace f.spaced rest)
      | after =>
        (readClassItem f after).bind fun (b, rest') =>
          match a, b with
          | .literal x _, .literal y _ => if x ≤ y then some rest' else none
          | _, _ => none
    | rest => some rest

/-- Reads the inside of a class `depth` brackets deep, up to and past the
`]` that closes the outermost one. -/
def classBody (f : Flags) : Nat → Nat → List Char → Option (List Char)
  | 0, _, _ => none
  | fuel + 1, depth, cs =>
    match skipSpace f.spaced cs with
    | [] => none
    | '[' :: rest =>
      match readAsciiClass rest with
      | some after => classBody f fuel depth after
      | none => (openClass f rest).bind (classBody f fuel (depth + 1))
    | ']' :: rest => if depth ≤ 1 then some rest else classBody f fuel (depth - 1) rest
    | '&' :: '&' :: rest | '-' :: '-' :: rest | '~' :: '~' :: rest => classBody f fuel depth rest
    | cs => (readClassRange f cs).bind (classBody f fuel depth)

/-- Reads a bracketed class after its `[`. -/
def readClass (f : Flags) (cs : List Char) : Option (List Char) :=
  (openClass f cs).bind (classBody f (cs.length + 1) 1)

/-! ## Groups and repetitions -/

/-- The state of a reading: the flags in force, those to restore at the end
of each open group (the innermost first), whether the last item read can be
repeated, and the capture names met. -/
structure Scan where
  flags : Flags
  outer : List Flags
  canRepeat : Bool
  names : List String

/-- A character of a capture name: a letter or `_` first, then also digits,
`.`, `[` and `]`. -/
def isNameChar (first : Bool) (c : Char) : Bool :=
  if first then c == '_' || (Text.isAlphanumeric c && !c.isDigit)
  else c == '_' || c == '.' || c == '[' || c == ']' || Text.isAlphanumeric c

/-- Reads a capture name up to its `>`; it must not be empty or repeat one met before. -/
def readName (st : Scan) (cs : List Char) : Option (Scan × List Char) :=
  let name := cs.takeWhile (· != '>')
  let ok := match name with
    | c :: more => isNameChar true c && more.all (isNameChar false)
    | [] => false
  match cs.drop name.length with
  | '>' :: rest =>
    let n := String.ofList name
    if ok && !st.names.contains n then
      some ({ st with outer := st.flags :: st.outer, canRepeat := false, names := n :: st.names }, rest)
    else none
  | _ => none

/-- Sets one flag. -/
def Flags.set (f : Flags) (c : Char) (on : Bool) : Flags :=
  if c == 'u' then { f with unicode := on }
  else if c == 'x' then { f with spaced := on }
  else f

/-- Reads flags up to `:` or `)`: each of `imsUuRx` at most once, and at
most one `-`, which turns off the flags after it and may not come last. The
new flags, the number of items, and the text from the `:` or `)`. -/
def readFlags (f : Flags) (cs : List Char) : Option (Flags × Nat × List Char) :=
  let rec go : Nat → Flags → List Char → Bool → Bool → Nat → List Char → Option (Flags × Nat × List Char)
    | 0, _, _, _, _, _, _ => none
    | fuel + 1, f, seen, negating, lastDash, count, cs =>
      match cs with
      | [] => none
      | c :: rest =>
        if c == ':' || c == ')' then
          if lastDash then none else some (f, count, cs)
        else if c == '-' then
          if negating then none else go fuel f seen true true (count + 1) rest
        else if "imsUuRx".toList.contains c then
          if seen.contains c then none
          else go fuel (f.set c !negating) (c :: seen) negating false (count + 1) rest
        else none
  go (cs.length + 1) f [] false false 0 cs

/-- Reads a group after its `(`. Look-around is refused. -/
def readGroup (st : Scan) (cs : List Char) : Option (Scan × List Char) :=
  let starts (p : String) : Bool := p.toList.isPrefixOf cs
  if starts "?=" || starts "?!" || starts "?<=" || starts "?<!" then none
  else
    match cs with
    | '?' :: 'P' :: '<' :: rest => readName st rest
    | '?' :: '<' :: rest => readName st rest
    | '?' :: rest =>
      (readFlags st.flags rest).bind fun (f, count, more) =>
        match more with
        | ')' :: after => if count = 0 then none else some ({ st with flags := f, canRepeat := false }, after)
        | _ :: after => some ({ st with flags := f, outer := st.flags :: st.outer, canRepeat := false }, after)
        | [] => none
    | _ => some ({ st with outer := st.flags :: st.outer, canRepeat := false }, cs)

/-- Reads a decimal count, with blanks around it. -/
def readDecimal (cs : List Char) : Option (Nat × List Char) :=
  let cs := cs.dropWhile Text.isBlank
  let digits := cs.takeWhile Char.isDigit
  if digits.isEmpty then none
  else
    let n := digits.foldl (fun n c => 10 * n + (c.toNat - 48)) 0
    if n ≥ 4294967296 then none else some (n, (cs.drop digits.length).dropWhile Text.isBlank)

/-- Reads a counted repetition after its `{`: `n`, `n,` or `n,m` with `n ≤ m`, then `}`. -/
def readCount (spaced : Bool) (cs : List Char) : Option (List Char) :=
  (readDecimal (skipSpace spaced cs)).bind fun (n, rest) =>
    let upper : Option (Option Nat × List Char) := match rest with
      | ',' :: more =>
        match skipSpace spaced more with
        | [] => none
        | '}' :: _ => some (none, skipSpace spaced more)
        | after => (readDecimal after).map fun (m, r) => (some m, r)
      | _ => some (none, rest)
    upper.bind fun (m, rest) =>
      match rest with
      | '}' :: after =>
        if m.all (n ≤ ·) then
          match skipSpace spaced after with
          | '?' :: more => some (skipSpace spaced more)
          | more => some more
        else none
      | _ => none

/-- Reads a whole pattern. -/
def scan : Nat → Scan → List Char → Bool
  | 0, _, _ => false
  | fuel + 1, st, cs =>
    match skipSpace st.flags.spaced cs with
    | [] => st.outer.isEmpty
    | c :: rest =>
      if c == '(' then
        match readGroup st (skipSpace st.flags.spaced rest) with
        | some (st', more) => scan fuel st' more
        | none => false
      else if c == ')' then
        match st.outer with
        | f :: fs => scan fuel { st with flags := f, outer := fs, canRepeat := true } rest
        | [] => false
      else if c == '|' then scan fuel { st with canRepeat := false } rest
      else if c == '[' then
        match readClass st.flags rest with
        | some more => scan fuel { st with canRepeat := true } more
        | none => false
      else if c == '?' || c == '*' || c == '+' then
        st.canRepeat && scan fuel st (match rest with
          | '?' :: more => more
          | more => more)
      else if c == '{' then
        st.canRepeat && (match readCount st.flags.spaced rest with
          | some more => scan fuel st more
          | none => false)
      else if c == '\\' then
        match readEscape st.flags rest with
        | some (e, more) => e.fits st.flags && scan fuel { st with canRepeat := true } more
        | none => false
      else if c == '.' then st.flags.unicode && scan fuel { st with canRepeat := true } rest
      else scan fuel { st with canRepeat := true } rest

/-- Whether a pattern compiles. -/
def compiles (cs : List Char) : Bool :=
  scan (cs.length + 1) ⟨⟨true, false⟩, [], false, []⟩ cs

/-! ## Numbers -/

/-- Whether a text is a number with a leading `+`, as a floating-point
reading takes it: digits with an optional point and fraction (at least one
digit in all) and an optional exponent, or `inf`, `infinity` or `nan` in
any case. Such a value is read as a number, not as a pattern. -/
def isSignedNumber (cs : List Char) : Bool :=
  match cs with
  | '+' :: rest =>
    let word := String.ofList (rest.map Char.toLower)
    if word == "inf" || word == "infinity" || word == "nan" then true
    else
      let whole := rest.takeWhile Char.isDigit
      let afterWhole := rest.drop whole.length
      let (frac, afterFrac) := match afterWhole with
        | '.' :: more => (more.takeWhile Char.isDigit, more.dropWhile Char.isDigit)
        | more => ([], more)
      let expOk := match afterFrac with
        | [] => true
        | e :: more =>
          (e == 'e' || e == 'E') &&
            (let ds := match more with
              | '+' :: r | '-' :: r => r
              | r => r
             !ds.isEmpty && ds.all Char.isDigit)
      (whole.length + frac.length > 0) && expOk
  | _ => false

/-- Whether the value of a field can be read: a number with a leading `+`,
or a pattern that compiles. Every other number and truth value is a
pattern that compiles as well. -/
def valueFits (cs : List Char) : Bool := isSignedNumber cs || compiles cs

theorem compiles_nil : compiles [] = true := by
  simp [compiles, scan, skipSpace]

end Typeahead.Pattern
