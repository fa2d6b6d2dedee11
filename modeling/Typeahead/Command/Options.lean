-- The command line of the program. Options are read left to right. An
-- option that takes a value takes the rest of its word after `=` (or, for a
-- short one, after its letter), else the next word; that value is checked
-- only when the next option comes or the words end. An option given twice,
-- a word that is no option, and a value that does not fit are faults.
import Typeahead.Config.Basic
import Typeahead.Number.Binary64

namespace Typeahead.Command

/-- What an option sets. -/
inductive Key where
  | backend | debounce | minChars | typeText | interval | theme
  | generate | edit | status | help | version
  deriving Repr, DecidableEq

/-- An option as the command line knows it. -/
structure Spec where
  key : Key
  short : Option Char
  long : String
  /-- The name of its value, for an option that takes one. -/
  value : Option String
  /-- What the help says of it. -/
  about : String
  /-- The values it accepts, when they are few. -/
  choices : List String
  /-- Its value when it is not given, as the help shows it. -/
  default : Option String

/-- The options, in the order the help lists them. -/
def specs : List Spec := [
  ⟨.backend, some 'b', "backend", some "BACKEND", "Translation backend (overrides config)",
    ["local", "remote"], none⟩,
  ⟨.debounce, some 'd', "debounce-ms", some "DEBOUNCE_MS",
    "Quiet period before a lookup starts, in milliseconds", [], none⟩,
  ⟨.minChars, some 'm', "min-chars", some "MIN_CHARS", "Minimum query length in characters", [], none⟩,
  ⟨.typeText, none, "type", some "TEXT", "Simulate typing TEXT one character at a time, then exit",
    [], none⟩,
  ⟨.interval, none, "interval-ms", some "INTERVAL_MS",
    "Delay between simulated keystrokes, in milliseconds", [], some "120"⟩,
  ⟨.theme, some 'T', "theme", some "THEME", "Choose color theme", [], none⟩,
  ⟨.generate, none, "generate-config", none, "Generate config sample", [], none⟩,
  ⟨.edit, none, "edit-config", none, "Edit configuration file", [], none⟩,
  ⟨.status, none, "status", none, "Show status", [], none⟩,
  ⟨.help, some 'h', "help", none, "Print help", [], none⟩,
  ⟨.version, some 'V', "version", none, "Print version", [], none⟩]

/-- How faults name an option: its long form and its value. -/
def Spec.display (s : Spec) : String :=
  "--" ++ s.long ++ ((s.value.map (fun v => " <" ++ v ++ ">")).getD "")

/-- The option of a key. -/
def specOf (k : Key) : Spec := (specs.find? (·.key == k)).getD ⟨k, none, "", none, "", [], none⟩

/-- Why the command line was not read. -/
inductive Fault where
  /-- A value that is none of the accepted ones; an empty value means none was given. -/
  | invalidValue (arg value : String) (choices : List String)
  /-- A value that is not a number of the option's kind. -/
  | badNumber (arg value reason : String)
  | repeated (arg : String)
  /-- A word that is no option; perhaps a similar option, and the options given so far. -/
  | unknown (arg : String) (similar : Option String) (given : List Key)
  /-- A value given to an option that takes none. -/
  | unexpectedValue (arg value : String) (given : List Key)
  | help
  | version
  deriving Repr, DecidableEq

/-- The options the command line gives. -/
structure Options where
  backend : Option BackendKind
  debounceMs : Option Nat
  minChars : Option Nat
  typeText : Option String
  intervalMs : Nat
  theme : Option String
  generateConfig : Bool
  editConfig : Bool
  status : Bool
  deriving Repr, DecidableEq

/-! ## Similar words -/

/-- Marks the first unmarked equal character of `b` within `range` of each
character of `a`: the marks of `a`, the marks of `b`, and the count. -/
def jaroMatches (a b : List Char) (range : Nat) : List Bool × List Bool × Nat :=
  a.zipIdx.foldl (fun (st : List Bool × List Bool × Nat) (c, i) =>
    let (am, bm, n) := st
    let lo := i - range
    let hi := min b.length (i + range + 1)
    match (List.range hi).find? (fun j => lo ≤ j && b[j]? = some c && bm[j]? = some false) with
    | some j => (am ++ [true], bm.set j true, n + 1)
    | none => (am ++ [false], bm, n)) ([], List.replicate b.length false, 0)

/-- The Jaro similarity of two words in binary64 arithmetic: with `m`
matching characters and `t` half-transpositions, `(m/|a| + m/|b|) +
(m - t)/m` divided by three, every step rounded. -/
def jaro (a b : List Char) : Number.Dyadic :=
  let zero : Number.Dyadic := ⟨0, 0⟩
  if a.isEmpty && b.isEmpty then ⟨1, 0⟩
  else if a.isEmpty || b.isEmpty then zero
  else
    let range := max a.length b.length / 2 - 1
    let (am, bm, m) := jaroMatches a b range
    if m = 0 then zero
    else
      let aSeq := (a.zip am).filterMap (fun (c, f) => if f then some c else none)
      let bSeq := (b.zip bm).filterMap (fun (c, f) => if f then some c else none)
      let t := ((aSeq.zip bSeq).filter (fun (x, y) => x != y)).length / 2
      let q (p d : Nat) : Number.Dyadic := (Number.roundQuotient p d).getD zero
      let sum := ((q m a.length).add (q m b.length)).bind (·.add (q (m - t) m))
      (sum.bind (·.divNat 3)).getD zero

/-- The binary64 value nearest to 0.7, the least similarity that is not enough. -/
def similarEnough : Number.Dyadic := (Number.roundQuotient 7 10).getD ⟨0, 0⟩

/-- The most similar of some words, if one is similar enough (above 0.7); of
equally similar ones the last. -/
def mostSimilar (w : String) (words : List String) : Option String :=
  let scored := words.filterMap (fun v =>
    let j := jaro w.toList v.toList
    if similarEnough.lt j then some (v, j) else none)
  (scored.foldl (fun best (v, j) =>
    match best with
    | some (_, b) => if !j.lt b then some (v, j) else best
    | none => some (v, j)) none).map (·.1)

/-! ## Reading -/

/-- The reading so far: options met with their values in the order first
met, the option whose value is still to be checked, whether it still waits
for its value, and whether `--` ended the options. -/
structure Reading where
  matched : List (Key × List String)
  pending : Option (Key × List String)
  waiting : Bool
  trailing : Bool

/-- Reads decimal digits left to right; the first fault met, a character
that is no digit or a value past 64 bits, is the one told. -/
def readDigits (acc : Nat) : List Char → Except String Nat
  | [] => .ok acc
  | c :: rest =>
    if !c.isDigit then .error "invalid digit found in string"
    else
      let v := acc * 10 + (c.toNat - 48)
      if v ≥ Nat.pow 2 64 then .error "number too large to fit in target type" else readDigits v rest

/-- Reads an unsigned 64-bit number: an optional `+` and decimal digits. -/
def readNumber (s : String) : Except String Nat :=
  match s.toList with
  | [] => .error "cannot parse integer from empty string"
  | ['+'] => .error "invalid digit found in string"
  | '+' :: ds => readDigits 0 ds
  | ds => readDigits 0 ds

/-- Checks the value of an option. -/
def checkValue (s : Spec) (v : String) : Except Fault Unit :=
  match s.key with
  | .backend => if s.choices.contains v then .ok () else .error (.invalidValue s.display v s.choices)
  | .debounce | .minChars | .interval =>
    match readNumber v with
    | .ok _ => .ok ()
    | .error why => .error (.badNumber s.display v why)
  | _ => .ok ()

/-- Takes an option with its values. The option waiting to be checked is
checked first; an option given twice is a fault before its value is checked. -/
def Reading.take (r : Reading) (k : Key) (vals : List String) (fuel : Nat) : Except Fault Reading :=
  match fuel with
  | 0 => .ok r
  | fuel + 1 => do
    let r ← match r.pending with
      | some (pk, pv) => Reading.take { r with pending := none, waiting := false } pk pv fuel
      | none => pure r
    let s := specOf k
    if s.value.isSome && vals.isEmpty then throw (.invalidValue s.display "" s.choices)
    match k with
    | .help => throw .help
    | .version => throw .version
    | _ =>
      if r.matched.any (·.1 == k) then throw (.repeated s.display)
      match vals with
      | v :: _ => checkValue s v
      | [] => pure ()
      pure { r with matched := r.matched ++ [(k, if s.value.isSome then vals else ["true"])] }

/-- Checks the option waiting to be checked. -/
def Reading.settle (r : Reading) : Except Fault Reading :=
  match r.pending with
  | some (k, vals) => Reading.take { r with pending := none, waiting := false } k vals 2
  | none => .ok r

/-- The reading after checking the waiting option, whether or not that
passes: an option met twice is dropped, and one whose value does not fit is
still counted as met. -/
def Reading.settled (r : Reading) : Reading :=
  let base := { r with pending := none, waiting := false }
  match r.pending with
  | none => r
  | some (k, vals) =>
    if vals.isEmpty then base
    else if r.matched.any (·.1 == k) then { base with matched := r.matched.filter (·.1 != k) }
    else { base with matched := r.matched ++ [(k, vals)] }

/-- Appends the items not yet in a list. -/
def addNew {α : Type} [BEq α] (xs ys : List α) : List α :=
  ys.foldl (fun acc y => if acc.contains y then acc else acc ++ [y]) xs

/-- The options met so far, each once. -/
def Reading.given (r : Reading) : List Key :=
  addNew [] (r.matched.map (·.1))

/-- Starts an option that waits for its value in the next word. -/
def Reading.await (r : Reading) (k : Key) : Except Fault Reading := do
  let r ← r.settle
  pure { r with pending := some (k, []), waiting := true }

/-- Reads a word that starts with `--`. -/
def Reading.long (r : Reading) (word : List Char) : Except Fault Reading :=
  let body := word.drop 2
  let name := String.ofList (body.takeWhile (· != '='))
  let attached := match body.dropWhile (· != '=') with
    | '=' :: v => some (String.ofList v)
    | _ => none
  match specs.find? (·.long == name) with
  | none =>
    let r' := r.settled
    let similar := mostSimilar name (specs.map (·.long))
    let given := addNew r'.given
      ((similar.bind (fun l => specs.find? (·.long == l))).map (·.key)).toList
    .error (.unknown ("--" ++ name) (similar.map ("--" ++ ·)) given)
  | some s =>
    match s.value, attached with
    | some _, some v => r.take s.key [v] 3
    | some _, none => r.await s.key
    | none, some v => .error (.unexpectedValue s.display v (addNew r.given [s.key]))
    | none, none => r.take s.key [] 3

/-- Reads the letters of a word that starts with a single `-`. -/
def Reading.short (r : Reading) (letters : List Char) : Except Fault Reading :=
  match letters with
  | [] => .ok r
  | c :: rest =>
    match specs.find? (·.short == some c) with
    | none => .error (.unknown ("-" ++ c.toString) none [])
    | some s =>
      if s.value.isNone then do
        let r ← r.take s.key [] 3
        Reading.short r rest
      else if rest.isEmpty then r.await s.key
      else
        let v := match rest with
          | '=' :: v => v
          | v => v
        r.take s.key [String.ofList v] 3

/-- Reads one word. -/
def Reading.word (r : Reading) (w : String) : Except Fault Reading :=
  let cs := w.toList
  if r.trailing then .error (.unknown w none [])
  else
    match cs with
    | ['-', '-'] => .ok { r with trailing := true }
    | '-' :: '-' :: _ => r.long cs
    | '-' :: c :: rest => r.short (c :: rest)
    | _ =>
      if r.waiting then
        match r.pending with
        | some (k, vals) => .ok { r with pending := some (k, vals ++ [w]), waiting := false }
        | none => .ok r
      else .error (.unknown w none [])

/-- The value of an option that was given, if it was. -/
def valueOf (matched : List (Key × List String)) (k : Key) : Option String :=
  (matched.find? (·.1 == k)).bind (fun (_, vs) => vs.head?)

/-- Reads the words of a command line, the program's name not among them. -/
def Options.parse (words : List String) : Except Fault Options := do
  let r ← words.foldlM Reading.word ⟨[], none, false, false⟩
  let r ← r.settle
  let m := r.matched
  let number (k : Key) : Option Nat := (valueOf m k).bind (fun v => (readNumber v).toOption)
  pure {
    backend := (valueOf m .backend).map (fun v => if v = "remote" then .remote else .local)
    debounceMs := number .debounce
    minChars := number .minChars
    typeText := valueOf m .typeText
    intervalMs := (number .interval).getD 120
    theme := valueOf m .theme
    generateConfig := (valueOf m .generate).isSome
    editConfig := (valueOf m .edit).isSome
    status := (valueOf m .status).isSome }

/-- With no words every option keeps its default. -/
theorem parse_nil : Options.parse [] =
    .ok ⟨none, none, none, none, 120, none, false, false, false⟩ := rfl

/-- A plus sign alone is not a number. -/
theorem readNumber_plus : readNumber "+" = .error "invalid digit found in string" := rfl

end Typeahead.Command
