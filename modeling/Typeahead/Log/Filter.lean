-- Which log records are written. A filter is a set of directives, each a
-- verbosity for the records of every source or of the sources whose name
-- starts with a given prefix, and possibly only for the records that carry
-- some named fields. The most specific directive that fits a record decides
-- (a longer prefix first, then more fields); a record that no directive fits
-- is dropped. Verbosity counts up from nothing (0) through errors, warnings,
-- information and debugging to tracing (5).
--
-- Directives are read from a comma-separated list with a small state
-- machine: `level`, `prefix`, `prefix=level`, and forms with a span part
-- `prefix[span{field,…}]=level`. A directive that names a span or matches a
-- field's value only acts inside spans, and this program opens none, so it
-- never lets a record through; a value that is not a number must still be
-- a pattern that compiles, or the whole list is invalid.
import Typeahead.Log.Pattern
import Typeahead.Log.Record
import Typeahead.Text.Blank
import Typeahead.Text.Classes

namespace Typeahead

/-- The verbosity at which a level starts to show. -/
def LogLevel.verbosity : LogLevel → Nat
  | .error => 1
  | .warn => 2
  | .info => 3
  | .debug => 4

/-- A directive that can let records through: the verbosity for the
records of the sources under a prefix (or of all sources) that carry all
the named fields. -/
structure Directive where
  scope : Option String
  fields : List String
  verbosity : Nat
  deriving Repr, DecidableEq

/-- Whether a directive is about a record from a source with the given field names. -/
def Directive.fits (d : Directive) (source : String) (names : List String) : Bool :=
  (match d.scope with
    | some p => p.isPrefixOf source
    | none => true) && d.fields.all (names.contains ·)

/-- Lexicographic order of two lists of texts. -/
def compareTexts : List String → List String → Ordering
  | [], [] => .eq
  | [], _ :: _ => .lt
  | _ :: _, [] => .gt
  | a :: as, b :: bs => (compare a b).then (compareTexts as bs)

/-- How two directives compare in specificity: by the length of the prefix
(none is least specific), then by the number of fields; the prefixes and
the fields themselves break the remaining ties. Two directives that compare
equal are about the same records. -/
def Directive.compareSpecific (a b : Directive) : Ordering :=
  (compare (a.scope.map String.length) (b.scope.map String.length)).then <|
  (compare a.fields.length b.fields.length).then <|
  (compare a.scope b.scope).then (compareTexts a.fields b.fields)

/-- A log filter: its directives, the most specific first. -/
structure LogFilter where
  directives : List Directive
  deriving Repr, DecidableEq

namespace LogFilter

/-- Puts a directive in its place by specificity; it replaces one that
compares equal. -/
def insert (d : Directive) : List Directive → List Directive
  | [] => [d]
  | e :: es =>
    match d.compareSpecific e with
    | .gt => d :: e :: es
    | .eq => d :: es
    | .lt => e :: insert d es

/-- The filter of a list of directives, later ones replacing earlier equal ones. -/
def ofDirectives (ds : List Directive) : LogFilter :=
  ⟨ds.foldl (fun acc d => insert d acc) []⟩

/-- Reads a number of decimal digits with an optional plus sign. -/
def readCount? (cs : List Char) : Option Nat :=
  let ds := match cs with
    | '+' :: rest => rest
    | _ => cs
  if ds.isEmpty || !ds.all Char.isDigit then none
  else some (ds.foldl (fun n c => 10 * n + (c.toNat - '0'.toNat)) 0)

/-- Reads a verbosity: a number from 0 to 5, or a level name in any case;
the empty text means errors. -/
def readVerbosity? (s : String) : Option Nat :=
  match readCount? s.toList with
  | some n => if n ≤ 5 then some n else none
  | none =>
    match String.ofList (s.toList.map Char.toLower) with
    | "" | "error" => some 1
    | "off" => some 0
    | "warn" => some 2
    | "info" => some 3
    | "debug" => some 4
    | "trace" => some 5
    | _ => none

/-- The characters of a text with the byte offset each starts at. -/
def offsets : List Char → Nat → List (Nat × Char)
  | [], _ => []
  | c :: cs, n => (n, c) :: offsets cs (n + c.utf8Size)

/-- The part of a text between two byte offsets (the second one absent for
the end), if both fall on character boundaries. -/
def sliceBytes (cs : List Char) (a : Nat) (b : Option Nat) : Option String :=
  let placed := offsets cs 0
  let total := placed.foldl (fun n p => n + p.2.utf8Size) 0
  let bounds := placed.map (·.1) ++ [total]
  let b := b.getD total
  if bounds.contains a && bounds.contains b && a ≤ b then
    some (String.ofList ((placed.filter (fun p => a ≤ p.1 && p.1 < b)).map (·.2)))
  else none

/-- Whether a field part of a directive can be read: its value, after the
first `=` and up to a second one, must be a number or a pattern that
compiles. -/
def fieldFits (t : String) : Bool :=
  match t.splitOn "=" with
  | _ :: v :: _ => Pattern.valueFits v.toList
  | _ => true

/-- Where the reading of a directive stands; each place keeps the byte
offset where its part began. -/
inductive Place where
  | start
  | levelOrScope (at_ : Nat)
  | span (at_ : Nat)
  | field (at_ : Nat)
  | fields
  | spanClosed
  | level (at_ : Nat)
  deriving Repr, DecidableEq

/-- What has been read of a directive so far. -/
structure Reading where
  place : Place
  scope : Option String
  span : Option String
  fields : List String
  deriving Repr

/-- A character that may begin a directive's prefix. -/
def opensScope (c : Char) : Bool := Text.isAlphanumeric c || c == '-' || c == ':' || c == '_'

/-- Reads one more character of a directive. The offsets count in the
trimmed directive while the parts are cut from the whole one, so leading
blanks shift every part; a cut inside a character fails. -/
def step (whole : List Char) (r : Reading) (i : Nat) (c : Char) : Option Reading :=
  match r.place with
  | .start =>
    if c == '[' then some { r with place := .span (i + 1) }
    else if opensScope c then some { r with place := .levelOrScope i }
    else none
  | .levelOrScope a =>
    if c == '=' then (sliceBytes whole a (some i)).map fun t =>
      { r with place := .level (i + 1), scope := some t }
    else if c == '[' then (sliceBytes whole a (some i)).map fun t =>
      { r with place := .span (i + 1), scope := some t }
    else some r
  | .span a =>
    if c == ']' then (sliceBytes whole a (some i)).map fun t =>
      { r with place := .spanClosed, span := some t }
    else if c == '{' then (sliceBytes whole a (some i)).map fun t =>
      { r with place := .field (i + 1), span := if t.isEmpty then none else some t }
    else some r
  | .field a =>
    if c == '}' then
      match sliceBytes whole a (some i) with
      | some t =>
        if t.isEmpty || !fieldFits t then none
        else some { r with place := .fields, fields := r.fields ++ [t] }
      | none => none
    else some r
  | .fields => if c == ']' then some { r with place := .spanClosed } else none
  | .spanClosed => if c == '=' then some { r with place := .level (i + 1) } else none
  | .level _ => some r

/-- Runs the reading over the characters with their offsets. -/
def run (whole : List Char) : Reading → List (Nat × Char) → Option Reading
  | r, [] => some r
  | r, (i, c) :: rest =>
    match step whole r i c with
    | some r' => run whole r' rest
    | none => none

/-- A directive as read: its prefix, its span name, its field parts
(`name` or `name=value`) and its verbosity. -/
structure Parsed where
  scope : Option String
  span : Option String
  fields : List String
  verbosity : Nat
  deriving Repr

/-- Finishes a reading at the end of the directive. -/
def finish (whole : List Char) (r : Reading) : Option Parsed :=
  match r.place with
  | .levelOrScope a => (sliceBytes whole a none).map fun t =>
    match readVerbosity? t with
    | some v => ⟨none, r.span, r.fields, v⟩
    | none => ⟨some t, r.span, r.fields, 5⟩
  | .level a => (sliceBytes whole a none).bind fun t =>
    if t.isEmpty then some ⟨r.scope, r.span, r.fields, 5⟩
    else (readVerbosity? t).map fun v => ⟨r.scope, r.span, r.fields, v⟩
  | .spanClosed => some ⟨r.scope, r.span, r.fields, 5⟩
  | _ => none

/-- Reads one directive; `none` if it is not valid. -/
def readParsed? (s : String) : Option Parsed :=
  let whole := s.toList
  let start : Reading := ⟨.start, none, none, []⟩
  (run whole start (offsets (Text.trim whole) 0)).bind (finish whole)

/-- The directive that can let records through, unless the parsed one
acts inside spans only: when it names a span or matches a field's value. -/
def Parsed.direct (p : Parsed) : Option Directive :=
  if p.span.isSome || p.fields.any (·.toList.contains '=') then none
  else some ⟨p.scope, p.fields, p.verbosity⟩

/-- Reads a comma-separated list of directives; `none` if one is not valid. -/
def read? (s : String) : Option LogFilter := do
  let parts := (s.splitOn ",").filter (!·.isEmpty)
  let ps ← parts.mapM readParsed?
  pure (ofDirectives (ps.filterMap Parsed.direct))

/-- The filter of one level for every source. -/
def ofLevel (l : LogLevel) : LogFilter := ⟨[⟨none, [], l.verbosity⟩]⟩

/-- The names of a record's fields, its message among them. -/
def fieldNames (r : LogRecord) : List String := "message" :: r.fields.map (·.1)

/-- Whether a record is written: the first directive that fits it decides. -/
def allows (f : LogFilter) (r : LogRecord) : Bool :=
  match f.directives.find? (·.fits r.source.target (fieldNames r)) with
  | some d => r.level.verbosity ≤ d.verbosity
  | none => false

theorem ofLevel_allows (l : LogLevel) (r : LogRecord) :
    (ofLevel l).allows r = decide (r.level.verbosity ≤ l.verbosity) := by
  simp [allows, ofLevel, Directive.fits]

end LogFilter

end Typeahead
