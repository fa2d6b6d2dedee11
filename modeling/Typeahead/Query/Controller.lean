-- The query controller. Each change of the input gets the next
-- generation; a short or blank input shows the placeholder at once, a
-- degraded controller shows why it cannot translate, and any other input
-- asks for a lookup. A finished lookup is shown only if its generation is
-- still the newest and the controller is open, and it replaces the whole
-- result list by one item. Every change shown goes to the sink as
-- results, then loading off, then a notice.
import Typeahead.Query.Settings
import Typeahead.Lookup.Item
import Typeahead.Log.Record
import Typeahead.Text.Blank

namespace Typeahead.Query

/-- A call the controller makes on its result sink. -/
inductive SinkCall where
  | setResults (items : List Item)
  | setLoading (on : Bool)
  | notify
  deriving Repr, DecidableEq

/-- What the controller translates with: a backend by its name, or nothing,
for a reason. -/
inductive Slot where
  | ready (name : String)
  | unavailable (reason : String)
  deriving Repr, DecidableEq

/-- The state of a controller. -/
structure State where
  generation : Nat
  results : List Item
  loading : Bool
  closed : Bool
  deriving Repr, DecidableEq

/-- What one action of the controller did: the sink calls and log records it made. -/
structure Effects where
  calls : List SinkCall
  notes : List LogRecord
  deriving Repr

/-- A lookup the controller asks for: its generation and its text. -/
structure Request where
  generation : Nat
  text : String
  deriving Repr, DecidableEq

namespace State

/-- A new controller shows the placeholder and is not loading. -/
def init : State := ⟨0, [Item.placeholder], false, false⟩

/-- Whether the token given to the lookup of generation `g` is cancelled:
a newer input or a shutdown cancels it. -/
def isCancelled (s : State) (g : Nat) : Bool := g != s.generation || s.closed

/-- The sink calls that show the current state. -/
def publish (s : State) : List SinkCall := [.setResults s.results, .setLoading s.loading, .notify]

/-- Whether an input is too short to look up. -/
def tooShort (settings : Settings) (text : String) : Bool :=
  let t := Text.trim text.toList
  t.isEmpty || t.length < settings.minChars

/-- A change of the input from `old` to `new`. -/
def onInput (settings : Settings) (slot : Slot) (s : State) (old new : String) :
    State × Effects × Option Request :=
  if old = new || s.closed then (s, ⟨[], []⟩, none)
  else
    let g := s.generation + 1
    let s := { s with generation := g }
    if tooShort settings new then
      let s := { s with results := [Item.placeholder], loading := false }
      (s, ⟨s.publish, [⟨.debug, .controller, "input too short, showing placeholder",
        [LogRecord.number "generation" g]⟩]⟩, none)
    else
      match slot with
      | .unavailable reason =>
        let s := { s with results := [Item.diagnostic (.unavailable reason)], loading := false }
        (s, ⟨s.publish, []⟩, none)
      | .ready _ =>
        let s := { s with loading := true }
        (s, ⟨[.setLoading true], [⟨.debug, .controller, "scheduling debounced lookup",
          [LogRecord.number "generation" g]⟩]⟩, some ⟨g, new⟩)

/-- The follow-up command of a translation of a query. -/
def actionFor (settings : Settings) (text : String) : Option Action :=
  settings.lookupUrl.map (fun t => .openUrl (Text.fillTemplate t (Text.trimString text)))

/-- A finished lookup of generation `g` for `text`. -/
def complete (settings : Settings) (s : State) (g : Nat) (text : String) (o : Outcome) :
    State × Effects :=
  if s.closed || g != s.generation then
    (s, ⟨[], [⟨.debug, .controller, "discarding stale lookup",
      [LogRecord.number "generation" g, LogRecord.number "current" s.generation]⟩]⟩)
  else
    match o with
    | .cancelled => (s, ⟨[], [⟨.debug, .controller, "lookup cancelled", [LogRecord.number "generation" g]⟩]⟩)
    | .success t =>
      let s := { s with results := [Item.translation t (actionFor settings text)], loading := false }
      (s, ⟨s.publish, []⟩)
    | .failure r =>
      let s := { s with results := [Item.diagnostic r], loading := false }
      (s, ⟨s.publish, [⟨.warn, .controller, "lookup failed",
        [LogRecord.number "generation" g, ("reason", r.message)]⟩]⟩)

/-- Closes the controller; answers whether it was open. -/
def shutdown (s : State) : State × Bool :=
  if s.closed then (s, false) else ({ s with closed := true }, true)

end State

end Typeahead.Query
