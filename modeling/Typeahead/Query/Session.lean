-- A controller running on a virtual clock. Each lookup the controller asks
-- for is a task: it starts when the clock next runs, waits out the quiet
-- period unless its token is cancelled first, checks once more that it is
-- still the latest lookup, then calls the backend and hands the outcome
-- back. A scripted backend keeps a task waiting for its delay; the other
-- backends answer at once. A cancelled task wakes when the clock next runs,
-- before any quiet period ends. Time runs only in `sleep`.
import Typeahead.Query.Controller
import Typeahead.Query.Backend
import Typeahead.Dictionary.Answer

namespace Typeahead.Query

/-- Where a lookup task stands. -/
inductive Phase where
  /-- Asked for, not yet started. -/
  | fresh
  /-- Waiting out the quiet period until `due`. -/
  | quiet (due : Nat)
  /-- Waiting for a scripted backend's answer until `due`. -/
  | calling (due : Nat)
  deriving Repr, DecidableEq

/-- A lookup task. -/
structure Task where
  request : Request
  phase : Phase
  deriving Repr

/-- The due time of a waiting task. -/
def Task.due? (t : Task) : Option Nat :=
  match t.phase with
  | .fresh => none
  | .quiet d | .calling d => some d

/-- A controller, its backend and its tasks, on a clock. -/
structure Session where
  settings : Settings
  slot : Slot
  backend : Option Backend
  state : State
  now : Nat
  tasks : List Task
  /-- Calls of a scripted backend not yet answered, and the most at once. -/
  inFlight : Nat
  maxInFlight : Nat
  released : Bool
  releases : Nat
  /-- Texts passed to the backend, sink calls and log records, oldest first. -/
  calls : List String
  sinkCalls : List SinkCall
  notes : List LogRecord
  deriving Repr

namespace Session

/-- A session over a backend, or a degraded one when the backend could not be built. -/
def start (settings : Settings) (backend : Except String Backend) : Session :=
  let (slot, b, notes) : Slot × Option Backend × List LogRecord := match backend with
    | .ok b => (.ready b.name, some b,
        [⟨.info, .controller, "query controller ready", [LogRecord.quoted "backend" b.name]⟩])
    | .error reason => (.unavailable reason, none,
        [⟨.warn, .controller, "translation backend unavailable, running degraded", [("reason", reason)]⟩])
  ⟨settings, slot, b, State.init, 0, [], 0, 0, false, 0, [], [], notes⟩

/-- Whether the session runs without a backend. -/
def degraded (s : Session) : Bool := s.backend.isNone

/-- Adds what the controller did. -/
def record (s : Session) (e : Effects) : Session :=
  { s with sinkCalls := s.sinkCalls ++ e.calls, notes := s.notes ++ e.notes }

/-- Adds a log record. -/
def note (s : Session) (r : LogRecord) : Session := { s with notes := s.notes ++ [r] }

/-- A change of the input. -/
def input (s : Session) (old new : String) : Session :=
  let (st, e, req) := s.state.onInput s.settings s.slot old new
  let s := ({ s with state := st }).record e
  match req with
  | some r => { s with tasks := s.tasks ++ [⟨r, .fresh⟩] }
  | none => s

/-- Closes the controller and releases the backend, once. -/
def shutdown (s : Session) : Session :=
  let (st, wasOpen) := s.state.shutdown
  let s := { s with state := st }
  if !wasOpen || s.released then s
  else
    let s := { s with released := true }
    match s.backend with
    | some b =>
      let s := ({ s with backend := some b.release, releases := s.releases + 1 }).note
        ⟨.info, .controller, "releasing translation backend", [LogRecord.quoted "backend" b.name]⟩
      { s with notes := s.notes ++ b.releaseNotes }
    | none => s

/-- Hands a lookup's outcome to the controller. -/
def finish (s : Session) (r : Request) (o : Outcome) : Session :=
  let (st, e) := s.state.complete s.settings r.generation r.text o
  ({ s with state := st }).record e

/-- A lookup that ends because its token was cancelled. -/
def finishCancelled (s : Session) (r : Request) (inQuiet : Bool) : Session :=
  let s := if inQuiet then
      s.note ⟨.debug, .sequencer, "cancelled during quiet period", [LogRecord.number "generation" r.generation]⟩
    else s
  s.finish r .cancelled

/-- Keeps a success in the backend's memory. -/
def remember (s : Session) (text : String) (o : Outcome) : Session :=
  match s.backend with
  | some b => { s with backend := some { b with cache := b.cache.map (·.remember text o) } }
  | none => s

/-- The backend call of a task whose quiet period is over; the task stays
only while a scripted backend is answering. -/
def call (s : Session) (r : Request) : Session × Option Task :=
  match s.backend with
  | none => (s, none)
  | some b =>
    let s := ({ s with calls := s.calls ++ [r.text] }).note ⟨.debug, .sequencer, "starting lookup",
      [LogRecord.number "generation" r.generation, LogRecord.quoted "backend" b.name]⟩
    match b.cache.bind (·.hit? r.text) with
    | some t =>
      let s := s.note ⟨.debug, .cache, "translation cache hit", [LogRecord.quoted "query" (Cache.keyOf r.text)]⟩
      (s.finish r (.success t), none)
    | none =>
      match b.engine with
      | .scripted _ delay _ =>
        let n := s.inFlight + 1
        ({ s with inFlight := n, maxInFlight := max s.maxInFlight n }, some ⟨r, .calling (s.now + delay)⟩)
      | .phrases p =>
        let o := p.translate r.text false
        ((s.remember r.text o).finish r o, none)
      | .remote d svc =>
        let s := s.note ⟨.debug, .remote, "remote lookup", [("url", d.link r.text)]⟩
        let o := d.lookup svc r.text false
        ((s.remember r.text o).finish r o, none)

/-- A scripted backend answers a task once its wait is over. A breakdown
is caught as a model failure. -/
def answer (s : Session) (r : Request) : Session :=
  match s.backend with
  | some { engine := .scripted script _ _, .. } =>
    let s := { s with inFlight := s.inFlight - 1 }
    match script.answer r.text with
    | .breakdown _ => s.finish r (.failure (.modelRuntime "translation backend panicked"))
    | .outcome o =>
      let s := s.remember r.text o
      s.finish r (if s.state.isCancelled r.generation then .cancelled else o)
  | _ => s

/-- Whether a scripted backend ends its wait when the token is cancelled. -/
def honorsCancel (s : Session) : Bool :=
  match s.backend with
  | some { engine := .scripted _ _ h, .. } => h
  | _ => true

/-- Runs the tasks that the clock wakes at once: new tasks start their
quiet period or end if already cancelled, and cancelled waits end. -/
def wake (s : Session) : Session :=
  let step (acc : Session × List Task) (t : Task) : Session × List Task :=
    let (s, kept) := acc
    let cancelled := s.state.isCancelled t.request.generation
    match t.phase with
    | .fresh =>
      if cancelled then (s.finishCancelled t.request true, kept)
      else (s, kept ++ [{ t with phase := .quiet (s.now + s.settings.debounce) }])
    | .quiet _ =>
      if cancelled then (s.finishCancelled t.request true, kept) else (s, kept ++ [t])
    | .calling _ =>
      if cancelled && s.honorsCancel then
        (({ s with inFlight := s.inFlight - 1 }).finish t.request .cancelled, kept)
      else (s, kept ++ [t])
  let (s, kept) := s.tasks.foldl step ({ s with tasks := [] }, [])
  { s with tasks := kept ++ s.tasks }

/-- The index of the waiting task due first, if it is due by `limit`. -/
def nextDue (tasks : List Task) (limit : Nat) : Option (Nat × Nat) :=
  tasks.zipIdx.foldl (fun best (t, i) =>
    match t.due? with
    | some d =>
      if d ≤ limit then
        match best with
        | some (bd, _) => if d < bd then some (d, i) else best
        | none => some (d, i)
      else best
    | none => best) none

/-- Runs the waiting tasks due by `limit`, in time order. -/
def fire (fuel : Nat) (s : Session) (limit : Nat) : Session :=
  match fuel with
  | 0 => s
  | f + 1 =>
    match nextDue s.tasks limit with
    | none => s
    | some (d, i) =>
      match s.tasks[i]? with
      | none => s
      | some t =>
        let s := { s with now := max s.now d, tasks := s.tasks.eraseIdx i }
        match t.phase with
        | .quiet _ =>
          -- the end of the quiet period: a lookup superseded or cancelled by
          -- now skips the backend
          if s.state.isCancelled t.request.generation then
            let s := s.note ⟨.debug, .sequencer, "superseded, skipping backend",
              [LogRecord.number "generation" t.request.generation, LogRecord.number "latest" s.state.generation]⟩
            fire f (s.finish t.request .cancelled) limit
          else
            let (s, next) := s.call t.request
            let s := match next with
              | some t' => { s with tasks := s.tasks ++ [t'] }
              | none => s
            fire f s limit
        | .calling _ => fire f (s.answer t.request) limit
        | .fresh => fire f s limit

/-- Lets `ms` milliseconds pass. -/
def sleep (s : Session) (ms : Nat) : Session :=
  let limit := s.now + ms
  let s := s.wake
  let s := fire (2 * s.tasks.length + 2) s limit
  { s with now := limit }

/-- Forgets what was recorded, to start a new step. -/
def clearRecord (s : Session) : Session := { s with calls := [], sinkCalls := [], notes := [] }

end Session

end Typeahead.Query
