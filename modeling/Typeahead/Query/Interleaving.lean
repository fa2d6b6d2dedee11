-- The controller and its lookup tasks under any schedule. Each action of the
-- controller, and each stretch of a lookup task between two of its awaits, is
-- one event; a run is any list of events, so every order in which the runtime
-- may interleave inputs, shutdowns and tasks is a run. The backend is any
-- backend: each answer it gives is carried by the event that hands it over.
-- Each sink call is kept with the generation whose input or lookup made it and
-- the controller's generation at that moment.
import Typeahead.Query.Controller
import Typeahead.Backend.Scripted

namespace Typeahead

/-- The outcome a lookup hands back for the backend's answer: a breakdown is
caught as a model failure, and any other answer counts as cancelled once the
token is. -/
def Answer.lookup (cancelled : Bool) : Answer → Outcome
  | .breakdown _ => .failure (.modelRuntime "translation backend panicked")
  | .outcome o => if cancelled then .cancelled else o

namespace Query

/-- Where a lookup task waits. -/
inductive Stage where
  /-- Spawned, not yet run. -/
  | spawned
  /-- Sleeping out the quiet period, or until its token is cancelled. -/
  | quiet
  /-- Waiting for the backend's answer. -/
  | asking
  deriving Repr, DecidableEq

/-- A lookup task: the lookup it runs and where it waits. -/
structure Job where
  request : Request
  stage : Stage
  deriving Repr, DecidableEq

/-- A sink call, with the generation whose input or lookup made it and the
controller's generation when it was made. -/
structure SinkEntry where
  cause : Nat
  current : Nat
  call : SinkCall
  deriving Repr, DecidableEq

/-- One event of a run. -/
inductive Event where
  /-- The input changes from `old` to `new`. -/
  | input (old new : String)
  /-- The controller is shut down, by a call or when it is dropped. -/
  | shutdown
  /-- The lookup task of generation `g` runs up to its next await. -/
  | poll (g : Nat)
  /-- The backend hands its answer to the lookup task of generation `g`. -/
  | answer (g : Nat) (a : Answer)
  deriving Repr, DecidableEq

/-- The texts of the input changes that start a generation, oldest first: a
change to a different text, before the first shutdown. -/
def Event.texts : List Event → List String
  | [] => []
  | .input old new :: es => if old = new then Event.texts es else new :: Event.texts es
  | .shutdown :: _ => []
  | _ :: es => Event.texts es

/-- The controller, the sequencer, the tokens and the live lookup tasks. -/
structure Runtime where
  settings : Settings
  slot : Slot
  state : State
  /-- The newest generation the sequencer has seen. -/
  latest : Nat
  /-- The generations whose token has been cancelled. -/
  cancelled : List Nat
  jobs : List Job
  /-- What the sink was told and what the backend was asked, oldest first. -/
  sink : List SinkEntry
  calls : List Request
  released : Bool
  releases : Nat
  deriving Repr

namespace Runtime

/-- A new controller: nothing seen, nothing asked, nothing running. -/
def start (settings : Settings) (slot : Slot) : Runtime :=
  ⟨settings, slot, State.init, 0, [], [], [], [], false, 0⟩

/-- The live task of generation `g`, if there is one. -/
def jobOf (w : Runtime) (g : Nat) : Option Job := w.jobs.find? (·.request.generation == g)

/-- Adds sink calls made for generation `cause`. -/
def tell (w : Runtime) (cause : Nat) (calls : List SinkCall) : Runtime :=
  { w with sink := w.sink ++ calls.map (⟨cause, w.state.generation, ·⟩) }

/-- `on_input_changed`: the generation moves on and the sequencer sees it, the
token of the generation before is cancelled, and a task is spawned when the
input asks for a lookup. -/
def input (w : Runtime) (old new : String) : Runtime :=
  if old = new || w.state.closed then w
  else
    let (st, e, req) := w.state.onInput w.settings w.slot old new
    let w := { w with state := st, latest := max w.latest st.generation,
                      cancelled := w.cancelled ++ [w.state.generation],
                      jobs := w.jobs ++ req.toList.map (Job.mk · .spawned) }
    w.tell st.generation e.calls

/-- `shutdown`: the controller closes and cancels the live token; the backend
is released the first time only, and only when there is one. -/
def shutdown (w : Runtime) : Runtime :=
  if w.state.closed then w
  else
    let w := { w with state := w.state.shutdown.1, cancelled := w.cancelled ++ [w.state.generation] }
    if w.released then w
    else
      match w.slot with
      | .ready _ => { w with released := true, releases := w.releases + 1 }
      | .unavailable _ => { w with released := true }

/-- The lookup `r` ends with outcome `o`: the controller completes it under its
lock, and its task is gone. -/
def finish (w : Runtime) (r : Request) (o : Outcome) : Runtime :=
  let (st, e) := w.state.complete w.settings r.generation r.text o
  let w := w.tell r.generation e.calls
  { w with state := st, jobs := w.jobs.filter (·.request.generation != r.generation) }

/-- Moves the task of generation `g` to another stage. -/
def restage (w : Runtime) (g : Nat) (s : Stage) : Runtime :=
  { w with jobs := w.jobs.map fun j => if j.request.generation = g then { j with stage := s } else j }

/-- The task of generation `g` runs up to its next await. A new task marks its
generation as seen, and ends at once if its token is already cancelled. A task
out of its quiet period ends if its token is cancelled or a newer generation
was seen, and asks the backend otherwise. -/
def poll (w : Runtime) (g : Nat) : Runtime :=
  match w.jobOf g with
  | none => w
  | some j =>
    match j.stage with
    | .spawned =>
      let w := { w with latest := max w.latest g }
      if g ∈ w.cancelled then w.finish j.request .cancelled else w.restage g .quiet
    | .quiet =>
      if g ∈ w.cancelled ∨ w.latest ≠ g then w.finish j.request .cancelled
      else ({ w with calls := w.calls ++ [j.request] }).restage g .asking
    | .asking => w

/-- The backend answers the task of generation `g`, which hands the lookup's
outcome to the controller. -/
def answer (w : Runtime) (g : Nat) (a : Answer) : Runtime :=
  match w.jobOf g with
  | some j => if j.stage = .asking then w.finish j.request (a.lookup (g ∈ w.cancelled)) else w
  | none => w

/-- One event. -/
def step (w : Runtime) : Event → Runtime
  | .input old new => w.input old new
  | .shutdown => w.shutdown
  | .poll g => w.poll g
  | .answer g a => w.answer g a

/-- The events in order. -/
def run (w : Runtime) (events : List Event) : Runtime := events.foldl step w

end Runtime

end Query

end Typeahead
