-- Driving a session through a list of steps: input changes, typed texts
-- (each a change from the text typed before), pauses and a shutdown. After
-- each step the session shows what the step did and where it stands; at the
-- end the controller is dropped, which shuts it down.
import Typeahead.Query.Session

namespace Typeahead.Query

/-- One step of a run. -/
inductive Step where
  | change (old new : String)
  | typed (text : String)
  | pause (ms : Nat)
  | close
  deriving Repr

/-- What a step did and where the controller stands after it. -/
structure Snapshot where
  calls : List String
  sinkCalls : List SinkCall
  generation : Nat
  loading : Bool
  results : List Item
  deriving Repr

/-- A pause long enough for every lookup to finish. -/
def settleMs : Nat := 60000

/-- Runs one step; `typed` is the last text typed or given as new. -/
def Session.step (s : Session) (typed : String) : Step → Session × String
  | .change old new => (s.input old new, new)
  | .typed text => (s.input typed text, text)
  | .pause ms => (s.sleep ms, typed)
  | .close => (s.shutdown, typed)

/-- Runs the steps in order, with a snapshot after each. -/
def Session.run (s : Session) (steps : List Step) : List Snapshot × Session :=
  let go (acc : List Snapshot × Session × String) (st : Step) : List Snapshot × Session × String :=
    let (snaps, s, typed) := acc
    let (s, typed) := (s.clearRecord).step typed st
    (snaps ++ [⟨s.calls, s.sinkCalls, s.state.generation, s.state.loading, s.state.results⟩], s, typed)
  let (snaps, s, _) := steps.foldl go ([], s, "")
  (snaps, s.shutdown)

end Typeahead.Query
