-- Tokens and the sequencer. In every reachable state the newest generation
-- the sequencer has seen is the controller's generation, which counts the
-- input changes to a different text before the first shutdown, and the token
-- of a live task is cancelled exactly when its generation is over or the
-- controller is closed. So the sequencer's staleness test never decides what
-- the token has not already decided, and a task whose backend call returns
-- with its token live belongs to the current generation of an open
-- controller. A backend here never touches the token: it only answers.
import Typeahead.Proofs.Query.Generations

namespace Typeahead.Query.Runtime

variable {w : Runtime}

/-- The token of a live task is cancelled exactly when a newer generation has
started or the controller is closed. -/
theorem Good.cancelled_live (hw : w.Good) {j : Job} (hj : j ∈ w.jobs) :
    j.request.generation ∈ w.cancelled ↔
      j.request.generation < w.state.generation ∨ w.state.closed = true := by
  have hle := (hw.jobs_le j hj).2
  rw [hw.cancelled_iff]
  cases w.state.closed with
  | false => simp
  | true => simp only [and_true, or_true, iff_true]; omega

/-- A live task whose token is live runs the current generation of an open
controller. -/
theorem Good.current_of_live (hw : w.Good) {j : Job} (hj : j ∈ w.jobs)
    (hlive : j.request.generation ∉ w.cancelled) :
    j.request.generation = w.state.generation ∧ w.state.closed = false := by
  have hle := (hw.jobs_le j hj).2
  rw [hw.cancelled_live hj, not_or] at hlive
  exact ⟨by omega, by simpa using hlive.2⟩

/-- Out of its quiet period, a task finds a newer generation seen only when its
token is cancelled: the sequencer's test adds nothing to the token's. -/
theorem Good.superseded_iff_cancelled (hw : w.Good) {g : Nat} {r : Request}
    (hj : w.jobOf g = some ⟨r, .quiet⟩) : (g ∈ w.cancelled ∨ w.latest ≠ g) ↔ g ∈ w.cancelled := by
  obtain ⟨hmem, hg⟩ := mem_of_jobOf hj
  refine ⟨fun h => ?_, Or.inl⟩
  rcases h with h | hstale
  · exact h
  · by_contra hlive
    have hcur := (hw.current_of_live hmem (hg ▸ hlive)).1
    exact hstale (by rw [hw.latest_eq, ← hcur, hg])

/-- When the backend returns `o` to a task waiting for it, the lookup the task
hands over is cancelled unless the task runs the current generation of an open
controller. -/
theorem Good.returned_current (hw : w.Good) {g : Nat} {r : Request}
    (hj : w.jobOf g = some ⟨r, .asking⟩) (o : Outcome)
    (h : (Answer.outcome o).lookup (g ∈ w.cancelled) ≠ .cancelled) :
    g = w.state.generation ∧ w.state.closed = false := by
  obtain ⟨hmem, hg⟩ := mem_of_jobOf hj
  have hlive : g ∉ w.cancelled := fun hc => h (by simp [Answer.lookup, hc])
  have := hw.current_of_live hmem (hg ▸ hlive)
  rwa [hg] at this

/-- The tokens and the sequencer agree with the controller after any run, with
every order of inputs, shutdowns, task steps and backend returns: the sequencer
has seen exactly the controller's generation; that generation counts the input
changes to a different text before the first shutdown; the token of each live
task is cancelled exactly when its generation is over or the controller is
closed; after the quiet period, the test for a newer generation is true only
when the token is cancelled; and a lookup the backend returns to stays
uncancelled only for the current generation of an open controller. -/
theorem tokens_track_generations (settings : Settings) (slot : Slot) (events : List Event) :
    let w := (start settings slot).run events
    w.latest = w.state.generation ∧
    w.state.generation = (Event.texts events).length ∧
    (∀ j ∈ w.jobs, j.request.generation ∈ w.cancelled ↔
      j.request.generation < w.state.generation ∨ w.state.closed = true) ∧
    (∀ g r, w.jobOf g = some ⟨r, .quiet⟩ → ((g ∈ w.cancelled ∨ w.latest ≠ g) ↔ g ∈ w.cancelled)) ∧
    (∀ g r o, w.jobOf g = some ⟨r, .asking⟩ →
      (Answer.outcome o).lookup (g ∈ w.cancelled) ≠ .cancelled →
      g = w.state.generation ∧ w.state.closed = false) := by
  intro w
  have hw : w.Good := good_run settings slot events
  exact ⟨hw.latest_eq, generation_start_run settings slot events,
    fun j hj => hw.cancelled_live hj,
    fun g r hj => hw.superseded_iff_cancelled hj,
    fun g r o hj h => hw.returned_current hj o h⟩

end Typeahead.Query.Runtime
