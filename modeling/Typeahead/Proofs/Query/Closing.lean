-- A shut-down controller is final. Closing cancels the live token, and every
-- older token was cancelled by the input that ended its generation, so after
-- the close no task can reach the backend; a late answer finds the controller
-- closed; inputs and further shutdowns are turned away. The backend is
-- released by the first shutdown only, and only when there is one.
import Typeahead.Proofs.Query.Settling

namespace Typeahead.Query

namespace Runtime

variable {w : Runtime}

/-- On a closed controller every event leaves what it holds, what the sink was
told, what the backend was asked and how often it was released as they were. -/
theorem Good.closed_step (hw : w.Good) (hc : w.state.closed = true) (e : Event) :
    (w.step e).state = w.state ∧ (w.step e).sink = w.sink ∧ (w.step e).calls = w.calls ∧
      (w.step e).releases = w.releases := by
  cases e with
  | input old new =>
    rw [Runtime.step, input_idle (Or.inr hc)]
    exact ⟨rfl, rfl, rfl, rfl⟩
  | shutdown =>
    rw [Runtime.step, shutdown_closed hc]
    exact ⟨rfl, rfl, rfl, rfl⟩
  | poll g =>
    obtain ⟨hs, hk, -, hr⟩ := poll_frame w g
    refine ⟨hs, hk, ?_, hr⟩
    rcases poll_calls w g with h | ⟨r, hj, hlive, -, -⟩
    · exact h
    · -- every live task's token is cancelled once the controller is closed
      have hle : r.generation ≤ w.state.generation := (hw.jobs_le _ (mem_of_jobOf hj).1).2
      have hg : r.generation = g := (mem_of_jobOf hj).2
      have : g ∈ w.cancelled := by
        rw [hw.cancelled_iff]
        simp only [hc, and_true]
        omega
      exact absurd this hlive
  | answer g a =>
    have hkeep := answer_keeps (w := w) (g := g) a fun _ _ => Or.inr hc
    refine ⟨hkeep.1, hkeep.2, ?_⟩
    rcases answer_cases w g a with h | ⟨r, -, h⟩
    · simp [Runtime.step, h]
    · simp only [Runtime.step, h]
      exact ⟨(finish_keeps w r _).2.2.2.1, (finish_keeps w r _).2.2.2.2.1⟩

theorem Good.closed_run (hw : w.Good) (hc : w.state.closed = true) (post : List Event) :
    (w.run post).state = w.state ∧ (w.run post).sink = w.sink ∧ (w.run post).calls = w.calls ∧
      (w.run post).releases = w.releases := by
  induction post generalizing w with
  | nil => exact ⟨rfl, rfl, rfl, rfl⟩
  | cons e es ih =>
    obtain ⟨hs, hk, hc', hr⟩ := hw.closed_step hc e
    rw [run_cons]
    obtain ⟨hs', hk', hc'', hr'⟩ := ih (hw.step e) (hs ▸ hc)
    exact ⟨hs'.trans hs, hk'.trans hk, hc''.trans hc', hr'.trans hr⟩

/-- After a shutdown, by a call or by the drop, the sink is told nothing more,
the controller's generation, results and loading never change, no task asks
the backend again, and the backend has been released exactly once over any
number of shutdowns, or never for a controller without a backend. -/
theorem shutdown_is_final (settings : Settings) (slot : Slot) (pre post : List Event) :
    let w₁ := (start settings slot).run (pre ++ [.shutdown])
    (w₁.run post).sink = w₁.sink ∧ (w₁.run post).state = w₁.state ∧
      (w₁.run post).calls = w₁.calls ∧
      (w₁.run post).releases = match slot with
        | .ready _ => 1
        | .unavailable _ => 0 := by
  intro w₁
  have hw₁ : w₁.Good := good_run settings slot _
  have hc : w₁.state.closed = true := (closed_start_run settings slot _).2 (by simp)
  obtain ⟨hs, hk, hcalls, hr⟩ := hw₁.closed_run hc post
  refine ⟨hk, hs, hcalls, ?_⟩
  have hrel : w₁.releases = w₁.slot.held := by
    rw [hw₁.releases_eq, hw₁.released_eq, hc]
    rfl
  rw [hr, hrel, (frame_run _ _).2]
  cases slot <;> rfl

end Runtime

end Typeahead.Query
