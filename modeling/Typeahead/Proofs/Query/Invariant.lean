-- The invariant of the controller under any schedule. The sequencer agrees
-- with the controller's generation, a token is cancelled exactly when its
-- generation is over or the controller is closed, the backend is released
-- once the controller is closed, and the sink's record is ordered by
-- generation: each of its calls was made while its own generation was
-- current, and each generation got at most the loading signal and then one
-- publish. Every event keeps the invariant, so it holds after every run.
import Typeahead.Proofs.Query.Actions

namespace Typeahead.Query

/-- What the sink may be told for one generation: nothing, the loading signal,
one publish, or the loading signal and then one publish. -/
def OneRound (calls : List SinkCall) : Prop :=
  calls = [] ∨ calls = [.setLoading true] ∨ ∃ x, calls = publishOf x ∨ calls = .setLoading true :: publishOf x

namespace Runtime

/-- The sink calls made for generation `g`, oldest first. -/
def shown (w : Runtime) (g : Nat) : List SinkCall := (w.sink.filter (·.cause == g)).map (·.call)

/-- The invariant of a runtime. -/
structure Good (w : Runtime) : Prop where
  latest_eq : w.latest = w.state.generation
  cancelled_iff : ∀ g, g ∈ w.cancelled ↔
    g < w.state.generation ∨ (g = w.state.generation ∧ w.state.closed = true)
  jobs_le : ∀ j ∈ w.jobs, 0 < j.request.generation ∧ j.request.generation ≤ w.state.generation
  released_eq : w.released = w.state.closed
  releases_eq : w.releases = if w.released then w.slot.held else 0
  cause_eq : ∀ x ∈ w.sink, x.cause = x.current
  current_le : ∀ x ∈ w.sink, x.current ≤ w.state.generation
  current_sorted : (w.sink.map (·.current)).Pairwise (· ≤ ·)
  rounds : ∀ g, OneRound (w.shown g)
  live : ∀ j ∈ w.jobs, w.shown j.request.generation = [.setLoading true]

/-! ## The sink's record -/

theorem shown_of_sink {w w' : Runtime} {es : List SinkEntry} (h : w'.sink = w.sink ++ es) (g : Nat) :
    w'.shown g = w.shown g ++ (es.filter (·.cause == g)).map (·.call) := by
  simp [shown, h, List.filter_append]

theorem shown_tagged (calls : List SinkCall) (c cur g : Nat) :
    ((calls.map (⟨c, cur, ·⟩ : SinkCall → SinkEntry)).filter (·.cause == g)).map (·.call) =
      if c = g then calls else [] := by
  by_cases h : c = g
  · subst h
    simp [List.filter_map, Function.comp_def]
  · simp [List.filter_map, Function.comp_def, h]

/-- Nothing has been shown for a generation that has not come yet. -/
theorem Good.shown_future {w : Runtime} (hw : w.Good) {g : Nat} (hg : w.state.generation < g) :
    w.shown g = [] := by
  simp only [shown, List.map_eq_nil_iff, List.filter_eq_nil_iff, beq_iff_eq]
  intro x hx hc
  have := hw.cause_eq x hx
  have := hw.current_le x hx
  omega

/-- Sink calls made for the current generation, with the current generation,
keep the record in order. -/
theorem sorted_tagged {w : Runtime} (hw : w.Good) {cur : Nat} (calls : List SinkCall)
    (hcur : w.state.generation ≤ cur) :
    ((w.sink ++ calls.map (⟨cur, cur, ·⟩ : SinkCall → SinkEntry)).map (·.current)).Pairwise (· ≤ ·) := by
  have hnew : ∀ y ∈ (calls.map (⟨cur, cur, ·⟩ : SinkCall → SinkEntry)).map (·.current), y = cur := by
    simp
  rw [List.map_append, List.pairwise_append]
  refine ⟨hw.current_sorted, List.pairwise_of_forall_mem_list fun a ha b hb => ?_, ?_⟩
  · exact Nat.le_of_eq ((hnew a ha).trans (hnew b hb).symm)
  · intro a ha b hb
    obtain ⟨x, hx, rfl⟩ := List.mem_map.1 ha
    rw [hnew b hb]
    exact Nat.le_trans (hw.current_le x hx) hcur

/-! ## Each event keeps the invariant -/

theorem good_start (settings : Settings) (slot : Slot) : (start settings slot).Good where
  latest_eq := rfl
  cancelled_iff := by simp [start, State.init]
  jobs_le := by simp [start]
  released_eq := rfl
  releases_eq := rfl
  cause_eq := by simp [start]
  current_le := by simp [start]
  current_sorted := by simp [start]
  rounds := fun _ => Or.inl rfl
  live := by simp [start]

/-- Moving to the next generation keeps the invariant when the sink calls made
for it fit a round, and a task spawned for it comes with the loading signal. -/
theorem Good.advance {w : Runtime} (hw : w.Good) (hopen : w.state.closed = false)
    (results : List Item) (loading : Bool) (calls : List SinkCall) (fresh : List Job)
    (hcalls : OneRound calls)
    (hfresh : ∀ j ∈ fresh, j.request.generation = w.next ∧ calls = [.setLoading true]) :
    ({ w with state := { w.state with generation := w.next, results := results, loading := loading },
              latest := max w.latest w.next, cancelled := w.cancelled ++ [w.state.generation],
              jobs := w.jobs ++ fresh,
              sink := w.sink ++ calls.map (SinkEntry.mk w.next w.next ·) }).Good where
  latest_eq := by
    have := hw.latest_eq
    show max w.latest (w.state.generation + 1) = w.state.generation + 1
    omega
  cancelled_iff g := by
    have h := hw.cancelled_iff g
    simp only [hopen, Bool.false_eq_true, and_false, or_false] at h
    simp only [List.mem_append, List.mem_singleton, next, hopen, h, Bool.false_eq_true, and_false,
      or_false]
    omega
  jobs_le j hj := by
    rcases List.mem_append.1 hj with hj | hj
    · have := hw.jobs_le j hj
      simp only [next]
      omega
    · have := (hfresh j hj).1
      simp only [next] at this ⊢
      omega
  released_eq := hw.released_eq
  releases_eq := hw.releases_eq
  cause_eq x hx := by
    rcases List.mem_append.1 hx with hx | hx
    · exact hw.cause_eq x hx
    · obtain ⟨c, _, rfl⟩ := List.mem_map.1 hx
      rfl
  current_le x hx := by
    rcases List.mem_append.1 hx with hx | hx
    · have := hw.current_le x hx
      simp only [next]
      omega
    · obtain ⟨c, _, rfl⟩ := List.mem_map.1 hx
      exact Nat.le_refl _
  current_sorted := sorted_tagged hw calls (Nat.le_succ _)
  rounds g := by
    rw [shown_of_sink (w := w) rfl, shown_tagged]
    by_cases hg : w.next = g
    · subst hg
      rw [hw.shown_future (Nat.lt_succ_self _)]
      simpa using hcalls
    · simpa [hg] using hw.rounds g
  live j hj := by
    rw [shown_of_sink (w := w) rfl, shown_tagged]
    rcases List.mem_append.1 hj with hj | hj
    · have := (hw.jobs_le j hj).2
      have hne : w.next ≠ j.request.generation := by simp only [next]; omega
      simpa [hne] using hw.live j hj
    · obtain ⟨hg, hc⟩ := hfresh j hj
      rw [hg, hw.shown_future (Nat.lt_succ_self _)]
      simpa using hc

theorem Good.input {w : Runtime} (hw : w.Good) (old new : String) : (w.input old new).Good := by
  by_cases hidle : old = new ∨ w.state.closed = true
  · rw [input_idle hidle]
    exact hw
  have hne : old ≠ new := fun h => hidle (Or.inl h)
  have hopen : w.state.closed = false := by simpa using fun h => hidle (Or.inr h)
  cases hx : State.inputItem w.settings w.slot new with
  | some x =>
    rw [input_shows hne hopen hx]
    have := hw.advance hopen [x] false (publishOf x) [] (Or.inr (Or.inr ⟨x, Or.inl rfl⟩)) (by simp)
    simpa using this
  | none =>
    rw [input_asks hne hopen hx]
    exact hw.advance hopen w.state.results true [.setLoading true] [⟨⟨w.next, new⟩, .spawned⟩]
      (Or.inr (Or.inl rfl)) (by simp)

theorem Good.shutdown {w : Runtime} (hw : w.Good) : w.shutdown.Good := by
  cases hc : w.state.closed with
  | true =>
    rw [shutdown_closed hc]
    exact hw
  | false =>
    rw [shutdown_open hc]
    have hr : w.released = false := hw.released_eq.trans hc
    have hrel : w.releases = 0 := by simpa [hr] using hw.releases_eq
    exact {
      latest_eq := hw.latest_eq
      cancelled_iff := fun g => by
        have h := hw.cancelled_iff g
        simp only [hc, Bool.false_eq_true, and_false, or_false] at h
        simp only [List.mem_append, List.mem_singleton, h, and_true]
      jobs_le := hw.jobs_le
      released_eq := rfl
      releases_eq := by simp [hr, hrel]
      cause_eq := hw.cause_eq
      current_le := hw.current_le
      current_sorted := hw.current_sorted
      rounds := hw.rounds
      live := hw.live }

/-- Ending the task of a live job's lookup keeps the invariant, whatever the
outcome: a current lookup of an open controller completes the round of its
generation, and any other changes nothing but the tasks. -/
theorem Good.finish {w : Runtime} (hw : w.Good) {j : Job} (hj : j ∈ w.jobs) (o : Outcome) :
    (w.finish j.request o).Good := by
  have hlive := hw.live j hj
  have hdrop : ∀ k ∈ w.jobs.filter (·.request.generation != j.request.generation),
      k ∈ w.jobs ∧ k.request.generation ≠ j.request.generation := by
    intro k hk
    simpa using hk
  rcases finish_cases w j.request o with ⟨x, hopen, hg, hx, h⟩ | h
  · rw [h]
    exact {
      latest_eq := hw.latest_eq
      cancelled_iff := hw.cancelled_iff
      jobs_le := fun k hk => hw.jobs_le k (hdrop k hk).1
      released_eq := hw.released_eq
      releases_eq := hw.releases_eq
      cause_eq := fun x hx => by
        rcases List.mem_append.1 hx with hx | hx
        · exact hw.cause_eq x hx
        · obtain ⟨c, _, rfl⟩ := List.mem_map.1 hx
          exact hg
      current_le := fun x hx => by
        rcases List.mem_append.1 hx with hx | hx
        · exact hw.current_le x hx
        · obtain ⟨c, _, rfl⟩ := List.mem_map.1 hx
          exact Nat.le_refl _
      current_sorted := by
        rw [hg]
        exact sorted_tagged hw _ (Nat.le_refl _)
      rounds := fun g => by
        rw [shown_of_sink (w := w) rfl, shown_tagged]
        by_cases hgj : j.request.generation = g
        · subst hgj
          rw [hlive]
          simp only [if_true, List.cons_append, List.nil_append]
          exact Or.inr (Or.inr ⟨x, Or.inr rfl⟩)
        · simpa [hgj] using hw.rounds g
      live := fun k hk => by
        obtain ⟨hk, hne⟩ := hdrop k hk
        rw [shown_of_sink (w := w) rfl, shown_tagged, if_neg (Ne.symm hne)]
        simpa using hw.live k hk }
  · rw [h]
    exact { hw with
      jobs_le := fun k hk => hw.jobs_le k (hdrop k hk).1
      live := fun k hk => hw.live k (hdrop k hk).1 }

theorem Good.restage {w : Runtime} (hw : w.Good) (g : Nat) (s : Stage) : (w.restage g s).Good := by
  have hreq : ∀ k ∈ (w.restage g s).jobs, ∃ k' ∈ w.jobs, k'.request = k.request := by
    intro k hk
    obtain ⟨k', hk', rfl⟩ := List.mem_map.1 hk
    exact ⟨k', hk', by split <;> rfl⟩
  exact { hw with
    jobs_le := fun k hk => by
      obtain ⟨k', hk', hr⟩ := hreq k hk
      rw [← hr]
      exact hw.jobs_le k' hk'
    live := fun k hk => by
      obtain ⟨k', hk', hr⟩ := hreq k hk
      rw [← hr]
      exact hw.live k' hk' }

theorem Good.poll {w : Runtime} (hw : w.Good) (g : Nat) : (w.poll g).Good := by
  rcases hj : w.jobOf g with _ | ⟨r, stage⟩
  · rw [poll_idle (fun r => by simp [hj])]
    exact hw
  obtain ⟨hmem, hg⟩ := mem_of_jobOf hj
  cases stage with
  | spawned =>
    -- the sequencer has already seen the task's generation
    have hw' : ({ w with latest := max w.latest g }).Good := { hw with
      latest_eq := by
        have := hw.latest_eq
        have hle : r.generation ≤ w.state.generation := (hw.jobs_le _ hmem).2
        have hg : r.generation = g := hg
        show max w.latest g = w.state.generation
        omega }
    rw [poll_spawned hj]
    split
    · exact hw'.finish hmem .cancelled
    · exact hw'.restage g .quiet
  | quiet =>
    rw [poll_quiet hj]
    split
    · exact hw.finish hmem .cancelled
    · exact Good.restage (w := { w with calls := w.calls ++ [r] }) { hw with } g .asking
  | asking =>
    rw [poll_idle (fun r => by simp [hj])]
    exact hw

theorem Good.answer {w : Runtime} (hw : w.Good) (g : Nat) (a : Answer) : (w.answer g a).Good := by
  rcases hj : w.jobOf g with _ | ⟨r, stage⟩
  · rw [answer_idle (fun r => by simp [hj])]
    exact hw
  obtain ⟨hmem, _⟩ := mem_of_jobOf hj
  cases stage with
  | asking =>
    rw [answer_asking hj]
    exact hw.finish hmem _
  | spawned | quiet =>
    rw [answer_idle (fun r => by simp [hj])]
    exact hw

theorem Good.step {w : Runtime} (hw : w.Good) : ∀ e, (w.step e).Good
  | .input old new => hw.input old new
  | .shutdown => hw.shutdown
  | .poll g => hw.poll g
  | .answer g a => hw.answer g a

theorem Good.run {w : Runtime} (hw : w.Good) (events : List Event) : (w.run events).Good := by
  induction events generalizing w with
  | nil => exact hw
  | cons e es ih => exact ih (hw.step e)

/-- Every run keeps the invariant. -/
theorem good_run (settings : Settings) (slot : Slot) (events : List Event) :
    ((start settings slot).run events).Good :=
  (good_start settings slot).run events

end Runtime

end Typeahead.Query
