-- Generations along a run. Each input change to a different text before the
-- first shutdown starts the next generation; the controller's generation
-- counts them, and every live task runs the text of its own generation. On
-- this ground the sink's record reads generation by generation: each call is
-- made while its generation is current, the generations never go back, each
-- gets at most the loading signal and then one publish, and a lookup that
-- publishes shows the item the backend's answer gives for its generation's
-- text.
import Mathlib.Data.List.Induction
import Typeahead.Proofs.Query.Invariant

namespace Typeahead.Query

/-! ## The texts of the generations -/

namespace Event

theorem texts_cons {e : Event} (es : List Event) (h : e ≠ .shutdown) :
    texts (e :: es) = texts [e] ++ texts es := by
  cases e with
  | input old new => by_cases hn : old = new <;> simp [texts, hn]
  | shutdown => exact absurd rfl h
  | poll g => rfl
  | answer g a => rfl

/-- A run's generation texts grow by the text of its last event, unless a
shutdown came before it. -/
theorem texts_concat (es : List Event) (e : Event) :
    texts (es ++ [e]) = if .shutdown ∈ es then texts es else texts es ++ texts [e] := by
  induction es with
  | nil => simp [texts]
  | cons x es ih =>
    by_cases hx : x = .shutdown
    · subst hx
      simp [texts]
    · rw [List.cons_append, texts_cons (es ++ [e]) hx, texts_cons es hx, ih]
      by_cases hs : Event.shutdown ∈ es
      · have hxs : Event.shutdown ∈ x :: es := List.mem_cons_of_mem _ hs
        simp [hs, hxs]
      · have hxs : Event.shutdown ∉ x :: es := by simp [hs, Ne.symm hx]
        simp [hs, hxs]

end Event

namespace Runtime

variable {w : Runtime}

/-- No event changes the settings or the backend slot. -/
theorem frame_step (w : Runtime) (e : Event) : (w.step e).settings = w.settings ∧ (w.step e).slot = w.slot := by
  cases e with
  | input old new =>
    simp only [step, input]
    split
    · exact ⟨rfl, rfl⟩
    · exact ⟨rfl, rfl⟩
  | shutdown =>
    simp only [step, shutdown]
    split
    · exact ⟨rfl, rfl⟩
    · split
      · exact ⟨rfl, rfl⟩
      · split <;> exact ⟨rfl, rfl⟩
  | poll g =>
    simp only [step, poll]
    split
    · exact ⟨rfl, rfl⟩
    · split <;> (try split) <;> exact ⟨rfl, rfl⟩
  | answer g a =>
    simp only [step, answer]
    split
    · split <;> exact ⟨rfl, rfl⟩
    · exact ⟨rfl, rfl⟩

theorem frame_run (w : Runtime) (es : List Event) : (w.run es).settings = w.settings ∧ (w.run es).slot = w.slot := by
  induction es generalizing w with
  | nil => exact ⟨rfl, rfl⟩
  | cons e es ih =>
    rw [run_cons, (ih _).1, (ih _).2]
    exact frame_step w e

/-- Only a shutdown closes the controller. -/
theorem closed_step (w : Runtime) (e : Event) :
    (w.step e).state.closed = true ↔ w.state.closed = true ∨ e = .shutdown := by
  cases e with
  | input old new =>
    simp only [step, reduceCtorEq, or_false]
    by_cases hidle : old = new ∨ w.state.closed = true
    · rw [input_idle hidle]
    · have hne : old ≠ new := fun h => hidle (Or.inl h)
      have hopen : w.state.closed = false := by simpa using fun h => hidle (Or.inr h)
      cases hx : State.inputItem w.settings w.slot new with
      | some x => simp [input_shows hne hopen hx]
      | none => simp [input_asks hne hopen hx]
  | shutdown =>
    cases hc : w.state.closed with
    | true => simp [step, shutdown_closed hc, hc]
    | false => simp [step, shutdown_open hc]
  | poll g => simp [step, (poll_frame w g).1]
  | answer g a =>
    simp only [step, reduceCtorEq, or_false]
    rcases answer_cases w g a with h | ⟨r, _, h⟩
    · rw [h]
    · rw [h, (finish_keeps w r _).2.1]

/-- An event moves the generation on by the texts it starts. -/
theorem generation_step (w : Runtime) (e : Event) :
    (w.step e).state.generation =
      w.state.generation + if w.state.closed = true then 0 else (Event.texts [e]).length := by
  cases e with
  | input old new =>
    simp only [step]
    by_cases hidle : old = new ∨ w.state.closed = true
    · rw [input_idle hidle]
      rcases hidle with h | h <;> simp [h, Event.texts]
    · have hne : old ≠ new := fun h => hidle (Or.inl h)
      have hopen : w.state.closed = false := by simpa using fun h => hidle (Or.inr h)
      cases hx : State.inputItem w.settings w.slot new with
      | some x => simp [input_shows hne hopen hx, hopen, hne, Event.texts]
      | none => simp [input_asks hne hopen hx, hopen, hne, Event.texts]
  | shutdown =>
    cases hc : w.state.closed with
    | true => simp [step, shutdown_closed hc]
    | false => simp [step, shutdown_open hc, Event.texts]
  | poll g => simp [step, (poll_frame w g).1, Event.texts]
  | answer g a =>
    simp only [step, Event.texts, List.length_nil, ite_self, Nat.add_zero]
    rcases answer_cases w g a with h | ⟨r, _, h⟩
    · rw [h]
    · rw [h, (finish_keeps w r _).1]

theorem closed_run (w : Runtime) (es : List Event) :
    (w.run es).state.closed = true ↔ w.state.closed = true ∨ .shutdown ∈ es := by
  induction es generalizing w with
  | nil => simp
  | cons e es ih =>
    rw [run_cons, ih, closed_step, List.mem_cons]
    constructor
    · rintro ((h | rfl) | h) <;> simp [*]
    · rintro (h | rfl | h) <;> simp [*]

/-- The generation counts the texts that start one. -/
theorem generation_run (w : Runtime) (es : List Event) :
    (w.run es).state.generation =
      w.state.generation + if w.state.closed = true then 0 else (Event.texts es).length := by
  induction es generalizing w with
  | nil => simp [Event.texts]
  | cons e es ih =>
    rw [run_cons, ih, generation_step]
    cases hc : w.state.closed with
    | true =>
      have : (w.step e).state.closed = true := (closed_step w e).2 (Or.inl hc)
      simp [this]
    | false =>
      by_cases he : e = .shutdown
      · subst he
        have : (w.step .shutdown).state.closed = true := (closed_step w _).2 (Or.inr rfl)
        simp [this, Event.texts]
      · have : (w.step e).state.closed = false := by
          simpa [hc, he] using closed_step w e
        simp only [this, Event.texts_cons es he, List.length_append, Bool.false_eq_true, if_false]
        omega

theorem closed_start_run (settings : Settings) (slot : Slot) (es : List Event) :
    ((start settings slot).run es).state.closed = true ↔ .shutdown ∈ es := by
  simp [closed_run, start, State.init]

theorem generation_start_run (settings : Settings) (slot : Slot) (es : List Event) :
    ((start settings slot).run es).state.generation = (Event.texts es).length := by
  simp [generation_run, start, State.init]

/-- The tasks after an event other than an input run lookups of tasks before it. -/
theorem jobs_step_of_not_input (w : Runtime) {e : Event} (he : ∀ old new, e ≠ .input old new) :
    ∀ j ∈ (w.step e).jobs, ∃ j' ∈ w.jobs, j'.request = j.request := by
  cases e with
  | input old new => exact absurd rfl (he old new)
  | shutdown =>
    cases hc : w.state.closed with
    | true => simp only [step, shutdown_closed hc]; exact fun j hj => ⟨j, hj, rfl⟩
    | false => simp only [step, shutdown_open hc]; exact fun j hj => ⟨j, hj, rfl⟩
  | poll g => exact poll_jobs w g
  | answer g a =>
    rcases answer_cases w g a with h | ⟨r, _, h⟩
    · simp only [step, h]
      exact fun j hj => ⟨j, hj, rfl⟩
    · simp only [step, h]
      exact fun j hj => ⟨j, ((finish_keeps w r _).2.2.2.2.2 j hj).1, rfl⟩

/-- Every live task runs the text of its generation. -/
theorem jobs_texts (settings : Settings) (slot : Slot) (es : List Event) :
    ∀ j ∈ ((start settings slot).run es).jobs,
      (Event.texts es)[j.request.generation - 1]? = some j.request.text := by
  induction es using List.reverseRecOn with
  | nil => simp [start]
  | append_singleton es e ih =>
    rw [run_concat]
    have hw := good_run settings slot es
    have hgen := generation_start_run settings slot es
    have hold : ∀ j ∈ ((start settings slot).run es).jobs,
        (Event.texts (es ++ [e]))[j.request.generation - 1]? = some j.request.text := by
      intro j hj
      have hle := hw.jobs_le j hj
      rw [Event.texts_concat]
      split
      · exact ih j hj
      · rw [List.getElem?_append_left (by omega)]
        exact ih j hj
    by_cases hin : ∃ old new, e = .input old new
    · obtain ⟨old, new, rfl⟩ := hin
      simp only [step]
      by_cases hidle : old = new ∨ ((start settings slot).run es).state.closed = true
      · rw [input_idle hidle]
        exact hold
      have hne : old ≠ new := fun h => hidle (Or.inl h)
      have hopen : ((start settings slot).run es).state.closed = false := by
        simpa using fun h => hidle (Or.inr h)
      have hframe := frame_run (start settings slot) es
      cases hx : State.inputItem settings slot new with
      | some x =>
        rw [input_shows hne hopen (by rw [hframe.1, hframe.2]; exact hx)]
        exact hold
      | none =>
        rw [input_asks hne hopen (by rw [hframe.1, hframe.2]; exact hx)]
        intro j hj
        rcases List.mem_append.1 hj with hj | hj
        · exact hold j hj
        · rw [List.mem_singleton] at hj
          subst hj
          have hshut : Event.shutdown ∉ es := fun h => by
            simp [(closed_start_run settings slot es).2 h] at hopen
          simp [Event.texts_concat, hshut, Event.texts, hne, hgen]
    · have hnot : ∀ old new, e ≠ .input old new := fun old new h => hin ⟨old, new, h⟩
      intro j hj
      obtain ⟨j', hj', hr⟩ := jobs_step_of_not_input _ hnot j hj
      rw [← hr]
      exact hold j' hj'

/-! ## The sink's record -/

/-- The backend's answer makes no sink call, or the three calls that publish
the item it shows for the text of the task that asked. -/
theorem Good.answer_sink (hw : w.Good) (g : Nat) (a : Answer) :
    ∃ added, (w.answer g a).sink = w.sink ++ added ∧
      (added.map (·.call) = [] ∨
        ∃ r x, w.jobOf g = some ⟨r, .asking⟩ ∧ State.answerItem w.settings r.text a = some x ∧
          added.map (·.call) = publishOf x) := by
  rcases answer_cases w g a with h | ⟨r, hj, h⟩
  · exact ⟨[], by simp [h], Or.inl rfl⟩
  rw [h]
  have hg : r.generation = g := (mem_of_jobOf hj).2
  rcases finish_cases w r (a.lookup (g ∈ w.cancelled)) with ⟨x, hopen, hrg, hx, hf⟩ | hf
  · -- a lookup that publishes is current and open, so its token is live
    have hlive : g ∉ w.cancelled := by
      rw [hw.cancelled_iff]
      simp only [hopen, Bool.false_eq_true, and_false, or_false]
      omega
    rw [hf]
    refine ⟨_, rfl, Or.inr ⟨r, x, hj, ?_, by simp [Function.comp_def]⟩⟩
    rw [← State.outcomeItem_lookup]
    simpa [hlive] using hx
  · rw [hf]
    exact ⟨[], by simp, Or.inl rfl⟩

/-- The sink's record under any schedule and any answers of the backend: each
call is made while the generation whose input or lookup made it is current, so
the generations of successive calls never go back; each generation gets at
most the loading signal and then one publish; and whenever, after any run,
the backend answers the lookup of a generation, the only calls this causes
publish the one item that its answer shows for the text of that generation's
input. -/
theorem sink_calls_follow_generations (settings : Settings) (slot : Slot) (events : List Event) :
    let w := (start settings slot).run events
    (∀ x ∈ w.sink, x.cause = x.current) ∧
    (w.sink.map (·.cause)).Pairwise (· ≤ ·) ∧
    (∀ g, OneRound (w.shown g)) ∧
    ∀ pre g a, ∃ added, ((start settings slot).run (pre ++ [.answer g a])).sink =
          ((start settings slot).run pre).sink ++ added ∧
        (added.map (·.call) = [] ∨
          ∃ t x, (Event.texts pre)[g - 1]? = some t ∧ State.answerItem settings t a = some x ∧
            added.map (·.call) = publishOf x) := by
  intro w
  have hw : w.Good := good_run settings slot events
  have hcause : w.sink.map (·.cause) = w.sink.map (·.current) :=
    List.map_congr_left hw.cause_eq
  refine ⟨hw.cause_eq, hcause ▸ hw.current_sorted, hw.rounds, ?_⟩
  intro pre g a
  have hpre := good_run settings slot pre
  obtain ⟨added, hsink, hcalls⟩ := hpre.answer_sink g a
  refine ⟨added, by rw [run_concat]; exact hsink, ?_⟩
  rcases hcalls with hnil | ⟨r, x, hj, hx, hpub⟩
  · exact Or.inl hnil
  · obtain ⟨hmem, hg⟩ := mem_of_jobOf hj
    have htext := jobs_texts settings slot pre _ hmem
    simp only at hg htext
    rw [hg] at htext
    refine Or.inr ⟨r.text, x, htext, ?_, hpub⟩
    rw [(frame_run (start settings slot) pre).1] at hx
    exact hx

end Runtime

end Typeahead.Query
