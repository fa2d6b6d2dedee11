-- Debouncing, over every timed script. Driving a session through the steps
-- of a script keeps it in step with the script's timeline: the clock, the
-- controller's closing, and the one lookup waiting out its quiet period are
-- what the timeline says. So each pause calls the backend exactly for the
-- lookup whose quiet period it reaches first, and over the whole script the
-- backend is asked once for each lookup that survives its quiet period, in
-- the order the inputs came, with the text as typed.
import Mathlib
import Typeahead.Proofs.Query.Pause
import Typeahead.Proofs.Query.Timeline

namespace Typeahead.Query

namespace Session

/-! ## Inputs and shutdowns -/

theorem input_frame (s : Session) (old new : String) :
    (s.input old new).calls = s.calls ∧ (s.input old new).now = s.now ∧
      (s.input old new).settings = s.settings ∧ (s.input old new).slot = s.slot ∧
      (s.input old new).backend = s.backend := by
  unfold input
  split
  rename_i st e req _
  cases req <;> exact ⟨rfl, rfl, rfl, rfl, rfl⟩

/-- An input that changes nothing, or comes after the shutdown, leaves the
controller and its tasks as they were. -/
theorem input_idle (s : Session) {old new : String} (h : old = new ∨ s.state.closed = true) :
    (s.input old new).state = s.state ∧ (s.input old new).tasks = s.tasks := by
  simp [input, State.onInput_idle _ _ _ _ _ h, record]

/-- An input that starts a generation spawns a lookup task unless it shows
an item at once. -/
theorem input_starts (s : Session) {old new : String} (hne : old ≠ new) (hopen : s.state.closed = false) :
    (s.input old new).state.generation = s.state.generation + 1 ∧ (s.input old new).state.closed = false ∧
      (s.input old new).tasks = s.tasks ++
        (if State.inputItem s.settings s.slot new = none then [⟨⟨s.state.generation + 1, new⟩, .fresh⟩] else []) := by
  cases hx : State.inputItem s.settings s.slot new with
  | none =>
    obtain ⟨notes, h⟩ := State.onInput_asks hne hopen hx
    simp [input, h, record, hopen]
  | some x =>
    obtain ⟨notes, h⟩ := State.onInput_shows hne hopen hx
    simp [input, h, record, hopen]

/-- Shutting down closes the controller and leaves the generation, the
tasks, the clock and the calls alone. -/
theorem shutdown_spec (s : Session) :
    s.shutdown.settings = s.settings ∧ s.shutdown.slot = s.slot ∧
      s.shutdown.backend.isSome = s.backend.isSome ∧ s.shutdown.state.generation = s.state.generation ∧
      s.shutdown.state.closed = true ∧ s.shutdown.calls = s.calls ∧ s.shutdown.now = s.now ∧
      s.shutdown.tasks = s.tasks := by
  unfold shutdown State.shutdown
  by_cases h : s.state.closed = true
  · simp [h]
  · simp only [h, if_false, Bool.false_eq_true]
    split
    · simp
    · split <;> simp_all

/-! ## Keeping in step with the timeline -/

section Tracking

variable (settings : Settings) (backend : Except String Backend) (steps : List Step)

/-- The session after the first `c` steps of a script stands as the script's
timeline says: the clock, whether the controller is open, and the one lookup
waiting out its quiet period; the settings, the slot and the backend are
those it started with, and no task belongs to a generation yet to come. -/
structure Tracks (c : Nat) (s : Session) : Prop where
  now_eq : s.now = Timeline.clock steps c
  closed_eq : s.state.closed = !Timeline.openAt steps c
  settings_eq : s.settings = settings
  slot_eq : s.slot = (start settings backend).slot
  backend_eq : s.backend.isSome = backend.isOk
  below : ∀ t ∈ s.tasks, t.request.generation ≤ s.state.generation
  pending_eq : s.pending = Timeline.pendingAt steps settings backend.isOk c

theorem tracks_start : Tracks settings backend steps 0 (start settings backend) := by
  cases backend <;>
    exact ⟨rfl, rfl, rfl, rfl, rfl, by simp [start], by simp [pending, start, Timeline.pendingAt, Timeline.lastStart]⟩

/-- A controller built from a backend asks for a lookup of a long enough text. -/
theorem inputItem_start (text : String) :
    State.inputItem settings (start settings backend).slot text = none ↔
      backend.isOk = true ∧ State.tooShort settings text = false := by
  cases backend <;> cases h : State.tooShort settings text <;> simp [State.inputItem, start, Except.isOk, Except.toBool, h]

/-- A closed controller has no live lookup. -/
theorem pending_of_closed {s : Session} (h : s.state.closed = true) : s.pending = [] := by
  simp [pending, live, State.isCancelled, h]

variable {settings backend steps}

/-- An input change that starts a generation cancels every older task and
leaves its own lookup waiting, from now on, when it asks for one. -/
theorem tracks_input_start {c : Nat} {s : Session} {old new : String} (h : Tracks settings backend steps c s)
    (hc : Timeline.changeAt steps c = some (old, new)) (hs : Timeline.startsAt steps c = true) :
    Tracks settings backend steps (c + 1) (s.input old new) := by
  obtain ⟨-, hnow, hset, hslot, hback⟩ := input_frame s old new
  obtain ⟨hp, hcl⟩ := Timeline.change_not_pause steps hc
  obtain ⟨ho, hne⟩ := (Timeline.starts_iff steps hc).1 hs
  have hopen_s : s.state.closed = false := by rw [h.closed_eq, ho]; rfl
  obtain ⟨hgen, hclosed, htasks⟩ := input_starts s hne hopen_s
  have hclock : Timeline.clock steps (c + 1) = Timeline.clock steps c := by
    rw [Timeline.clock_succ, Timeline.ms_of_not_pause steps hp, Nat.add_zero]
  have hopen : Timeline.openAt steps (c + 1) = Timeline.openAt steps c := by
    rw [Timeline.openAt_succ, hcl, Bool.not_false, Bool.and_true]
  refine ⟨by rw [hnow, h.now_eq, hclock], by rw [hclosed, hopen, ho]; rfl, hset.trans h.settings_eq,
    hslot.trans h.slot_eq, by rw [hback, h.backend_eq], ?_, ?_⟩
  · intro t ht
    rw [htasks] at ht
    rcases List.mem_append.1 ht with ht | ht
    · have := h.below t ht
      omega
    · split at ht
      · simp only [List.mem_singleton] at ht
        subst ht
        exact Nat.le_of_eq hgen.symm
      · simp at ht
  · have hold : s.tasks.filter (s.input old new).live = [] := List.filter_eq_nil_iff.2 fun t ht => by
      have := h.below t ht
      simp [live, State.isCancelled, hgen, hclosed]
      omega
    have hiff : State.inputItem s.settings s.slot new = none ↔
        backend.isOk = true ∧ State.tooShort settings new = false := by
      rw [h.settings_eq, h.slot_eq]
      exact inputItem_start settings backend new
    rw [Timeline.pendingAt_start steps settings backend.isOk hs, Timeline.textAt_of_change steps hc]
    unfold pending
    rw [htasks, List.filter_append, hold, List.nil_append, hnow, hset, h.now_eq]
    by_cases hx : State.inputItem s.settings s.slot new = none
    · rw [if_pos hx, if_pos (hiff.1 hx), h.settings_eq]
      simp [live, Task.waits, State.isCancelled, hgen, hclosed, Task.wakeAt]
    · rw [if_neg hx, if_neg (mt hiff.2 hx)]
      rfl

/-- An input change that starts nothing (the same text, or a closed
controller) leaves the session as it was. -/
theorem tracks_input_idle {c : Nat} {s : Session} {old new : String} (h : Tracks settings backend steps c s)
    (hc : Timeline.changeAt steps c = some (old, new)) (hs : Timeline.startsAt steps c = false) :
    Tracks settings backend steps (c + 1) (s.input old new) := by
  obtain ⟨-, hnow, hset, hslot, hback⟩ := input_frame s old new
  obtain ⟨hp, hcl⟩ := Timeline.change_not_pause steps hc
  have hclock : Timeline.clock steps (c + 1) = Timeline.clock steps c := by
    rw [Timeline.clock_succ, Timeline.ms_of_not_pause steps hp, Nat.add_zero]
  have hopen : Timeline.openAt steps (c + 1) = Timeline.openAt steps c := by
    rw [Timeline.openAt_succ, hcl, Bool.not_false, Bool.and_true]
  -- a change of text that starts nothing finds the controller closed
  have hidle : old = new ∨ s.state.closed = true := by
    by_cases heq : old = new
    · exact Or.inl heq
    · right
      have ho : Timeline.openAt steps c = false := by
        cases ho : Timeline.openAt steps c
        · rfl
        · exact absurd ((Timeline.starts_iff steps hc).2 ⟨ho, heq⟩) (by simp [hs])
      rw [h.closed_eq, ho]
      rfl
  obtain ⟨hst, htasks⟩ := input_idle s hidle
  have hlive : (s.input old new).live = s.live := by
    funext t
    simp [live, hst]
  refine ⟨by rw [hnow, h.now_eq, hclock], by rw [hst, h.closed_eq, hopen], hset.trans h.settings_eq,
    hslot.trans h.slot_eq, by rw [hback, h.backend_eq], by rw [htasks, hst]; exact h.below, ?_⟩
  rw [Timeline.pendingAt_other steps settings backend.isOk hs hp, hcl, if_neg (by simp), ← h.pending_eq]
  unfold pending
  rw [hlive, htasks, hnow, hset]

/-- An input change keeps the session in step, and calls nothing. -/
theorem tracks_input {c : Nat} {s : Session} {old new : String} (h : Tracks settings backend steps c s)
    (hc : Timeline.changeAt steps c = some (old, new)) :
    Tracks settings backend steps (c + 1) (s.input old new) ∧ (s.input old new).calls = s.calls := by
  refine ⟨?_, (input_frame s old new).1⟩
  cases hs : Timeline.startsAt steps c
  · exact tracks_input_idle h hc hs
  · exact tracks_input_start h hc hs

theorem tracks_clearRecord {c : Nat} {s : Session} (h : Tracks settings backend steps c s) :
    Tracks settings backend steps c s.clearRecord :=
  ⟨h.now_eq, h.closed_eq, h.settings_eq, h.slot_eq, h.backend_eq, h.below, h.pending_eq⟩

/-- A pause keeps the session in step, and calls the backend for the waiting
lookup exactly when the pause reaches the end of its quiet period. -/
theorem tracks_pause {c ms : Nat} {s : Session} (h : Tracks settings backend steps c s)
    (hst : steps[c]? = some (.pause ms)) :
    Tracks settings backend steps (c + 1) (s.sleep ms) ∧
      (s.sleep ms).calls = s.calls ++ ((Timeline.pendingAt steps settings backend.isOk c).filter
        (·.2 ≤ Timeline.clock steps (c + 1))).map Prod.fst := by
  have hp : (steps[c]?.any Step.isPause) = true := by simp [hst, Step.isPause]
  have h1 : s.pending.length ≤ 1 := by
    rw [h.pending_eq]
    exact Timeline.pendingAt_length_le steps settings _ c
  obtain ⟨hs, hnow, hcalls, hpend, hreq⟩ := sleep_spec s ms h1
  have hclock : Timeline.clock steps (c + 1) = Timeline.clock steps c + ms := by
    rw [Timeline.clock_succ, hst]
    rfl
  have hopen : Timeline.openAt steps (c + 1) = Timeline.openAt steps c := by
    rw [Timeline.openAt_succ, Timeline.not_close_of_pause steps hp, Bool.not_false, Bool.and_true]
  refine ⟨⟨by rw [hnow, h.now_eq, hclock], by rw [hs.closed, h.closed_eq, hopen],
    hs.settings.trans h.settings_eq, hs.slot.trans h.slot_eq, hs.backend.trans h.backend_eq, ?_, ?_⟩, ?_⟩
  · intro t ht
    obtain ⟨t', ht', hreq'⟩ := hreq t ht
    rw [hs.generation, ← hreq']
    exact h.below t' ht'
  · rw [hpend, h.pending_eq, h.now_eq, ← hclock, Timeline.pendingAt_pause steps settings _ hp]
  · rw [hcalls, h.pending_eq, h.now_eq, ← hclock]
    cases hb : s.backend.isSome
    · rw [h.backend_eq] at hb
      simp [hb, Timeline.pendingAt_not_ready]
    · rfl

/-- A shutdown keeps the session in step: nothing waits any more. -/
theorem tracks_close {c : Nat} {s : Session} (h : Tracks settings backend steps c s)
    (hst : steps[c]? = some .close) :
    Tracks settings backend steps (c + 1) s.shutdown ∧ s.shutdown.calls = s.calls := by
  obtain ⟨hset, hslot, hback, hgen, hclosed, hcalls, hnow, htasks⟩ := shutdown_spec s
  have hp : (steps[c]?.any Step.isPause) = false := by simp [hst, Step.isPause]
  have hcl : (steps[c]?.any Step.isClose) = true := by simp [hst, Step.isClose]
  have hs : Timeline.startsAt steps c = false := by
    cases hs : Timeline.startsAt steps c
    · rfl
    · simp [(Timeline.starts_spec steps hs).2.2.2] at hcl
  refine ⟨⟨?_, ?_, hset.trans h.settings_eq, hslot.trans h.slot_eq, hback.trans h.backend_eq, ?_, ?_⟩, hcalls⟩
  · rw [hnow, h.now_eq, Timeline.clock_succ, Timeline.ms_of_not_pause steps hp, Nat.add_zero]
  · rw [hclosed, Timeline.openAt_succ, hcl]
    simp
  · rw [htasks, hgen]
    exact h.below
  · rw [pending_of_closed hclosed, Timeline.pendingAt_other steps settings _ hs hp, if_pos hcl]

/-- Each step keeps the session in step with the timeline, passes on the
text typed, and calls the backend as the timeline says. -/
theorem tracks_step {c : Nat} {s : Session} {st : Step} (h : Tracks settings backend steps c s)
    (hst : steps[c]? = some st) :
    Tracks settings backend steps (c + 1) ((s.clearRecord).step (Timeline.typedBefore steps c) st).1 ∧
      ((s.clearRecord).step (Timeline.typedBefore steps c) st).2 = Timeline.typedBefore steps (c + 1) ∧
      ((s.clearRecord).step (Timeline.typedBefore steps c) st).1.calls =
        Timeline.callsIn steps settings backend.isOk c := by
  unfold Timeline.callsIn
  have h₀ := tracks_clearRecord h
  have htyped : Timeline.typedBefore steps (c + 1) = Step.typedAfter (Timeline.typedBefore steps c) st := by
    rw [Timeline.typedBefore_succ, hst]
    rfl
  rw [htyped]
  cases st with
  | change old new =>
    have hch : Timeline.changeAt steps c = some (old, new) := by simp [Timeline.changeAt, hst, Step.change?]
    obtain ⟨ht, hc⟩ := tracks_input h₀ hch
    refine ⟨ht, rfl, ?_⟩
    rw [if_neg (by simp [hst, Step.isPause])]
    exact hc
  | typed text =>
    have hch : Timeline.changeAt steps c = some (Timeline.typedBefore steps c, text) := by
      simp [Timeline.changeAt, hst, Step.change?]
    obtain ⟨ht, hc⟩ := tracks_input h₀ hch
    refine ⟨ht, rfl, ?_⟩
    rw [if_neg (by simp [hst, Step.isPause])]
    exact hc
  | pause ms =>
    obtain ⟨ht, hc⟩ := tracks_pause h₀ hst
    refine ⟨ht, rfl, ?_⟩
    rw [if_pos (by simp [hst, Step.isPause])]
    exact hc
  | close =>
    obtain ⟨ht, hc⟩ := tracks_close h₀ hst
    refine ⟨ht, rfl, ?_⟩
    rw [if_neg (by simp [hst, Step.isPause])]
    exact hc

variable (settings backend steps)

/-- Driving a session through the first `c` steps of a script keeps it in step
with the timeline, and the snapshot of each step records the calls the
timeline puts in it. The fold is any that adds one snapshot per step. -/
theorem run_tracks (f : List Snapshot × Session × String → Step → List Snapshot × Session × String)
    (hf : ∀ snaps s typed st, ∃ x : Snapshot,
      f (snaps, s, typed) st = (snaps ++ [x], (s.clearRecord).step typed st) ∧
        x.calls = ((s.clearRecord).step typed st).1.calls) :
    ∀ c ≤ steps.length,
      ((steps.take c).foldl f ([], start settings backend, "")).1.map (·.calls) =
          (List.range c).map (Timeline.callsIn steps settings backend.isOk) ∧
        Tracks settings backend steps c ((steps.take c).foldl f ([], start settings backend, "")).2.1 ∧
        ((steps.take c).foldl f ([], start settings backend, "")).2.2 = Timeline.typedBefore steps c := by
  intro c hc
  induction c with
  | zero => exact ⟨rfl, tracks_start settings backend steps, rfl⟩
  | succ c ih =>
    obtain ⟨hcalls, htr, hty⟩ := ih (by omega)
    have hst : steps[c]? = some steps[c] := List.getElem?_eq_getElem (by omega)
    rw [List.take_add_one, hst, Option.toList_some, List.foldl_append, List.foldl_cons, List.foldl_nil]
    generalize (steps.take c).foldl f ([], start settings backend, "") = acc at hcalls htr hty ⊢
    obtain ⟨snaps, s, typed⟩ := acc
    dsimp only at hcalls htr hty
    subst hty
    obtain ⟨x, hx, hxc⟩ := hf snaps s (Timeline.typedBefore steps c) steps[c]
    obtain ⟨h₁, h₂, h₃⟩ := tracks_step htr hst
    rw [hx]
    refine ⟨?_, h₁, h₂⟩
    rw [List.map_append, hcalls, List.range_succ, List.map_append]
    simp [hxc, h₃]

/-- Over a whole script, the snapshots record the calls the timeline puts in
each step. -/
theorem run_calls (f : List Snapshot × Session × String → Step → List Snapshot × Session × String)
    (hf : ∀ snaps s typed st, ∃ x : Snapshot,
      f (snaps, s, typed) st = (snaps ++ [x], (s.clearRecord).step typed st) ∧
        x.calls = ((s.clearRecord).step typed st).1.calls) :
    (steps.foldl f ([], start settings backend, "")).1.map (·.calls) =
      (List.range steps.length).map (Timeline.callsIn steps settings backend.isOk) := by
  have := (run_tracks settings backend steps f hf steps.length (Nat.le_refl _)).1
  rwa [List.take_length] at this

end Tracking

end Session

namespace Session

/-- Debouncing, for every timed script whose cuts never fall exactly at the
end of a quiet period. The backend is asked once for each input change that
starts a generation of a controller with a backend, with a trimmed text long
enough, and whose quiet period no later start and no shutdown cuts short
(the end of the script drops the controller, which shuts it down); it is
asked with the text as typed, in the order of the inputs, and never more
often than generations start. Each call is made in the pause that first
reaches the end of its lookup's quiet period, and a pause makes no other call. -/
theorem backend_calls_follow_quiet_periods (settings : Settings) (backend : Except String Backend)
    (steps : List Step) (htie : Timeline.NoTie steps settings.debounce) :
    let snaps := ((start settings backend).run steps).1
    snaps.flatMap (·.calls) =
        ((List.range steps.length).filter (Timeline.Survives steps settings backend.isOk)).map
          (Timeline.textAt steps) ∧
      (snaps.flatMap (·.calls)).length ≤ ((List.range steps.length).filter (Timeline.startsAt steps)).length ∧
      snaps.length = steps.length ∧
      ∀ c (hc : c < snaps.length), snaps[c].calls =
        ((List.range c).filter fun j => Timeline.Survives steps settings backend.isOk j ∧
          Timeline.ReachesAt steps j c (Timeline.clock steps j + settings.debounce)).map (Timeline.textAt steps) := by
  intro snaps
  -- the snapshots are those of the fold over the steps; the final shutdown adds none
  have hsnaps : snaps.map (·.calls) = (List.range steps.length).map (Timeline.callsIn steps settings backend.isOk) := by
    simp only [snaps, run]
    generalize hr : List.foldl _ _ steps = r
    obtain ⟨a, b, d⟩ := r
    rw [show a = ((a, b, d) : List Snapshot × Session × String).1 from rfl, ← hr]
    refine run_calls settings backend steps _ ?_
    intro snaps s typed st
    cases st <;> exact ⟨_, rfl, rfl⟩
  have hlen : snaps.length = steps.length := by
    simpa using congrArg List.length hsnaps
  have hat : ∀ c (hc : c < snaps.length), snaps[c].calls = Timeline.callsIn steps settings backend.isOk c := by
    intro c hc
    have := List.getElem_of_eq hsnaps (by simpa using hc)
    rw [List.getElem_map, List.getElem_map, List.getElem_range] at this
    exact this
  -- the whole log is the calls due step by step
  have hlog : snaps.flatMap (·.calls) =
      ((List.range steps.length).filter (Timeline.Survives steps settings backend.isOk)).map
        (Timeline.textAt steps) := by
    rw [List.flatMap_def, hsnaps, ← List.flatMap_def, ← Timeline.log_survivors steps settings backend.isOk]
    congr 1
    funext c
    exact (Timeline.calls_due steps settings backend.isOk htie).symm
  refine ⟨hlog, ?_, hlen, fun c hc => ?_⟩
  · rw [hlog, List.length_map]
    exact (List.monotone_filter_right _ fun j hj => (of_decide_eq_true hj).1).length_le
  · rw [hat c hc, Timeline.calls_due steps settings backend.isOk htie]

/-- Typing "", "h", "he" and "hello" a tenth of a second apart, with a quiet
period of half a second, asks the backend once, for "hello". -/
theorem fast_typing_calls_once :
    ((start ⟨500, 1, some defaultLookupUrl⟩ (.ok ⟨.scripted ⟨[], .upper⟩ 50 true, none⟩)).run
      [.typed "", .pause 100, .typed "h", .pause 100, .typed "he", .pause 100, .typed "hello",
        .pause 100, .pause settleMs]).1.flatMap (·.calls) = ["hello"] := by
  rw [(backend_calls_follow_quiet_periods _ _ _ (by decide)).1]
  decide

end Session

end Typeahead.Query
