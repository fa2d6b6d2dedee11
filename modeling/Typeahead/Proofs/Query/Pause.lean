-- What a pause does to the lookups of a session. When the clock runs, the
-- tasks it wakes drop their cancelled waits and start the quiet period of
-- the new ones; then the waits due by the end of the pause run in time
-- order, and only a task at the end of its quiet period calls the backend.
-- With at most one live lookup waiting, a pause therefore calls the backend
-- for it exactly when its quiet period ends within the pause, and leaves it
-- waiting otherwise.
import Mathlib
import Typeahead.Query.Run
import Typeahead.Proofs.Query.Actions

namespace Typeahead.Query

/-- Whether a task has not yet called the backend. -/
def Task.waits (t : Task) : Bool :=
  match t.phase with
  | .calling _ => false
  | _ => true

/-- When the task's current wait ends, for a clock that next runs at `now`
and a quiet period `q`: a new task starts its quiet period then. -/
def Task.wakeAt (now q : Nat) (t : Task) : Nat :=
  match t.phase with
  | .fresh => now + q
  | .quiet d | .calling d => d

/-- What the fuel of `fire` pays for: a quiet wait may still lead to a wait
for the answer. -/
def Task.weight (t : Task) : Nat :=
  match t.phase with
  | .fresh => 0
  | .quiet _ => 2
  | .calling _ => 1

namespace Session

/-! ## What the lookups cannot change -/

/-- The settings, the slot, whether there is a backend, and the
controller's generation and closing: what lookups leave alone. -/
structure Steady (s s' : Session) : Prop where
  settings : s'.settings = s.settings
  slot : s'.slot = s.slot
  backend : s'.backend.isSome = s.backend.isSome
  generation : s'.state.generation = s.state.generation
  closed : s'.state.closed = s.state.closed

theorem Steady.refl (s : Session) : Steady s s := ⟨rfl, rfl, rfl, rfl, rfl⟩

theorem Steady.trans {s s' s'' : Session} (h : Steady s s') (h' : Steady s' s'') : Steady s s'' :=
  ⟨h'.settings.trans h.settings, h'.slot.trans h.slot, h'.backend.trans h.backend,
    h'.generation.trans h.generation, h'.closed.trans h.closed⟩

theorem Steady.isCancelled {s s' : Session} (h : Steady s s') (g : Nat) :
    s'.state.isCancelled g = s.state.isCancelled g := by
  simp [State.isCancelled, h.generation, h.closed]

/-! ### Field lemmas of the session's actions -/

section Fields

variable (s : Session)

@[simp] theorem note_calls (r : LogRecord) : (s.note r).calls = s.calls := rfl
@[simp] theorem note_tasks (r : LogRecord) : (s.note r).tasks = s.tasks := rfl
@[simp] theorem note_now (r : LogRecord) : (s.note r).now = s.now := rfl
@[simp] theorem note_backend (r : LogRecord) : (s.note r).backend = s.backend := rfl
@[simp] theorem note_settings (r : LogRecord) : (s.note r).settings = s.settings := rfl
@[simp] theorem note_slot (r : LogRecord) : (s.note r).slot = s.slot := rfl
@[simp] theorem note_state (r : LogRecord) : (s.note r).state = s.state := rfl

@[simp] theorem finish_calls (r : Request) (o : Outcome) : (s.finish r o).calls = s.calls := rfl
@[simp] theorem finish_tasks (r : Request) (o : Outcome) : (s.finish r o).tasks = s.tasks := rfl
@[simp] theorem finish_now (r : Request) (o : Outcome) : (s.finish r o).now = s.now := rfl
@[simp] theorem finish_backend (r : Request) (o : Outcome) : (s.finish r o).backend = s.backend := rfl
@[simp] theorem finish_settings (r : Request) (o : Outcome) : (s.finish r o).settings = s.settings := rfl
@[simp] theorem finish_slot (r : Request) (o : Outcome) : (s.finish r o).slot = s.slot := rfl

@[simp] theorem finish_generation (r : Request) (o : Outcome) :
    (s.finish r o).state.generation = s.state.generation :=
  (State.complete_keeps _ _ _ _ _).1

@[simp] theorem finish_closed (r : Request) (o : Outcome) :
    (s.finish r o).state.closed = s.state.closed :=
  (State.complete_keeps _ _ _ _ _).2

@[simp] theorem remember_calls (text : String) (o : Outcome) : (s.remember text o).calls = s.calls := by
  unfold remember; split <;> rfl
@[simp] theorem remember_tasks (text : String) (o : Outcome) : (s.remember text o).tasks = s.tasks := by
  unfold remember; split <;> rfl
@[simp] theorem remember_now (text : String) (o : Outcome) : (s.remember text o).now = s.now := by
  unfold remember; split <;> rfl
@[simp] theorem remember_settings (text : String) (o : Outcome) :
    (s.remember text o).settings = s.settings := by
  unfold remember; split <;> rfl
@[simp] theorem remember_slot (text : String) (o : Outcome) : (s.remember text o).slot = s.slot := by
  unfold remember; split <;> rfl
@[simp] theorem remember_state (text : String) (o : Outcome) : (s.remember text o).state = s.state := by
  unfold remember; split <;> rfl
@[simp] theorem remember_isSome (text : String) (o : Outcome) :
    (s.remember text o).backend.isSome = s.backend.isSome := by
  unfold remember; split <;> simp [*]

end Fields

theorem finish_spec (s : Session) (r : Request) (o : Outcome) :
    Steady s (s.finish r o) ∧ (s.finish r o).backend = s.backend ∧ (s.finish r o).now = s.now ∧
      (s.finish r o).calls = s.calls ∧ (s.finish r o).tasks = s.tasks :=
  ⟨⟨rfl, rfl, rfl, by simp, by simp⟩, rfl, rfl, rfl, rfl⟩

theorem finishCancelled_spec (s : Session) (r : Request) (quiet : Bool) :
    Steady s (s.finishCancelled r quiet) ∧ (s.finishCancelled r quiet).backend = s.backend ∧
      (s.finishCancelled r quiet).now = s.now ∧ (s.finishCancelled r quiet).calls = s.calls ∧
      (s.finishCancelled r quiet).tasks = s.tasks := by
  unfold finishCancelled
  split <;> exact ⟨⟨by simp, by simp, by simp, by simp, by simp⟩, by simp, by simp, by simp, by simp⟩

/-- A scripted backend's answer only hands an outcome to the controller. -/
theorem answer_spec (s : Session) (r : Request) :
    Steady s (s.answer r) ∧ (s.answer r).calls = s.calls ∧ (s.answer r).tasks = s.tasks := by
  unfold answer
  split
  · simp only
    split <;> exact ⟨⟨by simp, by simp, by simp, by simp, by simp⟩, by simp, by simp⟩
  · exact ⟨Steady.refl s, rfl, rfl⟩

/-- A task out of its quiet period calls the backend, when there is one,
and goes on waiting for the answer only with a scripted backend. -/
theorem call_spec (s : Session) (r : Request) :
    Steady s (s.call r).1 ∧ (s.call r).1.tasks = s.tasks ∧
      (s.call r).1.calls = s.calls ++ (if s.backend.isSome then [r.text] else []) ∧
      ((s.call r).2 = none ∨ ∃ d, (s.call r).2 = some ⟨r, .calling d⟩) := by
  unfold call
  split
  · simp [Steady.refl, *]
  · rename_i b hb
    simp only [hb, Option.isSome_some, if_true]
    split
    · exact ⟨⟨by simp, by simp, by simp [hb], by simp, by simp⟩, by simp, by simp, Or.inl rfl⟩
    · split
      · exact ⟨⟨rfl, rfl, by simp [hb], rfl, rfl⟩, rfl, rfl, Or.inr ⟨_, rfl⟩⟩
      · exact ⟨⟨by simp, by simp, by simp [hb], by simp, by simp⟩, by simp, by simp, Or.inl rfl⟩
      · exact ⟨⟨by simp, by simp, by simp [hb], by simp, by simp⟩, by simp, by simp, Or.inl rfl⟩

/-! ## Waking -/

/-- What waking does to one task, with the controller as it stands: a
cancelled quiet period ends, a cancelled call ends when the backend honours
cancelling, and a new task starts its quiet period. -/
def wakeOne (s : Session) (t : Task) : Option Task :=
  match t.phase with
  | .fresh =>
    if s.state.isCancelled t.request.generation then none
    else some { t with phase := .quiet (s.now + s.settings.debounce) }
  | .quiet _ => if s.state.isCancelled t.request.generation then none else some t
  | .calling _ => if s.state.isCancelled t.request.generation && s.honorsCancel then none else some t

/-- A fold that keeps `P` of its accumulator, and adds to the list it keeps
what `g` makes of each element, keeps `P` and ends with the `filterMap`. -/
theorem foldl_filterMap {β : Type} (P : β → Prop) (kept : β → List Task) (g : Task → Option Task)
    (f : β → Task → β) (hf : ∀ b t, P b → P (f b t) ∧ kept (f b t) = kept b ++ (g t).toList) :
    ∀ (l : List Task) (b : β), P b → P (l.foldl f b) ∧ kept (l.foldl f b) = kept b ++ l.filterMap g := by
  intro l
  induction l with
  | nil => simp
  | cons t l ih =>
    intro b hb
    obtain ⟨hP, hk⟩ := hf b t hb
    obtain ⟨hP', hk'⟩ := ih (f b t) hP
    refine ⟨hP', ?_⟩
    rw [List.foldl_cons, hk', hk]
    cases h : g t <;> simp [h]

/-- Waking leaves the clock, the backend and the calls alone, and does to
each task what `wakeOne` says. -/
theorem wake_spec (s : Session) :
    Steady s s.wake ∧ s.wake.now = s.now ∧ s.wake.calls = s.calls ∧
      s.wake.tasks = s.tasks.filterMap s.wakeOne := by
  unfold wake
  dsimp only
  generalize hr : List.foldl _ _ s.tasks = r
  -- the accumulator's session only gains log records and outcomes
  have key : (Steady s r.1 ∧ r.1.backend = s.backend ∧ r.1.now = s.now ∧ r.1.calls = s.calls ∧
      r.1.tasks = []) ∧ r.2 = [] ++ s.tasks.filterMap s.wakeOne := by
    rw [← hr]
    refine foldl_filterMap (fun b => Steady s b.1 ∧ b.1.backend = s.backend ∧ b.1.now = s.now ∧
      b.1.calls = s.calls ∧ b.1.tasks = []) Prod.snd s.wakeOne _ ?_ s.tasks ({ s with tasks := [] }, [])
      ⟨⟨rfl, rfl, rfl, rfl, rfl⟩, rfl, rfl, rfl, rfl⟩
    rintro ⟨b, kept⟩ t ⟨hs, hb, hn, hc, ht⟩
    dsimp only at hs hb hn hc ht ⊢
    have hcan := hs.isCancelled t.request.generation
    have hhon : b.honorsCancel = s.honorsCancel := by unfold honorsCancel; rw [hb]
    clear hr
    -- ending a task only adds log records and an outcome
    have hend : ∀ b' : Session, Steady b b' → b'.backend = b.backend → b'.now = b.now →
        b'.calls = b.calls → b'.tasks = b.tasks →
        Steady s b' ∧ b'.backend = s.backend ∧ b'.now = s.now ∧ b'.calls = s.calls ∧ b'.tasks = [] :=
      fun b' h₁ h₂ h₃ h₄ h₅ => ⟨hs.trans h₁, h₂.trans hb, h₃.trans hn, h₄.trans hc, h₅.trans ht⟩
    have hcancel := finishCancelled_spec b t.request true
    have hdrop := finish_spec { b with inFlight := b.inFlight - 1 } t.request .cancelled
    cases hp : t.phase <;>
      by_cases hx : s.state.isCancelled t.request.generation = true <;>
      simp only [wakeOne, hp, hx, hcan, hhon, if_true, if_false, Bool.true_and, Bool.false_and,
        Bool.false_eq_true, Option.toList_none, Option.toList_some, List.append_nil]
    · exact ⟨hend _ hcancel.1 hcancel.2.1 hcancel.2.2.1 hcancel.2.2.2.1 hcancel.2.2.2.2, trivial⟩
    · exact ⟨⟨hs, hb, hn, hc, ht⟩, by rw [hn, hs.settings]⟩
    · exact ⟨hend _ hcancel.1 hcancel.2.1 hcancel.2.2.1 hcancel.2.2.2.1 hcancel.2.2.2.2, trivial⟩
    · exact ⟨⟨hs, hb, hn, hc, ht⟩, trivial⟩
    · by_cases hh : s.honorsCancel = true
      · simp only [hh, if_true, Option.toList_none, List.append_nil]
        have hsteady : Steady b _ := ⟨hdrop.1.1, hdrop.1.2, hdrop.1.3, hdrop.1.4, hdrop.1.5⟩
        exact ⟨hend _ hsteady hdrop.2.1 hdrop.2.2.1 hdrop.2.2.2.1 hdrop.2.2.2.2, trivial⟩
      · simp only [hh, Bool.false_eq_true, if_false, Option.toList_some]
        exact ⟨⟨hs, hb, hn, hc, ht⟩, trivial⟩
    · exact ⟨⟨hs, hb, hn, hc, ht⟩, trivial⟩
  obtain ⟨⟨hs, -, hn, hc, ht⟩, hk⟩ := key
  refine ⟨⟨hs.settings, hs.slot, hs.backend, hs.generation, hs.closed⟩, hn, hc, ?_⟩
  simp [ht, hk]

/-- Whether a task waits on behalf of a live generation: it has not called
the backend yet, and its token is not cancelled. -/
def live (s : Session) (t : Task) : Bool := t.waits && !s.state.isCancelled t.request.generation

/-- The lookups of live generations before their backend call: the text
each will ask for, and when its quiet period ends. -/
def pending (s : Session) : List (String × Nat) :=
  (s.tasks.filter s.live).map fun t => (t.request.text, t.wakeAt s.now s.settings.debounce)

/-- How the tasks stand once the clock has woken them: every task before its
call is in its quiet period, for a live token. -/
def Awake (s : Session) : Prop :=
  ∀ t ∈ s.tasks, t.waits = true → (∃ d, t.phase = .quiet d) ∧ s.state.isCancelled t.request.generation = false

/-- In an awake session a lookup still in its quiet period is live, so the
test made when the period ends never finds it superseded or cancelled. Every
pause wakes its tasks before it runs the due ones, and what a pause runs keeps
the session awake, so the test is redundant in every pause: it guards the
backend only against a wait the clock has not yet woken. -/
theorem Awake.quiet_live {s : Session} (hw : s.Awake) {t : Task} (ht : t ∈ s.tasks) {d : Nat}
    (hp : t.phase = .quiet d) : s.state.isCancelled t.request.generation = false :=
  (hw t ht (by simp [Task.waits, hp])).2

theorem wakeOne_request {s : Session} {t t' : Task} (h : s.wakeOne t = some t') : t'.request = t.request := by
  unfold wakeOne at h
  split at h <;> split at h <;> cases h <;> rfl

/-- Woken, a task keeps its place among the live lookups and the end of its
quiet period. -/
theorem wakeOne_pending (s : Session) (t : Task) :
    ((s.wakeOne t).toList.filter s.live).map (fun t => (t.request.text, t.wakeAt s.now s.settings.debounce)) =
      ([t].filter s.live).map (fun t => (t.request.text, t.wakeAt s.now s.settings.debounce)) := by
  unfold wakeOne
  cases hp : t.phase <;>
    by_cases hx : s.state.isCancelled t.request.generation = true <;>
    simp [hp, hx, live, Task.waits, Task.wakeAt]

/-- Waking drops the cancelled waits and starts the quiet period of the new
tasks: the live lookups and the ends of their quiet periods stay as they were. -/
theorem wake_pending (s : Session) : s.wake.pending = s.pending := by
  obtain ⟨hs, hn, -, ht⟩ := wake_spec s
  have hlive : s.wake.live = s.live := by
    funext t
    simp [live, hs.isCancelled]
  unfold pending
  rw [ht, hlive, hn, hs.settings]
  induction s.tasks with
  | nil => rfl
  | cons t l ih =>
    rw [List.filterMap_cons]
    have h := wakeOne_pending s t
    cases hw : s.wakeOne t with
    | none => simp_all [List.filter_cons]
    | some t' =>
      rw [hw] at h
      simp only [Option.toList_some, List.filter_cons, List.filter_nil] at h ⊢
      split <;> split <;> simp_all

theorem wake_awake (s : Session) : s.wake.Awake := by
  obtain ⟨hs, -, -, ht⟩ := wake_spec s
  intro t hmem hwait
  rw [ht] at hmem
  obtain ⟨t₀, -, hw⟩ := List.mem_filterMap.1 hmem
  rw [hs.isCancelled, wakeOne_request hw]
  unfold wakeOne at hw
  cases hp : t₀.phase <;> simp only [hp] at hw <;> split at hw <;> cases hw
  · exact ⟨⟨_, rfl⟩, Bool.eq_false_iff.2 ‹_›⟩
  · exact ⟨⟨_, hp⟩, Bool.eq_false_iff.2 ‹_›⟩
  · simp [Task.waits, hp] at hwait

theorem wake_requests (s : Session) : ∀ t ∈ s.wake.tasks, ∃ t' ∈ s.tasks, t'.request = t.request := by
  intro t hmem
  rw [(wake_spec s).2.2.2] at hmem
  obtain ⟨t₀, h₀, hw⟩ := List.mem_filterMap.1 hmem
  exact ⟨t₀, h₀, (wakeOne_request hw).symm⟩

/-! ## Running the waits that are due -/

/-- A fold keeps what each step keeps, for the elements it meets. -/
theorem foldl_invariant {α β : Type} (P : β → Prop) (Q : α → Prop) (f : β → α → β)
    (hf : ∀ b a, Q a → P b → P (f b a)) : ∀ (l : List α) (b : β), (∀ a ∈ l, Q a) → P b → P (l.foldl f b) := by
  intro l
  induction l with
  | nil => intro b _ hb; exact hb
  | cons a l ih =>
    intro b hl hb
    exact ih (f b a) (fun a' ha' => hl a' (List.mem_cons_of_mem a ha')) (hf b a (hl a List.mem_cons_self) hb)

/-- The wait `nextDue` picks is a task of the list, due by the limit. -/
theorem nextDue_some {tasks : List Task} {limit d i : Nat} (h : nextDue tasks limit = some (d, i)) :
    ∃ t, tasks[i]? = some t ∧ t.due? = some d ∧ d ≤ limit := by
  unfold nextDue at h
  refine foldl_invariant
    (fun best => ∀ d i, best = some (d, i) → ∃ t, tasks[i]? = some t ∧ t.due? = some d ∧ d ≤ limit)
    (fun x => tasks[x.2]? = some x.1) _ ?_ tasks.zipIdx none
    (fun x hx => List.mem_zipIdx_iff_getElem?.1 hx) (by simp) d i h
  rintro best ⟨t, j⟩ hj hbest d' i' h'
  simp only at h' hj
  split at h'
  · split at h'
    · split at h'
      · split at h'
        · cases h'
          exact ⟨t, hj, ‹_›, ‹_›⟩
        · exact hbest d' i' h'
      · cases h'
        exact ⟨t, hj, ‹_›, ‹_›⟩
    · exact hbest d' i' h'
  · exact hbest d' i' h'

/-- When `nextDue` picks nothing, no wait is due by the limit. -/
theorem nextDue_none {tasks : List Task} {limit : Nat} (h : nextDue tasks limit = none) :
    ∀ t ∈ tasks, ∀ d, t.due? = some d → limit < d := by
  intro t ht d hd
  rcases Nat.lt_or_ge limit d with hlt | hle
  · exact hlt
  exfalso
  obtain ⟨i, hi⟩ := List.mem_iff_getElem?.1 ht
  have hmem : (t, i) ∈ tasks.zipIdx := List.mem_zipIdx_iff_getElem?.2 hi
  obtain ⟨A, B, hAB⟩ := List.append_of_mem hmem
  unfold nextDue at h
  rw [hAB, List.foldl_append, List.foldl_cons] at h
  -- once a due wait is met, some wait stays picked
  refine foldl_invariant (fun best => best ≠ none) (fun _ => True) _ ?_ B _ (fun _ _ => trivial) ?_ h
  · rintro best ⟨t', j⟩ - hbest
    simp only
    split
    · split
      · split
        · split <;> simp_all
        · simp
      · exact hbest
    · exact hbest
  · simp only [hd, hle, if_true]
    split
    · split <;> simp_all
    · simp

theorem eraseIdx_split {l : List Task} {i : Nat} {t : Task} (h : l[i]? = some t) :
    ∃ A B, l = A ++ t :: B ∧ l.eraseIdx i = A ++ B := by
  obtain ⟨hi, rfl⟩ := List.getElem?_eq_some_iff.1 h
  refine ⟨l.take i, l.drop (i + 1), ?_, List.eraseIdx_eq_take_drop_succ l i⟩
  rw [← List.drop_eq_getElem_cons hi, List.take_append_drop]

theorem weight_append (A B : List Task) :
    ((A ++ B).map Task.weight).sum = (A.map Task.weight).sum + (B.map Task.weight).sum := by
  simp

theorem weight_le (l : List Task) : (l.map Task.weight).sum ≤ 2 * l.length := by
  induction l with
  | nil => simp
  | cons t l ih =>
    have : t.weight ≤ 2 := by unfold Task.weight; split <;> omega
    simp only [List.map_cons, List.sum_cons, List.length_cons]
    omega

/-- In an awake session, the live lookups do not depend on the clock: a
change that keeps the live tasks keeps what is pending. -/
theorem pending_eq_of_live {s s' : Session} (hs : Steady s s') (hw : s.Awake)
    (ht : s'.tasks.filter s.live = s.tasks.filter s.live) : s'.pending = s.pending := by
  have hlive : s'.live = s.live := by
    funext t
    simp [live, hs.isCancelled]
  unfold pending
  rw [hlive, ht]
  refine List.map_congr_left fun t hmem => ?_
  obtain ⟨hmem, hl⟩ := List.mem_filter.1 hmem
  have hwait : t.waits = true := by simp only [live, Bool.and_eq_true] at hl; exact hl.1
  obtain ⟨⟨d, hd⟩, -⟩ := hw t hmem hwait
  simp [Task.wakeAt, hd]

/-- Beside the one live lookup of an awake session, every task is calling. -/
theorem calling_of_pending {s : Session} (hw : s.Awake) (h1 : s.pending.length ≤ 1) {A B : List Task}
    {t : Task} (ht : s.tasks = A ++ t :: B) (hl : s.live t = true) : ∀ u ∈ A ++ B, u.waits = false := by
  have hlen : (A.filter s.live).length + ((B.filter s.live).length + 1) ≤ 1 := by
    simpa [pending, ht, List.filter_append, List.filter_cons, hl] using h1
  intro u hu
  cases hwait : u.waits
  · rfl
  · have hmem : u ∈ s.tasks := by rw [ht]; rcases List.mem_append.1 hu with h | h <;> simp [h]
    have hlu : s.live u = true := by simp [live, hwait, (hw u hmem hwait).2]
    rcases List.mem_append.1 hu with h | h
    · have : 0 < (A.filter s.live).length := List.length_pos_of_mem (List.mem_filter.2 ⟨h, hlu⟩)
      omega
    · have : 0 < (B.filter s.live).length := List.length_pos_of_mem (List.mem_filter.2 ⟨h, hlu⟩)
      omega

theorem weight_of_calling (l : List Task) (h : ∀ u ∈ l, u.waits = false) :
    (l.map Task.weight).sum = l.length := by
  induction l with
  | nil => rfl
  | cons u l ih =>
    have hu : u.weight = 1 := by
      have := h u List.mem_cons_self
      unfold Task.waits at this
      unfold Task.weight
      split <;> simp_all
    simp [hu, ih fun v hv => h v (List.mem_cons_of_mem u hv), Nat.add_comm]

/-- A session whose tasks are all calling has nothing pending, and is awake. -/
theorem pending_of_calling {s : Session} (h : ∀ u ∈ s.tasks, u.waits = false) :
    s.pending = [] ∧ s.Awake := by
  refine ⟨?_, fun u hu hwait => absurd hwait (by simp [h u hu])⟩
  simp only [pending, List.map_eq_nil_iff, List.filter_eq_nil_iff]
  intro u hu
  simp [live, h u hu]

/-- What running the waits due by `limit` makes of `s`: the one live lookup
has called the backend if its quiet period ended by then, and is still
pending otherwise; nothing else changed the calls, and every task left was a
task of `s` or its call. -/
structure Fired (s : Session) (limit : Nat) (s' : Session) : Prop where
  steady : Steady s s'
  awake : s'.Awake
  calls : s'.calls = s.calls ++ (if s.backend.isSome then (s.pending.filter (·.2 ≤ limit)).map (·.1) else [])
  pending : s'.pending = s.pending.filter (limit < ·.2)
  requests : ∀ t ∈ s'.tasks, ∃ t' ∈ s.tasks, t'.request = t.request

/-- One step of running the waits, then the rest: what the step called and
what it left pending add up to what was due. -/
theorem Fired.of_step {s s' s'' : Session} {limit : Nat} (h : Fired s' limit s'') (hs : Steady s s')
    (hcalls : s'.calls ++ (if s'.backend.isSome then (s'.pending.filter (·.2 ≤ limit)).map (·.1) else []) =
      s.calls ++ (if s.backend.isSome then (s.pending.filter (·.2 ≤ limit)).map (·.1) else []))
    (hpend : s'.pending.filter (limit < ·.2) = s.pending.filter (limit < ·.2))
    (hreq : ∀ t ∈ s'.tasks, ∃ t' ∈ s.tasks, t'.request = t.request) : Fired s limit s'' := by
  refine ⟨hs.trans h.steady, h.awake, h.calls.trans hcalls, h.pending.trans hpend, fun t ht => ?_⟩
  obtain ⟨t', ht', hr⟩ := h.requests t ht
  obtain ⟨t'', ht'', hr'⟩ := hreq t' ht'
  exact ⟨t'', ht'', hr'.trans hr⟩

/-- With nothing due, running the waits changes nothing: every pending
lookup ends after the limit. -/
theorem fired_of_none {s : Session} {limit : Nat} (hw : s.Awake) (hn : nextDue s.tasks limit = none) :
    Fired s limit s := by
  have hlate : ∀ p ∈ s.pending, limit < p.2 := by
    intro p hp
    obtain ⟨t, ht, rfl⟩ := List.mem_map.1 hp
    obtain ⟨hmem, hl⟩ := List.mem_filter.1 ht
    have hwait : t.waits = true := by simp only [live, Bool.and_eq_true] at hl; exact hl.1
    obtain ⟨⟨d, hd⟩, -⟩ := hw t hmem hwait
    have := nextDue_none hn t hmem d (by simp [Task.due?, hd])
    simpa [Task.wakeAt, hd] using this
  have hnone : s.pending.filter (·.2 ≤ limit) = [] :=
    List.filter_eq_nil_iff.2 fun p hp => by have := hlate p hp; simp; omega
  have hall : s.pending.filter (limit < ·.2) = s.pending :=
    List.filter_eq_self.2 fun p hp => by simpa using hlate p hp
  exact ⟨Steady.refl s, hw, by simp [hnone], hall.symm, fun t ht => ⟨t, ht, rfl⟩⟩

/-- In an awake session with one live lookup, a quiet task is that lookup,
and every other task is calling. -/
theorem pending_of_quiet {s : Session} {A B : List Task} {t : Task} {d : Nat} (hw : s.Awake)
    (h1 : s.pending.length ≤ 1) (hAB : s.tasks = A ++ t :: B) (hp : t.phase = .quiet d) :
    s.pending = [(t.request.text, d)] ∧ ∀ u ∈ A ++ B, u.waits = false := by
  have hl : s.live t = true := by
    have hwait : t.waits = true := by simp [Task.waits, hp]
    simp [live, hwait, (hw t (by rw [hAB]; simp) hwait).2]
  have hcall := calling_of_pending hw h1 hAB hl
  have hA : A.filter s.live = [] :=
    List.filter_eq_nil_iff.2 fun u hu => by simp [live, hcall u (by simp [hu])]
  have hB : B.filter s.live = [] :=
    List.filter_eq_nil_iff.2 fun u hu => by simp [live, hcall u (by simp [hu])]
  exact ⟨by simp [pending, hAB, List.filter_append, hl, hA, hB, Task.wakeAt, hp], hcall⟩

/-- Taking a calling task out of an awake session keeps what is pending, and
keeps the session awake. -/
theorem pending_without_calling {s s' : Session} {A B : List Task} {t : Task} (hw : s.Awake)
    (hAB : s.tasks = A ++ t :: B) (hwait : t.waits = false) (hs : Steady s s') (ht : s'.tasks = A ++ B) :
    s'.pending = s.pending ∧ s'.Awake := by
  refine ⟨pending_eq_of_live hs hw ?_, fun u hu hu' => ?_⟩
  · rw [ht, hAB]
    simp [List.filter_append, live, hwait]
  · rw [ht] at hu
    rw [hs.isCancelled]
    exact hw u (by rw [hAB]; rcases List.mem_append.1 hu with h | h <;> simp [h]) hu'

/-- Given fuel for every wait, `fire` runs all the waits due by `limit`. -/
theorem fire_spec (limit : Nat) : ∀ (fuel : Nat) (s : Session), s.Awake → s.pending.length ≤ 1 →
    (s.tasks.map Task.weight).sum < fuel → Fired s limit (fire fuel s limit)
  | 0, _, _, _, hfuel => absurd hfuel (Nat.not_lt_zero _)
  | f + 1, s, hw, h1, hfuel => by
    rw [fire]
    cases hn : nextDue s.tasks limit with
    | none => exact fired_of_none hw hn
    | some p =>
      obtain ⟨d, i⟩ := p
      obtain ⟨t, hti, hdue, hle⟩ := nextDue_some hn
      obtain ⟨A, B, hAB, herase⟩ := eraseIdx_split hti
      simp only [hti]
      have hsub : ∀ u ∈ A ++ B, u ∈ s.tasks := by
        intro u hu
        rw [hAB]
        rcases List.mem_append.1 hu with h | h <;> simp [h]
      have hweight : (s.tasks.map Task.weight).sum = ((A ++ B).map Task.weight).sum + t.weight := by
        rw [hAB]
        simp only [List.map_append, List.map_cons, List.sum_append, List.sum_cons]
        omega
      have h₀ : Steady s { s with now := max s.now d, tasks := s.tasks.eraseIdx i } := ⟨rfl, rfl, rfl, rfl, rfl⟩
      cases hp : t.phase with
      | fresh => simp [Task.due?, hp] at hdue
      | quiet d' =>
        -- the live lookup reaches the end of its quiet period and calls
        have hd : d' = d := by simpa [Task.due?, hp] using hdue
        subst hd
        have hlive := hw.quiet_live (by rw [hAB]; simp) hp
        simp only [hlive, Bool.false_eq_true, if_false]
        obtain ⟨hpend, hcall⟩ := pending_of_quiet hw h1 hAB hp
        obtain ⟨hcs, hct, hcc, hnext⟩ := call_spec { s with now := max s.now d', tasks := s.tasks.eraseIdx i }
          t.request
        generalize Session.call { s with now := max s.now d', tasks := s.tasks.eraseIdx i } t.request = c
          at hcs hct hcc hnext ⊢
        obtain ⟨s₂, next⟩ := c
        simp only at hcs hct hcc hnext ⊢
        -- after the call every task left is calling, so the rest of the run calls nothing
        have key : ∀ s₃ : Session, Steady s₂ s₃ → s₃.calls = s₂.calls → ∀ extra : List Task,
            s₃.tasks = A ++ B ++ extra → (∀ u ∈ extra, u.waits = false ∧ u.request = t.request) →
            extra.length ≤ 1 → Fired s limit (fire f s₃ limit) := by
          intro s₃ hsteady hcalls extra htasks hextra hlen
          have hall : ∀ u ∈ s₃.tasks, u.waits = false := by
            intro u hu
            rw [htasks] at hu
            rcases List.mem_append.1 hu with h | h
            · exact hcall u h
            · exact (hextra u h).1
          obtain ⟨hpend₃, hw₃⟩ := pending_of_calling hall
          have hfuel₃ : (s₃.tasks.map Task.weight).sum < f := by
            have hext := weight_of_calling extra fun u hu => (hextra u hu).1
            have ht : t.weight = 2 := by simp [Task.weight, hp]
            rw [htasks, weight_append]
            omega
          refine (fire_spec limit f s₃ hw₃ (by simp [hpend₃]) hfuel₃).of_step
            ((h₀.trans hcs).trans hsteady) ?_ ?_ fun u hu => ?_
          · simp [hpend₃, hcalls, hcc, hpend, hle]
          · simp [hpend₃, hpend]
            omega
          · rw [htasks] at hu
            rcases List.mem_append.1 hu with h | h
            · exact ⟨u, hsub u h, rfl⟩
            · exact ⟨t, by rw [hAB]; simp, (hextra u h).2.symm⟩
        rcases hnext with rfl | ⟨e, rfl⟩
        · exact key s₂ (Steady.refl s₂) rfl [] (by simp [hct, herase]) (by simp) (by simp)
        · exact key _ ⟨rfl, rfl, rfl, rfl, rfl⟩ rfl [⟨t.request, .calling e⟩] (by simp [hct, herase])
            (by simp [Task.waits]) (by simp)
      | calling d' =>
        -- a call in flight is answered; the live lookup, if any, is untouched
        obtain ⟨has, hac, hat⟩ := answer_spec { s with now := max s.now d, tasks := s.tasks.eraseIdx i } t.request
        generalize Session.answer { s with now := max s.now d, tasks := s.tasks.eraseIdx i } t.request = s₂
          at has hac hat ⊢
        have ht₂ : s₂.tasks = A ++ B := by rw [hat]; exact herase
        obtain ⟨hpend₂, hw₂⟩ :=
          pending_without_calling hw hAB (by simp [Task.waits, hp]) (h₀.trans has) ht₂
        have hfuel₂ : (s₂.tasks.map Task.weight).sum < f := by
          have ht : t.weight = 1 := by simp [Task.weight, hp]
          rw [ht₂]
          omega
        refine (fire_spec limit f s₂ hw₂ (by rw [hpend₂]; exact h1) hfuel₂).of_step (h₀.trans has) ?_ ?_
          fun u hu => ?_
        · rw [hpend₂, (h₀.trans has).backend, hac]
        · rw [hpend₂]
        · rw [ht₂] at hu
          exact ⟨u, hsub u hu, rfl⟩

/-! ## A pause -/

/-- A pause of `ms` milliseconds, with at most one live lookup pending,
calls the backend for it exactly when its quiet period ends by the end of
the pause, and otherwise leaves it pending; the clock moves on by `ms`. -/
theorem sleep_spec (s : Session) (ms : Nat) (h1 : s.pending.length ≤ 1) :
    Steady s (s.sleep ms) ∧ (s.sleep ms).now = s.now + ms ∧
      (s.sleep ms).calls =
        s.calls ++ (if s.backend.isSome then (s.pending.filter (·.2 ≤ s.now + ms)).map (·.1) else []) ∧
      (s.sleep ms).pending = s.pending.filter (s.now + ms < ·.2) ∧
      ∀ t ∈ (s.sleep ms).tasks, ∃ t' ∈ s.tasks, t'.request = t.request := by
  obtain ⟨hs, -, hc, -⟩ := wake_spec s
  have hp := wake_pending s
  have hfuel : (s.wake.tasks.map Task.weight).sum < 2 * s.wake.tasks.length + 2 := by
    have := weight_le s.wake.tasks
    omega
  obtain ⟨hf₁, hf₂, hf₃, hf₄, hf₅⟩ :=
    fire_spec (s.now + ms) _ s.wake (wake_awake s) (by rw [hp]; exact h1) hfuel
  unfold sleep
  dsimp only
  generalize fire (2 * s.wake.tasks.length + 2) s.wake (s.now + ms) = f at hf₁ hf₂ hf₃ hf₄ hf₅
  have hnow : Steady f { f with now := s.now + ms } := ⟨rfl, rfl, rfl, rfl, rfl⟩
  refine ⟨⟨?_, ?_, ?_, ?_, ?_⟩, rfl, ?_, ?_, ?_⟩
  · exact (hs.trans hf₁).settings
  · exact (hs.trans hf₁).slot
  · exact (hs.trans hf₁).backend
  · exact (hs.trans hf₁).generation
  · exact (hs.trans hf₁).closed
  · show f.calls = _
    rw [hf₃, hc, hp, hs.backend]
  · rw [pending_eq_of_live hnow hf₂ rfl, hf₄, hp]
  · intro t ht
    obtain ⟨t', ht', hreq⟩ := hf₅ t ht
    obtain ⟨t'', ht'', hreq'⟩ := wake_requests s t' ht'
    exact ⟨t'', ht'', hreq'.trans hreq⟩

end Session

end Typeahead.Query
