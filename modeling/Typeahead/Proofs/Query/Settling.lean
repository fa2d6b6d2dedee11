-- What the last input leaves on show. After the last input change, the tasks
-- of older generations can no longer change anything; the task of the last
-- generation waits out its quiet period, asks the backend with the untrimmed
-- text, and the answer it gets decides the result list for good. An input too
-- short to look up, or a controller without a backend, decides it at once.
import Typeahead.Proofs.Query.Generations

namespace Typeahead.Query

/-- An event that is neither an input change nor a shutdown: a task's step,
the backend's answer, or an input that leaves the text as it was. -/
def Event.Quiet (e : Event) : Prop := e ≠ .shutdown ∧ ∀ old new, e = .input old new → old = new

namespace Runtime

/-- The result list of the sink's last publish. -/
def lastResults (w : Runtime) : Option (List Item) :=
  (w.sink.filterMap fun x => match x.call with | .setResults items => some items | _ => none).getLast?

/-- The sink's last loading signal. -/
def lastLoading (w : Runtime) : Option Bool :=
  (w.sink.filterMap fun x => match x.call with | .setLoading on => some on | _ => none).getLast?

/-- The sink's last publish shows `items`, its last loading signal is off, and
the controller holds `items`. -/
def Shows (w : Runtime) (items : List Item) : Prop :=
  w.lastResults = some items ∧ w.lastLoading = some false ∧ w.state.results = items

/-- The live tasks of generation `g`. -/
def jobsAt (w : Runtime) (g : Nat) : List Job := w.jobs.filter (·.request.generation == g)

/-- The task running `r` is live at stage `s`, and the only one of its generation. -/
def Pending (w : Runtime) (r : Request) (s : Stage) : Prop := w.jobsAt r.generation = [⟨r, s⟩]

variable {w : Runtime}

/-! ## The tasks of one generation -/

theorem jobOf_of_pending {r : Request} {s : Stage} (h : Pending w r s) :
    w.jobOf r.generation = some ⟨r, s⟩ := by
  have := congrArg List.head? h
  simpa [jobsAt, jobOf] using this

theorem jobsAt_finish (w : Runtime) (r : Request) (o : Outcome) {g : Nat} (hg : r.generation ≠ g) :
    (w.finish r o).jobsAt g = w.jobsAt g := by
  rcases finish_cases w r o with ⟨x, -, -, -, h⟩ | h <;>
  · rw [h]
    simp only [jobsAt, List.filter_filter]
    congr 1
    funext j
    by_cases hj : j.request.generation = g
    · simp [hj, Ne.symm hg]
    · simp [hj]

theorem jobsAt_restage (w : Runtime) {g g' : Nat} (s : Stage) (hg : g' ≠ g) :
    (w.restage g' s).jobsAt g = w.jobsAt g := by
  simp only [jobsAt, restage]
  induction w.jobs with
  | nil => rfl
  | cons j js ih =>
    by_cases hj : j.request.generation = g'
    · simp [hj, hg, ih]
    · by_cases hjg : j.request.generation = g <;> simp [hj, hjg, Ne.symm hg, ih]

theorem jobsAt_restage_self (w : Runtime) (g : Nat) (s : Stage) :
    (w.restage g s).jobsAt g = (w.jobsAt g).map fun j => { j with stage := s } := by
  simp only [jobsAt, restage]
  induction w.jobs with
  | nil => rfl
  | cons j js ih => by_cases hj : j.request.generation = g <;> simp [hj, ih]

/-- Moving a task on keeps it the only one of its generation. -/
theorem pending_restage {r : Request} {s : Stage} (h : Pending w r s) (s' : Stage) :
    Pending (w.restage r.generation s') r s' := by
  unfold Pending at *
  rw [jobsAt_restage_self, h]
  rfl

theorem jobsAt_poll (w : Runtime) {g g' : Nat} (hg : g ≠ g') : (w.poll g).jobsAt g' = w.jobsAt g' := by
  rcases hj : w.jobOf g with _ | ⟨r, stage⟩
  · rw [poll_idle (fun r => by simp [hj])]
  have hr : r.generation ≠ g' := (mem_of_jobOf hj).2 ▸ hg
  cases stage with
  | spawned =>
    rw [poll_spawned hj]
    split
    · exact jobsAt_finish _ r _ hr
    · exact jobsAt_restage _ _ hg
  | quiet =>
    rw [poll_quiet hj]
    split
    · exact jobsAt_finish _ r _ hr
    · exact jobsAt_restage _ _ hg
  | asking => rw [poll_idle (fun r => by simp [hj])]

theorem jobsAt_answer (w : Runtime) {g g' : Nat} (a : Answer) (hg : g ≠ g') :
    (w.answer g a).jobsAt g' = w.jobsAt g' := by
  rcases answer_cases w g a with h | ⟨r, hj, h⟩
  · rw [h]
  · rw [h]
    exact jobsAt_finish _ _ _ ((mem_of_jobOf hj).2 ▸ hg)

/-- The backend's answer to a task that is not of the current generation of an
open controller changes neither what the controller holds nor what the sink
was told. -/
theorem answer_keeps {g : Nat} (a : Answer)
    (h : ∀ r, w.jobOf g = some ⟨r, .asking⟩ → r.generation ≠ w.state.generation ∨ w.state.closed = true) :
    (w.answer g a).state = w.state ∧ (w.answer g a).sink = w.sink := by
  rcases answer_cases w g a with hans | ⟨r, hj, hans⟩
  · rw [hans]
    exact ⟨rfl, rfl⟩
  rw [hans]
  rcases finish_cases w r (a.lookup (g ∈ w.cancelled)) with ⟨x, hopen, hg, -, -⟩ | hf
  · rcases h r hj with hne | hc
    · exact absurd hg hne
    · simp [hc] at hopen
  · rw [hf]
    exact ⟨rfl, rfl⟩

/-! ## After the last input -/

/-- While the task of the current generation waits, a quiet event other than
the backend's answer to it changes neither what the controller holds nor what
the sink was told, and the task keeps waiting. -/
theorem Good.pending_step (hw : w.Good) (hopen : w.state.closed = false) {r : Request} {s : Stage}
    (hr : r.generation = w.state.generation) (hp : Pending w r s) {e : Event} (he : e.Quiet)
    (hans : ∀ a, s = .asking → e ≠ .answer r.generation a) :
    (w.step e).state = w.state ∧ (w.step e).sink = w.sink ∧ ∃ s', Pending (w.step e) r s' := by
  -- the token of the current generation of an open controller is live
  have hlive : r.generation ∉ w.cancelled := by
    rw [hw.cancelled_iff]
    simp only [hopen, Bool.false_eq_true, and_false, or_false]
    omega
  have hj := jobOf_of_pending hp
  cases e with
  | shutdown => exact absurd rfl he.1
  | input old new =>
    rw [Runtime.step, input_idle (Or.inl (he.2 old new rfl))]
    exact ⟨rfl, rfl, s, hp⟩
  | poll g =>
    refine ⟨(poll_frame w g).1, (poll_frame w g).2.1, ?_⟩
    by_cases hg : g = r.generation
    · subst hg
      cases s with
      | spawned =>
        rw [Runtime.step, poll_spawned hj, if_neg hlive]
        exact ⟨.quiet, pending_restage hp .quiet⟩
      | quiet =>
        have hlatest : w.latest = r.generation := hw.latest_eq.trans hr.symm
        rw [Runtime.step, poll_quiet hj, if_neg (by simp [hlive, hlatest])]
        exact ⟨.asking, pending_restage hp .asking⟩
      | asking =>
        rw [Runtime.step, poll_idle (fun r => by simp [hj])]
        exact ⟨.asking, hp⟩
    · exact ⟨s, (jobsAt_poll w hg).trans hp⟩
  | answer g a =>
    by_cases hg : g = r.generation
    · subst hg
      have hs : s ≠ .asking := fun hs => hans a hs rfl
      rw [Runtime.step, answer_idle (fun r' h => hs (by rw [hj] at h; cases h; rfl))]
      exact ⟨rfl, rfl, s, hp⟩
    · have hkeep := answer_keeps (w := w) a fun r' hr' => Or.inl fun h =>
        hg ((mem_of_jobOf hr').2.symm.trans (h.trans hr.symm))
      exact ⟨hkeep.1, hkeep.2, s, (jobsAt_answer w a hg).trans hp⟩

/-- A task waiting for the current generation keeps waiting through quiet
events until the backend answers it, and until then nothing changes. -/
theorem Good.pending_run (hw : w.Good) (hopen : w.state.closed = false) {r : Request} {s : Stage}
    (hr : r.generation = w.state.generation) (hp : Pending w r s) (post : List Event)
    (hq : ∀ e ∈ post, e.Quiet) :
    (∃ s', Pending (w.run post) r s' ∧ (w.run post).state = w.state ∧ (w.run post).sink = w.sink) ∨
      ∃ p₁ a p₂, post = p₁ ++ .answer r.generation a :: p₂ ∧ Pending (w.run p₁) r .asking ∧
        (w.run p₁).state = w.state ∧ (w.run p₁).sink = w.sink := by
  induction post generalizing w s with
  | nil => exact Or.inl ⟨s, hp, rfl, rfl⟩
  | cons e es ih =>
    by_cases hhit : s = .asking ∧ ∃ a, e = .answer r.generation a
    · obtain ⟨rfl, a, rfl⟩ := hhit
      exact Or.inr ⟨[], a, es, rfl, hp, rfl, rfl⟩
    have hans : ∀ a, s = .asking → e ≠ .answer r.generation a := fun a hs he => hhit ⟨hs, a, he⟩
    obtain ⟨hs, hk, s', hp'⟩ := hw.pending_step hopen hr hp (hq e (List.mem_cons_self ..)) hans
    rw [run_cons]
    rcases ih (hw.step e) (hs ▸ hopen) (hs ▸ hr) hp' (fun e he => hq e (List.mem_cons_of_mem _ he)) with
      ⟨s'', hp'', hs'', hk''⟩ | ⟨p₁, a, p₂, rfl, hp₁, hs₁, hk₁⟩
    · exact Or.inl ⟨s'', hp'', hs''.trans hs, hk''.trans hk⟩
    · exact Or.inr ⟨e :: p₁, a, p₂, rfl, hp₁, hs₁.trans hs, hk₁.trans hk⟩

/-- With no task of the current generation left, a quiet event changes neither
what the controller holds nor what the sink was told, and leaves no such task. -/
theorem settled_step (hnone : ∀ j ∈ w.jobs, j.request.generation ≠ w.state.generation)
    {e : Event} (he : e.Quiet) :
    (w.step e).state = w.state ∧ (w.step e).sink = w.sink ∧
      ∀ j ∈ (w.step e).jobs, j.request.generation ≠ w.state.generation := by
  by_cases hin : ∃ old new, e = .input old new
  · obtain ⟨old, new, rfl⟩ := hin
    rw [Runtime.step, input_idle (Or.inl (he.2 old new rfl))]
    exact ⟨rfl, rfl, hnone⟩
  have hjobs : ∀ j ∈ (w.step e).jobs, j.request.generation ≠ w.state.generation := by
    intro j hj
    obtain ⟨j', hj', hr⟩ := jobs_step_of_not_input w (fun old new h => hin ⟨old, new, h⟩) j hj
    rw [← hr]
    exact hnone j' hj'
  cases e with
  | input old new => exact absurd ⟨old, new, rfl⟩ hin
  | shutdown => exact absurd rfl he.1
  | poll g => exact ⟨(poll_frame w g).1, (poll_frame w g).2.1, hjobs⟩
  | answer g a =>
    have hkeep := answer_keeps (w := w) (g := g) a fun r hr => Or.inl (hnone _ (mem_of_jobOf hr).1)
    exact ⟨hkeep.1, hkeep.2, hjobs⟩

theorem settled_run (hnone : ∀ j ∈ w.jobs, j.request.generation ≠ w.state.generation)
    (post : List Event) (hq : ∀ e ∈ post, e.Quiet) :
    (w.run post).state = w.state ∧ (w.run post).sink = w.sink := by
  induction post generalizing w with
  | nil => exact ⟨rfl, rfl⟩
  | cons e es ih =>
    obtain ⟨hs, hk, hj⟩ := settled_step hnone (hq e (List.mem_cons_self ..))
    rw [run_cons]
    have := ih (w := w.step e) (hs ▸ hj) (fun e he => hq e (List.mem_cons_of_mem _ he))
    exact ⟨this.1.trans hs, this.2.trans hk⟩

/-- Finishing the lookup of the current generation leaves no task of it. -/
theorem finish_settles (w : Runtime) {r : Request} (o : Outcome) (hr : r.generation = w.state.generation) :
    ∀ j ∈ (w.finish r o).jobs, j.request.generation ≠ (w.finish r o).state.generation := by
  obtain ⟨hg, -, -, -, -, hjobs⟩ := finish_keeps w r o
  intro j hj
  rw [hg, ← hr]
  exact (hjobs j hj).2

theorem shows_of_publish {w w' : Runtime} {x : Item} {c d : Nat}
    (hk : w'.sink = w.sink ++ (publishOf x).map (SinkEntry.mk c d ·)) (hr : w'.state.results = [x]) :
    w'.Shows [x] := by
  refine ⟨?_, ?_, hr⟩ <;> simp [lastResults, lastLoading, hk, publishOf, List.filterMap_append]

/-- An input that shows an item at once keeps it on show through every quiet
run after it. -/
theorem Good.shows_at_once (hw : w.Good) (hopen : w.state.closed = false) {old new : String} {x : Item}
    (hne : old ≠ new) (hx : State.inputItem w.settings w.slot new = some x) (post : List Event)
    (hq : ∀ e ∈ post, e.Quiet) : ((w.input old new).run post).Shows [x] := by
  have heq := input_shows hne hopen hx
  have hnone : ∀ j ∈ (w.input old new).jobs, j.request.generation ≠ (w.input old new).state.generation := by
    rw [heq]
    intro j hj
    have := (hw.jobs_le j hj).2
    simp only [next]
    omega
  obtain ⟨hs, hk⟩ := settled_run hnone post hq
  refine shows_of_publish (w := w) (c := w.next) (d := w.next) ?_ ?_
  · rw [hk, heq]
  · rw [hs, heq]

/-- After an input that asks for a lookup, once quiet events have let its task
finish, the task was answered by the backend while it waited for it, and that
answer decides what is on show: the item it shows, or, for a cancelled lookup,
everything as the input left it. -/
theorem Good.settles_by_answer (hw : w.Good) (hopen : w.state.closed = false) {old new : String}
    (hne : old ≠ new) (hx : State.inputItem w.settings w.slot new = none) (post : List Event)
    (hq : ∀ e ∈ post, e.Quiet)
    (hdone : ∀ j ∈ ((w.input old new).run post).jobs, j.request.generation ≠ w.next) :
    ∃ p₁ a p₂, post = p₁ ++ .answer w.next a :: p₂ ∧
      ((w.input old new).run p₁).jobOf w.next = some ⟨⟨w.next, new⟩, .asking⟩ ∧
      match State.answerItem w.settings new a with
      | some x => ((w.input old new).run post).Shows [x]
      | none =>
        ((w.input old new).run post).sink = (w.input old new).sink ∧
          ((w.input old new).run post).state = (w.input old new).state ∧
          ((w.input old new).run post).lastLoading = some true ∧
          ((w.input old new).run post).state.loading = true := by
  have heq := input_asks hne hopen hx
  have hw₁good := hw.input old new
  generalize w.input old new = w₁ at *
  have hopen₁ : w₁.state.closed = false := by rw [heq]; exact hopen
  have hgen₁ : w₁.state.generation = w.next := by rw [heq]
  have hsink₁ : w₁.lastLoading = some true := by simp [heq, lastLoading, List.filterMap_append]
  have hp₁ : Pending w₁ ⟨w.next, new⟩ .spawned := by
    have hold : w.jobs.filter (·.request.generation == w.next) = [] := by
      simp only [List.filter_eq_nil_iff, beq_iff_eq]
      intro j hj
      have := (hw.jobs_le j hj).2
      simp only [next]
      omega
    simp [Pending, jobsAt, heq, List.filter_append, hold]
  rcases hw₁good.pending_run hopen₁ hgen₁.symm hp₁ post hq with ⟨s', hp, -, -⟩ | ⟨p₁, a, p₂, rfl, hp, hs, hk⟩
  · -- the task is still live at the end, which the run rules out
    have hmem : (⟨⟨w.next, new⟩, s'⟩ : Job) ∈ (w₁.run post).jobs :=
      (List.mem_filter.1 (hp ▸ List.mem_singleton_self _ : _ ∈ (w₁.run post).jobsAt w.next)).1
    exact absurd rfl (hdone _ hmem)
  refine ⟨p₁, a, p₂, rfl, jobOf_of_pending hp, ?_⟩
  have hw₂ : (w₁.run p₁).Good := hw₁good.run p₁
  have hsettings : (w₁.run p₁).settings = w.settings := by rw [(frame_run w₁ p₁).1, heq]
  have hj₂ := jobOf_of_pending hp
  rw [run_append, run_cons]
  generalize w₁.run p₁ = w₂ at *
  have hlive : w.next ∉ w₂.cancelled := by
    rw [hw₂.cancelled_iff, hs, hopen₁, hgen₁]
    simp
  have hstep : w₂.step (.answer w.next a) = w₂.finish ⟨w.next, new⟩ (a.lookup false) := by
    rw [Runtime.step, answer_asking hj₂]
    simp [hlive]
  rw [hstep]
  have hq₂ : ∀ e ∈ p₂, e.Quiet := fun e he => hq e (List.mem_append_right _ (List.mem_cons_of_mem _ he))
  have hr₂ : (⟨w.next, new⟩ : Request).generation = w₂.state.generation := by rw [hs, hgen₁]
  -- once answered, no task of the generation is left, so the rest of the run changes nothing
  obtain ⟨hs₃, hk₃⟩ := settled_run (finish_settles w₂ (a.lookup false) hr₂) p₂ hq₂
  obtain ⟨w₃, hw₃⟩ : ∃ w₃, w₂.finish ⟨w.next, new⟩ (a.lookup false) = w₃ := ⟨_, rfl⟩
  rw [hw₃] at hs₃ hk₃ ⊢
  cases hxa : State.answerItem w.settings new a with
  | some x =>
    have hxo : State.outcomeItem w₂.settings new (a.lookup false) = some x := by
      rw [hsettings, State.outcomeItem_lookup]
      exact hxa
    have hopen₂ : w₂.state.closed = false := by rw [hs]; exact hopen₁
    have h₃ := finish_shows hopen₂ hr₂ hxo
    rw [hw₃] at h₃
    exact shows_of_publish (w := w₂) (hk₃.trans (by rw [h₃])) (by rw [hs₃, h₃])
  | none =>
    have hxo : State.outcomeItem w₂.settings new (a.lookup false) = none := by
      rw [hsettings, State.outcomeItem_lookup]
      exact hxa
    have h₃ := finish_quiet (w := w₂) (r := ⟨w.next, new⟩) (Or.inr (Or.inr hxo))
    rw [hw₃] at h₃
    have hs₄ : (w₃.run p₂).state = w₁.state := by rw [hs₃, h₃, hs]
    have hk₄ : (w₃.run p₂).sink = w₁.sink := by rw [hk₃, h₃, hk]
    refine ⟨hk₄, hs₄, ?_, ?_⟩
    · rw [← hsink₁]
      simp only [lastLoading, hk₄]
    · rw [hs₄, heq]

/-! ## The last input decides -/

/-- What the last input change leaves on show, under any schedule and whatever
happened to earlier generations, once the run has gone on with no input change
and no shutdown until the task of the last generation has finished. A text that
trims to nothing, or to fewer characters than the settings ask for, shows the
placeholder; a controller without a backend shows why; otherwise the task
asked the backend with the untrimmed text and was answered, and the answer
decides: the item it shows stays on show with loading off, and a cancelled
answer leaves the sink and the controller as the input left them, loading. -/
theorem last_input_decides_results (settings : Settings) (slot : Slot) (pre post : List Event)
    (old text : String) (hne : old ≠ text) (hopen : Event.shutdown ∉ pre)
    (hquiet : ∀ e ∈ post, e.Quiet)
    (hdone : ∀ j ∈ ((start settings slot).run (pre ++ .input old text :: post)).jobs,
      j.request.generation ≠ (Event.texts pre).length + 1) :
    let g := (Event.texts pre).length + 1
    let w₁ := (start settings slot).run (pre ++ [.input old text])
    if Text.trim text.toList = [] ∨ (Text.trim text.toList).length < settings.minChars then
      (w₁.run post).Shows [Item.placeholder]
    else
      match slot with
      | .unavailable reason => (w₁.run post).Shows [Item.diagnostic (.unavailable reason)]
      | .ready _ =>
        ∃ p₁ a p₂, post = p₁ ++ .answer g a :: p₂ ∧ (w₁.run p₁).jobOf g = some ⟨⟨g, text⟩, .asking⟩ ∧
          match State.answerItem settings text a with
          | some x => (w₁.run post).Shows [x]
          | none =>
            (w₁.run post).sink = w₁.sink ∧ (w₁.run post).state = w₁.state ∧
              (w₁.run post).lastLoading = some true ∧ (w₁.run post).state.loading = true := by
  intro g w₁
  have hw₀ := good_run settings slot pre
  have hopen₀ : ((start settings slot).run pre).state.closed = false := by
    cases h : ((start settings slot).run pre).state.closed
    · rfl
    · exact absurd ((closed_start_run settings slot pre).1 h) hopen
  have hnext : ((start settings slot).run pre).next = g := by
    simp only [next, generation_start_run, g]
  have hsettings : ((start settings slot).run pre).settings = settings := (frame_run _ pre).1
  have hslot : ((start settings slot).run pre).slot = slot := (frame_run _ pre).2
  have hw₁ : w₁ = ((start settings slot).run pre).input old text := run_concat _ _ _
  have hdone₁ : ∀ j ∈ (w₁.run post).jobs, j.request.generation ≠ g := by
    have : pre ++ .input old text :: post = (pre ++ [.input old text]) ++ post := by simp
    rw [this, run_append] at hdone
    exact hdone
  rw [hw₁] at hdone₁ ⊢
  by_cases hshort : Text.trim text.toList = [] ∨ (Text.trim text.toList).length < settings.minChars
  · rw [if_pos hshort]
    have hx : State.inputItem ((start settings slot).run pre).settings ((start settings slot).run pre).slot
        text = some Item.placeholder := by
      have htoo : State.tooShort settings text = true := by simpa [State.tooShort] using hshort
      rw [hsettings]
      simp [State.inputItem, htoo]
    exact hw₀.shows_at_once hopen₀ hne hx post hquiet
  rw [if_neg hshort]
  have hlong : State.tooShort settings text = false := by simpa [State.tooShort] using hshort
  cases slot with
  | unavailable reason =>
    have hx : State.inputItem ((start settings (.unavailable reason)).run pre).settings
        ((start settings (.unavailable reason)).run pre).slot text =
          some (Item.diagnostic (.unavailable reason)) := by
      rw [hsettings, hslot]
      simp [State.inputItem, hlong]
    exact hw₀.shows_at_once hopen₀ hne hx post hquiet
  | ready name =>
    have hx : State.inputItem ((start settings (.ready name)).run pre).settings
        ((start settings (.ready name)).run pre).slot text = none := by
      rw [hsettings, hslot]
      simp [State.inputItem, hlong]
    obtain ⟨p₁, a, p₂, hpost, hjob, hmatch⟩ :=
      hw₀.settles_by_answer hopen₀ hne hx post hquiet (by rw [hnext]; exact hdone₁)
    rw [hnext] at hpost hjob
    rw [hsettings] at hmatch
    exact ⟨p₁, a, p₂, hpost, hjob, hmatch⟩

/-- A lookup still asking the backend when the text changes is answered late:
its answer is dropped, the new text waits out its quiet period, is looked
up, and its translation stays on show, with the link the default settings
make of it. -/
theorem late_answer_yields_to_last_input :
    (((start Settings.default (.ready "stub")).run [.input "" "cat", .poll 1, .poll 1, .input "cat" "dog"]).run
        [.answer 1 (.outcome (.success "猫")), .poll 2, .poll 2, .answer 2 (.outcome (.success "狗"))]).Shows
      [⟨"狗", .translation, some (.openUrl "https://dict.youdao.com/result?word=dog&lang=en")⟩] := by
  have h := last_input_decides_results Settings.default (.ready "stub") [.input "" "cat", .poll 1, .poll 1]
    [.answer 1 (.outcome (.success "猫")), .poll 2, .poll 2, .answer 2 (.outcome (.success "狗"))] "cat" "dog"
    (by decide) (by simp)
    (by
      intro e he
      simp only [List.mem_cons, List.not_mem_nil, or_false] at he
      rcases he with rfl | rfl | rfl | rfl <;> simp [Event.Quiet])
    (by decide)
  have hlong : ¬(Text.trim "dog".toList = [] ∨ (Text.trim "dog".toList).length < Settings.default.minChars) := by
    decide
  simp only [List.cons_append, List.nil_append] at h
  rw [if_neg hlong] at h
  obtain ⟨p₁, a, p₂, hpost, -, hmatch⟩ := h
  -- the one answer to generation 2 is the last event
  have ha : a = .outcome (.success "狗") := by
    rcases p₁ with _ | ⟨x₁, _ | ⟨x₂, _ | ⟨x₃, _ | ⟨x₄, p₁⟩⟩⟩⟩ <;> simp [Event.texts] at hpost
    exact hpost.2.2.2.1.symm
  subst ha
  exact hmatch

end Runtime

end Typeahead.Query
