-- What each action of the controller does, and what each event of a run does
-- to the runtime. An input either shows one item at once or asks for a
-- lookup; a finished lookup either shows one item or leaves everything as it
-- was. Later proofs use these equations and never unfold the actions.
import Typeahead.Query.Interleaving

namespace Typeahead.Query

/-- The three sink calls that show a one-item result list. -/
def publishOf (x : Item) : List SinkCall := [.setResults [x], .setLoading false, .notify]

/-- How many backends a slot holds: one when ready, none when unavailable. -/
def Slot.held : Slot → Nat
  | .ready _ => 1
  | .unavailable _ => 0

/-! ## The controller's actions -/

namespace State

/-- The item an input shows at once, if it shows one: the placeholder for a
short input, and the reason for a controller without a backend. -/
def inputItem (settings : Settings) (slot : Slot) (new : String) : Option Item :=
  if tooShort settings new then some Item.placeholder
  else
    match slot with
    | .unavailable reason => some (Item.diagnostic (.unavailable reason))
    | .ready _ => none

/-- The item a finished lookup of `text` shows, unless it was cancelled. -/
def outcomeItem (settings : Settings) (text : String) : Outcome → Option Item
  | .success t => some (Item.translation t (actionFor settings text))
  | .failure r => some (Item.diagnostic r)
  | .cancelled => none

/-- The item that the backend's answer to a lookup of `text` shows, if any: the
translated text, with a link to the trimmed query when there is a link template;
the reason's message for a failure, a model failure for a breakdown; nothing
for a cancelled lookup. -/
def answerItem (settings : Settings) (text : String) : Answer → Option Item
  | .outcome (.success s) =>
    some ⟨s, .translation, settings.lookupUrl.map fun t => .openUrl (Text.fillTemplate t (Text.trimString text))⟩
  | .outcome (.failure r) => some ⟨r.message, .diagnostic, none⟩
  | .outcome .cancelled => none
  | .breakdown _ => some ⟨(FailureReason.modelRuntime "translation backend panicked").message, .diagnostic, none⟩

/-- With its token live, a lookup shows what the backend's answer shows. -/
theorem outcomeItem_lookup (settings : Settings) (text : String) (a : Answer) :
    outcomeItem settings text (a.lookup false) = answerItem settings text a := by
  cases a with
  | breakdown m => rfl
  | outcome o => cases o <;> rfl

theorem onInput_idle (settings : Settings) (slot : Slot) (s : State) (old new : String)
    (h : old = new ∨ s.closed = true) : s.onInput settings slot old new = (s, ⟨[], []⟩, none) := by
  rcases h with h | h <;> simp [onInput, h]

/-- An input that shows an item moves to the next generation and publishes it. -/
theorem onInput_shows {settings : Settings} {slot : Slot} {s : State} {old new : String} {x : Item}
    (hne : old ≠ new) (hopen : s.closed = false) (hx : inputItem settings slot new = some x) :
    ∃ notes, s.onInput settings slot old new =
      ({ s with generation := s.generation + 1, results := [x], loading := false },
        ⟨publishOf x, notes⟩, none) := by
  unfold inputItem at hx
  unfold onInput
  split at hx
  · cases hx
    simp [*, publish, publishOf]
  · split at hx
    · cases hx
      simp [*, publish, publishOf]
    · cases hx

/-- Any other input moves to the next generation, turns loading on and asks
for a lookup of the new text, untrimmed. -/
theorem onInput_asks {settings : Settings} {slot : Slot} {s : State} {old new : String}
    (hne : old ≠ new) (hopen : s.closed = false) (hx : inputItem settings slot new = none) :
    ∃ notes, s.onInput settings slot old new =
      ({ s with generation := s.generation + 1, loading := true },
        ⟨[.setLoading true], notes⟩, some ⟨s.generation + 1, new⟩) := by
  unfold inputItem at hx
  unfold onInput
  split at hx
  · cases hx
  · split at hx
    · cases hx
    · simp [*]

/-- A lookup that is stale, comes after the close, or was cancelled changes
nothing and calls nothing. -/
theorem complete_quiet {settings : Settings} {s : State} {g : Nat} {text : String} {o : Outcome}
    (h : s.closed = true ∨ g ≠ s.generation ∨ outcomeItem settings text o = none) :
    ∃ notes, s.complete settings g text o = (s, ⟨[], notes⟩) := by
  have hstale : outcomeItem settings text o ≠ none → s.closed = true ∨ g ≠ s.generation := by
    intro hx
    rcases h with h | h | h
    · exact Or.inl h
    · exact Or.inr h
    · exact absurd h hx
  unfold complete
  cases o with
  | cancelled => split <;> simp
  | success t =>
    rcases hstale (by simp [outcomeItem]) with hs | hs <;> simp [hs]
  | failure r =>
    rcases hstale (by simp [outcomeItem]) with hs | hs <;> simp [hs]

/-- A finished lookup never moves the generation and never closes the controller. -/
theorem complete_keeps (settings : Settings) (s : State) (g : Nat) (text : String) (o : Outcome) :
    (s.complete settings g text o).1.generation = s.generation ∧
      (s.complete settings g text o).1.closed = s.closed := by
  unfold complete
  split
  · simp
  · cases o <;> simp

/-- A current lookup of an open controller shows its item. -/
theorem complete_shows {settings : Settings} {s : State} {g : Nat} {text : String} {o : Outcome}
    {x : Item} (hopen : s.closed = false) (hg : g = s.generation)
    (hx : outcomeItem settings text o = some x) :
    ∃ notes, s.complete settings g text o =
      ({ s with results := [x], loading := false }, ⟨publishOf x, notes⟩) := by
  unfold complete
  cases o with
  | cancelled => simp [outcomeItem] at hx
  | success t =>
    simp only [outcomeItem, Option.some.injEq] at hx
    simp [hopen, hg, ← hx, publish, publishOf]
  | failure r =>
    simp only [outcomeItem, Option.some.injEq] at hx
    simp [hopen, hg, ← hx, publish, publishOf]

end State

/-! ## The events of a run -/

namespace Runtime

variable {w : Runtime}

@[simp] theorem run_nil (w : Runtime) : w.run [] = w := rfl

theorem run_append (w : Runtime) (es es' : List Event) : w.run (es ++ es') = (w.run es).run es' := by
  simp [run, List.foldl_append]

theorem run_cons (w : Runtime) (e : Event) (es : List Event) : w.run (e :: es) = (w.step e).run es := rfl

theorem run_concat (w : Runtime) (es : List Event) (e : Event) : w.run (es ++ [e]) = (w.run es).step e := by
  simp [run]

theorem mem_of_jobOf {g : Nat} {j : Job} (h : w.jobOf g = some j) :
    j ∈ w.jobs ∧ j.request.generation = g := by
  unfold jobOf at h
  exact ⟨List.mem_of_find?_eq_some h, by simpa using List.find?_some h⟩

theorem input_idle {old new : String} (h : old = new ∨ w.state.closed = true) : w.input old new = w := by
  rcases h with h | h <;> simp [input, h]

/-- The next generation of an input. -/
abbrev next (w : Runtime) : Nat := w.state.generation + 1

theorem input_shows {old new : String} {x : Item} (hne : old ≠ new) (hopen : w.state.closed = false)
    (hx : State.inputItem w.settings w.slot new = some x) :
    w.input old new =
      { w with state := { w.state with generation := w.next, results := [x], loading := false },
               latest := max w.latest w.next, cancelled := w.cancelled ++ [w.state.generation],
               sink := w.sink ++ (publishOf x).map (⟨w.next, w.next, ·⟩) } := by
  obtain ⟨notes, hn⟩ := State.onInput_shows hne hopen hx
  simp [input, hne, hopen, hn, tell]

theorem input_asks {old new : String} (hne : old ≠ new) (hopen : w.state.closed = false)
    (hx : State.inputItem w.settings w.slot new = none) :
    w.input old new =
      { w with state := { w.state with generation := w.next, loading := true },
               latest := max w.latest w.next, cancelled := w.cancelled ++ [w.state.generation],
               jobs := w.jobs ++ [⟨⟨w.next, new⟩, .spawned⟩],
               sink := w.sink ++ [⟨w.next, w.next, .setLoading true⟩] } := by
  obtain ⟨notes, hn⟩ := State.onInput_asks hne hopen hx
  simp [input, hne, hopen, hn, tell]

theorem shutdown_closed (h : w.state.closed = true) : w.shutdown = w := by
  simp [shutdown, h]

theorem shutdown_open (h : w.state.closed = false) :
    w.shutdown =
      { w with state := { w.state with closed := true }, cancelled := w.cancelled ++ [w.state.generation],
               released := true,
               releases := if w.released then w.releases else w.releases + w.slot.held } := by
  unfold shutdown
  cases w.released <;> cases w.slot <;> simp [h, State.shutdown, Slot.held]

/-- A finished lookup that shows nothing only ends its task. -/
theorem finish_quiet {r : Request} {o : Outcome}
    (h : w.state.closed = true ∨ r.generation ≠ w.state.generation ∨
      State.outcomeItem w.settings r.text o = none) :
    w.finish r o = { w with jobs := w.jobs.filter (·.request.generation != r.generation) } := by
  obtain ⟨notes, hn⟩ := State.complete_quiet h
  simp [finish, hn, tell]

/-- A finished lookup of the current generation of an open controller shows its item. -/
theorem finish_shows {r : Request} {o : Outcome} {x : Item} (hopen : w.state.closed = false)
    (hg : r.generation = w.state.generation) (hx : State.outcomeItem w.settings r.text o = some x) :
    w.finish r o =
      { w with state := { w.state with results := [x], loading := false },
               jobs := w.jobs.filter (·.request.generation != r.generation),
               sink := w.sink ++ (publishOf x).map (⟨r.generation, w.state.generation, ·⟩) } := by
  obtain ⟨notes, hn⟩ := State.complete_shows hopen hg hx
  simp [finish, hn, tell]

/-- A finished lookup shows its item, or only ends its task. -/
theorem finish_cases (w : Runtime) (r : Request) (o : Outcome) :
    (∃ x, w.state.closed = false ∧ r.generation = w.state.generation ∧
        State.outcomeItem w.settings r.text o = some x ∧
        w.finish r o =
          { w with state := { w.state with results := [x], loading := false },
                   jobs := w.jobs.filter (·.request.generation != r.generation),
                   sink := w.sink ++ (publishOf x).map (⟨r.generation, w.state.generation, ·⟩) }) ∨
      w.finish r o = { w with jobs := w.jobs.filter (·.request.generation != r.generation) } := by
  by_cases h : w.state.closed = false ∧ r.generation = w.state.generation ∧
      (State.outcomeItem w.settings r.text o).isSome
  · obtain ⟨hopen, hg, hsome⟩ := h
    obtain ⟨x, hx⟩ := Option.isSome_iff_exists.1 hsome
    exact Or.inl ⟨x, hopen, hg, hx, finish_shows hopen hg hx⟩
  · refine Or.inr (finish_quiet ?_)
    cases hc : w.state.closed <;> cases hx : State.outcomeItem w.settings r.text o <;> simp_all

@[simp] theorem finish_cancelled (r : Request) :
    w.finish r .cancelled = { w with jobs := w.jobs.filter (·.request.generation != r.generation) } :=
  finish_quiet (Or.inr (Or.inr rfl))

theorem poll_spawned {g : Nat} {r : Request} (hj : w.jobOf g = some ⟨r, .spawned⟩) :
    w.poll g =
      if g ∈ w.cancelled then ({ w with latest := max w.latest g }).finish r .cancelled
      else ({ w with latest := max w.latest g }).restage g .quiet := by
  simp [poll, hj]

theorem poll_quiet {g : Nat} {r : Request} (hj : w.jobOf g = some ⟨r, .quiet⟩) :
    w.poll g =
      if g ∈ w.cancelled ∨ w.latest ≠ g then w.finish r .cancelled
      else ({ w with calls := w.calls ++ [r] }).restage g .asking := by
  simp [poll, hj]

theorem poll_idle {g : Nat} (h : ∀ r, w.jobOf g ≠ some ⟨r, .spawned⟩ ∧ w.jobOf g ≠ some ⟨r, .quiet⟩) :
    w.poll g = w := by
  unfold poll
  rcases hj : w.jobOf g with _ | ⟨r, stage⟩
  · rfl
  · cases stage with
    | spawned => exact absurd hj (h r).1
    | quiet => exact absurd hj (h r).2
    | asking => rfl

/-- A task that runs up to its next await never changes what the controller
holds or shows: it may end cancelled, or move on and ask the backend. -/
theorem poll_frame (w : Runtime) (g : Nat) :
    (w.poll g).state = w.state ∧ (w.poll g).sink = w.sink ∧ (w.poll g).cancelled = w.cancelled ∧
      (w.poll g).releases = w.releases := by
  unfold poll
  rcases w.jobOf g with _ | ⟨r, stage⟩
  · simp
  · cases stage <;> simp only <;> (try split) <;> simp [restage]

/-- A task asks the backend only out of its quiet period, with its token live
and its generation the newest the sequencer has seen. -/
theorem poll_calls (w : Runtime) (g : Nat) :
    (w.poll g).calls = w.calls ∨
      ∃ r, w.jobOf g = some ⟨r, .quiet⟩ ∧ g ∉ w.cancelled ∧ w.latest = g ∧
        (w.poll g).calls = w.calls ++ [r] := by
  unfold poll
  rcases hj : w.jobOf g with _ | ⟨r, stage⟩
  · simp
  · cases stage with
    | spawned => simp only; split <;> simp [restage]
    | quiet =>
      simp only
      split
      · simp
      · rename_i h
        simp only [not_or, Decidable.not_not] at h
        exact Or.inr ⟨r, rfl, h.1, h.2, by simp [restage]⟩
    | asking => simp

/-- The tasks after a poll run the lookups of tasks before it. -/
theorem poll_jobs (w : Runtime) (g : Nat) :
    ∀ j ∈ (w.poll g).jobs, ∃ j' ∈ w.jobs, j'.request = j.request := by
  have hre : ∀ (w : Runtime) s, ∀ j ∈ (w.restage g s).jobs, ∃ j' ∈ w.jobs, j'.request = j.request := by
    intro w s j hj
    obtain ⟨j', hj', rfl⟩ := List.mem_map.1 hj
    exact ⟨j', hj', by split <;> rfl⟩
  have hdrop : ∀ r, ∀ j ∈ (w.finish r .cancelled).jobs, ∃ j' ∈ w.jobs, j'.request = j.request := by
    intro r j hj
    simp only [finish_cancelled, List.mem_filter] at hj
    exact ⟨j, hj.1, rfl⟩
  unfold poll
  rcases w.jobOf g with _ | ⟨r, stage⟩
  · exact fun j hj => ⟨j, hj, rfl⟩
  · cases stage with
    | spawned =>
      simp only
      split
      · exact hdrop r
      · exact hre _ _
    | quiet =>
      simp only
      split
      · exact hdrop r
      · exact hre _ _
    | asking => exact fun j hj => ⟨j, hj, rfl⟩

theorem answer_asking {g : Nat} {r : Request} {a : Answer} (hj : w.jobOf g = some ⟨r, .asking⟩) :
    w.answer g a = w.finish r (a.lookup (g ∈ w.cancelled)) := by
  simp [answer, hj]

theorem answer_idle {g : Nat} {a : Answer} (h : ∀ r, w.jobOf g ≠ some ⟨r, .asking⟩) :
    w.answer g a = w := by
  unfold answer
  rcases hj : w.jobOf g with _ | ⟨r, stage⟩
  · rfl
  · cases stage with
    | asking => exact absurd hj (h r)
    | spawned | quiet => simp

/-- The backend's answer does something only to a task waiting for it. -/
theorem answer_cases (w : Runtime) (g : Nat) (a : Answer) :
    w.answer g a = w ∨
      ∃ r, w.jobOf g = some ⟨r, .asking⟩ ∧ w.answer g a = w.finish r (a.lookup (g ∈ w.cancelled)) := by
  by_cases h : ∃ r, w.jobOf g = some ⟨r, .asking⟩
  · obtain ⟨r, hr⟩ := h
    exact Or.inr ⟨r, hr, answer_asking hr⟩
  · exact Or.inl (answer_idle fun r hr => h ⟨r, hr⟩)

theorem finish_keeps (w : Runtime) (r : Request) (o : Outcome) :
    (w.finish r o).state.generation = w.state.generation ∧ (w.finish r o).state.closed = w.state.closed ∧
      (w.finish r o).cancelled = w.cancelled ∧ (w.finish r o).calls = w.calls ∧
      (w.finish r o).releases = w.releases ∧
      ∀ j ∈ (w.finish r o).jobs, j ∈ w.jobs ∧ j.request.generation ≠ r.generation := by
  have := State.complete_keeps w.settings w.state r.generation r.text o
  refine ⟨this.1, this.2, rfl, rfl, rfl, fun j hj => ?_⟩
  simpa [finish, tell] using hj

end Runtime

end Typeahead.Query
