-- What the sink was told and what the controller holds. The sink's record is
-- a run of whole blocks, each the loading signal alone or one publish of one
-- item, and the controller always holds exactly one item. Its result list is
-- the one last published, or the placeholder while nothing has been; its
-- loading flag is the last loading signal, or off while none has been sent.
-- The two are not tied together before the first publish: an input that
-- starts a lookup sends the loading signal alone, so the sink may show
-- loading while nothing has been published.
import Typeahead.Proofs.Query.Settling

namespace Typeahead.Query

/-- A block of sink calls: the loading signal alone, or one publish of one item. -/
def Block (calls : List SinkCall) : Prop := calls = [.setLoading true] ∨ ∃ x, calls = publishOf x

/-- The item list a sink call publishes, if it publishes one. -/
def SinkCall.published? : SinkCall → Option (List Item)
  | .setResults items => some items
  | _ => none

/-- The loading flag a sink call signals, if it signals one. -/
def SinkCall.signalled? : SinkCall → Option Bool
  | .setLoading on => some on
  | _ => none

namespace Runtime

/-- The calls made on the sink, oldest first. -/
def told (w : Runtime) : List SinkCall := w.sink.map (·.call)

variable {w w' : Runtime}

theorem lastResults_eq (w : Runtime) : w.lastResults = (w.told.filterMap SinkCall.published?).getLast? := by
  simp only [lastResults, told, List.filterMap_map]
  congr 2

theorem lastLoading_eq (w : Runtime) : w.lastLoading = (w.told.filterMap SinkCall.signalled?).getLast? := by
  simp only [lastLoading, told, List.filterMap_map]
  congr 2

@[simp] theorem published_publishOf (x : Item) : (publishOf x).filterMap SinkCall.published? = [[x]] := rfl

@[simp] theorem signalled_publishOf (x : Item) : (publishOf x).filterMap SinkCall.signalled? = [false] := rfl

/-- What one event can do to what the controller holds and what the sink was
told: nothing, publish one item, or send the loading signal alone. -/
inductive Change (w w' : Runtime) : Prop where
  | keep : w'.state.results = w.state.results → w'.state.loading = w.state.loading →
      w'.told = w.told → Change w w'
  | publish (x : Item) : w'.state.results = [x] → w'.state.loading = false →
      w'.told = w.told ++ publishOf x → Change w w'
  | signal : w'.state.results = w.state.results → w'.state.loading = true →
      w'.told = w.told ++ [.setLoading true] → Change w w'

theorem told_of_sink {es : List SinkEntry} (h : w'.sink = w.sink ++ es) :
    w'.told = w.told ++ es.map (·.call) := by
  simp [told, h]

theorem Change.of_frame (hs : w'.state = w.state) (hk : w'.sink = w.sink) : Change w w' :=
  .keep (by rw [hs]) (by rw [hs]) (by simp [told, hk])

theorem Change.finish (w : Runtime) (r : Request) (o : Outcome) : Change w (w.finish r o) := by
  rcases finish_cases w r o with ⟨x, -, -, -, h⟩ | h
  · refine .publish x (by rw [h]) (by rw [h]) ?_
    rw [told_of_sink (w := w) (by rw [h]), List.map_map]
    rfl
  · exact .of_frame (by rw [h]) (by rw [h])

theorem Change.input (w : Runtime) (old new : String) : Change w (w.input old new) := by
  by_cases hidle : old = new ∨ w.state.closed = true
  · rw [input_idle hidle]
    exact .of_frame rfl rfl
  have hne : old ≠ new := fun h => hidle (Or.inl h)
  have hopen : w.state.closed = false := by simpa using fun h => hidle (Or.inr h)
  cases hx : State.inputItem w.settings w.slot new with
  | some x =>
    rw [input_shows hne hopen hx]
    refine .publish x rfl rfl ?_
    rw [told_of_sink (w := w) rfl, List.map_map]
    rfl
  | none =>
    rw [input_asks hne hopen hx]
    refine .signal rfl rfl ?_
    rw [told_of_sink (w := w) rfl]
    rfl

theorem change_step (w : Runtime) : ∀ e, Change w (w.step e)
  | .input old new => .input w old new
  | .shutdown => by
    simp only [Runtime.step]
    cases hc : w.state.closed with
    | true =>
      rw [shutdown_closed hc]
      exact .of_frame rfl rfl
    | false =>
      rw [shutdown_open hc]
      exact .keep rfl rfl rfl
  | .poll g => .of_frame (poll_frame w g).1 (poll_frame w g).2.1
  | .answer g a => by
    simp only [Runtime.step]
    rcases answer_cases w g a with h | ⟨r, -, h⟩
    · rw [h]
      exact .of_frame rfl rfl
    · rw [h]
      exact .finish w r _

/-! ## The invariant -/

/-- What the sink was told mirrors what the controller holds. -/
structure Mirrors (w : Runtime) : Prop where
  single : ∃ x, w.state.results = [x]
  blocks : ∃ bs : List (List SinkCall), (∀ b ∈ bs, Block b) ∧ w.told = bs.flatten
  results_eq : (w.told.filterMap SinkCall.published?).getLast?.getD [Item.placeholder] = w.state.results
  loading_eq : (w.told.filterMap SinkCall.signalled?).getLast?.getD false = w.state.loading

theorem mirrors_start (settings : Settings) (slot : Slot) : (start settings slot).Mirrors where
  single := ⟨Item.placeholder, rfl⟩
  blocks := ⟨[], by simp, rfl⟩
  results_eq := rfl
  loading_eq := rfl

/-- Appending one block to the record keeps it a run of blocks. -/
theorem blocks_append {calls b : List SinkCall}
    (h : ∃ bs : List (List SinkCall), (∀ b ∈ bs, Block b) ∧ calls = bs.flatten) (hb : Block b) :
    ∃ bs : List (List SinkCall), (∀ b ∈ bs, Block b) ∧ calls ++ b = bs.flatten := by
  obtain ⟨bs, hall, rfl⟩ := h
  refine ⟨bs ++ [b], fun b' hb' => ?_, by simp⟩
  rcases List.mem_append.1 hb' with h | h
  · exact hall b' h
  · rw [List.mem_singleton.1 h]
    exact hb

theorem Mirrors.change (hw : w.Mirrors) (hc : Change w w') : w'.Mirrors := by
  cases hc with
  | keep hr hl ht =>
    refine ⟨?_, ?_, ?_, ?_⟩
    · rw [hr]
      exact hw.single
    · rw [ht]
      exact hw.blocks
    · rw [ht, hr]
      exact hw.results_eq
    · rw [ht, hl]
      exact hw.loading_eq
  | publish x hr hl ht =>
    -- the publish's own calls are the last of both kinds
    refine ⟨⟨x, hr⟩, ?_, ?_, ?_⟩
    · rw [ht]
      exact blocks_append hw.blocks (Or.inr ⟨x, rfl⟩)
    · simp [ht, hr, List.filterMap_append]
    · simp [ht, hl, List.filterMap_append]
  | signal hr hl ht =>
    -- the loading signal publishes nothing, so the last publish stands
    refine ⟨hr ▸ hw.single, ?_, ?_, ?_⟩
    · rw [ht]
      exact blocks_append hw.blocks (Or.inl rfl)
    · simpa [ht, hr, List.filterMap_append, SinkCall.published?] using hw.results_eq
    · simp [ht, hl, List.filterMap_append, SinkCall.signalled?]

theorem Mirrors.run (hw : w.Mirrors) (events : List Event) : (w.run events).Mirrors := by
  induction events generalizing w with
  | nil => exact hw
  | cons e es ih => exact ih (hw.change (change_step w e))

/-- After any run, the controller holds exactly one item; the sink's record is
a run of blocks, each the loading signal alone or one whole publish of one
item; the controller's result list is the last one published, or the
placeholder while nothing has been; and its loading flag is the last loading
signal, or off while none has been sent. -/
theorem sink_mirrors_state (settings : Settings) (slot : Slot) (events : List Event) :
    let w := (start settings slot).run events
    (∃ x, w.state.results = [x]) ∧
    (∃ blocks : List (List SinkCall), (∀ b ∈ blocks, b = [.setLoading true] ∨ ∃ x, b = publishOf x) ∧
      w.sink.map (·.call) = blocks.flatten) ∧
    ((w.lastResults = none ∧ w.state.results = [Item.placeholder]) ∨ w.lastResults = some w.state.results) ∧
    ((w.lastLoading = none ∧ w.state.loading = false) ∨ w.lastLoading = some w.state.loading) := by
  intro w
  have hw : w.Mirrors := (mirrors_start settings slot).run events
  refine ⟨hw.single, hw.blocks, ?_, ?_⟩
  · have h := hw.results_eq
    rw [← lastResults_eq] at h
    cases hl : w.lastResults <;> simp_all
  · have h := hw.loading_eq
    rw [← lastLoading_eq] at h
    cases hl : w.lastLoading <;> simp_all

/-- An input that starts a lookup sends the loading signal alone: before the
first publish the controller holds the placeholder with loading on, and the
sink shows loading with nothing published. -/
theorem loading_before_any_publish :
    let w := (start Settings.default (.ready scriptedName)).run [.input "" "hello"]
    w.lastResults = none ∧ w.lastLoading = some true ∧
    w.state.results = [Item.placeholder] ∧ w.state.loading = true ∧
    ¬ ((w.lastResults = none ∧ w.state.results = [Item.placeholder] ∧ w.state.loading = false) ∨
      (w.lastResults = some w.state.results ∧ w.lastLoading = some w.state.loading)) := by
  decide

end Runtime

end Typeahead.Query
