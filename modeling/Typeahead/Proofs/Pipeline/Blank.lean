-- Blank texts through two phrase models. A phrase model's output words are
-- words of the text or of a target of its table, so none is empty or holds a
-- blank; joined by any joiner, blank or empty, they make a blank text only
-- when there is none of them, and there is none only for a blank text. So a
-- stage's output is blank exactly when its input is, the second stage sees a
-- blank text only when the first did, and a lookup through two phrase models
-- with a live token finds nothing exactly for a blank text and otherwise
-- gives the second model's translation of the first's. The controller never
-- asks a lookup for a text that trims to nothing, so it never meets that
-- failure.
import Mathlib
import Typeahead.Proofs.Lexicon.Greedy
import Typeahead.Proofs.Pipeline.Cancellation
import Typeahead.Query.Controller

namespace Typeahead

/-! ## Words and blanks -/

namespace Text

instance (cs : List Char) : Decidable (IsBlankText cs) :=
  inferInstanceAs (Decidable (∀ c ∈ cs, isBlank c = true))

/-- A word: characters, at least one, none of them a blank. -/
def IsWord (w : List Char) : Prop := w ≠ [] ∧ ∀ c ∈ w, isBlank c = false

theorem wordsFrom_eq_nil_iff (cs acc : List Char) :
    wordsFrom cs acc = [] ↔ acc = [] ∧ IsBlankText cs := by
  induction cs generalizing acc with
  | nil => cases acc <;> simp [wordsFrom, IsBlankText]
  | cons c r ih =>
    by_cases hc : isBlank c = true
    · cases acc with
      | nil => simp [wordsFrom, hc, ih, IsBlankText]
      | cons a acc => simp [wordsFrom, hc]
    · simp [wordsFrom, hc, ih, IsBlankText]

/-- A text has no word exactly when it is blank. -/
theorem words_eq_nil_iff (cs : List Char) : words cs = [] ↔ IsBlankText cs := by
  simp [words, wordsFrom_eq_nil_iff]

theorem isWord_of_mem_wordsFrom {cs acc w : List Char} (hacc : ∀ c ∈ acc, isBlank c = false)
    (h : w ∈ wordsFrom cs acc) : IsWord w := by
  induction cs generalizing acc with
  | nil =>
    cases acc with
    | nil => simp [wordsFrom] at h
    | cons a acc =>
      simp only [wordsFrom, List.isEmpty_cons, Bool.false_eq_true, if_false, List.mem_singleton] at h
      subst h
      exact ⟨by simp, fun c hc => hacc c (List.mem_reverse.1 hc)⟩
  | cons c r ih =>
    by_cases hc : isBlank c = true
    · cases acc with
      | nil =>
        simp only [wordsFrom, hc, List.isEmpty_nil, if_true] at h
        exact ih (by simp) h
      | cons a acc =>
        simp only [wordsFrom, hc, List.isEmpty_cons, Bool.false_eq_true, if_false, if_true,
          List.mem_cons] at h
        rcases h with rfl | h
        · exact ⟨by simp, fun c hc => hacc c (List.mem_reverse.1 hc)⟩
        · exact ih (by simp) h
    · -- the character joins the word being read, which stays free of blanks
      simp only [wordsFrom, hc, Bool.false_eq_true, if_false] at h
      refine ih (fun d hd => ?_) h
      rcases List.mem_cons.1 hd with rfl | hd
      · simpa using hc
      · exact hacc d hd

/-- The words of a text are words. -/
theorem isWord_of_mem_words {cs w : List Char} (h : w ∈ words cs) : IsWord w :=
  isWord_of_mem_wordsFrom (by simp) h

/-- The words of a text, made strings, are words. -/
theorem isWord_of_mem_map_words {cs : List Char} {w : String} (h : w ∈ (words cs).map String.ofList) :
    IsWord w.toList := by
  obtain ⟨ws, hws, rfl⟩ := List.mem_map.1 h
  rw [String.toList_ofList]
  exact isWord_of_mem_words hws

/-- A text trims to nothing exactly when it is blank. -/
theorem trim_eq_nil_iff (cs : List Char) : trim cs = [] ↔ IsBlankText cs := by
  have hdrop : ∀ l : List Char,
      (∀ c ∈ l.dropWhile isBlank, isBlank c = true) ↔ ∀ c ∈ l, isBlank c = true := by
    intro l
    rw [← List.dropWhile_eq_nil_iff, ← List.dropWhile_eq_nil_iff, List.dropWhile_idempotent]
  simp only [trim, trimEnd, trimStart, List.reverse_eq_nil_iff, List.dropWhile_eq_nil_iff,
    List.mem_reverse, hdrop, IsBlankText]

/-- Words joined by any joiner, blank or empty, make a blank text only when
there is none of them: the first word's characters are not blanks. -/
theorem intercalate_blank_iff (j : String) {ws : List String} (hws : ∀ w ∈ ws, IsWord w.toList) :
    IsBlankText (j.intercalate ws).toList ↔ ws = [] := by
  cases ws with
  | nil => simp [IsBlankText]
  | cons w rest =>
    obtain ⟨hne, hnb⟩ := hws w (by simp)
    obtain ⟨c, hc⟩ := List.exists_mem_of_ne_nil _ hne
    have hmem : c ∈ (j.intercalate (w :: rest)).toList := by
      cases rest with
      | nil => simpa using hc
      | cons u l => simp [hc]
    simp only [reduceCtorEq, iff_false]
    intro hblank
    simpa [hnb c hc] using hblank c hmem

end Text

/-! ## The words a phrase model emits -/

namespace Lexicon

/-- Every target of a table is a list of words, at least one. -/
def Worded (ps : List (List String × List String)) : Prop :=
  ∀ e ∈ ps, e.2 ≠ [] ∧ ∀ w ∈ e.2, Text.IsWord w.toList

/-- A row read from a line has words for its target, at least one. -/
theorem readRow_target {lowercase : Bool} {line : String} {k v : List String}
    (h : readRow lowercase line = .entry k v) : v ≠ [] ∧ ∀ w ∈ v, Text.IsWord w.toList := by
  unfold readRow at h
  simp only at h
  split at h
  · cases h
  · split at h
    · split at h
      · cases h
      · -- the target is the words after the first tab
        rename_i hempty
        cases h
        exact ⟨fun hv => by simp [hv] at hempty, fun _ hw => Text.isWord_of_mem_map_words hw⟩
    · cases h

/-- A model read from its table has words for every target. -/
theorem ofTable_worded {man : Manifest} {table : String} {m : Model} (h : ofTable man table = .ok m) :
    Worded m.phrases := by
  refine (ofTable_rows (fun acc => Worded acc.1) (by simp [Worded]) (fun acc k v line hacc hrow => ?_) h).1
  intro e he
  rcases List.mem_append.1 he with he | he
  · exact hacc e (List.mem_filter.1 he).1
  · rw [List.mem_singleton.1 he]
    exact readRow_target hrow

/-- The longest phrase found at a place is a row of the table. -/
theorem Model.longest_row {m : Model} {keyed : List String} {n : Nat} {t : List String}
    (h : m.longest keyed = some (n, t)) : ∃ e ∈ m.phrases, e.2 = t := by
  unfold Model.longest at h
  obtain ⟨k, -, hk⟩ := List.exists_of_findSome?_eq_some h
  obtain ⟨t', ht', hkt⟩ := Option.map_eq_some_iff.1 hk
  cases hkt
  unfold Model.lookup at ht'
  obtain ⟨e, he, rfl⟩ := Option.map_eq_some_iff.1 ht'
  exact ⟨e, List.mem_of_find?_eq_some he, rfl⟩

/-- An output word is a word of the text or of a target of the table. -/
theorem Model.mem_emit {m : Model} {keyed written : List String} {w : String}
    (h : w ∈ m.emit keyed written) : w ∈ written ∨ ∃ e ∈ m.phrases, w ∈ e.2 := by
  induction keyed, written using Model.emit.induct m with
  | case1 k ks v vs n t hlong _ ih =>
    rw [Model.emit_phrase hlong] at h
    rcases List.mem_append.1 h with h | h
    · obtain ⟨e, he, rfl⟩ := Model.longest_row hlong
      exact Or.inr ⟨e, he, h⟩
    · rcases ih h with h | h
      · exact Or.inl (List.mem_of_mem_drop h)
      · exact Or.inr h
  | case2 k ks v vs hlong ih =>
    rw [Model.emit_word hlong] at h
    rcases List.mem_cons.1 h with rfl | h
    · exact Or.inl List.mem_cons_self
    · rcases ih h with h | h
      · exact Or.inl (List.mem_cons_of_mem v h)
      · exact Or.inr h
  | case3 keyed written hnot =>
    -- nothing is emitted once either side has run out
    rw [Model.emit.eq_def] at h
    split at h
    · exact (hnot _ _ _ _ rfl rfl).elim
    · simp at h

theorem Model.emit_nil_right (m : Model) (keyed : List String) : m.emit keyed [] = [] := by
  rw [Model.emit.eq_def]
  split
  · rename_i h
    cases h
  · rfl

section Worded

variable {m : Model} (hm : Worded m.phrases)
include hm

/-- The output words of a text are words. -/
theorem Model.isWord_of_mem_outputWords {text w : String} (h : w ∈ m.outputWords text) :
    Text.IsWord w.toList := by
  rcases Model.mem_emit h with h | ⟨e, he, hw⟩
  · exact Text.isWord_of_mem_map_words h
  · exact (hm e he).2 w hw

/-- A text has output words exactly when it has words: each place emits at
least one. -/
theorem Model.outputWords_eq_nil_iff (text : String) :
    m.outputWords text = [] ↔ Text.IsBlankText text.toList := by
  rw [← Text.words_eq_nil_iff]
  unfold Model.outputWords Text.wordsOf
  cases hws : Text.words text.toList with
  | nil => simp [Model.emit_nil_right]
  | cons cs rest =>
    simp only [List.map_cons, reduceCtorEq, iff_false]
    cases hlong : m.longest (normalize m.lowercase (String.ofList cs) ::
        (rest.map String.ofList).map (normalize m.lowercase)) with
    | some nt =>
      obtain ⟨e, he, hte⟩ := Model.longest_row hlong
      rw [Model.emit_phrase hlong, ← hte]
      exact fun h => (hm e he).1 (List.append_eq_nil_iff.1 h).1
    | none =>
      rw [Model.emit_word hlong]
      simp

/-- A phrase model's output is blank exactly when its input is. -/
theorem Model.output_blank_iff (text : String) :
    Text.IsBlankText (m.joiner.intercalate (m.outputWords text)).toList ↔
      Text.IsBlankText text.toList := by
  rw [Text.intercalate_blank_iff _ (fun _ => Model.isWord_of_mem_outputWords hm),
    Model.outputWords_eq_nil_iff hm]

end Worded

end Lexicon

/-! ## A lookup through two phrase models -/

namespace Pipeline

/-- The outcome of stages that gave an output: a failure to find anything
exactly when the output is blank. -/
theorem outcomeOf_output (out : String) :
    outcomeOf (.ok (some out)) =
      if Text.IsBlankText out.toList then .failure .notFound else .success out := by
  simp only [outcomeOf, List.isEmpty_iff, Text.trim_eq_nil_iff]

/-- With a live token, a lookup through two phrase models gives the outcome of
the second model's output on the first model's output. -/
theorem translate_phrases (m1 m2 : Lexicon.Model) (text : String) :
    (⟨m1.toStep, m2.toStep⟩ : Pipeline).translate text false =
      outcomeOf (.ok (some (m2.joiner.intercalate
        (m2.outputWords (m1.joiner.intercalate (m1.outputWords text)))))) := by
  unfold translate
  rw [lookup_never _ _ (by simp [Token.ofFlag])]
  rfl

end Pipeline

/-- A text the controller asks a lookup for is the new input, which is not
too short, so it does not trim to nothing. -/
theorem Query.State.request_not_blank {settings : Query.Settings} {slot : Query.Slot}
    {s : Query.State} {old new : String} {r : Query.Request}
    (h : (s.onInput settings slot old new).2.2 = some r) : ¬ Text.IsBlankText r.text.toList := by
  unfold Query.State.onInput at h
  split at h
  · cases h
  · split at h
    · cases h
    · rename_i hlong
      split at h
      · cases h
      · cases h
        simp only [Query.State.tooShort, Bool.or_eq_true, not_or, List.isEmpty_iff] at hlong
        rw [← Text.trim_eq_nil_iff]
        exact hlong.1

/-- A lookup through two phrase models read from their tables, with a live
token, runs each model's generation to completion on what the one before
gave. It fails to find anything exactly when the text is blank, which is the
only way it fails; otherwise it gives the second model's output, which is
not blank, whatever the joiners and tables. No text the controller asks a
lookup for meets that failure. -/
theorem lexicon_pipeline_finds_words {m1 m2 : Lexicon.Model}
    (h1 : ∃ man table, Lexicon.ofTable man table = .ok m1)
    (h2 : ∃ man table, Lexicon.ofTable man table = .ok m2) (text : String) :
    let p : Pipeline := ⟨m1.toStep, m2.toStep⟩
    ∃ mid out, (m1.generate text fun _ => false).output = some mid ∧
      (m2.generate mid fun _ => false).output = some out ∧
      (p.translate text false = .failure .notFound ↔ Text.IsBlankText text.toList) ∧
      (¬ Text.IsBlankText text.toList → p.translate text false = .success out ∧
        ¬ Text.IsBlankText out.toList) ∧
      (∀ r, p.translate text false = .failure r → r = .notFound) ∧
      (∀ (settings : Query.Settings) (slot : Query.Slot) (s : Query.State) (old new : String)
        (q : Query.Request), (s.onInput settings slot old new).2.2 = some q →
          p.translate q.text false ≠ .failure .notFound) := by
  intro p
  obtain ⟨man1, table1, h1⟩ := h1
  obtain ⟨man2, table2, h2⟩ := h2
  have hw1 := Lexicon.ofTable_worded h1
  have hw2 := Lexicon.ofTable_worded h2
  -- the second model's output is blank exactly when the text is
  have hblank : ∀ t : String,
      Text.IsBlankText (m2.joiner.intercalate
        (m2.outputWords (m1.joiner.intercalate (m1.outputWords t)))).toList ↔
        Text.IsBlankText t.toList := fun t => by
    rw [Lexicon.Model.output_blank_iff hw2, Lexicon.Model.output_blank_iff hw1]
  have htranslate : ∀ t : String, p.translate t false =
      if Text.IsBlankText t.toList then .failure .notFound
      else .success (m2.joiner.intercalate
        (m2.outputWords (m1.joiner.intercalate (m1.outputWords t)))) := fun t => by
    rw [Pipeline.translate_phrases, Pipeline.outcomeOf_output, if_congr (hblank t) rfl rfl]
  refine ⟨_, _, by rw [Lexicon.Model.generate_continue], by rw [Lexicon.Model.generate_continue],
    ?_, fun hnot => ⟨by rw [htranslate, if_neg hnot], by rwa [hblank]⟩, fun r hr => ?_,
    fun settings slot s old new q hq => ?_⟩
  · rw [htranslate]
    split <;> simp_all
  · rw [htranslate] at hr
    split at hr <;> simp_all
  · rw [htranslate, if_neg (Query.State.request_not_blank hq)]
    simp

/-- Two tables read from their text, Spanish to English and English to
Chinese with no joiner, find a translation of "Hola mundo". -/
theorem spanish_greeting_is_found :
    let m1 : Lexicon.Model := ⟨"es-en", " ", true, [(["hola"], ["hello"]), (["mundo"], ["world"])], 1⟩
    let m2 : Lexicon.Model := ⟨"en-zh", "", true, [(["hello"], ["你好"]), (["world"], ["世界"])], 1⟩
    let p : Pipeline := ⟨m1.toStep, m2.toStep⟩
    (∃ man table, Lexicon.ofTable man table = .ok m1) ∧
    (∃ man table, Lexicon.ofTable man table = .ok m2) ∧
    ∃ mid out, (m1.generate "Hola mundo" fun _ => false).output = some mid ∧
      (m2.generate mid fun _ => false).output = some out ∧
      (p.translate "Hola mundo" false = .failure .notFound ↔ Text.IsBlankText "Hola mundo".toList) ∧
      (¬ Text.IsBlankText "Hola mundo".toList → p.translate "Hola mundo" false = .success out ∧
        ¬ Text.IsBlankText out.toList) ∧
      (∀ r, p.translate "Hola mundo" false = .failure r → r = .notFound) ∧
      (∀ (settings : Query.Settings) (slot : Query.Slot) (s : Query.State) (old new : String)
        (q : Query.Request), (s.onInput settings slot old new).2.2 = some q →
          p.translate q.text false ≠ .failure .notFound) := by
  intro m1 m2 p
  have h1 : ∃ man table, Lexicon.ofTable man table = .ok m1 :=
    ⟨⟨"es", "en", " ", true⟩, "hola\thello\nmundo\tworld\n", Lexicon.ok_of_toOption (by decide +kernel)⟩
  have h2 : ∃ man table, Lexicon.ofTable man table = .ok m2 :=
    ⟨⟨"en", "zh", "", true⟩, "hello\t你好\nworld\t世界\n", Lexicon.ok_of_toOption (by decide +kernel)⟩
  exact ⟨h1, h2, lexicon_pipeline_finds_words h1 h2 "Hola mundo"⟩

end Typeahead
