-- Translation with a phrase table is greedy leftmost-longest segmentation. At
-- each place of the text the widest window of words whose keyed form is a
-- phrase of the table gives way to that phrase's target, and a word that
-- starts no phrase passes through as written. The model's search is capped at
-- its longest phrase length; a model read from its table keeps that length at
-- the table's longest phrase, across replaced rows, so the cap never hides a
-- match. The segmentation is unique, and a generation that is never stopped
-- returns its words joined.
import Typeahead.Lexicon.Generate

namespace Typeahead.Lexicon

/-! ## The longest phrase of a table read from its text -/

/-- Every phrase of the table has at most `n` words, and one has exactly `n`
unless `n` is 0. -/
def Capped (ps : List (List String × List String)) (n : Nat) : Prop :=
  (∀ e ∈ ps, e.1.length ≤ n) ∧ (n = 0 ∨ ∃ e ∈ ps, e.1.length = n)

/-- A row added to the table, replacing any row for the same phrase, moves the
cap to the longer of the two. -/
theorem capped_insert {ps : List (List String × List String)} {n : Nat} (k v : List String)
    (h : Capped ps n) : Capped (insertPhrase ps k v) (max n k.length) := by
  obtain ⟨hle, hhit⟩ := h
  refine ⟨fun e he => ?_, Or.inr ?_⟩
  · rcases List.mem_append.1 he with he | he
    · have := hle e (List.mem_filter.1 he).1
      omega
    · rw [List.mem_singleton.1 he]
      exact Nat.le_max_right n k.length
  · by_cases hk : n ≤ k.length
    · exact ⟨(k, v), by simp [insertPhrase], show k.length = max n k.length by omega⟩
    · -- the longest phrase so far is longer than `k`, so the row survives
      rcases hhit with h0 | ⟨e, he, hlen⟩
      · omega
      · have hne : e.1 ≠ k := fun h => hk (by rw [← h]; omega)
        exact ⟨e, List.mem_append_left _ (List.mem_filter.2 ⟨he, by simpa using hne⟩), by omega⟩

theorem bind_eq_ok {α β ε : Type} {x : Except ε α} {f : α → Except ε β} {b : β} (h : (x >>= f) = .ok b) :
    ∃ a, x = .ok a ∧ f a = .ok b := by
  cases x with
  | error e => cases h
  | ok a => exact ⟨a, rfl, h⟩

/-- What every step of a fold in `Except` keeps holds of its result. -/
theorem foldlM_invariant {α β ε : Type} (P : β → Prop) {f : β → α → Except ε β}
    (hstep : ∀ b x b', P b → f b x = .ok b' → P b') :
    ∀ (xs : List α) (init r : β), P init → xs.foldlM f init = .ok r → P r
  | [], init, r, hinit, h => by
    cases h
    exact hinit
  | x :: xs, init, r, hinit, h => by
    rw [List.foldlM_cons] at h
    cases hx : f init x with
    | error e =>
      rw [hx] at h
      cases h
    | ok b =>
      rw [hx] at h
      exact foldlM_invariant P hstep xs b r (hstep init x b hinit hx) h

/-- What holds of the empty table and is kept by every row read from a line
holds of the table of a model read from its text, and that table has a row. -/
theorem ofTable_rows {man : Manifest} {table : String} {m : Model}
    (P : List (List String × List String) × Nat → Prop) (h0 : P ([], 0))
    (hrow : ∀ acc k v line, P acc → readRow man.lowercase line = .entry k v →
      P (insertPhrase acc.1 k v, max acc.2 k.length))
    (h : ofTable man table = .ok m) : P (m.phrases, m.maxLen) ∧ m.phrases ≠ [] := by
  unfold ofTable at h
  simp only at h
  obtain ⟨acc, hacc, h⟩ := bind_eq_ok h
  have hP : P acc := by
    refine foldlM_invariant P ?_ _ _ _ h0 hacc
    intro b il b' hb hf
    split at hf
    · cases hf
      exact hb
    · rename_i k v hread
      cases hf
      exact hrow b k v _ hb hread
    · cases hf
  split at h
  · obtain ⟨_, he, -⟩ := bind_eq_ok h
    cases he
  rename_i hne
  cases h
  exact ⟨hP, by simpa using hne⟩

/-- A model read from its table has its longest phrase length as its cap. -/
theorem ofTable_capped {man : Manifest} {table : String} {m : Model} (h : ofTable man table = .ok m) :
    (∀ e ∈ m.phrases, e.1.length ≤ m.maxLen) ∧ ∃ e ∈ m.phrases, e.1.length = m.maxLen := by
  -- each row read keeps the table capped at the longest phrase so far
  obtain ⟨⟨hle, hhit⟩, hne⟩ := ofTable_rows (fun acc => Capped acc.1 acc.2) ⟨by simp, Or.inl rfl⟩
    (fun _ k v _ hacc _ => capped_insert k v hacc) h
  refine ⟨hle, ?_⟩
  rcases hhit with h0 | hhit
  · -- a cap of 0 bounds every phrase, so any phrase reaches it
    obtain ⟨e, he⟩ := List.exists_mem_of_ne_nil m.phrases hne
    exact ⟨e, he, by have := hle e he; simp only at this ⊢; omega⟩
  · exact hhit

/-- Every model `load` gives is read from a table. -/
theorem built_of_load {fs : Files} {dir : String} {m : Model} (h : load fs dir = .ok m) :
    ∃ man table, ofTable man table = .ok m := by
  unfold load at h
  simp only at h
  -- the folder and file checks pass, the manifest reads, and the table is read last
  split at h
  · obtain ⟨_, he, -⟩ := bind_eq_ok h
    cases he
  split at h
  · obtain ⟨_, he, -⟩ := bind_eq_ok h
    cases he
  obtain ⟨manText, -, h⟩ := bind_eq_ok h
  split at h
  · obtain ⟨man, -, h⟩ := bind_eq_ok h
    obtain ⟨table, -, h⟩ := bind_eq_ok h
    exact ⟨_, _, h⟩
  · obtain ⟨_, he, -⟩ := bind_eq_ok h
    cases he

/-! ## The widest window -/

/-- The first `n` words of `ws`, keyed as the table keys its phrases. -/
def Model.window (m : Model) (ws : List String) (n : Nat) : List String :=
  (ws.take n).map (normalize m.lowercase)

/-- Searching from the top of a range finds the largest place with an answer. -/
theorem findSome?_range_reverse {β : Type} (f : Nat → Option β) (c : Nat) (b : β) :
    (List.range c).reverse.findSome? f = some b ↔
      ∃ k < c, f k = some b ∧ ∀ k', k < k' → k' < c → f k' = none := by
  induction c with
  | zero => simp
  | succ c ih =>
    rw [List.range_succ, List.reverse_append, List.reverse_singleton, List.singleton_append,
      List.findSome?_cons]
    cases hc : f c with
    | none =>
      rw [ih]
      constructor
      · rintro ⟨k, hk, hb, hrest⟩
        refine ⟨k, by omega, hb, fun k' hk' hk'c => ?_⟩
        by_cases hkc : k' = c
        · rw [hkc, hc]
        · exact hrest k' hk' (by omega)
      · rintro ⟨k, hk, hb, hrest⟩
        have hkc : k ≠ c := fun h => by rw [h, hc] at hb; cases hb
        exact ⟨k, by omega, hb, fun k' hk' hk'c => hrest k' hk' (by omega)⟩
    | some b' =>
      simp only [Option.some.injEq]
      constructor
      · rintro rfl
        exact ⟨c, by omega, hc, fun k' hk' hk'c => by omega⟩
      · rintro ⟨k, hk, hb, hrest⟩
        -- a smaller place would leave `c` itself without an answer
        have hkc : k = c := by
          rcases Nat.lt_or_ge k c with hlt | hge
          · have := hrest c hlt (by omega)
            rw [hc] at this
            cases this
          · omega
        rw [hkc, hc] at hb
        exact Option.some.inj hb

section Capped

variable {m : Model} (hcap : ∀ e ∈ m.phrases, e.1.length ≤ m.maxLen)
include hcap

theorem Model.length_of_lookup {k t : List String} (h : m.lookup k = some t) : k.length ≤ m.maxLen := by
  unfold Model.lookup at h
  obtain ⟨e, he, rfl⟩ := Option.map_eq_some_iff.1 h
  have hk : e.1 = k := by simpa using List.find?_some he
  rw [← hk]
  exact hcap e (List.mem_of_find?_eq_some he)

/-- No window wider than the cap is a phrase. -/
theorem Model.lookup_take_of_lt {keyed : List String} {n : Nat} (hn : m.maxLen < n)
    (hlen : n ≤ keyed.length) : m.lookup (keyed.take n) = none := by
  cases h : m.lookup (keyed.take n) with
  | none => rfl
  | some t =>
    have := Model.length_of_lookup hcap h
    rw [List.length_take] at this
    omega

/-- The capped search finds the widest window that is a phrase. -/
theorem Model.longest_some {keyed : List String} {n : Nat} {t : List String}
    (h : m.longest keyed = some (n, t)) :
    0 < n ∧ n ≤ keyed.length ∧ m.lookup (keyed.take n) = some t ∧
      ∀ n', n < n' → n' ≤ keyed.length → m.lookup (keyed.take n') = none := by
  unfold Model.longest at h
  obtain ⟨k, hk, hkt, hrest⟩ := (findSome?_range_reverse _ _ _).1 h
  obtain ⟨t', ht', hkn⟩ := Option.map_eq_some_iff.1 hkt
  simp only [Prod.mk.injEq] at hkn
  obtain ⟨rfl, rfl⟩ := hkn
  refine ⟨by omega, by omega, ht', fun n' hn' hn'len => ?_⟩
  by_cases hcapn : n' ≤ m.maxLen
  · -- within the cap the search looked at `n'` and found nothing
    have := hrest (n' - 1) (by omega) (by omega)
    rw [Nat.sub_add_cancel (by omega)] at this
    simpa using this
  · exact Model.lookup_take_of_lt hcap (by omega) hn'len

/-- When the capped search finds nothing, no window is a phrase. -/
theorem Model.longest_none {keyed : List String} (h : m.longest keyed = none) :
    ∀ n, 0 < n → n ≤ keyed.length → m.lookup (keyed.take n) = none := by
  intro n hn hlen
  unfold Model.longest at h
  rw [List.findSome?_eq_none_iff] at h
  by_cases hcapn : n ≤ m.maxLen
  · have := h (n - 1) (by simp; omega)
    rw [Nat.sub_add_cancel (by omega)] at this
    simpa using this
  · exact Model.lookup_take_of_lt hcap (by omega) hlen

end Capped

/-! ## Greedy segmentation -/

/-- `Segments m ws out`: the leftmost-longest segmentation of the words `ws`
by the table of `m` gives the words `out`. At each place the widest window
whose keyed form is a phrase gives way to the phrase's target; when no window
is, the word there passes through as written. -/
inductive Segments (m : Model) : List String → List String → Prop where
  | nil : Segments m [] []
  | phrase {ws out t : List String} {n : Nat} (hn : 0 < n) (hlen : n ≤ ws.length)
      (ht : m.lookup (m.window ws n) = some t)
      (hwidest : ∀ n', n < n' → n' ≤ ws.length → m.lookup (m.window ws n') = none)
      (rest : Segments m (ws.drop n) out) : Segments m ws (t ++ out)
  | word {w : String} {ws out : List String}
      (hnone : ∀ n, 0 < n → n ≤ ws.length + 1 → m.lookup (m.window (w :: ws) n) = none)
      (rest : Segments m ws out) : Segments m (w :: ws) (w :: out)

/-- The segmentation of a text is unique. -/
theorem Segments.unique {m : Model} {ws a b : List String} (ha : Segments m ws a)
    (hb : Segments m ws b) : a = b := by
  induction ha generalizing b with
  | nil =>
    cases hb with
    | nil => rfl
    | phrase hn hlen => simp at hlen; omega
  | @phrase ws out t n hn hlen ht hwidest _ ih =>
    cases hb with
    | nil => simp at hlen; omega
    | @phrase _ out' t' n' hn' hlen' ht' hwidest' rest' =>
      -- two widest windows have one width
      have hnn : n = n' := by
        rcases Nat.lt_trichotomy n n' with h | h | h
        · rw [hwidest n' h hlen'] at ht'
          cases ht'
        · exact h
        · rw [hwidest' n h hlen] at ht
          cases ht
      subst hnn
      rw [ht] at ht'
      rw [Option.some.inj ht', ih rest']
    | word hnone _ =>
      rw [hnone _ hn hlen] at ht
      cases ht
  | word hnone _ ih =>
    cases hb with
    | phrase hn' hlen' ht' =>
      rw [hnone _ hn' hlen'] at ht'
      cases ht'
    | word _ rest' => rw [ih rest']

/-- With every phrase within the cap, the model's output words are the
segmentation of the written words. -/
theorem segments_emit {m : Model} (hcap : ∀ e ∈ m.phrases, e.1.length ≤ m.maxLen) :
    ∀ keyed written, keyed = written.map (normalize m.lowercase) →
      Segments m written (m.emit keyed written) := by
  intro keyed written
  induction keyed, written using Model.emit.induct m with
  | case1 k ks w ws n t h _ ih =>
    intro hkeyed
    obtain ⟨hn, hlen, ht, hwidest⟩ := Model.longest_some hcap h
    have hwin : ∀ n', m.window (w :: ws) n' = (k :: ks).take n' := by
      intro n'
      rw [hkeyed, Model.window, List.map_take]
    rw [Model.emit_phrase h]
    refine .phrase hn (by rw [hkeyed] at hlen; simpa using hlen) (by rw [hwin]; exact ht)
      (fun n' h1 h2 => by rw [hwin]; exact hwidest n' h1 (by rw [hkeyed]; simpa using h2)) ?_
    exact ih (by rw [hkeyed, List.map_drop])
  | case2 k ks w ws h ih =>
    intro hkeyed
    have hnone := Model.longest_none hcap h
    simp only [List.map_cons, List.cons.injEq] at hkeyed
    rw [Model.emit_word h]
    refine .word (fun n hn hlen => ?_) (ih hkeyed.2)
    rw [Model.window, List.map_take, List.map_cons, ← hkeyed.1, ← hkeyed.2]
    exact hnone n hn (by rw [hkeyed.2]; simpa using hlen)
  | case3 keyed written hnot =>
    intro hkeyed
    cases written with
    | nil =>
      rw [hkeyed, List.map_nil, Model.emit_nil]
      exact .nil
    | cons w ws => exact (hnot _ _ w ws hkeyed rfl).elim

/-- For every model read from a table: its cap is the length of its longest
phrase, so the capped search misses no phrase; and a generation that is never
stopped returns the text's words segmented greedily, leftmost-longest with no
bound on the window, and joined by the model's joiner. -/
theorem generate_is_greedy {m : Model} (hm : ∃ man table, ofTable man table = .ok m) (text : String) :
    (∀ e ∈ m.phrases, e.1.length ≤ m.maxLen) ∧ (∃ e ∈ m.phrases, e.1.length = m.maxLen) ∧
    ∃ out, (∀ out', Segments m (Text.wordsOf text) out' ↔ out' = out) ∧
      (m.generate text fun _ => false).output = some (m.joiner.intercalate out) := by
  obtain ⟨man, table, hm⟩ := hm
  obtain ⟨hcap, hhit⟩ := ofTable_capped hm
  have hseg := segments_emit hcap _ (Text.wordsOf text) rfl
  refine ⟨hcap, hhit, m.outputWords text, fun out' => ⟨fun h => hseg.unique h |>.symm, ?_⟩, ?_⟩
  · rintro rfl
    exact hseg
  · rw [Model.generate_continue]

theorem ok_of_toOption {ε α : Type} {x : Except ε α} {a : α} (h : x.toOption = some a) : x = .ok a := by
  cases x <;> simp_all [Except.toOption]

/-- A greeting table read from its text: "Good morning" is one phrase of two
words, found over the two one-word phrases that start and end it. -/
theorem greeting_is_greedy :
    let m : Model := ⟨"en-zh", "", true,
      [(["good"], ["好"]), (["morning"], ["早上"]), (["good", "morning"], ["早上好"])], 2⟩
    (∃ man table, ofTable man table = .ok m) ∧
    (∀ e ∈ m.phrases, e.1.length ≤ m.maxLen) ∧ (∃ e ∈ m.phrases, e.1.length = m.maxLen) ∧
    ∃ out, (∀ out', Segments m (Text.wordsOf "Good morning") out' ↔ out' = out) ∧
      (m.generate "Good morning" fun _ => false).output = some (m.joiner.intercalate out) := by
  intro m
  have hm : ∃ man table, ofTable man table = .ok m :=
    ⟨⟨"en", "zh", "", true⟩, "good\t好\nmorning\t早上\ngood morning\t早上好\n",
      ok_of_toOption (by decide +kernel)⟩
  exact ⟨hm, generate_is_greedy hm "Good morning"⟩

end Typeahead.Lexicon
