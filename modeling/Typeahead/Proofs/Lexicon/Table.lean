-- Reading a phrase table from its text. The lines are cut as the text's
-- lines; a line that trims to nothing or to a `#` comment is skipped, and
-- every other line must hold a tab, the first of which splits its trimmed
-- text into a source and a target. Reading fails at the first line that
-- holds none, naming it by its number from one, and fails as well when no
-- line is a row. Otherwise the table sends each source, as keyed words, to
-- the target words of the last line with that source, and its cap is its
-- longest source. A trimmed line neither starts nor ends with a blank, so
-- both sides of its tab hold a word, and no row is ever dropped for an
-- empty side.
import Typeahead.Proofs.Lexicon.Greedy
import Typeahead.Proofs.Pipeline.Blank

namespace Typeahead

/-! ## The ends of a trimmed text -/

namespace Text

/-- Trimming keeps a start of the text trimmed at the front. -/
theorem trim_prefix (cs : List Char) : trim cs <+: trimStart cs := by
  have h := List.reverse_prefix.2 (List.dropWhile_suffix isBlank (l := (trimStart cs).reverse))
  rwa [List.reverse_reverse] at h

/-- A trimmed text starts with a character that is no blank. -/
theorem trim_head_not_blank {cs t : List Char} {c : Char} (h : trim cs = c :: t) : isBlank c = false := by
  obtain ⟨rest, hrest⟩ := trim_prefix cs
  have hhead : (trimStart cs).head? = some c := by
    rw [← hrest, h]
    rfl
  have := List.head?_dropWhile_not isBlank cs
  rw [show cs.dropWhile isBlank = trimStart cs from rfl, hhead] at this
  exact this

/-- A trimmed text ends with a character that is no blank. -/
theorem trim_last_not_blank {cs : List Char} {c : Char} (h : (trim cs).getLast? = some c) :
    isBlank c = false := by
  have := List.head?_dropWhile_not isBlank (trimStart cs).reverse
  rw [show trim cs = ((trimStart cs).reverse.dropWhile isBlank).reverse from rfl,
    List.getLast?_reverse] at h
  rw [h] at this
  exact this

end Text

namespace Lexicon

/-! ## One line of the table -/

/-- A line the table reads as a row: once trimmed, neither empty nor a `#` comment. -/
def isRowLine (l : List Char) : Bool := !(Text.trim l).isEmpty && (Text.trim l).head? != some '#'

/-- A row line whose trimmed text holds no tab. -/
def lacksTab (l : List Char) : Bool := isRowLine l && decide ('\t' ∉ Text.trim l)

/-- The source of a row line: its trimmed text before the first tab. -/
def sourceOf (l : List Char) : List Char := (Text.trim l).takeWhile (· != '\t')

/-- The target of a row line: its trimmed text after the first tab. -/
def targetOf (l : List Char) : List Char := ((Text.trim l).dropWhile (· != '\t')).drop 1

/-- The phrase a row line gives: the words of its source, each keyed. -/
def keyOf (lowercase : Bool) (l : List Char) : List String :=
  (Text.words (sourceOf l)).map (fun w => normalize lowercase (String.ofList w))

/-- The target phrase a row line gives: the words of its target. -/
def valueOf (l : List Char) : List String := (Text.words (targetOf l)).map String.ofList

/-- A text with a tab is the part before its first tab, that tab, and the
part after it. -/
theorem eq_source_tab_target {t : List Char} (h : '\t' ∈ t) :
    t = t.takeWhile (· != '\t') ++ '\t' :: (t.dropWhile (· != '\t')).drop 1 := by
  have hne : t.dropWhile (· != '\t') ≠ [] := by
    intro hnil
    have := List.dropWhile_eq_nil_iff.1 hnil '\t' h
    simp at this
  obtain ⟨d, ds, hd⟩ := List.exists_cons_of_ne_nil hne
  -- the part from the first tab on starts with that tab
  have htab : d = '\t' := by
    have := List.head?_dropWhile_not (· != '\t') t
    rw [hd] at this
    simpa using this
  conv_lhs => rw [← List.takeWhile_append_dropWhile (p := (· != '\t')) (l := t)]
  rw [hd, htab]
  rfl

/-- Both sides of the first tab of a row line hold a character that is no
blank: trimming leaves no blank at either end of the line, and a tab is a
blank. -/
theorem sides_not_blank {l : List Char} (hrow : isRowLine l = true) (htab : '\t' ∈ Text.trim l) :
    ¬ Text.IsBlankText (sourceOf l) ∧ ¬ Text.IsBlankText (targetOf l) := by
  have hsplit := eq_source_tab_target htab
  have hne : Text.trim l ≠ [] := fun h => by simp [isRowLine, h] at hrow
  obtain ⟨c, t, hct⟩ := List.exists_cons_of_ne_nil hne
  have hc : Text.isBlank c = false := Text.trim_head_not_blank hct
  constructor
  · -- the source starts with the first character of the line, no tab since no blank
    have hctab : (c != '\t') = true := by
      have : c ≠ '\t' := fun h => by rw [h] at hc; exact absurd hc (by decide)
      simpa using this
    intro hblank
    have hmem : c ∈ sourceOf l := by
      simp [sourceOf, hct, hctab]
    simpa [hc] using hblank c hmem
  · -- the target ends with the last character of the line, no tab since no blank
    obtain ⟨d, hd⟩ := Option.isSome_iff_exists.1 (List.getLast?_isSome.2 hne)
    have hdb : Text.isBlank d = false := Text.trim_last_not_blank hd
    intro hblank
    rcases htgt : targetOf l with _ | ⟨e, es⟩
    · rw [targetOf] at htgt
      rw [hsplit, htgt] at hd
      simp at hd
      rw [← hd] at hdb
      exact absurd hdb (by decide)
    · have hlast : (targetOf l).getLast? = some d := by
        rw [targetOf] at htgt ⊢
        rw [hsplit, htgt] at hd
        rw [htgt]
        simpa using hd
      have := hblank d (List.mem_of_getLast? hlast)
      simp [hdb] at this

/-- A row line with a tab gives a phrase and a target, neither empty. -/
theorem row_sides_ne_nil (lowercase : Bool) {l : List Char} (hrow : isRowLine l = true)
    (htab : '\t' ∈ Text.trim l) : keyOf lowercase l ≠ [] ∧ valueOf l ≠ [] := by
  obtain ⟨hsrc, htgt⟩ := sides_not_blank hrow htab
  refine ⟨fun h => hsrc ?_, fun h => htgt ?_⟩
  · rw [← Text.words_eq_nil_iff]
    simpa [keyOf] using h
  · rw [← Text.words_eq_nil_iff]
    simpa [valueOf] using h

/-- How a line reads: a line that trims to nothing or to a comment is skipped,
a row line with a tab is the row of its source and target, and a row line
without one is malformed. No row line is skipped. -/
theorem readRow_eq (lowercase : Bool) (l : List Char) :
    readRow lowercase (String.ofList l) =
      if isRowLine l = false then .skip
      else if '\t' ∈ Text.trim l then .entry (keyOf lowercase l) (valueOf l) else .malformed := by
  unfold readRow
  simp only [String.toList_ofList]
  by_cases hrow : isRowLine l = true
  · have hcond : ((Text.trim l).isEmpty || decide ((Text.trim l).head? = some '#')) = false := by
      simpa [isRowLine] using hrow
    rw [if_neg (by simp [hcond]), if_neg (by simp [hrow])]
    by_cases htab : '\t' ∈ Text.trim l
    · -- the first tab splits the line, and what follows it is given back whole
      have hnot : '\t' ∉ sourceOf l := fun h => by
        simpa using List.mem_takeWhile_imp h
      have hsp : (Text.trim l).splitOn '\t' = sourceOf l :: (targetOf l).splitOn '\t' := by
        conv_lhs => rw [eq_source_tab_target htab]
        exact List.splitOn_append_cons_self_of_not_mem hnot _
      obtain ⟨x, xs, hx⟩ := List.exists_cons_of_ne_nil (List.splitOn_ne_nil '\t' (targetOf l))
      obtain ⟨hkey, hvalue⟩ := row_sides_ne_nil lowercase hrow htab
      rw [if_pos htab, hsp, hx]
      dsimp only
      rw [← hx, List.intercalate_splitOn]
      rw [if_neg (by simpa [List.isEmpty_iff, keyOf, valueOf] using And.intro hkey hvalue)]
      rfl
    · rw [if_neg htab, List.splitOn_eq_singleton htab]
  · have hcond : ((Text.trim l).isEmpty || decide ((Text.trim l).head? = some '#')) = true := by
      by_cases he : Text.trim l = [] <;> simp_all [isRowLine]
    rw [if_pos (by simp [hcond]), if_pos (by simpa using hrow)]

/-! ## The whole table -/

/-- A fold in `Except` whose step fails exactly on the items `bad` picks, and
otherwise takes the pure step `g`, fails at the first bad item or gives the
pure fold. -/
theorem foldlM_first_bad {α β ε : Type} {f : β → α → Except ε β} {g : β → α → β} {p : α → Bool}
    {e : α → ε} (hok : ∀ b a, p a = false → f b a = .ok (g b a))
    (herr : ∀ b a, p a = true → f b a = .error (e a)) (xs : List α) (init : β) :
    xs.foldlM f init =
      match (xs.find? p).map e with
      | some e => .error e
      | none => .ok (xs.foldl g init) := by
  induction xs generalizing init with
  | nil => rfl
  | cons a xs ih =>
    rw [List.foldlM_cons, List.find?_cons]
    cases hbad : p a with
    | true =>
      rw [herr init a hbad]
      rfl
    | false =>
      rw [hok init a hbad]
      exact ih (g init a)

/-- Searching the numbered lines finds the number of the first line found. -/
theorem find?_numbered (p : List Char → Bool) (ls : List (List Char)) :
    ((ls.zipIdx.map (fun x => (x.2, x.1))).find? (fun il => p il.2)).map Prod.fst = ls.findIdx? p := by
  rw [List.findIdx?_eq_fst_find?_zipIdx, List.find?_map, Option.map_map]
  rfl

/-- Folding the numbered lines by a step that ignores the numbers folds the lines. -/
theorem foldl_numbered {β : Type} (g : β → List Char → β) (ls : List (List Char)) (init : β) :
    (ls.zipIdx.map (fun x => (x.2, x.1))).foldl (fun acc il => g acc il.2) init = ls.foldl g init := by
  rw [List.foldl_map]
  conv_rhs => rw [← List.zipIdx_map_fst 0 ls]
  rw [List.foldl_map]

/-- The table and its cap after one more line that is not malformed: a row
line adds its row and may raise the cap, and any other line changes nothing. -/
def addLine (lowercase : Bool) (acc : List (List String × List String) × Nat) (l : List Char) :
    List (List String × List String) × Nat :=
  if isRowLine l then (insertPhrase acc.1 (keyOf lowercase l) (valueOf l), max acc.2 (keyOf lowercase l).length)
  else acc

/-- Reading a table: the first row line with no tab fails it, by its number
from one; otherwise a table with no row fails, and any other gives the rows
of its row lines, added in order, under the cap of its longest phrase. -/
theorem ofTable_eq (man : Manifest) (table : String) :
    ofTable man table =
      match (Text.lines table.toList).findIdx? lacksTab with
      | some i => .error (.modelAssets ("lexicon.tsv line " ++ toString (i + 1) ++ ": expected source<TAB>target"))
      | none =>
        if ((Text.lines table.toList).foldl (addLine man.lowercase) ([], 0)).1.isEmpty then
          .error (.modelAssets "lexicon.tsv has no entries")
        else .ok { name := man.source ++ "-" ++ man.target, joiner := man.joiner, lowercase := man.lowercase,
                   phrases := ((Text.lines table.toList).foldl (addLine man.lowercase) ([], 0)).1,
                   maxLen := ((Text.lines table.toList).foldl (addLine man.lowercase) ([], 0)).2 } := by
  unfold ofTable
  simp only
  rw [foldlM_first_bad (g := fun acc il => addLine man.lowercase acc il.2) (p := fun il => lacksTab il.2)
    (e := fun il => .modelAssets ("lexicon.tsv line " ++ toString (il.1 + 1) ++ ": expected source<TAB>target"))]
  · -- the failing line is found by its number, and the fold forgets the numbers
    rw [show ∀ o : Option (Nat × List Char), o.map (fun il => Error.modelAssets ("lexicon.tsv line " ++
        toString (il.1 + 1) ++ ": expected source<TAB>target")) = (o.map Prod.fst).map (fun i =>
        Error.modelAssets ("lexicon.tsv line " ++ toString (i + 1) ++ ": expected source<TAB>target"))
        from fun o => by cases o <;> rfl, find?_numbered, foldl_numbered]
    cases (Text.lines table.toList).findIdx? lacksTab <;> rfl
  · -- a line that is no malformed row is skipped or read as its row
    intro acc il hbad
    rw [readRow_eq, addLine]
    by_cases hrow : isRowLine il.2 = true
    · have htab : '\t' ∈ Text.trim il.2 := by simpa [lacksTab, hrow] using hbad
      simp only [hrow, Bool.true_eq_false, if_false, htab, if_true]
      rfl
    · simp only [Bool.not_eq_true] at hrow
      simp only [hrow, if_true, Bool.false_eq_true, if_false]
      rfl
  · -- a malformed row fails the reading with its number
    intro acc il hbad
    simp only [lacksTab, Bool.and_eq_true, decide_eq_true_eq] at hbad
    rw [readRow_eq, if_neg (by simp [hbad.1]), if_neg hbad.2]
    rfl

/-! ## What the table holds -/

/-- The target words of the last row line of `ls` with phrase `k`. -/
def lastValue (lowercase : Bool) (ls : List (List Char)) (k : List String) : Option (List String) :=
  (ls.reverse.find? (fun l => isRowLine l && keyOf lowercase l == k)).map valueOf

/-- A row added to the table is found under its phrase, and every other
phrase is found as before. -/
theorem find?_insertPhrase (ps : List (List String × List String)) (k v k' : List String) :
    (insertPhrase ps k v).find? (fun e => e.1 == k') =
      if k = k' then some (k, v) else ps.find? (fun e => e.1 == k') := by
  rw [insertPhrase, List.find?_append, List.find?_filter]
  by_cases hk : k = k'
  · -- the old row for the phrase was dropped
    subst hk
    have hnone : ps.find? (fun e => decide ((e.1 != k) = true ∧ (e.1 == k) = true)) = none :=
      List.find?_eq_none.2 (fun e _ => by by_cases he : e.1 = k <;> simp [he])
    rw [hnone]
    simp
  · have hsame : (fun e : List String × List String => decide ((e.1 != k) = true ∧ (e.1 == k') = true)) =
        (fun e => e.1 == k') := by
      funext e
      by_cases he : e.1 = k'
      · simp [he, Ne.symm hk]
      · simp [he]
    rw [hsame]
    simp [hk]

/-- The phrases of a table built line by line: a phrase is found with the
target of the last row line for it, or else as in the table started from. -/
theorem find?_foldl_addLine (lowercase : Bool) (ls : List (List Char))
    (acc : List (List String × List String) × Nat) (k : List String) :
    ((ls.foldl (addLine lowercase) acc).1.find? (fun e => e.1 == k)).map (·.2) =
      (lastValue lowercase ls k).or ((acc.1.find? (fun e => e.1 == k)).map (·.2)) := by
  induction ls generalizing acc with
  | nil => simp [lastValue]
  | cons l ls ih =>
    rw [List.foldl_cons, ih]
    have hlast : lastValue lowercase (l :: ls) k =
        (lastValue lowercase ls k).or (if isRowLine l && keyOf lowercase l == k then some (valueOf l) else none) := by
      simp only [lastValue, List.reverse_cons, List.find?_append, Option.map_or, List.find?_singleton]
      split <;> rfl
    rw [hlast, Option.or_assoc]
    congr 1
    -- the line adds a row for its phrase exactly when it is a row line
    unfold addLine
    by_cases hrow : isRowLine l = true
    · rw [if_pos hrow, find?_insertPhrase]
      by_cases hk : keyOf lowercase l = k <;> simp [hrow, hk]
    · simp [hrow]

/-- A table built line by line from an empty one is empty exactly when no line is a row line. -/
theorem foldl_addLine_eq_nil (lowercase : Bool) (ls : List (List Char))
    (acc : List (List String × List String) × Nat) :
    (ls.foldl (addLine lowercase) acc).1 = [] ↔ acc.1 = [] ∧ ∀ l ∈ ls, isRowLine l = false := by
  induction ls generalizing acc with
  | nil => simp
  | cons l ls ih =>
    rw [List.foldl_cons, ih]
    unfold addLine
    by_cases hrow : isRowLine l = true
    · simp [hrow, insertPhrase]
    · simp only [Bool.not_eq_true] at hrow
      simp [hrow]

/-- A table reads exactly when every row line holds a tab and some line is a row line. -/
theorem ofTable_ok_iff (man : Manifest) (table : String) :
    (∃ m, ofTable man table = .ok m) ↔
      (∀ l ∈ Text.lines table.toList, isRowLine l = true → '\t' ∈ Text.trim l) ∧
        ∃ l ∈ Text.lines table.toList, isRowLine l = true := by
  rw [ofTable_eq]
  cases hfind : (Text.lines table.toList).findIdx? lacksTab with
  | some i =>
    -- some row line has no tab
    have hany : ((Text.lines table.toList).findIdx? lacksTab).isSome = (Text.lines table.toList).any lacksTab :=
      List.findIdx?_isSome
    rw [hfind, Option.isSome_some, eq_comm, List.any_eq_true] at hany
    obtain ⟨l, hl, hlack⟩ := hany
    simp only [lacksTab, Bool.and_eq_true, decide_eq_true_eq] at hlack
    simp only [reduceCtorEq, exists_false, false_iff, not_and]
    intro hall
    exact absurd (hall l hl hlack.1) hlack.2
  | none =>
    dsimp only
    have htabs : ∀ l ∈ Text.lines table.toList, isRowLine l = true → '\t' ∈ Text.trim l := by
      intro l hl hrow
      have := List.findIdx?_eq_none_iff.1 hfind l hl
      simpa [lacksTab, hrow] using this
    by_cases hrows : ∀ l ∈ Text.lines table.toList, isRowLine l = false
    · -- no row line: nothing was added
      have hempty : ((Text.lines table.toList).foldl (addLine man.lowercase) ([], 0)).1.isEmpty = true := by
        simpa [List.isEmpty_iff, foldl_addLine_eq_nil] using hrows
      rw [if_pos hempty]
      simp only [reduceCtorEq, exists_false, false_iff, not_and, not_exists]
      intro _ l hl hrow
      simp [hrows l hl] at hrow
    · have hfull : ((Text.lines table.toList).foldl (addLine man.lowercase) ([], 0)).1.isEmpty = false := by
        simpa [List.isEmpty_iff, foldl_addLine_eq_nil] using hrows
      rw [if_neg (by simp [hfull])]
      simp only [Bool.not_eq_false, not_forall, exists_prop] at hrows
      exact iff_of_true ⟨_, rfl⟩ ⟨htabs, hrows⟩

/-- A table that reads sends each phrase to the target words of the last row
line for it. -/
theorem lookup_ofTable {man : Manifest} {table : String} {m : Model} (h : ofTable man table = .ok m)
    (k : List String) : m.lookup k = lastValue man.lowercase (Text.lines table.toList) k := by
  rw [ofTable_eq] at h
  cases hfind : (Text.lines table.toList).findIdx? lacksTab with
  | some i =>
    rw [hfind] at h
    cases h
  | none =>
    rw [hfind] at h
    dsimp only at h
    split at h
    · cases h
    · cases h
      simp [Model.lookup, find?_foldl_addLine]

/-- A table that does not read names its first row line with no tab by its
number from one, or, with no such line, says it has no entries. -/
theorem ofTable_error {man : Manifest} {table : String} {e : Error} (h : ofTable man table = .error e) :
    (∃ i, (Text.lines table.toList).findIdx? lacksTab = some i ∧
      e = .modelAssets ("lexicon.tsv line " ++ toString (i + 1) ++ ": expected source<TAB>target")) ∨
    ((Text.lines table.toList).findIdx? lacksTab = none ∧ e = .modelAssets "lexicon.tsv has no entries") := by
  rw [ofTable_eq] at h
  cases hfind : (Text.lines table.toList).findIdx? lacksTab with
  | some i =>
    rw [hfind] at h
    cases h
    exact Or.inl ⟨i, rfl, rfl⟩
  | none =>
    rw [hfind] at h
    dsimp only at h
    split at h
    · cases h
      exact Or.inr ⟨rfl, rfl⟩
    · cases h

/-- A line is skipped exactly when it trims to nothing or to a comment. -/
theorem readRow_skip_iff (lowercase : Bool) (l : List Char) :
    readRow lowercase (String.ofList l) = .skip ↔ isRowLine l = false := by
  rw [readRow_eq]
  by_cases hrow : isRowLine l = false
  · simp [hrow]
  · rw [if_neg hrow]
    split <;> simp [hrow]

/-- Reading a table from its text succeeds exactly when every row line holds
a tab in its trimmed text and some line is a row line. A table that reads
sends each phrase, as keyed words, to the target words of the last row line
for it, and its cap is the length of its longest phrase. A table that does
not read names its first row line with no tab by its number from one, or
else says it has no entries. A line is skipped only when it trims to nothing
or to a comment, never for an empty side of its tab. -/
theorem table_reads_rows (man : Manifest) (table : String) :
    let ls := Text.lines table.toList
    ((∃ m, ofTable man table = .ok m) ↔
      (∀ l ∈ ls, isRowLine l = true → '\t' ∈ Text.trim l) ∧ ∃ l ∈ ls, isRowLine l = true) ∧
    (∀ m, ofTable man table = .ok m →
      (∀ k, m.lookup k = lastValue man.lowercase ls k) ∧
      (∀ e ∈ m.phrases, e.1.length ≤ m.maxLen) ∧ ∃ e ∈ m.phrases, e.1.length = m.maxLen) ∧
    (∀ e, ofTable man table = .error e →
      (∃ i, ls.findIdx? lacksTab = some i ∧
        e = .modelAssets ("lexicon.tsv line " ++ toString (i + 1) ++ ": expected source<TAB>target")) ∨
      (ls.findIdx? lacksTab = none ∧ e = .modelAssets "lexicon.tsv has no entries")) ∧
    (∀ l, readRow man.lowercase (String.ofList l) = .skip ↔ isRowLine l = false) :=
  ⟨ofTable_ok_iff man table, fun _ h => ⟨lookup_ofTable h, ofTable_capped h⟩, fun _ h => ofTable_error h,
    readRow_skip_iff man.lowercase⟩

/-- A table with a comment, a blank line and two rows for "cat" reads, and
"cat" goes to the later row; a table whose second line is "cat" and a tab
does not read, and names line 2. -/
theorem later_row_wins_and_tabless_line_named :
    let man : Manifest := ⟨"en", "zh", " ", true⟩
    let good := "# en-zh\n\nCat\t猫\nhello world\t你好 世界\ncat\t貓\n"
    let bad := "# comment\ncat\t\n"
    (∃ m, ofTable man good = .ok m ∧ m.lookup ["cat"] = some ["貓"] ∧ m.maxLen = 2) ∧
    ofTable man bad = .error (.modelAssets "lexicon.tsv line 2: expected source<TAB>target") ∧
    (Text.lines bad.toList).findIdx? lacksTab = some 1 := by
  intro man good bad
  have hok : ofTable man good = .ok ⟨"en-zh", " ", true,
      [(["hello", "world"], ["你好", "世界"]), (["cat"], ["貓"])], 2⟩ :=
    ok_of_toOption (by decide +kernel)
  have hidx : (Text.lines bad.toList).findIdx? lacksTab = some 1 := by decide +kernel
  have hlast : lastValue man.lowercase (Text.lines good.toList) ["cat"] = some ["貓"] := by decide +kernel
  refine ⟨⟨_, hok, ((table_reads_rows man good).2.1 _ hok).1 ["cat"] |>.trans hlast, rfl⟩, ?_, hidx⟩
  rw [ofTable_eq, hidx]
  rfl

end Lexicon

end Typeahead
