-- Plain text from a markup fragment, stage by stage. Tags go first: every
-- span from a `<` to the next `>`, or to the end when no `>` follows. Then
-- the six entities are decoded in one pass from left to right, each
-- replaced by its character and no character decoded twice, so "&amp;lt;"
-- becomes "&lt;": the six replacements over the whole text, one after
-- another with `&amp;` last, decode exactly that much, since no character a
-- replacement writes is part of a later entity's name and no name holds an
-- `&` after its first character. Last, every run of blanks becomes one
-- space and the ends are trimmed. So a definition's text as the dictionary
-- gives it is never empty, has no blank at either end, and no two blanks
-- side by side.
import Typeahead.Dictionary.Answer
import Typeahead.Proofs.Pipeline.Blank

namespace Typeahead.Text

/-! ## Tags -/

/-- The text outside tags: a `<` opens a tag that runs to the next `>`, or to
the end of the text when none follows. -/
def outsideTags : List Char → List Char
  | [] => []
  | c :: cs => if c = '<' then outsideTags ((cs.dropWhile (· != '>')).drop 1) else c :: outsideTags cs
termination_by cs => cs.length
decreasing_by
  all_goals simp only [List.length_drop, List.length_cons]
  · have := (List.dropWhile_suffix (· != '>') (l := cs)).length_le
    omega
  · omega

/-- Inside a tag, everything up to the next `>` is dropped with it. -/
theorem dropTags_true (cs : List Char) : dropTags true cs = dropTags false ((cs.dropWhile (· != '>')).drop 1) := by
  induction cs with
  | nil => rfl
  | cons c cs ih =>
    by_cases hgt : c = '>'
    · subst hgt
      simp [dropTags]
    · by_cases hlt : c = '<'
      · subst hlt
        simp [dropTags, ih]
      · simp [dropTags, hgt, hlt, ih]

/-- Dropping tags keeps exactly the text outside them. -/
theorem dropTags_eq_outsideTags (cs : List Char) : dropTags false cs = outsideTags cs := by
  fun_induction outsideTags cs with
  | case1 => rfl
  | case2 cs ih =>
    rw [dropTags, if_pos rfl, dropTags_true, ih]
  | case3 c cs hlt ih =>
    rw [dropTags, if_neg hlt]
    simp [ih]

/-! ## Entities decoded in one pass -/

/-- Whether a text `c :: cs` starts with a name; no text starts with the empty name. -/
def startsWith : List Char → Char → List Char → Bool
  | [], _, _ => false
  | p :: ps, c, cs => decide (c = p) && ps.isPrefixOf cs

/-- One pass from left to right: where a name of `es` starts, the first such
entity's character replaces the name and the pass goes on after it, so no
character it writes is read again. -/
def decodeWith (es : List (List Char × List Char)) : List Char → List Char
  | [] => []
  | c :: cs =>
    match es.find? (fun e => startsWith e.1 c cs) with
    | some (_ :: ps, rep) => rep ++ decodeWith es (cs.drop ps.length)
    | _ => c :: decodeWith es cs
termination_by cs => cs.length
decreasing_by
  all_goals simp only [List.length_drop, List.length_cons]
  all_goals omega

section Decode

variable {es : List (List Char × List Char)} {c : Char} {cs : List Char}

@[simp] theorem decodeWith_nil : decodeWith es [] = [] := by
  rw [decodeWith]

theorem decodeWith_cons_of_find? {p : Char} {ps rep : List Char}
    (h : es.find? (fun e => startsWith e.1 c cs) = some (p :: ps, rep)) :
    decodeWith es (c :: cs) = rep ++ decodeWith es (cs.drop ps.length) := by
  rw [decodeWith, h]

theorem decodeWith_cons_of_find?_none (h : es.find? (fun e => startsWith e.1 c cs) = none) :
    decodeWith es (c :: cs) = c :: decodeWith es (cs.drop 0) := by
  rw [decodeWith, h]
  rfl

end Decode

section Pass

variable {p : Char} {ps rep : List Char}

theorem replaceAll_cons (c : Char) (cs : List Char) :
    replaceAll p ps rep (c :: cs) =
      if c = p && ps.isPrefixOf cs then rep ++ replaceAll p ps rep (cs.drop ps.length)
      else c :: replaceAll p ps rep cs := by
  conv_lhs => rw [replaceAll]

/-- Text with no `p` goes through a pass over a name starting with `p` unchanged. -/
theorem replaceAll_append_of_not_mem {w : List Char} (hw : p ∉ w) (rest : List Char) :
    replaceAll p ps rep (w ++ rest) = w ++ replaceAll p ps rep rest := by
  induction w with
  | nil => rfl
  | cons x w ih =>
    have hx : x ≠ p := fun h => hw (h ▸ List.mem_cons_self)
    rw [List.cons_append, replaceAll_cons, if_neg (by simp [hx]), ih (fun h => hw (List.mem_cons_of_mem _ h))]
    rfl

/-- A start of the replaced text that holds none of the replacement's
characters is a start of the text itself: where the pass wrote, the start
would hold the replacement's first character. -/
theorem prefix_of_prefix_replaceAll (hrep : rep ≠ []) {qt : List Char} (hq : ∀ r ∈ rep, r ∉ qt)
    (cs : List Char) (h : qt <+: replaceAll p ps rep cs) : qt <+: cs := by
  fun_induction replaceAll p ps rep cs generalizing qt with
  | case1 => exact h
  | case2 c cs hmatch ih =>
    cases qt with
    | nil => exact List.nil_prefix
    | cons x qt =>
      obtain ⟨r, rs, rfl⟩ := List.exists_cons_of_ne_nil hrep
      have hxr : x = r := (List.cons_prefix_cons.1 h).1
      exact absurd (hxr ▸ List.mem_cons_self) (hq r List.mem_cons_self)
  | case3 c cs hmatch ih =>
    cases qt with
    | nil => exact List.nil_prefix
    | cons x qt =>
      obtain ⟨hxc, hqt⟩ := List.cons_prefix_cons.1 h
      exact List.cons_prefix_cons.2 ⟨hxc, ih (fun r hr hmem => hq r hr (List.mem_cons_of_mem _ hmem)) hqt⟩

/-- A name holding none of the replacement's characters, and no `p` after its
first character, starts a text exactly when it starts the text after the
pass over a name starting with `p`. -/
theorem startsWith_replaceAll (hrep : rep ≠ []) {q : List Char} (hrq : ∀ r ∈ rep, r ∉ q) (hpq : p ∉ q.tail)
    (c : Char) (cs : List Char) : startsWith q c (replaceAll p ps rep cs) = startsWith q c cs := by
  cases q with
  | nil => rfl
  | cons q0 qt =>
    simp only [startsWith]
    congr 1
    rw [Bool.eq_iff_iff, List.isPrefixOf_iff_prefix, List.isPrefixOf_iff_prefix]
    constructor
    · exact prefix_of_prefix_replaceAll hrep (fun r hr hmem => hrq r hr (List.mem_cons_of_mem _ hmem)) cs
    · -- the pass leaves the name's characters as they are
      rintro ⟨rest, rfl⟩
      rw [replaceAll_append_of_not_mem (show p ∉ qt from hpq)]
      exact List.prefix_append _ _

/-- Characters that are in no name of `es` pass the decoding unchanged. -/
theorem decodeWith_append_of_not_mem {es : List (List Char × List Char)} {w : List Char}
    (hw : ∀ q ∈ es, ∀ r ∈ w, r ∉ q.1) (u : List Char) : decodeWith es (w ++ u) = w ++ decodeWith es u := by
  induction w with
  | nil => rfl
  | cons r w ih =>
    have hnone : es.find? (fun e => startsWith e.1 r (w ++ u)) = none := by
      refine List.find?_eq_none.2 fun q hq hstart => ?_
      obtain ⟨name, rep⟩ := q
      -- a name that starts here starts with `r`, which no name holds
      cases name with
      | nil => simp [startsWith] at hstart
      | cons q0 qt =>
        have hrq : r = q0 := by simp [startsWith] at hstart; exact hstart.1
        exact hw _ hq r List.mem_cons_self (hrq ▸ List.mem_cons_self)
    rw [List.cons_append, decodeWith_cons_of_find?_none hnone, List.drop_zero,
      ih (fun q hq r hr => hw q hq r (List.mem_cons_of_mem _ hr))]
    rfl

/-- A pass over one name, then one pass over the names `es`, is one pass over
all of them, the first name first, when the first name's characters cannot
meet the others: its replacement is in none of their names, and its first
character is in none of them after their first. -/
theorem decodeWith_replaceAll {es : List (List Char × List Char)} (hrep : rep ≠ [])
    (hchar : ∀ q ∈ es, ∀ r ∈ rep, r ∉ q.1) (hhead : ∀ q ∈ es, p ∉ q.1.tail) :
    ∀ cs, decodeWith es (replaceAll p ps rep cs) = decodeWith ((p :: ps, rep) :: es) cs
  | [] => by
    rw [replaceAll.eq_1, decodeWith_nil, decodeWith_nil]
  | c :: cs => by
    by_cases hm : startsWith (p :: ps) c cs = true
    · -- the name itself starts here: both write its replacement and go on after it
      have hfind : ((p :: ps, rep) :: es).find? (fun e => startsWith e.1 c cs) = some (p :: ps, rep) := by
        simp [hm]
      rw [replaceAll_cons, if_pos (by simpa [startsWith] using hm), decodeWith_append_of_not_mem hchar,
        decodeWith_replaceAll hrep hchar hhead (cs.drop ps.length), decodeWith_cons_of_find? hfind]
    · -- elsewhere the names of `es` see the same text before and after the pass
      have hsame : es.find? (fun e => startsWith e.1 c (replaceAll p ps rep cs)) =
          es.find? (fun e => startsWith e.1 c cs) :=
        List.find?_congr fun q hq => startsWith_replaceAll hrep (hchar q hq) (hhead q hq) c cs
      have hskip : ((p :: ps, rep) :: es).find? (fun e => startsWith e.1 c cs) =
          es.find? (fun e => startsWith e.1 c cs) := by
        simp [hm]
      rw [replaceAll_cons, if_neg (by simpa [startsWith] using hm)]
      rcases hq : es.find? (fun e => startsWith e.1 c cs) with _ | ⟨q, r'⟩
      · rw [decodeWith_cons_of_find?_none (hsame.trans hq), decodeWith_cons_of_find?_none (hskip.trans hq),
          List.drop_zero, List.drop_zero, decodeWith_replaceAll hrep hchar hhead cs]
      · -- a name of `es` starts here; the pass wrote nothing inside it
        have hqmem : (q, r') ∈ es := List.mem_of_find?_eq_some hq
        have hstart : startsWith q c cs = true := by
          have := List.find?_some hq
          exact this
        cases q with
        | nil => simp [startsWith] at hstart
        | cons q0 qt =>
          have hpre : qt <+: cs := List.isPrefixOf_iff_prefix.1 (Bool.and_eq_true _ _ ▸ hstart).2
          obtain ⟨rest, hrest⟩ := hpre
          have hpass : replaceAll p ps rep cs = qt ++ replaceAll p ps rep rest := by
            rw [← hrest]
            exact replaceAll_append_of_not_mem (hhead _ hqmem) rest
          have hdrop : cs.drop qt.length = rest := by
            rw [← hrest, List.drop_left]
          rw [decodeWith_cons_of_find? (hsame.trans hq), decodeWith_cons_of_find? (hskip.trans hq), hpass,
            List.drop_left, ← hdrop, decodeWith_replaceAll hrep hchar hhead (cs.drop qt.length)]
termination_by cs => cs.length
decreasing_by
  all_goals simp only [List.length_drop, List.length_cons]
  all_goals omega

/-- With no names, a pass changes nothing. -/
theorem decodeWith_no_names (cs : List Char) : decodeWith [] cs = cs := by
  induction cs with
  | nil => exact decodeWith_nil
  | cons c cs ih =>
    rw [decodeWith_cons_of_find?_none rfl, List.drop_zero, ih]

/-- Entities whose passes, made one after another in order, decode as one pass
over all of them: every name and every character is non-empty, each entity's
character is in no later name, and the first character of its name is in no
later name after that name's first character. -/
def Chained (es : List (List Char × List Char)) : Prop :=
  (∀ e ∈ es, e.1 ≠ [] ∧ e.2 ≠ []) ∧
    es.Pairwise (fun e q => (∀ r ∈ e.2, r ∉ q.1) ∧ ∀ p ∈ e.1.head?, p ∉ q.1.tail)

/-- Passes over chained entities, one after another, are one pass over all of them. -/
theorem foldl_replace_eq_decodeWith {es : List (List Char × List Char)} (h : Chained es) (cs : List Char) :
    es.foldl (fun acc e => replace e.1 e.2 acc) cs = decodeWith es cs := by
  induction es generalizing cs with
  | nil => exact (decodeWith_no_names cs).symm
  | cons e es ih =>
    obtain ⟨hne, hpair⟩ := h
    rw [List.pairwise_cons] at hpair
    obtain ⟨hname, hrep⟩ := hne e List.mem_cons_self
    obtain ⟨p, ps, hps⟩ := List.exists_cons_of_ne_nil hname
    have hrest : Chained es := ⟨fun q hq => hne q (List.mem_cons_of_mem _ hq), hpair.2⟩
    obtain ⟨name, rep⟩ := e
    subst hps
    rw [List.foldl_cons, ih hrest]
    exact decodeWith_replaceAll hrep (fun q hq => (hpair.1 q hq).1) (fun q hq => (hpair.1 q hq).2 p rfl) cs

/-- The six entities of markup, `&amp;` last, are chained. -/
theorem entities_chained : Chained entities := by
  rw [show entities = [(['&', 'n', 'b', 's', 'p', ';'], [' ']), (['&', 'l', 't', ';'], ['<']),
    (['&', 'g', 't', ';'], ['>']), (['&', 'q', 'u', 'o', 't', ';'], ['"']),
    (['&', '#', '3', '9', ';'], [Char.ofNat 39]), (['&', 'a', 'm', 'p', ';'], ['&'])] from rfl]
  simp [Chained]

/-- Decoding the entities, one replacement after another over the whole text,
is one pass over the text. -/
theorem decodeEntities_eq (cs : List Char) : decodeEntities cs = decodeWith entities cs :=
  foldl_replace_eq_decodeWith entities_chained cs

example : decodeEntities "&amp;lt;".toList = "&lt;".toList := by decide +kernel

end Pass

/-! ## Runs of blanks -/

section Squeeze

-- The equations of squeeze are derived with isBlank closed: opening its
-- table of code points makes deriving them take seconds.
attribute [local irreducible] isBlank

/-- Every maximal run of blanks made one space. -/
def squeeze : List Char → List Char
  | [] => []
  | c :: cs => if isBlank c then ' ' :: squeeze (cs.dropWhile isBlank) else c :: squeeze cs
termination_by cs => cs.length
decreasing_by
  all_goals simp only [List.length_cons]
  · have := (List.dropWhile_suffix isBlank (l := cs)).length_le
    omega
  · omega

theorem squeeze_cons_blank {c : Char} (hc : isBlank c = true) (cs : List Char) :
    squeeze (c :: cs) = ' ' :: squeeze (cs.dropWhile isBlank) := by
  rw [squeeze, if_pos hc]

theorem squeeze_cons_word {c : Char} (hc : isBlank c = false) (cs : List Char) :
    squeeze (c :: cs) = c :: squeeze cs := by
  rw [squeeze, if_neg (by simp [hc])]

@[simp] theorem squeeze_nil : squeeze [] = [] := by
  rw [squeeze]

end Squeeze

/-- Trimming at the front keeps a text that starts with no blank. -/
theorem trimStart_of_head {cs : List Char} (h : ∀ c ∈ cs.head?, isBlank c = false) : trimStart cs = cs := by
  cases cs with
  | nil => rfl
  | cons c cs => simp [trimStart, h c rfl]

/-- Trimming at the end drops trailing blanks. -/
theorem trimEnd_append_blank (xs : List Char) {bs : List Char} (hbs : IsBlankText bs) :
    trimEnd (xs ++ bs) = trimEnd xs := by
  have hnil : (bs.reverse.dropWhile isBlank) = [] :=
    List.dropWhile_eq_nil_iff.2 fun c hc => hbs c (List.mem_reverse.1 hc)
  simp [trimEnd, List.dropWhile_append, hnil]

/-- Trimming at the end reaches no further than the last character that is no blank. -/
theorem trimEnd_append_of_not_blank (xs : List Char) {ys : List Char} (hys : ¬ IsBlankText ys) :
    trimEnd (xs ++ ys) = xs ++ trimEnd ys := by
  have hne : (ys.reverse.dropWhile isBlank) ≠ [] := fun hnil =>
    hys fun c hc => List.dropWhile_eq_nil_iff.1 hnil c (List.mem_reverse.2 hc)
  simp [trimEnd, List.dropWhile_append, hne]

theorem trimEnd_of_no_blank {cs : List Char} (h : ∀ c ∈ cs, isBlank c = false) : trimEnd cs = cs := by
  have hend : cs.reverse.dropWhile isBlank = cs.reverse := by
    cases hr : cs.reverse with
    | nil => rfl
    | cons d ds =>
      have hd : isBlank d = false := h d (List.mem_reverse.1 (hr ▸ List.mem_cons_self))
      simp [hd]
  rw [trimEnd, hend, List.reverse_reverse]

/-- A text of no blanks is its own trim. -/
theorem trim_of_no_blank {cs : List Char} (h : ∀ c ∈ cs, isBlank c = false) : trim cs = cs := by
  rw [trim, trimStart_of_head fun c hc => h c (List.mem_of_mem_head? hc), trimEnd_of_no_blank h]

theorem trimStart_word_append {w : List Char} (hw : IsWord w) (ys : List Char) :
    trimStart (w ++ ys) = w ++ ys :=
  trimStart_of_head fun c hc => hw.2 c (List.mem_of_mem_head? (by rwa [List.head?_append_of_ne_nil _ hw.1] at hc))

/-- Trimming a word and the text after it keeps the word whole. -/
theorem trim_word_append {w ys : List Char} (hw : IsWord w) (hys : ¬ IsBlankText ys) :
    trim (w ++ ys) = w ++ trimEnd ys := by
  rw [trim, trimStart_word_append hw, trimEnd_append_of_not_blank _ hys]

/-- Trimming a word and the blanks after it gives the word. -/
theorem trim_word_append_blank {w bs : List Char} (hw : IsWord w) (hbs : IsBlankText bs) :
    trim (w ++ bs) = w := by
  rw [trim, trimStart_word_append hw, trimEnd_append_blank _ hbs, trimEnd_of_no_blank hw.2]

/-- A blank at the front is trimmed. -/
theorem trim_cons_blank {b : Char} (hb : isBlank b = true) (cs : List Char) : trim (b :: cs) = trim cs := by
  simp [trim, trimStart, hb]

/-- Blanks at the front change no word. -/
theorem wordsFrom_dropWhile (cs : List Char) : wordsFrom (cs.dropWhile isBlank) [] = wordsFrom cs [] := by
  induction cs with
  | nil => rfl
  | cons c cs ih =>
    by_cases hc : isBlank c = true
    · simp [hc, wordsFrom, ih]
    · simp at hc
      simp [hc]

/-- Joining words by single spaces squeezes every run of blanks to one space
and trims the ends; `acc` is the word read so far, reversed. -/
theorem intercalate_wordsFrom (acc : List Char) (hacc : ∀ c ∈ acc, isBlank c = false) :
    ∀ cs, [' '].intercalate (wordsFrom cs acc) = trim (acc.reverse ++ squeeze cs)
  | [] => by
    rw [squeeze_nil, List.append_nil, trim_of_no_blank (fun c hc => hacc c (List.mem_reverse.1 hc))]
    cases acc with
    | nil => rfl
    | cons a acc => simp [wordsFrom]
  | c :: cs => by
    by_cases hc : isBlank c = true
    · rw [squeeze_cons_blank hc]
      cases acc with
      | nil =>
        -- blanks before a word change nothing
        rw [wordsFrom, if_pos hc, if_pos List.isEmpty_nil, ← wordsFrom_dropWhile,
          intercalate_wordsFrom [] (by simp) (cs.dropWhile isBlank)]
        simp only [List.reverse_nil, List.nil_append]
        exact (trim_cons_blank (by decide) _).symm
      | cons a acc =>
        -- the word read so far ends at this blank
        have hword : IsWord (a :: acc).reverse := ⟨by simp, fun c hc => hacc c (List.mem_reverse.1 hc)⟩
        rw [wordsFrom, if_pos hc, if_neg (by simp), ← wordsFrom_dropWhile]
        rcases hd : cs.dropWhile isBlank with _ | ⟨x, xs⟩
        · -- nothing but blanks follow
          rw [squeeze_nil, trim_word_append_blank hword (by simp [IsBlankText]; decide)]
          simp [wordsFrom]
        · -- one space, then the next word
          have hx : isBlank x = false := by
            have := List.head?_dropWhile_not isBlank cs
            rwa [hd] at this
          have hwords : wordsFrom (x :: xs) [] ≠ [] := by
            rw [Ne, wordsFrom_eq_nil_iff]
            exact fun h => by simpa [hx] using h.2 x List.mem_cons_self
          have hnext : ¬ IsBlankText (squeeze (x :: xs)) := by
            rw [squeeze_cons_word hx]
            exact fun h => by simpa [hx] using h x List.mem_cons_self
          have hspace : ' ' :: squeeze (x :: xs) = [' '] ++ squeeze (x :: xs) := rfl
          rw [List.intercalate_cons_of_ne_nil hwords, intercalate_wordsFrom [] (by simp) (x :: xs),
            List.reverse_nil, List.nil_append,
            trim_word_append hword fun h => hnext fun c hc => h c (List.mem_cons_of_mem _ hc),
            hspace, trimEnd_append_of_not_blank _ hnext, trim,
            trimStart_of_head (by rw [squeeze_cons_word hx]; simpa using hx), List.append_assoc]
    · -- the character joins the word being read
      have hc' : isBlank c = false := by simpa using hc
      rw [squeeze_cons_word hc', wordsFrom, if_neg hc,
        intercalate_wordsFrom (c :: acc) (fun d hd => by
          rcases List.mem_cons.1 hd with rfl | hd
          · exact hc'
          · exact hacc d hd) cs]
      simp
termination_by cs => cs.length
decreasing_by
  all_goals
    have := (List.dropWhile_suffix isBlank (l := cs)).length_le
    simp only [List.length_cons]
  · omega
  · rw [hd] at this
    exact Nat.lt_succ_of_le this
  · omega

/-- Collapsing blanks squeezes every run of blanks to one space and trims the ends. -/
theorem collapseBlanks_eq (cs : List Char) : collapseBlanks cs = trim (squeeze cs) :=
  intercalate_wordsFrom [] (by simp) cs

/-- Plain text is the text outside tags, decoded in one pass, with its runs of
blanks squeezed and its ends trimmed. -/
theorem stripMarkup_eq (f : String) :
    (stripMarkup f).toList = trim (squeeze (decodeWith entities (outsideTags f.toList))) := by
  rw [stripMarkup, String.toList_ofList, collapseBlanks_eq, decodeEntities_eq, dropTags_eq_outsideTags]

/-! ## Tidy text -/

/-- Tidy text: no blank at either end and no two blanks side by side. -/
structure Tidy (cs : List Char) : Prop where
  head : ∀ c ∈ cs.head?, isBlank c = false
  last : ∀ c ∈ cs.getLast?, isBlank c = false
  chain : cs.IsChain (fun a b => ¬ (isBlank a = true ∧ isBlank b = true))

theorem IsWord.tidy {w : List Char} (hw : IsWord w) : Tidy w where
  head c hc := hw.2 c (List.mem_of_mem_head? hc)
  last c hc := hw.2 c (List.mem_of_mem_getLast? hc)
  chain := (List.pairwise_of_forall_mem_list fun a ha _ _ => by simp [hw.2 a ha]).isChain

/-- Words joined by single spaces make tidy text: each space stands between
the last character of one word and the first of the next. -/
theorem tidy_intercalate : ∀ {ws : List (List Char)}, (∀ w ∈ ws, IsWord w) → Tidy ([' '].intercalate ws)
  | [], _ => ⟨by simp, by simp, List.IsChain.nil⟩
  | [w], hws => by simpa using (hws w List.mem_cons_self).tidy
  | w :: v :: ws, hws => by
    have hw := hws w List.mem_cons_self
    have hrest : Tidy ([' '].intercalate (v :: ws)) :=
      tidy_intercalate fun u hu => hws u (List.mem_cons_of_mem _ hu)
    obtain ⟨r, rs, hr⟩ : ∃ r rs, [' '].intercalate (v :: ws) = r :: rs := by
      obtain ⟨r, rs, hv⟩ := List.exists_cons_of_ne_nil (hws v (by simp)).1
      cases ws <;> simp [hv]
    rw [hr] at hrest
    have hhead : isBlank r = false := hrest.head r rfl
    rw [List.intercalate_cons_cons, hr, List.append_assoc, List.singleton_append]
    refine ⟨?_, ?_, ?_⟩
    · rw [List.head?_append_of_ne_nil _ hw.1]
      exact hw.tidy.head
    · intro c hc
      exact hrest.last c (by simpa [List.getLast?_append] using hc)
    · refine hw.tidy.chain.append (List.isChain_cons.2 ⟨?_, hrest.chain⟩) ?_
      · simp [hhead]
      · intro a ha b hb
        simp_all [hw.tidy.last a ha]

end Typeahead.Text

namespace Typeahead.Dictionary

/-- A translation read from an answer is the plain text of some definition,
and it is not empty. -/
theorem extract_ok {body language t : String} (h : extract body language = .ok t) :
    t ≠ "" ∧ ∃ d, t = Text.stripMarkup d := by
  unfold extract at h
  split at h
  · cases h
  · split at h
    · rename_i found hfind
      cases h
      have hne := List.find?_some hfind
      obtain ⟨d, -, rfl⟩ := List.mem_map.1 (List.mem_of_find?_eq_some hfind)
      exact ⟨by simpa using hne, d, rfl⟩
    · cases h

/-- Plain text of markup is read in stages: the text outside tags, its
entities decoded in one pass, its runs of blanks squeezed and its ends
trimmed. The six replacements decode that one pass; so every translation
read from an answer is tidy text, and not empty. -/
theorem markup_decodes_in_one_pass :
    (∀ f, (Text.stripMarkup f).toList =
      Text.trim (Text.squeeze (Text.decodeWith Text.entities (Text.outsideTags f.toList)))) ∧
    (∀ cs, Text.decodeEntities cs = Text.decodeWith Text.entities cs) ∧
    ∀ body language t, extract body language = .ok t → t ≠ "" ∧ Text.Tidy t.toList := by
  refine ⟨Text.stripMarkup_eq, Text.decodeEntities_eq, fun body language t h => ?_⟩
  obtain ⟨hne, d, rfl⟩ := extract_ok h
  refine ⟨hne, ?_⟩
  rw [Text.stripMarkup, String.toList_ofList]
  exact Text.tidy_intercalate fun w hw => Text.isWord_of_mem_words hw

/-- A definition with a tag, an escaped entity and loose blanks reads as tidy
text with the entity decoded once. -/
theorem tagged_definition_reads_tidy :
    extract "\x7b\"zh\":[\x7b\"definitions\":[\x7b\"definition\":\"  <b>cat</b>&amp;lt;  x \"\x7d]\x7d]\x7d" "zh" =
      .ok "cat&lt; x" ∧ "cat&lt; x" ≠ "" ∧ Text.Tidy "cat&lt; x".toList :=
  have h := Lexicon.ok_of_toOption (by decide +kernel)
  ⟨h, markup_decodes_in_one_pass.2.2 _ _ _ h⟩

end Typeahead.Dictionary
