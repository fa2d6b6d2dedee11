-- Translating with a phrase model. The words of the text are covered from
-- left to right by the longest phrase the table knows at each place; a
-- word no phrase starts with passes through as written. Each output word
-- is pushed and called back on before the next, with the number of words
-- pushed so far, and a callback may stop the generation at any step.
import Typeahead.Lexicon.Model

namespace Typeahead.Lexicon

/-- The longest known phrase at the head of the keyed words: its length and target. -/
def Model.longest (m : Model) (keyed : List String) : Option (Nat × List String) :=
  ((List.range (min m.maxLen keyed.length)).reverse.findSome? (fun k =>
    (m.lookup (keyed.take (k + 1))).map (k + 1, ·)))

theorem Model.longest_pos {m : Model} {keyed : List String} {n : Nat} {t : List String}
    (h : m.longest keyed = some (n, t)) : 0 < n := by
  unfold Model.longest at h
  obtain ⟨k, _, hk⟩ := List.exists_of_findSome?_eq_some h
  simp only [Option.map_eq_some_iff] at hk
  obtain ⟨_, _, hk⟩ := hk
  cases hk
  omega

/-- The output words for the keyed words `keyed`, written `written` in the text. -/
def Model.emit (m : Model) (keyed written : List String) : List String :=
  match keyed, written with
  | k :: ks, w :: ws =>
    match h : m.longest (k :: ks) with
    | some (n, t) =>
      have : n > 0 := Model.longest_pos h
      t ++ m.emit ((k :: ks).drop n) ((w :: ws).drop n)
    | none => w :: m.emit ks ws
  | _, _ => []
termination_by keyed.length
decreasing_by
  · simp only [List.length_drop, List.length_cons]; omega
  · simp

theorem Model.emit_phrase {m : Model} {k w : String} {ks ws : List String} {n : Nat} {t : List String}
    (h : m.longest (k :: ks) = some (n, t)) :
    m.emit (k :: ks) (w :: ws) = t ++ m.emit ((k :: ks).drop n) ((w :: ws).drop n) := by
  rw [Model.emit.eq_1]
  split <;> simp_all

theorem Model.emit_word {m : Model} {k w : String} {ks ws : List String} (h : m.longest (k :: ks) = none) :
    m.emit (k :: ks) (w :: ws) = w :: m.emit ks ws := by
  rw [Model.emit.eq_1]
  split <;> simp_all

theorem Model.emit_nil (m : Model) : m.emit [] [] = [] := by
  rw [Model.emit.eq_def]

/-- The output words of a text. -/
def Model.outputWords (m : Model) (text : String) : List String :=
  let written := Text.wordsOf text
  m.emit (written.map (normalize m.lowercase)) written

/-- What one generation gives: the steps taken, and the output unless it was stopped. -/
structure Generation where
  output : Option String
  steps : List Nat
  deriving Repr, DecidableEq

/-- Pushes the words `ts` one at a time after the words `out` already pushed,
calling back after each with the number pushed so far. Gives the words pushed,
or `none` once a callback says stop, and the step numbers called back with. -/
def pushSteps (stop : Nat → Bool) (out : List String) : List String → Option (List String) × List Nat
  | [] => (some out, [])
  | t :: ts =>
    let out := out ++ [t]
    if stop out.length then (none, [out.length])
    else
      let (r, calls) := pushSteps stop out ts
      (r, out.length :: calls)

/-- Pushes the words one place emits, then goes on with `rest` from the words
pushed, unless a callback said stop. -/
def pushThen (stop : Nat → Bool) (out ts : List String)
    (rest : List String → Option (List String) × List Nat) : Option (List String) × List Nat :=
  match pushSteps stop out ts with
  | (some out', calls) => let (r, more) := rest out'; (r, calls ++ more)
  | (none, calls) => (none, calls)

/-- The generation loop over the keyed words `keyed`, written `written` in the
text, after the words `out` already pushed: the longest phrase at the head
emits its target, or the word there passes through, and each word emitted is
pushed and called back on before the loop moves on. -/
def Model.generateFrom (m : Model) (stop : Nat → Bool) (keyed written out : List String) :
    Option (List String) × List Nat :=
  match keyed, written with
  | k :: ks, w :: ws =>
    match h : m.longest (k :: ks) with
    | some (n, t) =>
      have : n > 0 := Model.longest_pos h
      pushThen stop out t (m.generateFrom stop ((k :: ks).drop n) ((w :: ws).drop n))
    | none => pushThen stop out [w] (m.generateFrom stop ks ws)
  | _, _ => (some out, [])
termination_by keyed.length
decreasing_by
  · simp only [List.length_drop, List.length_cons]; omega
  · simp

/-- Generates the translation of a text; the steps stop at the first step
number `stop` accepts. -/
def Model.generate (m : Model) (text : String) (stop : Nat → Bool) : Generation :=
  let written := Text.wordsOf text
  let (r, steps) := m.generateFrom stop (written.map (normalize m.lowercase)) written []
  ⟨r.map m.joiner.intercalate, steps⟩

/-! ## The loop pushes the output words one by one -/

/-- Pushing stops at the first count a callback stops, and otherwise pushes
every word, with one callback per word numbered on from the words already
pushed. -/
theorem pushSteps_eq (stop : Nat → Bool) (out ts : List String) :
    pushSteps stop out ts =
      match (List.range' (out.length + 1) ts.length).find? stop with
      | some k => (none, List.range' (out.length + 1) (k - out.length))
      | none => (some (out ++ ts), List.range' (out.length + 1) ts.length) := by
  induction ts generalizing out with
  | nil => simp [pushSteps]
  | cons t ts ih =>
    rw [List.length_cons, List.range'_succ, List.find?_cons]
    by_cases hstop : stop (out.length + 1) = true
    · simp [pushSteps, hstop]
    · simp only [pushSteps, List.length_append, List.length_singleton, hstop, Bool.false_eq_true,
        if_false, ih]
      cases hk : (List.range' (out.length + 1 + 1) ts.length).find? stop with
      | none => simp
      | some k =>
        -- the stop lies past the word just pushed
        have hmem := List.mem_of_find?_eq_some hk
        rw [List.mem_range'_1] at hmem
        simp only
        rw [show k - out.length = (k - (out.length + 1)) + 1 by omega, List.range'_succ]

/-- Pushing two runs of words is pushing the first, then the second from where
the first left off. -/
theorem pushSteps_append (stop : Nat → Bool) (out ts us : List String) :
    pushSteps stop out (ts ++ us) = pushThen stop out ts (fun out' => pushSteps stop out' us) := by
  induction ts generalizing out with
  | nil => simp [pushThen, pushSteps]
  | cons t ts ih =>
    by_cases hstop : stop (out.length + 1) = true
    · simp [pushThen, pushSteps, hstop]
    · simp only [List.cons_append, pushSteps, List.length_append, List.length_singleton, hstop,
        Bool.false_eq_true, if_false, ih, pushThen]
      cases pushSteps stop (out ++ [t]) ts with
      | mk r calls => cases r <;> simp

theorem Model.generateFrom_phrase {m : Model} {stop : Nat → Bool} {k w : String} {ks ws out : List String}
    {n : Nat} {t : List String} (h : m.longest (k :: ks) = some (n, t)) :
    m.generateFrom stop (k :: ks) (w :: ws) out =
      pushThen stop out t (m.generateFrom stop ((k :: ks).drop n) ((w :: ws).drop n)) := by
  rw [Model.generateFrom.eq_1]
  split <;> simp_all

theorem Model.generateFrom_word {m : Model} {stop : Nat → Bool} {k w : String} {ks ws out : List String}
    (h : m.longest (k :: ks) = none) :
    m.generateFrom stop (k :: ks) (w :: ws) out = pushThen stop out [w] (m.generateFrom stop ks ws) := by
  rw [Model.generateFrom.eq_1]
  split <;> simp_all

/-- Across the places of the text, the loop pushes exactly the output words,
in order: the count runs on over phrase boundaries. -/
theorem Model.generateFrom_eq (m : Model) (stop : Nat → Bool) (keyed written out : List String) :
    m.generateFrom stop keyed written out = pushSteps stop out (m.emit keyed written) := by
  induction keyed, written using Model.emit.induct m generalizing out with
  | case1 k ks w ws n t h _ ih =>
    rw [Model.generateFrom_phrase h, Model.emit_phrase h, pushSteps_append]
    exact congrArg _ (funext ih)
  | case2 k ks w ws h ih =>
    rw [Model.generateFrom_word h, Model.emit_word h, ← List.singleton_append (l := m.emit ks ws),
      pushSteps_append]
    exact congrArg _ (funext ih)
  | case3 keyed written hnot =>
    -- with no word left on either side the loop pushes nothing
    have hloop : m.generateFrom stop keyed written out = (some out, []) := by
      rw [Model.generateFrom.eq_def]
      split
      · exact (hnot _ _ _ _ rfl rfl).elim
      · rfl
    have hemit : m.emit keyed written = [] := by
      rw [Model.emit.eq_def]
      split
      · exact (hnot _ _ _ _ rfl rfl).elim
      · rfl
    rw [hloop, hemit]
    rfl

/-- A generation calls back with 1, 2, … up to the first step `stop` accepts,
and then has no output; when `stop` accepts none of the output words' steps,
it calls back once per output word and joins them all. -/
theorem Model.generate_eq (m : Model) (text : String) (stop : Nat → Bool) :
    m.generate text stop =
      match (List.range' 1 (m.outputWords text).length).find? stop with
      | some k => ⟨none, List.range' 1 k⟩
      | none => ⟨some (m.joiner.intercalate (m.outputWords text)),
          List.range' 1 (m.outputWords text).length⟩ := by
  simp only [Model.generate, Model.generateFrom_eq, pushSteps_eq, List.length_nil, Nat.zero_add,
    Nat.sub_zero, List.nil_append]
  unfold Model.outputWords
  cases (List.range' 1 (m.emit ((Text.wordsOf text).map (normalize m.lowercase))
    (Text.wordsOf text)).length).find? stop <;> rfl

/-- With no stop, every output word is a step and the output joins them all. -/
theorem Model.generate_continue (m : Model) (text : String) :
    m.generate text (fun _ => false) =
      ⟨some (m.joiner.intercalate (m.outputWords text)), (List.range (m.outputWords text).length).map (· + 1)⟩ := by
  have hnone : (List.range' 1 (m.outputWords text).length).find? (fun _ => false) = none :=
    List.find?_eq_none.2 (by simp)
  rw [Model.generate_eq, hnone, List.range'_eq_map_range]
  simp only [Nat.add_comm 1]

end Typeahead.Lexicon
