-- The steps of a generation. The generation loop pushes the output words one
-- at a time and calls back after each with the number pushed so far, so the
-- callbacks are numbered 1, 2, … with no gap or repeat across phrase
-- boundaries and the words of one target. The first callback that says stop
-- ends the generation, with no output and no further callback; a generation
-- that no callback stops calls back once per output word and joins them all.
import Typeahead.Lexicon.Generate

namespace Typeahead.Lexicon

variable (m : Model) (text : String)

/-- A generation calls back with 1, 2, … up to some `k` within the number of
output words, every callback before the `k`-th going on. It has no output
exactly when the `k`-th callback says stop; otherwise `k` is the number of
output words and the output joins them all. -/
theorem generate_stops_at_first (stop : Nat → Bool) :
    let N := (m.outputWords text).length
    let g := m.generate text stop
    ∃ k ≤ N, g.steps = List.range' 1 k ∧ (∀ j, 0 < j → j < k → stop j = false) ∧
      (g.output = none ↔ 0 < k ∧ stop k = true) ∧
      (g.output ≠ none → k = N ∧ g.output = some (m.joiner.intercalate (m.outputWords text))) := by
  intro N g
  cases hk : (List.range' 1 N).find? stop with
  | some k =>
    -- a callback said stop: the `k`-th, the first to
    obtain ⟨hstop, hmem, hbefore⟩ := List.find?_range'_eq_some.1 hk
    rw [List.mem_range'_1] at hmem
    have hg : g = ⟨none, List.range' 1 k⟩ := by
      simp only [g, Model.generate_eq, N] at hk ⊢
      rw [hk]
    refine ⟨k, by omega, by rw [hg], fun j hj hjk => by simpa using hbefore j hj hjk, ?_, ?_⟩
    · simp only [hg, true_iff]
      exact ⟨by omega, hstop⟩
    · simp [hg]
  | none =>
    -- no callback said stop, the last one included
    have hlive := List.find?_range'_eq_none.1 hk
    have hg : g = ⟨some (m.joiner.intercalate (m.outputWords text)), List.range' 1 N⟩ := by
      simp only [g, Model.generate_eq, N] at hk ⊢
      rw [hk]
    refine ⟨N, Nat.le_refl N, by rw [hg], fun j hj hjN => by simpa using hlive j hj (by omega), ?_, ?_⟩
    · simp only [hg, reduceCtorEq, false_iff, not_and, Bool.not_eq_true]
      intro hN
      simpa using hlive N hN (by omega)
    · simp [hg]

/-- A callback that says stop at step `b` alone stops the generation exactly
when `b` is the number of one of the output words; the steps then run from 1
to `b`, and otherwise over every output word. -/
theorem generate_break_at (b : Nat) :
    let N := (m.outputWords text).length
    let g := m.generate text (· == b)
    (g.output = none ↔ 0 < b ∧ b ≤ N) ∧
      g.steps = if 0 < b ∧ b ≤ N then List.range' 1 b else List.range' 1 N := by
  intro N g
  obtain ⟨k, hkN, hsteps, hbefore, hnone, hsome⟩ := generate_stops_at_first m text (· == b)
  by_cases hout : g.output = none
  · -- stopped at the `k`-th callback, which is the one at `b`
    obtain ⟨hk, hkb⟩ := hnone.1 hout
    have hkb : k = b := by simpa using hkb
    subst hkb
    exact ⟨iff_of_true hout ⟨hk, hkN⟩, by rw [if_pos ⟨hk, hkN⟩]; exact hsteps⟩
  · -- never stopped, so no step up to the last is `b`
    obtain ⟨hkN', -⟩ := hsome hout
    have hb : ¬ (0 < b ∧ b ≤ N) := by
      rintro ⟨hb0, hbN⟩
      rcases Nat.lt_or_eq_of_le (show b ≤ k by rw [hkN']; exact hbN) with hlt | hbk
      · simpa using hbefore b hb0 hlt
      · exact hout (hnone.2 ⟨hbk ▸ hb0, by simp [hbk]⟩)
    exact ⟨iff_of_false hout hb, by rw [if_neg hb, hsteps, hkN']⟩

/-- A two-word target counts two steps, and the count runs on into the next
phrase; a stop inside the target ends the generation there. -/
example :
    let m : Model := ⟨"en-fr", " ", true, [(["hello"], ["bon", "jour"]), (["world"], ["monde"])], 1⟩
    m.generate "hello world" (fun _ => false) = ⟨some "bon jour monde", [1, 2, 3]⟩ ∧
      m.generate "hello world" (· == 1) = ⟨none, [1]⟩ := by
  decide +kernel

/-- The callbacks of a generation are numbered 1, 2, … up to the first that
says stop, which ends it with no output and no further callback; when none
says stop there is one per output word and the output joins them all. So a
callback that stops at `b` alone ends the generation exactly when `b` is
between 1 and the number of output words, with the steps 1 to `b`, and
otherwise lets it run over every output word. -/
theorem generate_numbers_steps :
    (∀ stop : Nat → Bool,
      let N := (m.outputWords text).length
      let g := m.generate text stop
      ∃ k ≤ N, g.steps = List.range' 1 k ∧ (∀ j, 0 < j → j < k → stop j = false) ∧
        (g.output = none ↔ 0 < k ∧ stop k = true) ∧
        (g.output ≠ none → k = N ∧ g.output = some (m.joiner.intercalate (m.outputWords text)))) ∧
    (∀ b : Nat,
      let N := (m.outputWords text).length
      let g := m.generate text (· == b)
      (g.output = none ↔ 0 < b ∧ b ≤ N) ∧
        g.steps = if 0 < b ∧ b ≤ N then List.range' 1 b else List.range' 1 N) :=
  ⟨generate_stops_at_first m text, generate_break_at m text⟩

end Typeahead.Lexicon
