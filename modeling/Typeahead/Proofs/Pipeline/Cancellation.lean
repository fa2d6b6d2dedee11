-- Cancellation of a local lookup. The token is read at the start, in every
-- callback of every stage, and once more at the end, and a read that finds it
-- cancelled finds it so from then on. A lookup whose token is cancelled by
-- its last read is cancelled, whatever the stages returned, errors included;
-- a token cancelled at the start runs no stage; and a token first found
-- cancelled in a callback stops that stage there, so after the moment it was
-- cancelled the stage emits at most the one token that callback follows, and
-- no later stage runs. A stage that panics is the exception: the lookup
-- fails as the job is awaited and makes no final check, so a token
-- cancelled after the panicking stage's last callback does not cancel it.
-- With a token never cancelled, the lookup gives what the two stages give
-- run one after the other. A phrase model keeps the step-model contract and
-- never panics, so with two phrase models every lookup makes its final check.
import Mathlib
import Typeahead.Pipeline

namespace Typeahead

/-! ## Step numbers and callbacks -/

theorem stepNumbers_succ (n : Nat) : stepNumbers (n + 1) = stepNumbers n ++ [n + 1] := by
  simp [stepNumbers, List.range_succ]

theorem stepNumbers_eq_range' (n : Nat) : stepNumbers n = List.range' 1 n := by
  simp [stepNumbers, List.range'_eq_map_range, Nat.add_comm]

@[simp] theorem length_stepNumbers (n : Nat) : (stepNumbers n).length = n := by
  simp [stepNumbers]

theorem mem_stepNumbers {k n : Nat} : k ∈ stepNumbers n ↔ 0 < k ∧ k ≤ n := by
  simp only [stepNumbers, List.mem_map, List.mem_range]
  constructor
  · rintro ⟨j, hj, rfl⟩
    omega
  · intro h
    exact ⟨k - 1, by omega, by omega⟩

/-- A callback that says stop from step `j` on first stops at `j`. -/
theorem find?_stepNumbers_threshold {n j : Nat} {stop : Nat → Bool} (hstop : ∀ k, stop k = decide (j ≤ k))
    (hj : 0 < j) (hjn : j ≤ n) : (stepNumbers n).find? stop = some j := by
  induction n with
  | zero => omega
  | succ n ih =>
    rw [stepNumbers_succ, List.find?_append]
    by_cases hle : j ≤ n
    · rw [ih hle]
      rfl
    · have hnone : (stepNumbers n).find? stop = none := by
        rw [List.find?_eq_none]
        intro k hk
        rw [hstop]
        have := (mem_stepNumbers.1 hk).2
        simp only [decide_eq_true_eq]
        omega
      rw [hnone, Option.none_or, List.find?_singleton, hstop, show j = n + 1 by omega]
      simp

/-- A step model that ends other than with no output was stopped by no
callback. -/
theorem StepRun.under_unstopped {r : StepRun} {stop : Nat → Bool}
    (h : (r.under stop).2 ≠ .returns (.ok none)) :
    r.under stop = (stepNumbers r.steps, r.result) ∧ ∀ k ∈ stepNumbers r.steps, stop k = false := by
  unfold StepRun.under at h ⊢
  cases hf : (stepNumbers r.steps).find? stop with
  | some k => simp [hf] at h
  | none => exact ⟨rfl, fun k hk => by simpa using List.find?_eq_none.1 hf k hk⟩

/-- A step model that no callback stops runs to its end. -/
theorem StepRun.under_live {r : StepRun} {stop : Nat → Bool}
    (h : ∀ k, 0 < k → k ≤ r.steps → stop k = false) : r.under stop = (stepNumbers r.steps, r.result) := by
  have hnone : (stepNumbers r.steps).find? stop = none := by
    rw [List.find?_eq_none]
    intro k hk
    obtain ⟨hk0, hkn⟩ := mem_stepNumbers.1 hk
    simp [h k hk0 hkn]
  simp [StepRun.under, hnone]

/-- A step model stopped from step `j` on calls back with steps 1 to `j` and
returns no output. -/
theorem StepRun.under_cut {r : StepRun} {stop : Nat → Bool} {j : Nat}
    (hstop : ∀ k, stop k = decide (j ≤ k)) (hj : 0 < j) (hjn : j ≤ r.steps) :
    r.under stop = (stepNumbers j, .returns (.ok none)) := by
  simp [StepRun.under, find?_stepNumbers_threshold hstop hj hjn]

/-! ## The token -/

namespace Token

theorem seen_iff (t : Token) (i : Nat) : t.seen i = true ↔ ∃ c, t.firstCancelled = some c ∧ c ≤ i := by
  unfold seen
  cases t.firstCancelled <;> simp

/-- The callbacks after read `last` stop from the step whose read is the first
to find the token cancelled. -/
theorem seen_after {t : Token} {i last : Nat} (hi : t.firstCancelled = some i) (hlast : last < i) (k : Nat) :
    t.seen (last + k) = decide (i - last ≤ k) := by
  simp only [seen, hi, Option.any_some]
  apply Bool.eq_iff_iff.2
  simp only [decide_eq_true_eq]
  omega

/-- A read at or after the first that finds the token cancelled finds it so. -/
theorem seen_of_le {t : Token} {i j : Nat} (hi : t.firstCancelled = some i) (h : i ≤ j) : t.seen j = true :=
  (seen_iff t j).2 ⟨i, hi, h⟩

/-- A read before the first that finds the token cancelled finds it live. -/
theorem seen_of_lt {t : Token} {i j : Nat} (hi : t.firstCancelled = some i) (h : j < i) : t.seen j = false := by
  simp only [seen, hi, Option.any_some, decide_eq_false_iff_not]
  omega

theorem seen_never {t : Token} (h : t.firstCancelled = none) (i : Nat) : t.seen i = false := by
  simp [seen, h]

end Token

/-! ## The stages -/

namespace Pipeline

variable {tok : Token}

theorem runStages_next {s : StepModel} {rest : List StepModel} {text next : String} {last : Nat}
    {steps : List Nat} (h : (s.run text).under (fun k => tok.seen (last + k)) = (steps, .returns (.ok (some next)))) :
    runStages tok (s :: rest) text last =
      ((runStages tok rest next (last + steps.length)).1,
        steps :: (runStages tok rest next (last + steps.length)).2.1,
        (runStages tok rest next (last + steps.length)).2.2) := by
  simp only [runStages, h]

theorem runStages_halt {s : StepModel} {rest : List StepModel} {text : String} {last : Nat}
    {steps : List Nat} {r : StageEnd}
    (h : (s.run text).under (fun k => tok.seen (last + k)) = (steps, r)) (hr : ∀ next, r ≠ .returns (.ok (some next))) :
    runStages tok (s :: rest) text last = (r, [steps], last + steps.length) := by
  rw [runStages.eq_2, h]
  dsimp only
  split
  · -- the stage returned an output after all, against `hr`
    rename_i next
    exact absurd rfl (hr next)
  · rfl

/-- A last stage gives what it returns, and its steps. -/
theorem runStages_single (s : StepModel) (text : String) (last : Nat) :
    runStages tok [s] text last =
      (((s.run text).under (fun k => tok.seen (last + k))).2,
        [((s.run text).under (fun k => tok.seen (last + k))).1],
        last + ((s.run text).under (fun k => tok.seen (last + k))).1.length) := by
  simp only [runStages]
  split
  · rename_i next heq
    rw [heq]
  · rfl

/-- The stages' callbacks are the reads after `last`, one per step. -/
theorem runStages_last (tok : Token) :
    ∀ (ss : List StepModel) (text : String) (last : Nat),
      (runStages tok ss text last).2.2 = last + ((runStages tok ss text last).2.1.map List.length).sum
  | [], text, last => by simp [runStages]
  | s :: rest, text, last => by
    rcases hu : (s.run text).under (fun k => tok.seen (last + k)) with ⟨steps, r⟩
    by_cases hr : ∃ next, r = .returns (.ok (some next))
    · obtain ⟨next, rfl⟩ := hr
      rw [runStages_next hu]
      simp only [List.map_cons, List.sum_cons]
      rw [runStages_last tok rest next (last + steps.length)]
      omega
    · rw [runStages_halt hu (fun next h => hr ⟨next, h⟩)]
      simp

/-- Stages that end in a panic found the token live at every callback: a
callback that found it cancelled would have stopped its stage with no
output. -/
theorem runStages_live_of_panics (tok : Token) :
    ∀ (ss : List StepModel) (text : String) (last : Nat) {t : String},
      (runStages tok ss text last).1 = .panics t →
        ∀ j, last < j → j ≤ (runStages tok ss text last).2.2 → tok.seen j = false
  | [], text, last, t, h => by simp [runStages] at h
  | s :: rest, text, last, t, h => by
    rcases hu : (s.run text).under (fun k => tok.seen (last + k)) with ⟨steps, r⟩
    -- this stage was not stopped, so its callbacks found the token live
    have hlive : ∀ j, last < j → j ≤ last + steps.length → tok.seen j = false := by
      have hr : r ≠ .returns (.ok none) := by
        rintro rfl
        rw [runStages_halt hu (fun _ h => by cases h)] at h
        cases h
      obtain ⟨hrun, hk⟩ := StepRun.under_unstopped (r := s.run text) (by rw [hu]; exact hr)
      rw [hu] at hrun
      obtain ⟨rfl, -⟩ := Prod.mk.inj hrun
      intro j hj hjle
      simpa [Nat.add_sub_cancel' hj.le] using
        hk (j - last) (mem_stepNumbers.2 ⟨by omega, by rw [length_stepNumbers] at hjle; omega⟩)
    intro j hj hjle
    by_cases hr : ∃ next, r = .returns (.ok (some next))
    · obtain ⟨next, rfl⟩ := hr
      rw [runStages_next hu] at h hjle
      by_cases hin : j ≤ last + steps.length
      · exact hlive j hj hin
      · exact runStages_live_of_panics tok rest next (last + steps.length) h j (by omega) hjle
    · rw [runStages_halt hu (fun next h => hr ⟨next, h⟩)] at hjle
      exact hlive j hj hjle

/-! ## A lookup -/

/-- Past the check at the start, stages that panic fail the lookup on the
join error, with no final check. -/
theorem lookup_of_panics (p : Pipeline) (text : String) (h0 : tok.seen 0 = false) {t : String}
    (h : (runStages tok p.stages text 0).1 = .panics t) :
    p.lookup text tok =
      ⟨.failure (.modelRuntime t), (runStages tok p.stages text 0).2.1, (runStages tok p.stages text 0).2.2⟩ := by
  simp only [lookup, h0, Bool.false_eq_true, if_false, h]

/-- Past the check at the start, what stages that returned give meets the
final check. -/
theorem lookup_of_returns (p : Pipeline) (text : String) (h0 : tok.seen 0 = false)
    {r : Except Error (Option String)} (h : (runStages tok p.stages text 0).1 = .returns r) :
    p.lookup text tok =
      ⟨if tok.seen ((runStages tok p.stages text 0).2.2 + 1) then .cancelled else outcomeOf r,
        (runStages tok p.stages text 0).2.1, (runStages tok p.stages text 0).2.2 + 1⟩ := by
  simp only [lookup, h0, Bool.false_eq_true, if_false, h]

/-- A lookup whose token is cancelled by its last read is cancelled. -/
theorem lookup_cancelled (p : Pipeline) (text : String) {i : Nat} (hi : tok.firstCancelled = some i)
    (hle : i ≤ (p.lookup text tok).lastRead) : (p.lookup text tok).outcome = .cancelled := by
  by_cases h0 : tok.seen 0 = true
  · simp [lookup, h0]
  · rw [Bool.not_eq_true] at h0
    cases he : (runStages tok p.stages text 0).1 with
    | panics t =>
      -- the stages found the token live up to their last callback, read `i` among them
      rw [lookup_of_panics p text h0 he] at hle
      have hpos : 0 < i := Nat.pos_of_ne_zero fun h => by
        rw [Token.seen_of_le hi (Nat.le_of_eq h)] at h0
        cases h0
      have hlive := runStages_live_of_panics tok p.stages text 0 he i hpos hle
      rw [Token.seen_of_le hi (Nat.le_refl i)] at hlive
      cases hlive
    | returns r =>
      -- the final check is the read after the stages
      rw [lookup_of_returns p text h0 he] at hle ⊢
      simp [Token.seen_of_le hi hle]

/-- After the check at the start, the last read is the final check after
every callback, unless a stage panicked: the lookup then fails on the join
error, and its last read is the last callback. -/
theorem lookup_lastRead (p : Pipeline) (text : String) (h0 : tok.seen 0 = false) :
    (p.lookup text tok).lastRead = ((p.lookup text tok).stages.map List.length).sum + 1 ∨
      ∃ t, (p.lookup text tok).outcome = .failure (.modelRuntime t) ∧
        (p.lookup text tok).lastRead = ((p.lookup text tok).stages.map List.length).sum := by
  have hlast := runStages_last tok p.stages text 0
  rw [Nat.zero_add] at hlast
  cases he : (runStages tok p.stages text 0).1 with
  | panics t => exact Or.inr ⟨t, by rw [lookup_of_panics p text h0 he], by rw [lookup_of_panics p text h0 he, ← hlast]⟩
  | returns r => exact Or.inl (by rw [lookup_of_returns p text h0 he]; simp only [hlast])

/-- A token cancelled at the start runs no stage. -/
theorem lookup_at_start (p : Pipeline) (text : String) (h0 : tok.firstCancelled = some 0) :
    p.lookup text tok = ⟨.cancelled, [], 0⟩ := by
  simp [lookup, Token.seen_of_le h0 (Nat.le_refl 0)]

/-- A token first found cancelled by the first stage's callback at step `i`
stops that stage there, and the second stage never runs. -/
theorem lookup_in_first (p : Pipeline) (text : String) {i : Nat} (hi : tok.firstCancelled = some i)
    (hpos : 0 < i) (hin : i ≤ (p.toEnglish.run text).steps) :
    p.lookup text tok = ⟨.cancelled, [stepNumbers i], i + 1⟩ := by
  have h0 : tok.seen 0 = false := Token.seen_of_lt hi (by omega)
  have hu : (p.toEnglish.run text).under (fun k => tok.seen (0 + k)) = (stepNumbers i, .returns (.ok none)) :=
    StepRun.under_cut (fun k => by rw [Token.seen_after hi hpos]; rfl) hpos hin
  have hrun : runStages tok p.stages text 0 = (.returns (.ok none), [stepNumbers i], i) := by
    rw [stages, runStages_halt hu (fun _ h => by cases h)]
    simp
  have hfinal : tok.seen (i + 1) = true := Token.seen_of_le hi (by omega)
  rw [lookup_of_returns p text h0 (by rw [hrun]), hrun]
  simp [hfinal]

/-- A token first found cancelled by the second stage's callback stops that
stage there, after the first stage ran to its end. -/
theorem lookup_in_second (p : Pipeline) (text : String) {i : Nat} {mid : String}
    (hi : tok.firstCancelled = some i) (hmid : (p.toEnglish.run text).result = .returns (.ok (some mid)))
    (hafter : (p.toEnglish.run text).steps < i)
    (hin : i ≤ (p.toEnglish.run text).steps + (p.fromEnglish.run mid).steps) :
    p.lookup text tok =
      ⟨.cancelled, [stepNumbers (p.toEnglish.run text).steps,
        stepNumbers (i - (p.toEnglish.run text).steps)], i + 1⟩ := by
  have h0 : tok.seen 0 = false := Token.seen_of_lt hi (by omega)
  -- no callback of the first stage reaches the read that finds the token cancelled
  have hua : (p.toEnglish.run text).under (fun k => tok.seen (0 + k)) =
      (stepNumbers (p.toEnglish.run text).steps, .returns (.ok (some mid))) := by
    rw [StepRun.under_live (fun k _ hk => Token.seen_of_lt hi (by omega)), hmid]
  have hub : (p.fromEnglish.run mid).under (fun k => tok.seen ((p.toEnglish.run text).steps + k)) =
      (stepNumbers (i - (p.toEnglish.run text).steps), .returns (.ok none)) :=
    StepRun.under_cut (fun k => Token.seen_after hi hafter k) (by omega) (by omega)
  have hrun : runStages tok p.stages text 0 =
      (.returns (.ok none), [stepNumbers (p.toEnglish.run text).steps, stepNumbers (i - (p.toEnglish.run text).steps)], i) := by
    rw [stages, runStages_next hua, runStages_single]
    simp only [length_stepNumbers, Nat.zero_add, hub]
    congr 2
    omega
  have hfinal : tok.seen (i + 1) = true := Token.seen_of_le hi (by omega)
  rw [lookup_of_returns p text h0 (by rw [hrun]), hrun]
  simp [hfinal]

/-- A first stage that panics fails the lookup on its join error as soon as
it ends: with the token live at every callback, the lookup fails whatever
the token does after the last of them. -/
theorem lookup_panics_first (p : Pipeline) (text : String) {t : String}
    (hpanic : (p.toEnglish.run text).result = .panics t)
    (hlive : ∀ j ≤ (p.toEnglish.run text).steps, tok.seen j = false) :
    p.lookup text tok =
      ⟨.failure (.modelRuntime t), [stepNumbers (p.toEnglish.run text).steps], (p.toEnglish.run text).steps⟩ := by
  have hu : (p.toEnglish.run text).under (fun k => tok.seen (0 + k)) =
      (stepNumbers (p.toEnglish.run text).steps, .panics t) := by
    rw [StepRun.under_live (fun k _ hk => hlive _ (by omega)), hpanic]
  have hrun : runStages tok p.stages text 0 =
      (.panics t, [stepNumbers (p.toEnglish.run text).steps], (p.toEnglish.run text).steps) := by
    rw [stages, runStages_halt hu (fun _ h => by cases h)]
    simp
  rw [lookup_of_panics p text (hlive 0 (Nat.zero_le _)) (by rw [hrun]), hrun]

/-- A second stage that panics fails the lookup in the same way, after the
first stage ran to its end. -/
theorem lookup_panics_second (p : Pipeline) (text : String) {mid t : String}
    (hmid : (p.toEnglish.run text).result = .returns (.ok (some mid)))
    (hpanic : (p.fromEnglish.run mid).result = .panics t)
    (hlive : ∀ j ≤ (p.toEnglish.run text).steps + (p.fromEnglish.run mid).steps, tok.seen j = false) :
    p.lookup text tok =
      ⟨.failure (.modelRuntime t),
        [stepNumbers (p.toEnglish.run text).steps, stepNumbers (p.fromEnglish.run mid).steps],
        (p.toEnglish.run text).steps + (p.fromEnglish.run mid).steps⟩ := by
  have hua : (p.toEnglish.run text).under (fun k => tok.seen (0 + k)) =
      (stepNumbers (p.toEnglish.run text).steps, .returns (.ok (some mid))) := by
    rw [StepRun.under_live (fun k _ hk => hlive _ (by omega)), hmid]
  have hub : (p.fromEnglish.run mid).under (fun k => tok.seen ((p.toEnglish.run text).steps + k)) =
      (stepNumbers (p.fromEnglish.run mid).steps, .panics t) := by
    rw [StepRun.under_live (fun k _ hk => hlive _ (by omega)), hpanic]
  have hrun : runStages tok p.stages text 0 =
      (.panics t, [stepNumbers (p.toEnglish.run text).steps, stepNumbers (p.fromEnglish.run mid).steps],
        (p.toEnglish.run text).steps + (p.fromEnglish.run mid).steps) := by
    rw [stages, runStages_next hua, runStages_single]
    simp only [length_stepNumbers, Nat.zero_add, hub]
  rw [lookup_of_panics p text (hlive 0 (Nat.zero_le _)) (by rw [hrun]), hrun]

/-- With a token never cancelled, the second stage runs on the first stage's
output and the lookup ends as the last stage run does. -/
theorem lookup_never (p : Pipeline) (text : String) (hnever : tok.firstCancelled = none) :
    (p.lookup text tok).outcome =
      match (p.toEnglish.run text).result with
      | .returns (.ok (some mid)) => endOutcome (p.fromEnglish.run mid).result
      | e => endOutcome e := by
  have hlive : ∀ (r : StepRun) (last : Nat), r.under (fun k => tok.seen (last + k)) = (stepNumbers r.steps, r.result) :=
    fun r last => StepRun.under_live (fun k _ _ => Token.seen_never hnever _)
  -- with no final check to fail, the lookup ends as the stages did
  have hend : (p.lookup text tok).outcome = endOutcome (runStages tok p.stages text 0).1 := by
    have h0 := Token.seen_never hnever 0
    cases he : (runStages tok p.stages text 0).1 with
    | panics t => rw [lookup_of_panics p text h0 he, endOutcome]
    | returns r => rw [lookup_of_returns p text h0 he, endOutcome, Token.seen_never hnever, if_neg Bool.false_ne_true]
  have hua := hlive (p.toEnglish.run text) 0
  rw [hend, stages]
  split
  · rename_i mid hmid
    rw [hmid] at hua
    rw [runStages_next hua, runStages_single, hlive]
  · rename_i e he
    rw [runStages_halt hua (fun next h => he next (h ▸ rfl))]

/-- Cancellation of a lookup by two step models, wherever the token is first
found cancelled. Reads are numbered in order: 0 is the check at the start, the
callbacks follow, and the read after them is the final check. A token found
cancelled by the lookup's last read cancels it, whatever the stages
returned, errors included, and that last read is the final check unless a
stage panicked. A token cancelled at the start runs no stage. A token first
found cancelled by the callback after step `i` of a stage stops that stage
at step `i`, so it emits at most token `i` after the moment of cancellation,
and no later stage runs. A stage that panics with the token live at all its
callbacks fails the lookup on its join error, however soon after them the
token is cancelled. A token never cancelled gives the outcome of the second
stage run on the first stage's output. -/
theorem cancellation_wins_unless_stage_panics (p : Pipeline) (text : String) (tok : Token) :
    let call := p.lookup text tok
    let first := p.toEnglish.run text
    (∀ i, tok.firstCancelled = some i → i ≤ call.lastRead → call.outcome = .cancelled) ∧
    (tok.seen 0 = false → call.lastRead = (call.stages.map List.length).sum + 1 ∨
      ∃ t, call.outcome = .failure (.modelRuntime t) ∧ call.lastRead = (call.stages.map List.length).sum) ∧
    (tok.firstCancelled = some 0 → call = ⟨.cancelled, [], 0⟩) ∧
    (∀ i, tok.firstCancelled = some i → 0 < i → i ≤ first.steps →
      call = ⟨.cancelled, [stepNumbers i], i + 1⟩) ∧
    (∀ i mid, tok.firstCancelled = some i → first.result = .returns (.ok (some mid)) → first.steps < i →
      i ≤ first.steps + (p.fromEnglish.run mid).steps →
      call = ⟨.cancelled, [stepNumbers first.steps, stepNumbers (i - first.steps)], i + 1⟩) ∧
    (∀ t, first.result = .panics t → (∀ j ≤ first.steps, tok.seen j = false) →
      call = ⟨.failure (.modelRuntime t), [stepNumbers first.steps], first.steps⟩) ∧
    (∀ mid t, first.result = .returns (.ok (some mid)) → (p.fromEnglish.run mid).result = .panics t →
      (∀ j ≤ first.steps + (p.fromEnglish.run mid).steps, tok.seen j = false) →
      call = ⟨.failure (.modelRuntime t), [stepNumbers first.steps, stepNumbers (p.fromEnglish.run mid).steps],
        first.steps + (p.fromEnglish.run mid).steps⟩) ∧
    (tok.firstCancelled = none → call.outcome =
      match first.result with
      | .returns (.ok (some mid)) => endOutcome (p.fromEnglish.run mid).result
      | e => endOutcome e) :=
  ⟨fun _ hi hle => lookup_cancelled p text hi hle,
    lookup_lastRead p text,
    lookup_at_start p text,
    fun _ hi hpos hin => lookup_in_first p text hi hpos hin,
    fun _ _ hi hmid hafter hin => lookup_in_second p text hi hmid hafter hin,
    fun _ hpanic hlive => lookup_panics_first p text hpanic hlive,
    fun _ _ hmid hpanic hlive => lookup_panics_second p text hmid hpanic hlive,
    lookup_never p text⟩

/-- A first stage that panics before its first step, with the token
cancelled just after the check at the start: the lookup fails on the join
error, where a final check would have found the token cancelled. -/
theorem panicking_stage_outruns_cancellation :
    let boom : StepModel := ⟨"boom", fun _ => ⟨0, .panics "task 7 panicked with message boom"⟩⟩
    let tok : Token := ⟨some 1⟩
    let call := (Pipeline.mk boom boom).lookup "hello" tok
    call.outcome = .failure (.modelRuntime "task 7 panicked with message boom") ∧
      tok.seen (call.lastRead + 1) = true := by
  decide

end Pipeline

/-- A phrase model keeps the step-model contract: as a stage, under any
callback, it calls back with the steps and returns the output its own
generation gives. -/
theorem Lexicon.Model.toStep_under (m : Lexicon.Model) (text : String) (stop : Nat → Bool) :
    (m.toStep.run text).under stop = ((m.generate text stop).steps, .returns (.ok (m.generate text stop).output)) := by
  simp only [Lexicon.Model.toStep, StepRun.under, Lexicon.Model.generate_eq, stepNumbers_eq_range']
  cases (List.range' 1 (m.outputWords text).length).find? stop <;> rfl

/-- A stage that returns still returns under any callback: a callback that
says stop makes it return no output. -/
theorem StepRun.under_returns {r : StepRun} {stop : Nat → Bool} {x : Except Error (Option String)}
    (h : r.result = .returns x) : ∃ y, (r.under stop).2 = .returns y := by
  unfold StepRun.under
  cases (stepNumbers r.steps).find? stop with
  | some k => exact ⟨_, rfl⟩
  | none => exact ⟨x, h⟩

namespace Pipeline

/-- Stages none of which panics end the run by returning. -/
theorem runStages_returns (tok : Token) :
    ∀ (ss : List StepModel), (∀ s ∈ ss, ∀ text, ∃ x, (s.run text).result = .returns x) →
      ∀ text last, ∃ r, (runStages tok ss text last).1 = .returns r
  | [], _, text, _ => ⟨.ok (some text), rfl⟩
  | s :: rest, hs, text, last => by
    rcases hu : (s.run text).under (fun k => tok.seen (last + k)) with ⟨steps, e⟩
    obtain ⟨x, hx⟩ := hs s List.mem_cons_self text
    obtain ⟨y, hy⟩ : ∃ y, ((s.run text).under (fun k => tok.seen (last + k))).2 = .returns y :=
      StepRun.under_returns hx
    rw [hu] at hy
    subst hy
    by_cases hnext : ∃ next, y = .ok (some next)
    · obtain ⟨next, rfl⟩ := hnext
      rw [runStages_next hu]
      exact runStages_returns tok rest (fun s' hs' => hs s' (List.mem_cons_of_mem s hs')) next _
    · rw [runStages_halt hu (fun next h => hnext ⟨next, StageEnd.returns.inj h⟩)]
      exact ⟨y, rfl⟩

/-- Every pipeline the program loads is two phrase models. -/
theorem load_phrases {fs : Files} {a b : String} {p : Pipeline} (hp : load fs a b = .ok p) :
    ∃ ma mb : Lexicon.Model, p = ⟨ma.toStep, mb.toStep⟩ := by
  unfold load at hp
  cases ha : Lexicon.load fs a with
  | error e =>
    rw [ha] at hp
    cases hp
  | ok ma =>
    cases hb : Lexicon.load fs b with
    | error e =>
      rw [ha, hb] at hp
      cases hp
    | ok mb =>
      simp only [ha, hb] at hp
      exact ⟨ma, mb, (Except.ok.inj hp).symm⟩

/-- A loaded pipeline never panics, so a lookup by it that gets past the
check at the start always makes the final check, after every callback. -/
theorem lookup_loaded_final_check {fs : Files} {a b : String} {p : Pipeline} (hp : load fs a b = .ok p)
    (text : String) {tok : Token} (h0 : tok.seen 0 = false) :
    (p.lookup text tok).lastRead = ((p.lookup text tok).stages.map List.length).sum + 1 := by
  obtain ⟨ma, mb, rfl⟩ := load_phrases hp
  have hs : ∀ s ∈ (Pipeline.mk ma.toStep mb.toStep).stages, ∀ text, ∃ x, (s.run text).result = .returns x := by
    simp only [stages, List.mem_cons, List.not_mem_nil, or_false]
    rintro s (rfl | rfl) text <;> exact ⟨_, rfl⟩
  obtain ⟨r, hr⟩ := runStages_returns tok _ hs text 0
  have hlast := runStages_last tok (Pipeline.mk ma.toStep mb.toStep).stages text 0
  rw [lookup_of_returns _ text h0 hr, hlast, Nat.zero_add]

end Pipeline

end Typeahead
