-- The timeline of a script of steps. Each step happens when the pauses
-- before it have run out; an input change starts a generation when it
-- changes the text of an open controller; a generation's quiet period is cut
-- short by the next start, by a shutdown, or by the end of the script, when
-- the controller is dropped. A lookup survives when nothing cuts its quiet
-- period short, and its call is due in the first pause that reaches the end
-- of that period. Everything here is about the script alone.
import Mathlib
import Typeahead.Query.Run

namespace Typeahead.Query

namespace Step

/-- How long a step lets the clock run. -/
def ms : Step → Nat
  | .pause ms => ms
  | _ => 0

def isPause : Step → Bool
  | .pause _ => true
  | _ => false

def isClose : Step → Bool
  | .close => true
  | _ => false

/-- The text last typed after a step, from the text typed before it. -/
def typedAfter (typed : String) : Step → String
  | .change _ new => new
  | .typed text => text
  | _ => typed

/-- The input change a step makes, as its old and new text, from the text
typed before it. -/
def change? (typed : String) : Step → Option (String × String)
  | .change old new => some (old, new)
  | .typed text => some (typed, text)
  | _ => none

end Step

namespace Timeline

variable (steps : List Step)

/-- When step `k` happens: the pauses before it, added up. Past the end of
the script it is the time the script ends. -/
def clock (k : Nat) : Nat := ((steps.take k).map Step.ms).sum

/-- The text typed before step `k`. -/
def typedBefore (k : Nat) : String := (steps.take k).foldl Step.typedAfter ""

/-- The input change of step `k`. -/
def changeAt (k : Nat) : Option (String × String) := steps[k]?.bind (Step.change? (typedBefore steps k))

/-- The new text of the input change of step `k`. -/
def textAt (k : Nat) : String := ((changeAt steps k).map Prod.snd).getD ""

/-- Whether the controller is still open before step `k`. -/
def openAt (k : Nat) : Bool := !(steps.take k).any Step.isClose

/-- Whether step `k` starts a generation: it changes the text of an open controller. -/
def startsAt (k : Nat) : Bool :=
  openAt steps k && match changeAt steps k with
    | some (old, new) => old != new
    | none => false

/-- Whether step `k` cuts a quiet period short: a new generation starts, or
the open controller is shut down, by a step or, at the end of the script, by
being dropped. -/
def cutsAt (k : Nat) : Bool :=
  openAt steps k && (k == steps.length || startsAt steps k || (steps[k]?.any Step.isClose))

/-- No pause after step `j` and before step `c` reaches time `t`. -/
def QuietUntil (j c t : Nat) : Prop :=
  ∀ c' ∈ List.range c, j < c' → (steps[c']?.any Step.isPause) = true → clock steps (c' + 1) < t

/-- Step `c` is the first pause after step `j` to reach time `t`. -/
def ReachesAt (j c t : Nat) : Prop :=
  j < c ∧ (steps[c]?.any Step.isPause) = true ∧ t ≤ clock steps (c + 1) ∧ QuietUntil steps j c t

/-- The lookup asked for at step `j` survives its quiet period: the step
starts a generation of a controller with a backend, its trimmed text is long
enough, and nothing cuts the quiet period short. -/
def Survives (settings : Settings) (ready : Bool) (j : Nat) : Prop :=
  startsAt steps j = true ∧ ready = true ∧ State.tooShort settings (textAt steps j) = false ∧
    ∀ k ∈ List.range (steps.length + 1), j < k → cutsAt steps k = true →
      clock steps j + settings.debounce < clock steps k

/-- No cut falls exactly at the end of a quiet period. -/
def NoTie (q : Nat) : Prop :=
  ∀ j ∈ List.range steps.length, ∀ k ∈ List.range (steps.length + 1), startsAt steps j = true → j < k →
    cutsAt steps k = true → clock steps k ≠ clock steps j + q

instance (j c t : Nat) : Decidable (QuietUntil steps j c t) :=
  inferInstanceAs (Decidable (∀ c' ∈ List.range c, j < c' → _))

instance (j c t : Nat) : Decidable (ReachesAt steps j c t) :=
  inferInstanceAs (Decidable (_ ∧ _))

instance (settings : Settings) (ready : Bool) (j : Nat) : Decidable (Survives steps settings ready j) :=
  inferInstanceAs (Decidable (_ ∧ _))

instance (q : Nat) : Decidable (NoTie steps q) :=
  inferInstanceAs (Decidable (∀ j ∈ List.range steps.length, _))

/-! ## One step further -/

theorem clock_succ (k : Nat) : clock steps (k + 1) = clock steps k + ((steps[k]?.map Step.ms).getD 0) := by
  unfold clock
  rw [List.take_add_one]
  cases steps[k]? <;> simp

theorem clock_mono {k k' : Nat} (h : k ≤ k') : clock steps k ≤ clock steps k' := by
  induction k', h using Nat.le_induction with
  | base => exact Nat.le_refl _
  | succ k' _ ih => rw [clock_succ]; omega

theorem openAt_succ (k : Nat) : openAt steps (k + 1) = (openAt steps k && !(steps[k]?.any Step.isClose)) := by
  unfold openAt
  rw [List.take_add_one]
  cases steps[k]? <;> simp

theorem typedBefore_succ (k : Nat) :
    typedBefore steps (k + 1) = ((steps[k]?.map (Step.typedAfter (typedBefore steps k))).getD (typedBefore steps k)) := by
  unfold typedBefore
  rw [List.take_add_one]
  cases steps[k]? <;> simp

theorem lt_length_of_any {k : Nat} {p : Step → Bool} (h : (steps[k]?.any p) = true) : k < steps.length := by
  cases hk : steps[k]? with
  | none => simp [hk] at h
  | some _ => exact (List.getElem?_eq_some_iff.1 hk).1

/-- A step that is no pause lets no time pass. -/
theorem ms_of_not_pause {k : Nat} (h : (steps[k]?.any Step.isPause) = false) :
    (steps[k]?.map Step.ms).getD 0 = 0 := by
  cases hk : steps[k]? with
  | none => rfl
  | some st => cases st <;> simp_all [Step.isPause, Step.ms]

/-- A step that starts a generation is an input change of an open controller:
no pause and no shutdown. -/
theorem starts_spec {k : Nat} (h : startsAt steps k = true) :
    k < steps.length ∧ openAt steps k = true ∧ (steps[k]?.any Step.isPause) = false ∧
      (steps[k]?.any Step.isClose) = false := by
  unfold startsAt changeAt at h
  cases hk : steps[k]? with
  | none => simp [hk] at h
  | some st =>
    have hlt : k < steps.length := (List.getElem?_eq_some_iff.1 hk).1
    cases st <;> simp_all [Step.change?, Step.isPause, Step.isClose]

theorem cuts_of_starts {k : Nat} (h : startsAt steps k = true) : cutsAt steps k = true := by
  simp [cutsAt, h, (starts_spec steps h).2.1]

theorem not_cuts_of_pause {k : Nat} (hk : k < steps.length) (h : (steps[k]?.any Step.isPause) = true) :
    cutsAt steps k = false := by
  have hs : startsAt steps k = false := by
    cases hs : startsAt steps k
    · rfl
    · simp [(starts_spec steps hs).2.2.1] at h
  cases hst : steps[k]? with
  | none => simp [hst] at h
  | some st => cases st <;> simp_all [cutsAt, Step.isPause, Step.isClose, Nat.ne_of_lt hk]

/-- An input change is no pause and no shutdown. -/
theorem change_not_pause {k : Nat} {p : String × String} (h : changeAt steps k = some p) :
    (steps[k]?.any Step.isPause) = false ∧ (steps[k]?.any Step.isClose) = false := by
  unfold changeAt at h
  cases hk : steps[k]? with
  | none => simp [hk] at h
  | some st => cases st <;> simp_all [Step.change?, Step.isPause, Step.isClose]

theorem starts_iff {k : Nat} {old new : String} (h : changeAt steps k = some (old, new)) :
    startsAt steps k = true ↔ openAt steps k = true ∧ old ≠ new := by
  simp [startsAt, h]

theorem textAt_of_change {k : Nat} {old new : String} (h : changeAt steps k = some (old, new)) :
    textAt steps k = new := by
  simp [textAt, h]

/-! ## The last generation started -/

/-- The step that started the last generation before step `c`. -/
def lastStart (c : Nat) : Option Nat := ((List.range c).filter (startsAt steps)).getLast?

theorem lastStart_succ (c : Nat) :
    lastStart steps (c + 1) = if startsAt steps c then some c else lastStart steps c := by
  unfold lastStart
  rw [List.range_succ, List.filter_append]
  cases h : startsAt steps c <;> simp [h, List.getLast?_append]

theorem lastStart_spec {c j : Nat} (h : lastStart steps c = some j) :
    j < c ∧ startsAt steps j = true ∧ ∀ k, j < k → k < c → startsAt steps k = false := by
  induction c with
  | zero => simp [lastStart] at h
  | succ c ih =>
    rw [lastStart_succ] at h
    by_cases hc : startsAt steps c = true
    · rw [if_pos hc] at h
      cases h
      exact ⟨Nat.lt_succ_self _, hc, fun k hk hk' => by omega⟩
    · rw [if_neg hc] at h
      obtain ⟨hj, hs, hnone⟩ := ih h
      refine ⟨by omega, hs, fun k hk hk' => ?_⟩
      rcases Nat.lt_or_ge k c with hkc | hkc
      · exact hnone k hk hkc
      · have : k = c := by omega
        subst this
        simpa using hc

theorem lastStart_of_last {c j : Nat} (hj : j < c) (hs : startsAt steps j = true)
    (hnone : ∀ k, j < k → k < c → startsAt steps k = false) : lastStart steps c = some j := by
  induction c, hj using Nat.le_induction with
  | base => rw [lastStart_succ, if_pos hs]
  | succ c hjc ih =>
    rw [lastStart_succ, if_neg (by rw [hnone c (by omega) (by omega)]; simp)]
    exact ih fun k hk hk' => hnone k hk (by omega)

/-! ## Shutdowns -/

theorem openAt_mono {k k' : Nat} (h : k ≤ k') (ho : openAt steps k' = true) : openAt steps k = true := by
  induction k', h using Nat.le_induction with
  | base => exact ho
  | succ k' _ ih =>
    rw [openAt_succ, Bool.and_eq_true] at ho
    exact ih ho.1

/-- A controller open at step `j` and closed by step `c` was shut down by an
open step between them, which cuts. -/
theorem cut_of_closed {j c : Nat} (hj : openAt steps j = true) (hc : openAt steps c = false) (hjc : j ≤ c) :
    ∃ k, j ≤ k ∧ k < c ∧ cutsAt steps k = true ∧ (steps[k]?.any Step.isClose) = true := by
  induction c, hjc using Nat.le_induction with
  | base => simp [hj] at hc
  | succ c hjc ih =>
    cases ho : openAt steps c with
    | false =>
      obtain ⟨k, hk, hkc, hcut, hclose⟩ := ih ho
      exact ⟨k, hk, by omega, hcut, hclose⟩
    | true =>
      have hclose : (steps[c]?.any Step.isClose) = true := by
        rw [openAt_succ, ho] at hc
        simpa using hc
      exact ⟨c, hjc, Nat.lt_succ_self c, by simp [cutsAt, ho, hclose], hclose⟩

/-! ## Quiet periods -/

/-- While no pause reaches `t`, the clock stays at or before `t`. -/
theorem clock_le_of_quiet {j c t : Nat} (hq : QuietUntil steps j c t) (hj : (steps[j]?.any Step.isPause) = false)
    (ht : clock steps j ≤ t) : ∀ k, j ≤ k → k ≤ c → clock steps k ≤ t := by
  intro k hjk
  induction k, hjk using Nat.le_induction with
  | base => intro _; exact ht
  | succ k hjk ih =>
    intro hkc
    rw [clock_succ]
    cases hp : steps[k]?.any Step.isPause with
    | false =>
      rw [ms_of_not_pause steps hp]
      exact ih (by omega)
    | true =>
      have hk : j < k := by
        rcases Nat.lt_or_ge j k with h | h
        · exact h
        · have : j = k := by omega
          subst this
          simp [hj] at hp
      have := hq k (List.mem_range.2 (by omega)) hk hp
      rw [clock_succ] at this
      omega

/-- At most one step is the first pause to reach a time. -/
theorem reachesAt_unique {j c c' t : Nat} (h : ReachesAt steps j c t) (h' : ReachesAt steps j c' t) : c = c' := by
  obtain ⟨hj, hp, ht, hq⟩ := h
  obtain ⟨hj', hp', ht', hq'⟩ := h'
  rcases Nat.lt_trichotomy c c' with hlt | heq | hgt
  · have := hq' c (List.mem_range.2 hlt) hj hp
    omega
  · exact heq
  · have := hq c' (List.mem_range.2 hgt) hj' hp'
    omega

variable (settings : Settings) (ready : Bool)

/-- A surviving lookup's call comes before the next generation starts. -/
theorem reach_before_start {j c j' : Nat} (hs : Survives steps settings ready j)
    (hr : ReachesAt steps j c (clock steps j + settings.debounce)) (hj' : startsAt steps j' = true)
    (hjj' : j < j') : c < j' := by
  rcases Nat.lt_or_ge c j' with h | h
  · exact h
  exfalso
  have hlen := (starts_spec steps hj').1
  have hcut := hs.2.2.2 j' (List.mem_range.2 (by omega)) hjj' (cuts_of_starts steps hj')
  have hle := clock_le_of_quiet steps hr.2.2.2 (starts_spec steps hs.1).2.2.1 (Nat.le_add_right _ _) j'
    (by omega) h
  omega

/-- Time passes only in pauses: past any time the clock reaches later,
some pause after step `j` reaches it. -/
theorem pause_reaching {j t : Nat} (hj : (steps[j]?.any Step.isPause) = false) (ht : clock steps j ≤ t) :
    ∀ k, t < clock steps k →
      ∃ c, j < c ∧ c < k ∧ (steps[c]?.any Step.isPause) = true ∧ t ≤ clock steps (c + 1) := by
  intro k
  induction k with
  | zero => simp [clock]
  | succ k ih =>
    intro hk
    by_cases hlt : t < clock steps k
    · obtain ⟨c, hjc, hck, hp, hc⟩ := ih hlt
      exact ⟨c, hjc, by omega, hp, hc⟩
    · -- the clock passes `t` during step `k`, which is therefore a pause after `j`
      have hp : (steps[k]?.any Step.isPause) = true := by
        cases hp : steps[k]?.any Step.isPause
        · rw [clock_succ, ms_of_not_pause steps hp] at hk
          omega
        · rfl
      have hjk : j < k := by
        rcases Nat.lt_trichotomy j k with h | h | h
        · exact h
        · subst h
          simp [hj] at hp
        · have := clock_mono steps (show k + 1 ≤ j by omega)
          omega
      exact ⟨k, hjk, Nat.lt_succ_self k, hp, by omega⟩

/-- The call of a surviving lookup is due in some pause of the script: its
quiet period ends before whatever cuts it, at the latest the end of the script. -/
theorem reach_exists {j : Nat} (hs : Survives steps settings ready j) :
    ∃ c < steps.length, ReachesAt steps j c (clock steps j + settings.debounce) := by
  obtain ⟨hlen, hopen, hpause, hclose⟩ := starts_spec steps hs.1
  -- something cuts the quiet period short: a shutdown, or the end of the script
  obtain ⟨k, hjk, hkn, hcut⟩ : ∃ k, j < k ∧ k ≤ steps.length ∧ cutsAt steps k = true := by
    cases hend : openAt steps steps.length with
    | true => exact ⟨steps.length, hlen, Nat.le_refl _, by simp [cutsAt, hend]⟩
    | false =>
      obtain ⟨k, hjk, hkn, hcut, hk⟩ := cut_of_closed steps hopen hend (Nat.le_of_lt hlen)
      have hne : j ≠ k := by
        rintro rfl
        simp [hclose] at hk
      exact ⟨k, by omega, by omega, hcut⟩
  have hlate := hs.2.2.2 k (List.mem_range.2 (by omega)) hjk hcut
  have hex := pause_reaching steps hpause (Nat.le_add_right _ settings.debounce) k hlate
  obtain ⟨_, hjc, hck, hp, ht⟩ := hex
  -- the first such pause is the one that reaches the end of the quiet period
  have hfind : ∃ c, j < c ∧ (steps[c]?.any Step.isPause) = true ∧
      clock steps j + settings.debounce ≤ clock steps (c + 1) := ⟨_, hjc, hp, ht⟩
  obtain ⟨hj', hp', ht'⟩ := Nat.find_spec hfind
  refine ⟨Nat.find hfind, ?_, hj', hp', ht', ?_⟩
  · have := Nat.find_min' hfind ⟨hjc, hp, ht⟩
    omega
  · intro c' hc' hjc' hpc'
    have hmin := Nat.find_min hfind (List.mem_range.1 hc')
    simp only [not_and, Nat.not_le] at hmin
    exact hmin hjc' hpc'

/-! ## The lookup waiting before a step -/

/-- The lookup waiting out its quiet period before step `c`: the text and the
end of the quiet period of the last generation started, if the controller is
still open, has a backend, the trimmed text is long enough, and no pause since
has reached the end of the period. -/
def pendingAt (c : Nat) : List (String × Nat) :=
  match lastStart steps c with
  | some j =>
    if openAt steps c = true ∧ ready = true ∧ State.tooShort settings (textAt steps j) = false ∧
        QuietUntil steps j c (clock steps j + settings.debounce) then
      [(textAt steps j, clock steps j + settings.debounce)]
    else []
  | none => []

theorem pendingAt_length_le (c : Nat) : (pendingAt steps settings ready c).length ≤ 1 := by
  unfold pendingAt
  split
  · split <;> simp
  · simp

/-- Without a backend nothing waits for one. -/
theorem pendingAt_not_ready (c : Nat) : pendingAt steps settings false c = [] := by
  unfold pendingAt
  split <;> simp

theorem quietUntil_succ {j c t : Nat} :
    QuietUntil steps j (c + 1) t ↔
      QuietUntil steps j c t ∧ (j < c → (steps[c]?.any Step.isPause) = true → clock steps (c + 1) < t) := by
  simp [QuietUntil, List.range_succ, or_imp, forall_and]

theorem not_starts_of_pause {c : Nat} (hp : (steps[c]?.any Step.isPause) = true) : startsAt steps c = false := by
  cases hs : startsAt steps c
  · rfl
  · simp [(starts_spec steps hs).2.2.1] at hp

theorem not_close_of_pause {c : Nat} (hp : (steps[c]?.any Step.isPause) = true) :
    (steps[c]?.any Step.isClose) = false := by
  cases hc : steps[c]? with
  | none => rfl
  | some st => cases st <;> simp_all [Step.isPause, Step.isClose]

/-- A pause keeps the lookup waiting only if its quiet period ends after the pause. -/
theorem pendingAt_pause {c : Nat} (hp : (steps[c]?.any Step.isPause) = true) :
    pendingAt steps settings ready (c + 1) =
      (pendingAt steps settings ready c).filter (clock steps (c + 1) < ·.2) := by
  unfold pendingAt
  rw [lastStart_succ, if_neg (by simp [not_starts_of_pause steps hp]), openAt_succ,
    not_close_of_pause steps hp]
  cases hl : lastStart steps c with
  | none => rfl
  | some j =>
    have hj := (lastStart_spec steps hl).1
    simp only [quietUntil_succ, hj, hp, forall_const, Bool.not_false, Bool.and_true]
    by_cases h : openAt steps c = true ∧ ready = true ∧ State.tooShort settings (textAt steps j) = false ∧
        QuietUntil steps j c (clock steps j + settings.debounce)
    · by_cases hlt : clock steps (c + 1) < clock steps j + settings.debounce
      · simp [h, hlt]
      · simp [h, hlt]
    · simp only [← and_assoc] at h ⊢
      simp [h]

/-- A new generation waits with its own text, from the moment it starts. -/
theorem pendingAt_start {c : Nat} (hs : startsAt steps c = true) :
    pendingAt steps settings ready (c + 1) =
      if ready = true ∧ State.tooShort settings (textAt steps c) = false then
        [(textAt steps c, clock steps c + settings.debounce)] else [] := by
  obtain ⟨-, hopen, -, hclose⟩ := starts_spec steps hs
  have hq : QuietUntil steps c (c + 1) (clock steps c + settings.debounce) := by
    intro c' hc' hcc'
    have := List.mem_range.1 hc'
    omega
  unfold pendingAt
  rw [lastStart_succ, if_pos hs, openAt_succ, hopen, hclose]
  simp [hq]

/-- Any other step keeps the waiting lookup, unless it shuts the controller down. -/
theorem pendingAt_other {c : Nat} (hs : startsAt steps c = false) (hp : (steps[c]?.any Step.isPause) = false) :
    pendingAt steps settings ready (c + 1) =
      if (steps[c]?.any Step.isClose) = true then [] else pendingAt steps settings ready c := by
  unfold pendingAt
  rw [lastStart_succ, if_neg (by simp [hs]), openAt_succ]
  cases hl : lastStart steps c with
  | none => simp
  | some j =>
    simp only [quietUntil_succ, hp, Bool.false_eq_true]
    cases hc : steps[c]?.any Step.isClose <;> simp

/-! ## Which lookups reach the backend, and when -/

/-- A surviving lookup whose call is due in pause `c` is the one waiting
before `c`. -/
theorem pending_of_reach {j c : Nat} (hs : Survives steps settings ready j)
    (hr : ReachesAt steps j c (clock steps j + settings.debounce)) :
    lastStart steps c = some j ∧
      pendingAt steps settings ready c = [(textAt steps j, clock steps j + settings.debounce)] := by
  obtain ⟨-, hopen, hpause, hclose⟩ := starts_spec steps hs.1
  have hl : lastStart steps c = some j := by
    refine lastStart_of_last steps hr.1 hs.1 fun k hjk hkc => ?_
    cases hk : startsAt steps k
    · rfl
    · have := reach_before_start steps settings ready hs hr hk hjk
      omega
  -- no shutdown falls inside the quiet period, so the controller is still open
  have ho : openAt steps c = true := by
    cases ho : openAt steps c
    · exfalso
      obtain ⟨k, hjk, hkc, hcut, hk⟩ := cut_of_closed steps hopen ho (Nat.le_of_lt hr.1)
      have hne : j ≠ k := by
        rintro rfl
        simp [hclose] at hk
      have hlen := lt_length_of_any steps hr.2.1
      have hlate := hs.2.2.2 k (List.mem_range.2 (by omega)) (by omega) hcut
      have hle := clock_le_of_quiet steps hr.2.2.2 hpause (Nat.le_add_right _ _) k hjk (Nat.le_of_lt hkc)
      omega
    · rfl
  refine ⟨hl, ?_⟩
  simp only [pendingAt, hl]
  rw [if_pos ⟨ho, hs.2.1, hs.2.2.1, hr.2.2.2⟩]

/-- The calls the timeline puts in step `c`: the text of the waiting lookup,
when the step is a pause that reaches the end of its quiet period. -/
def callsIn (c : Nat) : List String :=
  if (steps[c]?.any Step.isPause) = true then
    ((pendingAt steps settings ready c).filter (·.2 ≤ clock steps (c + 1))).map Prod.fst
  else []

/-- The lookup waiting before a pause that reaches the end of its quiet
period survives, and its call is due in that pause: before the pause nothing
cut the period short, and every cut after it falls later, for none falls
exactly at its end. -/
theorem reach_of_pending {j c : Nat} (htie : NoTie steps settings.debounce)
    (hp : (steps[c]?.any Step.isPause) = true) (hl : lastStart steps c = some j)
    (hpend : pendingAt steps settings ready c ≠ [])
    (hdue : clock steps j + settings.debounce ≤ clock steps (c + 1)) :
    Survives steps settings ready j ∧ ReachesAt steps j c (clock steps j + settings.debounce) := by
  obtain ⟨hjc, hs, hnone⟩ := lastStart_spec steps hl
  have hc := lt_length_of_any steps hp
  obtain ⟨ho, hready, hlong, hq⟩ : openAt steps c = true ∧ ready = true ∧
      State.tooShort settings (textAt steps j) = false ∧ QuietUntil steps j c (clock steps j + settings.debounce) := by
    by_contra h
    simp only [pendingAt, hl, if_neg h] at hpend
    exact hpend rfl
  refine ⟨⟨hs, hready, hlong, fun k hk hjk hcut => ?_⟩, hjc, hp, hdue, hq⟩
  have hkn := List.mem_range.1 hk
  rcases Nat.lt_trichotomy k c with hkc | rfl | hck
  · -- before the pause: no start, and no shutdown of the still open controller
    exfalso
    have hclose : (steps[k]?.any Step.isClose) = true := by
      simp [cutsAt, hnone k hjk hkc, Nat.ne_of_lt (Nat.lt_trans hkc hc)] at hcut
      exact hcut.2
    have := openAt_mono steps (show k + 1 ≤ c by omega) ho
    simp [openAt_succ, hclose] at this
  · simp [not_cuts_of_pause steps hc hp] at hcut
  · have hne := htie j (List.mem_range.2 (by omega)) k hk hs hjk hcut
    have := clock_mono steps (show c + 1 ≤ k by omega)
    omega

theorem filter_range_eq_singleton {p : Nat → Bool} {j c : Nat} (hj : j < c)
    (hp : ∀ k < c, p k = true ↔ k = j) : (List.range c).filter p = [j] := by
  induction c, hj using Nat.le_induction with
  | base =>
    rw [List.range_succ, List.filter_append, List.filter_eq_nil_iff.2 fun k hk => ?_]
    · simp [(hp j (Nat.lt_succ_self j)).2 rfl]
    · have := List.mem_range.1 hk
      simpa [hp k (by omega)] using Nat.ne_of_lt this
  | succ c hjc ih =>
    rw [List.range_succ, List.filter_append, ih fun k hk => hp k (by omega)]
    have : p c = false := by
      cases h : p c
      · rfl
      · have := (hp c (Nat.lt_succ_self c)).1 h
        omega
    simp [this]

/-- The calls due in step `c` of a script: the surviving lookups whose quiet
period first ends in that step are exactly the waiting lookup, when the step
is a pause that reaches the end of its quiet period. -/
theorem calls_due {c : Nat} (htie : NoTie steps settings.debounce) :
    ((List.range c).filter fun j =>
        Survives steps settings ready j ∧ ReachesAt steps j c (clock steps j + settings.debounce)).map
        (textAt steps) = callsIn steps settings ready c := by
  unfold callsIn
  -- a lookup due in pause `c` is the one waiting before it
  have hdue : ∀ j, Survives steps settings ready j → ReachesAt steps j c (clock steps j + settings.debounce) →
      lastStart steps c = some j ∧
        pendingAt steps settings ready c = [(textAt steps j, clock steps j + settings.debounce)] :=
    fun j hs hr => pending_of_reach steps settings ready hs hr
  have hnil : (∀ j, Survives steps settings ready j → ¬ ReachesAt steps j c (clock steps j + settings.debounce)) →
      (List.range c).filter (fun j =>
        Survives steps settings ready j ∧ ReachesAt steps j c (clock steps j + settings.debounce)) = [] :=
    fun h => List.filter_eq_nil_iff.2 fun j _ => by simpa using h j
  by_cases hp : (steps[c]?.any Step.isPause) = true
  · rw [if_pos hp]
    cases hl : lastStart steps c with
    | none =>
      rw [hnil fun j hs hr => by simp [(hdue j hs hr).1] at hl]
      simp [pendingAt, hl]
    | some j =>
      by_cases hpend : pendingAt steps settings ready c = []
      · rw [hnil fun j hs hr => by simp [(hdue j hs hr).2] at hpend, hpend]
        rfl
      have hpj : pendingAt steps settings ready c = [(textAt steps j, clock steps j + settings.debounce)] := by
        simp only [pendingAt, hl] at hpend ⊢
        split_ifs at hpend ⊢
        · rfl
        · exact absurd rfl hpend
      rw [hpj]
      by_cases hle : clock steps j + settings.debounce ≤ clock steps (c + 1)
      · obtain ⟨hs, hr⟩ := reach_of_pending steps settings ready htie hp hl hpend hle
        rw [filter_range_eq_singleton hr.1 fun k _ => ?_]
        · simp [hle]
        · constructor
          · intro hk
            have := (hdue k (of_decide_eq_true hk).1 (of_decide_eq_true hk).2).1
            rw [hl] at this
            exact (Option.some.inj this).symm
          · rintro rfl
            exact decide_eq_true ⟨hs, hr⟩
      · rw [hnil fun k hs hr => ?_]
        · simp [hle]
        · obtain ⟨hk, -⟩ := hdue k hs hr
          rw [hl] at hk
          cases hk
          exact hle hr.2.2.1
  · rw [if_neg hp, hnil fun j _ hr => hp hr.2.1]
    rfl

/-! ## The whole log of calls -/

/-- Filtering a sorted list by `p` or `q`, where every `p` element comes
before every `q` element, keeps the `p` elements and then the `q` elements. -/
theorem filter_or_of_before {l : List Nat} (hl : l.Pairwise (· < ·)) {p q : Nat → Bool}
    (hpq : ∀ a ∈ l, ∀ b ∈ l, p a = true → q b = true → a < b) :
    l.filter (fun a => p a || q a) = l.filter p ++ l.filter q := by
  induction l with
  | nil => rfl
  | cons x l ih =>
    obtain ⟨hx, hl⟩ := List.pairwise_cons.1 hl
    have ih := ih hl fun a ha b hb => hpq a (List.mem_cons_of_mem x ha) b (List.mem_cons_of_mem x hb)
    cases hp : p x <;> cases hq : q x
    · simp [hp, hq, ih]
    · -- `x` is a `q` element, so no `p` element follows it
      have hnone : l.filter p = [] := List.filter_eq_nil_iff.2 fun a ha hpa => by
        have := hpq a (List.mem_cons_of_mem x ha) x List.mem_cons_self hpa hq
        have := hx a ha
        omega
      simp [hp, hq, ih, hnone]
    · simp [hp, hq, ih]
    · have := hpq x List.mem_cons_self x List.mem_cons_self hp hq
      omega

/-- Lookups fall due in the order they started: one due in an earlier step
started earlier. -/
theorem due_in_order {a b c n : Nat} (hc : c < n) (hsa : Survives steps settings ready a)
    (hra : ReachesAt steps a c (clock steps a + settings.debounce)) (hsb : Survives steps settings ready b)
    (hrb : ReachesAt steps b n (clock steps b + settings.debounce)) : a < b := by
  rcases Nat.lt_trichotomy a b with h | rfl | h
  · exact h
  · have := reachesAt_unique steps hra hrb
    omega
  · -- `b` falls due before `a` starts, yet `a` falls due earlier still
    have := reach_before_start steps settings ready hsb hrb hsa.1 h
    have := hra.1
    omega

/-- The calls due in the first `n` steps, in order, are the texts of the
lookups due within them, oldest first. -/
theorem log_due (n : Nat) :
    (List.range n).flatMap (fun c => ((List.range c).filter fun j =>
        Survives steps settings ready j ∧ ReachesAt steps j c (clock steps j + settings.debounce)).map
        (textAt steps)) =
      ((List.range n).filter fun j => ∃ c ∈ List.range n,
        Survives steps settings ready j ∧ ReachesAt steps j c (clock steps j + settings.debounce)).map
        (textAt steps) := by
  induction n with
  | zero => rfl
  | succ n ih =>
    rw [List.range_succ, List.flatMap_append, ih, List.flatMap_singleton, List.filter_append]
    -- a lookup due by step `n` comes before the one due in step `n`
    have hsplit := filter_or_of_before (List.pairwise_lt_range (n := n))
      (p := fun j => decide (∃ c ∈ List.range n,
        Survives steps settings ready j ∧ ReachesAt steps j c (clock steps j + settings.debounce)))
      (q := fun j => decide (Survives steps settings ready j ∧
        ReachesAt steps j n (clock steps j + settings.debounce)))
      (fun a _ b _ hpa hqb => by
        obtain ⟨c, hc, hsa, hra⟩ := of_decide_eq_true hpa
        obtain ⟨hsb, hrb⟩ := of_decide_eq_true hqb
        exact due_in_order steps settings ready (List.mem_range.1 hc) hsa hra hsb hrb)
    have hlast : [n].filter (fun j => decide (∃ c ∈ List.range n ++ [n],
        Survives steps settings ready j ∧ ReachesAt steps j c (clock steps j + settings.debounce))) = [] := by
      refine List.filter_eq_nil_iff.2 fun j hj h => ?_
      obtain ⟨c, hc, -, hr⟩ := of_decide_eq_true h
      simp only [List.mem_singleton] at hj
      have := hr.1
      rcases List.mem_append.1 hc with hc | hc
      · have := List.mem_range.1 hc
        omega
      · simp only [List.mem_singleton] at hc
        omega
    rw [hlast, List.append_nil, ← List.map_append, ← hsplit]
    congr 1
    refine List.filter_congr fun j _ => ?_
    simp only [List.mem_append, List.mem_singleton, or_and_right, exists_or, exists_eq_left, Bool.decide_or]

/-- Over the whole script, the calls due are the texts of the surviving
lookups, oldest first, each once. -/
theorem log_survivors :
    (List.range steps.length).flatMap (fun c => ((List.range c).filter fun j =>
        Survives steps settings ready j ∧ ReachesAt steps j c (clock steps j + settings.debounce)).map
        (textAt steps)) =
      ((List.range steps.length).filter (Survives steps settings ready)).map (textAt steps) := by
  rw [log_due]
  congr 1
  refine List.filter_congr fun j _ => decide_eq_decide.2 ⟨fun ⟨_, _, hs, _⟩ => hs, fun hs => ?_⟩
  obtain ⟨c, hc, hr⟩ := reach_exists steps settings ready hs
  exact ⟨c, List.mem_range.2 hc, hs, hr⟩

end Timeline

end Typeahead.Query
