-- Answers through the memory. A memory in front of a backend holds only
-- successes, each one the backend gave to some text with the same trimmed
-- form, and keeps nothing from a cancelled or failed call. So a call whose
-- trimmed text the memory holds gets a success the backend gave to a text
-- with that trimmed form, without asking it; any other asks the backend with
-- the text as given and gets its answer. The memory changes no answer of a
-- backend whose answer depends only on the trimmed text; of any other it can,
-- since texts that differ in their surrounding blanks share one entry.
-- A call whose token was cancelled before it runs no model step of the local
-- backend and is answered cancelled by the remote one; a memory in front of
-- either passes such a call on when it does not hold the text.
import Typeahead.Proofs.Pipeline.Cancellation
import Typeahead.Remote.Dictionary
import Typeahead.Cache

namespace Typeahead

namespace Cache

/-- A backend that answers each text by `f` and keeps the texts it is asked,
oldest first. -/
def answering (f : String → Outcome) (text : String) : StateM (List String) Outcome := do
  modify (· ++ [text])
  pure (f text)

section Answering

variable {c : Cache} {f : String → Outcome} {text : String} (calls : List String)

/-- A call whose trimmed text the memory holds is answered from it: the
backend is not asked and the memory stays as it is. -/
theorem run_answering_hit {v : String} (h : c.hit? text = some v) :
    (c.query (answering f) text).run calls = ((.success v, c), calls) := by
  rw [query_hit h]
  rfl

/-- Any other call asks the backend with its text as given, answers what it
answers, and keeps a success. -/
theorem run_answering_miss (h : c.hit? text = none) :
    (c.query (answering f) text).run calls = ((f text, c.remember text (f text)), calls ++ [text]) := by
  rw [query_miss h]
  rfl

end Answering

/-! ## What the memory holds -/

theorem get?_mem {c : Cache} {k v : String} (h : c.get? k = some v) : (k, v) ∈ c.entries := by
  unfold get? at h
  obtain ⟨e, he, rfl⟩ := Option.map_eq_some_iff.1 h
  have hk : e.1 = k := by simpa using List.find?_some he
  rw [← hk]
  exact List.mem_of_find?_eq_some he

/-- Storing a value adds its entry and otherwise keeps or forgets entries. -/
theorem mem_insert {c : Cache} {k v : String} {e : String × String} (h : e ∈ (c.insert k v).entries) :
    e ∈ c.entries ∨ e = (k, v) := by
  unfold insert at h
  by_cases h0 : c.capacity = 0
  · rw [if_pos h0] at h
    exact Or.inl h
  rw [if_neg h0] at h
  dsimp only at h
  -- what is kept is kept from before; a full memory keeps nothing
  have hbase : ∀ e ∈ (if c.size ≥ c.capacity && !c.entries.any (fun e => e.1 == k) then []
      else c.entries), e ∈ c.entries := by
    intro e he
    split at he
    · simp at he
    · exact he
  split at h
  · obtain ⟨e', he', rfl⟩ := List.mem_map.1 h
    split
    · exact Or.inr rfl
    · exact Or.inl (hbase e' he')
  · rcases List.mem_append.1 h with h | h
    · exact Or.inl (hbase e h)
    · exact Or.inr (List.mem_singleton.1 h)

/-- A cancelled or failed call leaves the memory as it was. -/
theorem remember_keeps {c : Cache} {text : String} {o : Outcome} (h : ∀ t, o ≠ .success t) :
    c.remember text o = c := by
  cases o with
  | success t => exact absurd rfl (h t)
  | cancelled => rfl
  | failure r => rfl

/-- Every value the memory holds is a success `f` gave to a text stored under
that value's key. -/
def Holds (f : String → Outcome) (c : Cache) : Prop :=
  ∀ e ∈ c.entries, ∃ t, keyOf t = e.1 ∧ f t = .success e.2

theorem holds_remember {f : String → Outcome} {c : Cache} (h : Holds f c) (text : String) :
    Holds f (c.remember text (f text)) := by
  cases hf : f text with
  | success t =>
    intro e he
    rcases mem_insert he with he | rfl
    · exact h e he
    · exact ⟨text, rfl, hf⟩
  | cancelled => exact h
  | failure r => exact h

/-- What the memory holds for a text is a success `f` gave to a text with the
same trimmed form. -/
theorem Holds.hit {f : String → Outcome} {c : Cache} (h : Holds f c) {text v : String}
    (hv : c.hit? text = some v) : ∃ t, keyOf t = keyOf text ∧ f t = .success v :=
  h _ (get?_mem hv)

/-- The memories a run of calls to a backend answering by `f` passes through,
from an empty memory of capacity `cap`. -/
inductive Reached (f : String → Outcome) (cap : Nat) : Cache → Prop
  | empty : Reached f cap (empty cap)
  | query {c : Cache} (text : String) (calls : List String) :
      Reached f cap c → Reached f cap ((c.query (answering f) text).run calls).1.2

theorem Reached.holds {f : String → Outcome} {cap : Nat} {c : Cache} (h : Reached f cap c) :
    Holds f c := by
  induction h with
  | empty => intro e he; cases he
  | @query c text calls _ ih =>
    cases hhit : c.hit? text with
    | some v =>
      rw [run_answering_hit calls hhit]
      exact ih
    | none =>
      rw [run_answering_miss calls hhit]
      exact holds_remember ih text

/-! ## The answers through the memory -/

/-- In every memory a run of calls leaves in front of a backend answering by
`f`, of any capacity, the next call asks the backend exactly when the memory
holds no success for the trimmed text, and then asks it with the text as given
and answers what it answers. Otherwise the call is answered with the held
success, which `f` gave to a text with the same trimmed form. A cancelled or
failed answer is not kept. When `f` answers texts with one trimmed form alike,
every call answers what the backend would. -/
theorem cache_serves_backend_answers {f : String → Outcome} {cap : Nat} {c : Cache}
    (hc : Reached f cap c) (text : String) (calls : List String) :
    let r := (c.query (answering f) text).run calls
    (r.2 = calls ++ [text] ↔ c.hit? text = none) ∧
    (c.hit? text = none → r.1.1 = f text) ∧
    (∀ v, c.hit? text = some v →
      r.1.1 = .success v ∧ ∃ t, keyOf t = keyOf text ∧ f t = .success v) ∧
    ((∀ s, f text ≠ .success s) → r.1.2 = c) ∧
    ((∀ t t', keyOf t = keyOf t' → f t = f t') → r.1.1 = f text) := by
  intro r
  cases hhit : c.hit? text with
  | none =>
    -- the backend is asked, and its answer kept only if a success
    have hr : r = ((f text, c.remember text (f text)), calls ++ [text]) := run_answering_miss calls hhit
    rw [hr]
    exact ⟨iff_of_true rfl rfl, fun _ => rfl, (fun _ h => nomatch h), remember_keeps, fun _ => rfl⟩
  | some v =>
    -- the memory answers, with a success the backend gave a text of this trimmed form
    have hr : r = ((.success v, c), calls) := run_answering_hit calls hhit
    obtain ⟨t, ht, hft⟩ := hc.holds.hit hhit
    rw [hr]
    refine ⟨iff_of_false (by simp) (by simp), (fun h => nomatch h), ?_, fun _ => rfl, ?_⟩
    · rintro v' ⟨⟩
      exact ⟨rfl, t, ht, hft⟩
    · intro hkey
      rw [hkey text t ht.symm, hft]

/-- An echoing backend behind a memory of eight entries that already answered
"cat", asked " cat ": the memory answers, with the echo of "cat". -/
theorem echo_cache_answers_padded_text :
    let c := (((empty 8).query (answering .success) "cat").run []).1.2
    let r := (c.query (answering .success) " cat ").run ["cat"]
    Reached .success 8 c ∧
    (r.2 = ["cat"] ++ [" cat "] ↔ c.hit? " cat " = none) ∧
    (c.hit? " cat " = none → r.1.1 = .success " cat ") ∧
    (∀ v, c.hit? " cat " = some v →
      r.1.1 = .success v ∧ ∃ t, keyOf t = keyOf " cat " ∧ Outcome.success t = .success v) ∧
    ((∀ s, Outcome.success " cat " ≠ .success s) → r.1.2 = c) ∧
    ((∀ t t', keyOf t = keyOf t' → Outcome.success t = .success t') → r.1.1 = .success " cat ") :=
  ⟨.query "cat" [] .empty, cache_serves_backend_answers (.query "cat" [] .empty) " cat " ["cat"]⟩

/-- A backend that echoes its text, asked "cat" and then " cat ": the second
call is answered from the memory with the echo of "cat", not of " cat ". -/
theorem padded_text_gets_stored_answer :
    let c := (((empty 8).query (answering .success) "cat").run []).1.2
    ((c.query (answering .success) " cat ").run ["cat"]).1.1 ≠ Outcome.success " cat " := by
  decide

/-! ## Calls cancelled before they start -/

/-- A call whose token was cancelled before it does no lookup: the local
backend runs no model step and answers cancelled, and the remote one answers
cancelled whatever the service, which it never asks.
A memory in front of either that does not hold the trimmed text passes the
call on to it once, answers cancelled and keeps nothing. -/
theorem cancelled_call_does_no_lookup (p : Pipeline) (d : Remote.Dictionary) (svc : Remote.Service) (c : Cache)
    (text : String) (calls : List String) :
    p.lookup text (Token.ofFlag true) = ⟨.cancelled, [], 0⟩ ∧
    d.lookup svc text true = .cancelled ∧
    (c.hit? text = none →
      (c.query (answering (p.translate · true)) text).run calls = ((.cancelled, c), calls ++ [text]) ∧
      (c.query (answering (d.lookup svc · true)) text).run calls = ((.cancelled, c), calls ++ [text])) := by
  have hlocal : p.lookup text (Token.ofFlag true) = ⟨.cancelled, [], 0⟩ :=
    Pipeline.lookup_at_start p text rfl
  -- the remote backend answers before it asks the service
  have hremote : d.lookup svc text true = .cancelled := rfl
  refine ⟨hlocal, hremote, fun hmiss => ⟨?_, ?_⟩⟩
  · -- the local backend answers cancelled, which the memory does not keep
    have hout : p.translate text true = .cancelled := by
      rw [Pipeline.translate, hlocal]
    rw [run_answering_miss calls hmiss, hout, remember_keeps (fun _ => by simp)]
  · rw [run_answering_miss calls hmiss, hremote, remember_keeps (fun _ => by simp)]

/-- A memory that holds nothing, in front of a local backend, passes a call
whose token was cancelled before it on to the backend. -/
theorem cancelled_call_reaches_backend :
    let m : Lexicon.Model := ⟨"en-zh", " ", true, [(["cat"], ["猫"])], 1⟩
    let p : Pipeline := ⟨m.toStep, m.toStep⟩
    ((empty 8).query (answering (p.translate · true)) "cat").run [] = ((.cancelled, empty 8), ["cat"]) :=
  run_answering_miss [] rfl

end Cache

end Typeahead
