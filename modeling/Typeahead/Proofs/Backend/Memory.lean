-- A memory on its own, call after call. It keeps each key once and never
-- more keys than its capacity, so a memory of capacity zero keeps nothing.
-- A lookup finds the value of the latest store of its key, unless a call
-- since then emptied the memory: a clear, or the store of a new key into a
-- full memory, which forgets everything before it keeps its own entry. A
-- store of a known key, or into a memory with room, forgets nothing.
import Typeahead.Cache

namespace Typeahead.Cache

/-! ## Calls on a memory -/

/-- One call on a memory. -/
inductive Op where
  | insert (k v : String)
  | get (k : String)
  | clear
  deriving Repr, DecidableEq

/-- The memory after a call; a lookup changes nothing. -/
def call (c : Cache) : Op → Cache
  | .insert k v => c.insert k v
  | .get _ => c
  | .clear => c.clear

/-- The memory after a sequence of calls, the first call first. -/
def replay (c : Cache) (ops : List Op) : Cache := ops.foldl call c

/-- The value a call stores under a key. -/
def Op.stores (k : String) : Op → Option String
  | .insert k' v => if k' = k then some v else none
  | _ => none

/-- The value of the latest store of a key among the calls. -/
def latest (k : String) (ops : List Op) : Option String := ops.reverse.findSome? (Op.stores k)

/-- Whether a call empties the memory: a clear does, and so does the store of
a new key into a full memory. -/
def wipes (c : Cache) : Op → Bool
  | .insert k _ => c.capacity ≤ c.size && (c.get? k).isNone
  | .get _ => false
  | .clear => true

/-- Whether no call of a sequence, made from `c` on, empties the memory. -/
def quiet : Cache → List Op → Bool
  | _, [] => true
  | c, op :: ops => !c.wipes op && (c.call op).quiet ops

section Replay

variable (c : Cache) (k : String)

@[simp] theorem replay_nil : c.replay [] = c := rfl

@[simp] theorem replay_cons (op : Op) (ops : List Op) : c.replay (op :: ops) = (c.call op).replay ops := rfl

theorem replay_append (ops ops' : List Op) : c.replay (ops ++ ops') = (c.replay ops).replay ops' :=
  List.foldl_append

@[simp] theorem latest_nil : latest k [] = none := rfl

theorem latest_append (ops ops' : List Op) : latest k (ops ++ ops') = (latest k ops').or (latest k ops) := by
  simp [latest, List.findSome?_append]

theorem latest_cons (op : Op) (ops : List Op) : latest k (op :: ops) = (latest k ops).or (op.stores k) := by
  simp [latest, List.findSome?_append]

end Replay

/-! ## Storing a value -/

section Insert

variable {c : Cache} {k v : String}

@[simp] theorem capacity_insert : (c.insert k v).capacity = c.capacity := by
  simp only [insert]
  split
  · rfl
  · split <;> rfl

@[simp] theorem capacity_call (op : Op) : (c.call op).capacity = c.capacity := by
  cases op <;> simp [call, clear]

@[simp] theorem capacity_replay (ops : List Op) : (c.replay ops).capacity = c.capacity := by
  induction ops generalizing c with
  | nil => rfl
  | cons op ops ih => rw [replay_cons, ih, capacity_call]

@[simp] theorem get?_clear : c.clear.get? k = none := rfl

@[simp] theorem get?_empty (cap : Nat) : (empty cap).get? k = none := rfl

/-- The memory holds a key exactly when a lookup of it finds a value. -/
theorem any_key_eq : c.entries.any (fun e => e.1 == k) = (c.get? k).isSome := by
  simp [get?, List.isSome_find?]

theorem get?_eq_none_iff : c.get? k = none ↔ ∀ e ∈ c.entries, e.1 ≠ k := by
  simp [get?]

theorem insert_of_capacity_zero (h : c.capacity = 0) : c.insert k v = c := by
  simp [insert, h]

/-- A known key has its value replaced where it stands. -/
theorem entries_insert_known (hpos : 0 < c.capacity) (hk : (c.get? k).isSome) :
    (c.insert k v).entries = c.entries.map (fun e => if e.1 == k then (k, v) else e) := by
  simp [insert, Nat.pos_iff_ne_zero.1 hpos, any_key_eq, hk]

/-- A new key into a memory with room joins the entries at the end. -/
theorem entries_insert_room (hpos : 0 < c.capacity) (hk : c.get? k = none) (hroom : c.size < c.capacity) :
    (c.insert k v).entries = c.entries ++ [(k, v)] := by
  simp [insert, Nat.pos_iff_ne_zero.1 hpos, any_key_eq, hk, Nat.not_le.2 hroom]

/-- A new key into a full memory is all it holds afterwards. -/
theorem entries_insert_full (hpos : 0 < c.capacity) (hk : c.get? k = none) (hfull : c.capacity ≤ c.size) :
    (c.insert k v).entries = [(k, v)] := by
  simp [insert, Nat.pos_iff_ne_zero.1 hpos, any_key_eq, hk, hfull]

/-- A store of a known key, or into a memory with room, changes the lookup of
its own key only. -/
theorem get?_insert_kept (hpos : 0 < c.capacity) (hkept : (c.get? k).isSome ∨ c.size < c.capacity)
    (k' : String) : (c.insert k v).get? k' = if k = k' then some v else c.get? k' := by
  rcases hk : c.get? k with _ | w
  · -- a new key: it is looked up after all the old entries, none of which holds it
    have hroom : c.size < c.capacity := by simpa [hk] using hkept
    have hnone : c.entries.find? (fun e => e.1 == k) = none := by
      simpa using get?_eq_none_iff.1 hk
    rw [get?, entries_insert_room hpos hk hroom, List.find?_append]
    by_cases hkk : k = k'
    · subst hkk
      simp [hnone]
    · simp [hkk, get?]
  · -- a known key: a replaced entry keeps its key, so the search stops where it did
    rw [get?, entries_insert_known hpos (by simp [hk]), List.find?_map, Option.map_map]
    have hkeep : ((fun e : String × String => e.1 == k') ∘ fun e => if e.1 == k then (k, v) else e) =
        fun e => e.1 == k' := by
      funext e
      by_cases he : e.1 = k <;> simp [he]
    rw [hkeep]
    by_cases hkk : k = k'
    · subst hkk
      obtain ⟨e, he, rfl⟩ := Option.map_eq_some_iff.1 hk
      have hek : e.1 = k := by simpa using List.find?_some he
      simp [he, hek]
    · rcases hf : c.entries.find? (fun e => e.1 == k') with _ | e
      · simp [hkk, get?, hf]
      · have hek : e.1 = k' := by simpa using List.find?_some hf
        have hne : ¬ e.1 = k := fun h => hkk (h ▸ hek)
        simp [hkk, get?, hf, hne]

/-- After a new key went into a full memory, nothing else is found. -/
theorem get?_insert_full (hpos : 0 < c.capacity) (hk : c.get? k = none) (hfull : c.capacity ≤ c.size)
    (k' : String) : (c.insert k v).get? k' = if k = k' then some v else none := by
  rw [get?, entries_insert_full hpos hk hfull]
  by_cases hkk : k = k' <;> simp [hkk]

/-- A stored value is found under its key, whatever the store forgot. -/
theorem get?_insert_self (hpos : 0 < c.capacity) : (c.insert k v).get? k = some v := by
  by_cases hfull : c.capacity ≤ c.size ∧ c.get? k = none
  · rw [get?_insert_full hpos hfull.2 hfull.1, if_pos rfl]
  · have hkept : (c.get? k).isSome ∨ c.size < c.capacity := by
      rcases hk : c.get? k with _ | w
      · exact Or.inr (Nat.lt_of_not_le fun hle => hfull ⟨hle, hk⟩)
      · exact Or.inl rfl
    rw [get?_insert_kept hpos hkept, if_pos rfl]

end Insert

/-! ## The invariant of a memory -/

/-- A memory as calls leave it: no key twice, and no more keys than its capacity. -/
structure Sound (c : Cache) : Prop where
  nodup : (c.entries.map Prod.fst).Nodup
  size_le : c.size ≤ c.capacity

section Sound

variable {c : Cache}

theorem sound_empty (cap : Nat) : Sound (empty cap) := ⟨List.nodup_nil, Nat.zero_le _⟩

theorem Sound.entries_eq_nil (h : Sound c) (h0 : c.capacity = 0) : c.entries = [] := by
  have hle := h.size_le
  rw [h0] at hle
  exact List.eq_nil_of_length_eq_zero (Nat.le_zero.1 hle)

/-- A key a memory holds makes its capacity positive. -/
theorem Sound.capacity_pos (h : Sound c) {k : String} (hkept : (c.get? k).isSome ∨ c.size < c.capacity) :
    0 < c.capacity := by
  rcases hkept with hk | hroom
  · refine Nat.pos_of_ne_zero fun h0 => ?_
    simp [get?, h.entries_eq_nil h0] at hk
  · exact Nat.lt_of_le_of_lt (Nat.zero_le _) hroom

theorem Sound.insert (h : Sound c) (k v : String) : Sound (c.insert k v) := by
  rcases Nat.eq_zero_or_pos c.capacity with h0 | hpos
  · rw [insert_of_capacity_zero h0]
    exact h
  rcases hk : c.get? k with _ | w
  · by_cases hfull : c.capacity ≤ c.size
    · -- a full memory keeps the new entry alone
      refine ⟨by simp [entries_insert_full hpos hk hfull], ?_⟩
      simp only [size, entries_insert_full hpos hk hfull, capacity_insert, List.length_singleton]
      exact hpos
    · -- the new key is none of the old ones
      have hroom : c.size < c.capacity := Nat.lt_of_not_le hfull
      have hnot : k ∉ c.entries.map Prod.fst := fun hmem => by
        obtain ⟨e, he, hek⟩ := List.mem_map.1 hmem
        exact get?_eq_none_iff.1 hk e he hek
      refine ⟨?_, ?_⟩
      · rw [entries_insert_room hpos hk hroom, List.map_append, List.map_cons, List.map_nil,
          List.nodup_append]
        refine ⟨h.nodup, by simp, ?_⟩
        intro a ha b hb hab
        rw [List.mem_singleton] at hb
        rw [hab, hb] at ha
        exact hnot ha
      · simp only [size, entries_insert_room hpos hk hroom, capacity_insert, List.length_append,
          List.length_singleton]
        exact hroom
  · -- the known key's entry is replaced where it stands, under the same key
    have hsome : (c.get? k).isSome := by simp [hk]
    have hkeys : (c.insert k v).entries.map Prod.fst = c.entries.map Prod.fst := by
      rw [entries_insert_known hpos hsome, List.map_map]
      congr 1
      funext e
      by_cases he : e.1 = k <;> simp [he]
    refine ⟨hkeys ▸ h.nodup, ?_⟩
    have hsize : (c.insert k v).size = c.size := by
      simp [size, entries_insert_known hpos hsome]
    rw [hsize, capacity_insert]
    exact h.size_le

theorem Sound.call (h : Sound c) (op : Op) : Sound (c.call op) := by
  cases op with
  | insert k v => exact h.insert k v
  | get k => exact h
  | clear => exact ⟨List.nodup_nil, Nat.zero_le _⟩

theorem Sound.replay (h : Sound c) (ops : List Op) : Sound (c.replay ops) := by
  induction ops generalizing c with
  | nil => exact h
  | cons op ops ih => exact ih (h.call op)

end Sound

/-! ## What a lookup finds -/

section Lookup

variable {c : Cache}

/-- What a lookup finds after a store into a sound memory: the stored value, or
for another key what it found before. -/
theorem get?_insert_eq_some (h : Sound c) {k v k' w : String} (hw : (c.insert k v).get? k' = some w) :
    (k = k' ∧ w = v) ∨ (k ≠ k' ∧ c.get? k' = some w) := by
  rcases Nat.eq_zero_or_pos c.capacity with h0 | hpos
  · -- a memory of capacity zero holds nothing
    rw [insert_of_capacity_zero h0] at hw
    simp [get?, h.entries_eq_nil h0] at hw
  by_cases hfull : c.capacity ≤ c.size ∧ c.get? k = none
  · rw [get?_insert_full hpos hfull.2 hfull.1] at hw
    by_cases hkk : k = k' <;> simp_all
  · have hkept : (c.get? k).isSome ∨ c.size < c.capacity := by
      rcases hk : c.get? k with _ | w'
      · exact Or.inr (Nat.lt_of_not_le fun hle => hfull ⟨hle, hk⟩)
      · exact Or.inl rfl
    rw [get?_insert_kept hpos hkept] at hw
    by_cases hkk : k = k' <;> simp_all

/-- A value found after a call was stored by that call, or was found before it
under a key the call does not store. -/
theorem get?_call_eq_some (h : Sound c) {op : Op} {k w : String} (hw : (c.call op).get? k = some w) :
    op.stores k = some w ∨ (op.stores k = none ∧ c.get? k = some w) := by
  cases op with
  | insert k' v =>
    rcases get?_insert_eq_some h hw with ⟨rfl, rfl⟩ | ⟨hne, hfound⟩
    · exact Or.inl (by simp [Op.stores])
    · exact Or.inr ⟨by simp [Op.stores, hne], hfound⟩
  | get k' => exact Or.inr ⟨rfl, hw⟩
  | clear => simp [call] at hw

/-- A value found after calls was stored by the latest store of its key among
them, or, if none of them stores the key, was found before them. -/
theorem get?_replay_eq_some (h : Sound c) {ops : List Op} {k w : String}
    (hw : (c.replay ops).get? k = some w) :
    latest k ops = some w ∨ (latest k ops = none ∧ c.get? k = some w) := by
  induction ops generalizing c with
  | nil => exact Or.inr ⟨rfl, hw⟩
  | cons op ops ih =>
    rw [latest_cons]
    rcases ih (h.call op) hw with hlast | ⟨hlast, hfound⟩
    · exact Or.inl (by rw [hlast, Option.some_or])
    · rw [hlast, Option.none_or]
      exact get?_call_eq_some h hfound

/-- A call that does not empty the memory changes only the lookup of the key it stores. -/
theorem get?_call_of_not_wipes (hpos : 0 < c.capacity) {op : Op} (h : c.wipes op = false) (k : String) :
    (c.call op).get? k = (op.stores k).or (c.get? k) := by
  cases op with
  | insert k' v =>
    have hkept : (c.get? k').isSome ∨ c.size < c.capacity := by
      rcases hk : c.get? k' with _ | w
      · simp only [wipes, hk, Option.isNone_none, Bool.and_true, decide_eq_false_iff_not] at h
        exact Or.inr (Nat.lt_of_not_le h)
      · exact Or.inl rfl
    rw [call, get?_insert_kept hpos hkept]
    by_cases hkk : k' = k <;> simp [Op.stores, hkk]
  | get k' => simp [call, Op.stores]
  | clear => simp [wipes] at h

/-- Over calls none of which empties the memory, a lookup finds the latest
store of its key among them, or else what it found before. -/
theorem get?_replay_of_quiet {ops : List Op} (hpos : 0 < c.capacity) (h : c.quiet ops = true) (k : String) :
    (c.replay ops).get? k = (latest k ops).or (c.get? k) := by
  induction ops generalizing c with
  | nil => simp
  | cons op ops ih =>
    simp only [quiet, Bool.and_eq_true, Bool.not_eq_true'] at h
    rw [replay_cons, ih (by simpa using hpos) h.2, get?_call_of_not_wipes hpos h.1, latest_cons,
      Option.or_assoc]

end Lookup

/-! ## A memory of any capacity -/

/-- Calls on a new memory of capacity `cap`: the memory holds each key once,
never more keys than `cap`, and nothing when `cap` is zero. A value found
for a key is the value of the latest store of that key; when `cap` is
positive, a key stored since the last call that emptied the memory is found
with that latest value. A store of a known key, or into a memory with room,
keeps what every other key finds; a new key stored into a full memory of
positive capacity is all the memory holds afterwards. -/
theorem memory_keeps_latest_values (cap : Nat) (ops : List Op) :
    let c := (empty cap).replay ops
    ((c.entries.map Prod.fst).Nodup ∧ c.size ≤ cap ∧ (cap = 0 → c.entries = [])) ∧
    (∀ k w, c.get? k = some w → latest k ops = some w) ∧
    (0 < cap → ∀ k v pre post, ops = pre ++ .insert k v :: post →
      ((empty cap).replay (pre ++ [.insert k v])).quiet post = true → c.get? k = latest k ops) ∧
    (∀ k v, (c.get? k).isSome ∨ c.size < cap →
      (c.insert k v).get? k = some v ∧ ∀ k', k' ≠ k → (c.insert k v).get? k' = c.get? k') ∧
    (0 < cap → ∀ k v, c.get? k = none → cap ≤ c.size → (c.insert k v).entries = [(k, v)]) := by
  intro c
  have hs : Sound c := (sound_empty cap).replay ops
  have hcap : c.capacity = cap := capacity_replay ops
  refine ⟨⟨hs.nodup, hcap ▸ hs.size_le, fun h0 => hs.entries_eq_nil (hcap.trans h0)⟩, ?_, ?_, ?_, ?_⟩
  · intro k w hw
    rcases get?_replay_eq_some (sound_empty cap) hw with hlast | ⟨_, hfound⟩
    · exact hlast
    · simp at hfound
  · -- from the store on nothing empties the memory, so the store or a later one is found
    intro hpos k v pre post hops hquiet
    have hstored : ((empty cap).replay (pre ++ [.insert k v])).get? k = some v := by
      rw [replay_append, replay_cons, replay_nil, call]
      exact get?_insert_self (by rw [capacity_replay]; exact hpos)
    have hsplit : ops = (pre ++ [.insert k v]) ++ post := by simp [hops]
    show ((empty cap).replay ops).get? k = latest k ops
    rw [hsplit, replay_append, get?_replay_of_quiet (by rw [capacity_replay]; exact hpos) hquiet, hstored,
      latest_append, latest_append, latest_cons, latest_nil, Option.none_or]
    simp [Op.stores]
  · -- a store that forgets nothing changes its own key only
    intro k v hkept
    have hpos : 0 < c.capacity := hs.capacity_pos (hcap ▸ hkept)
    refine ⟨get?_insert_self hpos, fun k' hne => ?_⟩
    rw [get?_insert_kept hpos (hcap ▸ hkept), if_neg (Ne.symm hne)]
  · intro hpos k v hk hfull
    exact entries_insert_full (hcap ▸ hpos) hk (hcap ▸ hfull)

/-- Two slots, "a" and "b" stored and "b" stored again: storing "c" starts the
memory over with "c" alone, and "c" is then found with its value. -/
theorem full_memory_starts_over :
    (((empty 2).replay [.insert "a" "1", .insert "b" "2", .insert "b" "3"]).insert "c" "4").entries =
      [("c", "4")] ∧
    ((empty 2).replay [.insert "a" "1", .insert "b" "2", .insert "b" "3", .insert "c" "4"]).get? "c" =
      some "4" :=
  ⟨(memory_keeps_latest_values 2 _).2.2.2.2 (by decide) "c" "4" (by decide) (by decide),
   ((memory_keeps_latest_values 2 _).2.2.1 (by decide) "c" "4"
      [.insert "a" "1", .insert "b" "2", .insert "b" "3"] [] rfl (by decide)).trans (by decide)⟩

/-- A memory of capacity zero keeps no store: "a" stored into it, full as it
is with no entry, is not found although its latest store gave "1", and the
memory stays empty. -/
theorem zero_capacity_keeps_nothing :
    ((empty 0).replay [.insert "a" "1"]).get? "a" = none ∧ latest "a" [.insert "a" "1"] = some "1" ∧
    (empty 0).capacity ≤ (empty 0).size ∧ ((empty 0).insert "a" "1").entries = [] := by
  decide

end Typeahead.Cache
