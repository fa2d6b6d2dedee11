-- A bounded memory of translations by query. Storing a new key into a
-- full memory first forgets everything; storing a known key replaces its
-- value. A memory of capacity zero stores nothing. In front of a backend,
-- the memory answers a query whose trimmed text it knows, whatever the
-- token, and keeps every success the backend gives.
import Typeahead.Lookup.Outcome
import Typeahead.Text.Blank

namespace Typeahead

/-- A memory of translations, each key at most once. -/
structure Cache where
  capacity : Nat
  entries : List (String × String)
  deriving Repr

namespace Cache

/-- An empty memory. -/
def empty (capacity : Nat) : Cache := ⟨capacity, []⟩

/-- The value stored for a key. -/
def get? (c : Cache) (k : String) : Option String :=
  (c.entries.find? (fun e => e.1 == k)).map (·.2)

/-- The number of keys stored. -/
def size (c : Cache) : Nat := c.entries.length

/-- Whether nothing is stored. -/
def isEmpty (c : Cache) : Bool := c.entries.isEmpty

/-- The memory with nothing stored. -/
def clear (c : Cache) : Cache := { c with entries := [] }

/-- Stores a value: a memory of capacity zero ignores it, a new key into a
full memory clears it first, and a known key has its value replaced. -/
def insert (c : Cache) (k v : String) : Cache :=
  if c.capacity = 0 then c
  else
    let known := c.entries.any (fun e => e.1 == k)
    let base := if c.size ≥ c.capacity && !known then [] else c.entries
    if known then { c with entries := base.map (fun e => if e.1 == k then (k, v) else e) }
    else { c with entries := base ++ [(k, v)] }

/-- The key a query is stored under: its text without blanks at either end. -/
def keyOf (text : String) : String := Text.trimString text

/-- The stored answer for a query. -/
def hit? (c : Cache) (text : String) : Option String := c.get? (keyOf text)

/-- The memory after the backend answered a query: a success is kept. -/
def remember (c : Cache) (text : String) (o : Outcome) : Cache :=
  match o with
  | .success t => c.insert (keyOf text) t
  | _ => c

/-- A query to a backend behind the memory, where `ask` is what the backend
does with the text it is given. A text whose trimmed form the memory holds is
answered from it, whatever the token, and the backend is not asked; any other
is asked as given, untrimmed, and a success is kept. -/
def query {m : Type → Type} [Monad m] (c : Cache) (ask : String → m Outcome) (text : String) :
    m (Outcome × Cache) :=
  match c.hit? text with
  | some t => pure (.success t, c)
  | none => do
    let o ← ask text
    pure (o, c.remember text o)

theorem size_clear (c : Cache) : c.clear.size = 0 := rfl

theorem query_hit {m : Type → Type} [Monad m] {c : Cache} {ask : String → m Outcome} {text v : String}
    (h : c.hit? text = some v) : c.query ask text = pure (.success v, c) := by
  simp [query, h]

theorem query_miss {m : Type → Type} [Monad m] {c : Cache} {ask : String → m Outcome} {text : String}
    (h : c.hit? text = none) : c.query ask text = (ask text >>= fun o => pure (o, c.remember text o)) := by
  simp [query, h]

end Cache

end Typeahead
