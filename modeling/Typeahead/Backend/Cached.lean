-- A memory in front of a scripted backend that answers at once and does
-- not look at cancellation. A query whose trimmed text is known is
-- answered from the memory, cancelled or not; any other query goes to the
-- backend with its text as given, and a success is kept. Releasing clears
-- the memory and releases the backend.
import Typeahead.Cache
import Typeahead.Backend.Scripted

namespace Typeahead

/-- One request to the memory-fronted backend. -/
inductive CachedRequest where
  | translate (text : String) (cancelled : Bool)
  | get (key : String)
  | release
  deriving Repr

/-- What one request answers. -/
inductive CachedReply where
  | outcome (o : Outcome)
  | stored (value : Option String)
  | released
  deriving Repr

/-- The memory, the script behind it, and what the backend saw. -/
structure CachedScript where
  cache : Cache
  script : Script
  /-- The texts the backend received, oldest first. -/
  calls : List String
  releases : Nat
  deriving Repr

namespace CachedScript

/-- A fresh memory of the given capacity in front of a script. -/
def init (capacity : Nat) (script : Script) : CachedScript := ⟨Cache.empty capacity, script, [], 0⟩

/-- The script asked a text: the text joins the calls it saw, and a breakdown
ends the session with its message. -/
def ask (script : Script) (text : String) : StateT (List String) (Except String) Outcome := do
  modify (· ++ [text])
  match script.answer text with
  | .breakdown m => throw m
  | .outcome o => pure o

/-- Serves one request; a breakdown of the backend ends the session with its message. -/
def serve (s : CachedScript) : CachedRequest → Except String (CachedReply × CachedScript)
  | .translate text _ => do
    let ((o, cache), calls) ← (s.cache.query (ask s.script) text).run s.calls
    pure (.outcome o, { s with cache, calls })
  | .get k => .ok (.stored (s.cache.get? k), s)
  | .release => .ok (.released, { s with cache := s.cache.clear, releases := s.releases + 1 })

/-- Serves requests in order, with the state after each; a breakdown ends all. -/
def serveAll (s : CachedScript) : List CachedRequest → Except String (List (CachedReply × CachedScript))
  | [] => .ok []
  | r :: rs => do
    let (a, s') ← s.serve r
    let rest ← s'.serveAll rs
    pure ((a, s') :: rest)

end CachedScript

end Typeahead
