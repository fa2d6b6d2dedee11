-- The backends a controller can run: a scripted one that answers after a
-- delay, the local phrase models, and a remote dictionary service, each
-- with an optional memory in front. Here a backend is data: what it is,
-- its name, and what it writes to the log when released.
import Typeahead.Backend.Scripted
import Typeahead.Pipeline
import Typeahead.Cache
import Typeahead.Log.Record
import Typeahead.Remote.Dictionary

namespace Typeahead.Query

/-- What does the translating. -/
inductive Engine where
  /-- Answers from a script after `delay` milliseconds; `honorsCancel` says
  whether a cancelled token ends the wait at once. -/
  | scripted (script : Script) (delay : Nat) (honorsCancel : Bool)
  | phrases (p : Pipeline)
  /-- Asks the dictionary service `d`, which `svc` stands for. -/
  | remote (d : Remote.Dictionary) (svc : Remote.Service)
  deriving Repr

/-- A backend: its engine and the memory in front of it, if any. -/
structure Backend where
  engine : Engine
  cache : Option Cache
  deriving Repr

namespace Backend

/-- The name of a backend; a memory in front does not change it. -/
def name (b : Backend) : String :=
  match b.engine with
  | .scripted .. => scriptedName
  | .phrases _ => Pipeline.name
  | .remote .. => Remote.name

/-- What releasing the backend writes to the log. -/
def releaseNotes (b : Backend) : List LogRecord :=
  match b.engine with
  | .phrases p => [⟨.debug, .localModels, "releasing local models",
      [LogRecord.quoted "to_english" p.toEnglish.name, LogRecord.quoted "from_english" p.fromEnglish.name]⟩]
  | _ => []

/-- The backend after release: its memory is cleared. -/
def release (b : Backend) : Backend := { b with cache := b.cache.map Cache.clear }

end Backend

end Typeahead.Query
