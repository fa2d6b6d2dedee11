-- Records of the log. A record has a level, the part of the program it
-- comes from, a message, and named fields; its line is the level tag, the
-- source, the message and then each field as `name=value`.
import Typeahead.Log.Level
import Typeahead.Text.Quote

namespace Typeahead

/-- The parts of the program that write to the log. -/
inductive LogSource where
  | controller
  | sequencer
  | localModels
  | cache
  | remote
  | launcher
  deriving Repr, DecidableEq

/-- The name a source is shown with. -/
def LogSource.target : LogSource → String
  | .controller => "tt_rust::application::controller"
  | .sequencer => "tt_rust::application::sequencer"
  | .localModels => "tt_rust::infrastructure::pipeline::local"
  | .cache => "tt_rust::infrastructure::storage::cache"
  | .remote => "tt_rust::infrastructure::network::client"
  | .launcher => "tt_rust::interfaces::launcher"

/-- One record of the log. -/
structure LogRecord where
  level : LogLevel
  source : LogSource
  message : String
  fields : List (String × String)
  deriving Repr, DecidableEq

namespace LogRecord

/-- The line of a record. -/
def line (r : LogRecord) : String :=
  r.level.tag ++ " " ++ r.source.target ++ ": " ++ r.message ++
    String.join (r.fields.map (fun (k, v) => " " ++ k ++ "=" ++ v))

/-- A field holding a text, shown quoted. -/
def quoted (k v : String) : String × String := (k, Text.quote v)

/-- A field holding a number. -/
def number (k : String) (n : Nat) : String × String := (k, toString n)

end LogRecord

end Typeahead
