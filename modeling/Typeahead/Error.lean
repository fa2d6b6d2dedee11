-- The errors of the program: each constructor is one cause, and
-- `Error.message` is the one place that words them.

namespace Typeahead

/-- Why an operation of the program failed. -/
inductive Error where
  /-- The HTTP client could not be built. -/
  | http (detail : String)
  /-- A JSON text could not be read into the expected shape. -/
  | json (detail : String)
  /-- A file or process operation failed. -/
  | io (detail : String)
  /-- The configuration file could not be read. -/
  | toml (detail : String)
  /-- The configuration asks for something that cannot work. -/
  | config (detail : String)
  /-- The program could not start its machinery. -/
  | startup (detail : String)
  /-- A model directory or one of its files is missing or bad. -/
  | modelAssets (detail : String)
  /-- A model failed while it ran. -/
  | modelRuntime (detail : String)
  deriving Repr, DecidableEq

namespace Error

/-- The full text of an error: a heading for its cause, then its detail. -/
def message : Error → String
  | http d => "HTTP request error: " ++ d
  | json d => "JSON serialization error: " ++ d
  | io d => "IO error: " ++ d
  | toml d => "TOML parsing error: " ++ d
  | config d => "Configuration error: " ++ d
  | startup d => "Start-up error: " ++ d
  | modelAssets d => "Model assets missing: " ++ d
  | modelRuntime d => "Model runtime error: " ++ d

/-- The detail an error carries, without its heading. -/
def detail : Error → String
  | http d | json d | io d | toml d | config d | startup d | modelAssets d | modelRuntime d => d

end Error

end Typeahead
