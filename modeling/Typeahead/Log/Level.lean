-- Levels of the log. A level named in the configuration is read without
-- regard to ASCII case; any other name means `warn`.

namespace Typeahead

/-- How much the log shows, from the most to the least. -/
inductive LogLevel where
  | debug
  | info
  | warn
  | error
  deriving Repr, DecidableEq

namespace LogLevel

/-- The level a configured name stands for; an unknown name is `warn`. -/
def ofName (name : String) : LogLevel :=
  match String.ofList (name.toList.map Char.toUpper) with
  | "DEBUG" => debug
  | "INFO" => info
  | "WARN" => warn
  | "ERROR" => error
  | _ => warn

/-- The lower-case word of a level. -/
def word : LogLevel → String
  | debug => "debug"
  | info => "info"
  | warn => "warn"
  | error => "error"

/-- The upper-case tag a log line starts with. -/
def tag : LogLevel → String
  | debug => "DEBUG"
  | info => "INFO"
  | warn => "WARN"
  | error => "ERROR"

/-- The rank of a level: a filter at rank `r` shows the lines of rank `r` or more. -/
def rank : LogLevel → Nat
  | debug => 0
  | info => 1
  | warn => 2
  | error => 3

theorem ofName_warn : ofName "warn" = warn := by decide

end LogLevel

end Typeahead
