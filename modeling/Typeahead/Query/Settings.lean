-- What a query controller is set up with: how long the input must be
-- quiet before a lookup, how many characters a query needs, and the link
-- template attached to each translation.
import Typeahead.Text.Percent

namespace Typeahead.Query

/-- The settings of a controller. -/
structure Settings where
  /-- The quiet period in milliseconds. -/
  debounce : Nat
  /-- The fewest characters a trimmed query must have. -/
  minChars : Nat
  /-- The template of the link attached to a translation. -/
  lookupUrl : Option String
  deriving Repr, DecidableEq

/-- The link template of the default settings. -/
def defaultLookupUrl : String := "https://dict.youdao.com/result?word={text}&lang=en"

/-- The settings used when nothing else is said. -/
def Settings.default : Settings := ⟨500, 3, some defaultLookupUrl⟩

/-- A template that is empty means no link. -/
def linkTemplate (url : String) : Option String := if url.isEmpty then none else some url

end Typeahead.Query
