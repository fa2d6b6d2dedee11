-- The items of a result list. A list shows a placeholder while there is
-- no query, a translation with an optional link, or a diagnostic worded
-- from a failure reason.
import Typeahead.Lookup.Outcome

namespace Typeahead

/-- What an item is, which decides how it is drawn. -/
inductive ItemKind where
  | translation
  | diagnostic
  | placeholder
  deriving Repr, DecidableEq

/-- A follow-up command of an item. -/
inductive Action where
  | openUrl (url : String)
  deriving Repr, DecidableEq

/-- One line of the result list. -/
structure Item where
  title : String
  kind : ItemKind
  action : Option Action
  deriving Repr, DecidableEq

namespace Item

/-- The title shown while there is nothing to translate. -/
def placeholderTitle : String := "Enter text to translate"

/-- The item shown while there is nothing to translate. -/
def placeholder : Item := ⟨placeholderTitle, .placeholder, none⟩

/-- A translated text, with its follow-up command if there is one. -/
def translation (text : String) (action : Option Action) : Item := ⟨text, .translation, action⟩

/-- The item that reports a failure reason. -/
def diagnostic (reason : FailureReason) : Item := ⟨reason.message, .diagnostic, none⟩

end Item

end Typeahead
