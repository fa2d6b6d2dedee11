-- What one lookup answers. A lookup gives a text, is cancelled, or fails
-- for a reason; a reason is worded by `FailureReason.message`, and every
-- error of the program maps to one reason.
import Typeahead.Error

namespace Typeahead

/-- Why a single lookup gave no translation. -/
inductive FailureReason where
  | unreachable (detail : String)
  | rejected (detail : String)
  | malformedResponse (detail : String)
  | notFound
  | modelRuntime (detail : String)
  | unavailable (detail : String)
  deriving Repr, DecidableEq

namespace FailureReason

/-- The text shown for a failed lookup. -/
def message : FailureReason → String
  | unreachable d => "Translation service unreachable: " ++ d
  | rejected d => "Translation service rejected the request: " ++ d
  | malformedResponse d => "Malformed response from translation service: " ++ d
  | notFound => "No translation found"
  | modelRuntime d => "Translation model error: " ++ d
  | unavailable d => "Translation unavailable: " ++ d

/-- The text a reason carries; `notFound` carries none. -/
def detail? : FailureReason → Option String
  | unreachable d | rejected d | malformedResponse d | modelRuntime d | unavailable d => some d
  | notFound => none

/-- The reason an error gives when it ends a lookup: the client and the
JSON reader keep their detail, a failing model keeps its own, missing
assets and configuration make the backend unavailable, and any other error
is a model error worded in full. -/
def ofError : Error → FailureReason
  | .http d => unreachable d
  | .json d => malformedResponse d
  | .modelRuntime d => modelRuntime d
  | .modelAssets d | .config d | .startup d => unavailable d
  | e => modelRuntime e.message

end FailureReason

/-- The answer of one lookup. -/
inductive Outcome where
  | success (text : String)
  | cancelled
  | failure (reason : FailureReason)
  deriving Repr, DecidableEq

end Typeahead
