-- A backend that answers from a script: each exact query text may have
-- its own reply, and every other text gets the default reply. A reply may
-- shout the text back in upper case, echo it, give a fixed outcome, or
-- break down with a message.
import Typeahead.Lookup.Outcome
import Typeahead.Text.Case

namespace Typeahead

/-- How a scripted backend replies to a text. -/
inductive Reply where
  | upper
  | echo
  | cancelled
  | success (text : String)
  | failure (reason : FailureReason)
  | breakdown (message : String)
  deriving Repr, DecidableEq

/-- What a scripted backend does for one call: an outcome, or a breakdown. -/
inductive Answer where
  | outcome (o : Outcome)
  | breakdown (message : String)
  deriving Repr, DecidableEq

/-- The replies of a scripted backend: by exact text, then the default. -/
structure Script where
  replies : List (String × Reply)
  fallback : Reply
  deriving Repr

namespace Script

/-- The reply for a text; the last entry for a text wins. -/
def replyFor (s : Script) (text : String) : Reply :=
  match s.replies.reverse.find? (fun e => e.1 == text) with
  | some (_, r) => r
  | none => s.fallback

/-- What the backend answers for a text. -/
def answer (s : Script) (text : String) : Answer :=
  match s.replyFor text with
  | .upper => .outcome (.success (Text.upperString text))
  | .echo => .outcome (.success text)
  | .cancelled => .outcome .cancelled
  | .success t => .outcome (.success t)
  | .failure r => .outcome (.failure r)
  | .breakdown m => .breakdown m

end Script

/-- The name a scripted backend goes by. -/
def scriptedName : String := "stub"

end Typeahead
