-- The command that opens a link: the configured browser, split at blanks,
-- with the link added, or the desktop's default opener.
import Typeahead.Text.Blank

namespace Typeahead

/-- The opener used when no browser is configured. -/
def defaultOpener : String := "xdg-open"

/-- The argument list that opens `url`: a configured browser that is not
blank is cut into words, and the link is always the last argument. -/
def openerArgv (url : String) (browser : Option String) : List String :=
  match browser with
  | some b =>
    if (Text.trim b.toList).isEmpty then [defaultOpener, url] else Text.wordsOf b ++ [url]
  | none => [defaultOpener, url]

theorem openerArgv_none (url : String) : openerArgv url none = [defaultOpener, url] := rfl

end Typeahead
