-- The themes of the result list: a style for each part of a line. A theme
-- is chosen by name; an empty name means the first theme, and an unknown
-- name falls back to it with a warning.
import Typeahead.Terminal.Style

namespace Typeahead.Terminal

/-- A style for each part of the screen. -/
structure Theme where
  query : Style
  translation : Style
  diagnostic : Style
  placeholder : Style
  loading : Style
  index : Style
  link : Style
  deriving Repr

namespace Theme

/-- The default theme. -/
def temp : Theme where
  query := .of .brightMagenta [.italic, .bold, .underline]
  translation := .of .yellow []
  diagnostic := .of .red [.italic]
  placeholder := .of .brightBlack [.dimmed]
  loading := .of .cyan [.dimmed]
  index := .of .brightWhite []
  link := .of .brightWhite [.dimmed, .italic]

/-- A theme of bright white text. -/
def wudao : Theme where
  query := .of .red [.italic, .bold, .underline]
  translation := .of .brightWhite []
  diagnostic := .of .brightYellow [.italic]
  placeholder := .of .brightBlack [.dimmed]
  loading := .of .green [.italic]
  index := .of .brightWhite []
  link := .of .cyan [.italic]

/-- A theme for a light background. -/
def canvas : Theme where
  query := .of .blue [.bold, .underline]
  translation := .of .black []
  diagnostic := .of .red [.bold]
  placeholder := .of .brightBlack [.italic]
  loading := .of .magenta []
  index := .of .cyan []
  link := .of .brightBlue []

/-- The theme of a name, if it is one. -/
def named? : String → Option Theme
  | "temp" | "" => some temp
  | "wudao" => some wudao
  | "canvas" => some canvas
  | _ => none

/-- The theme of a name, the default one for an unknown name. -/
def ofName (name : String) : Theme := (named? name).getD temp

/-- The warning for an unknown theme name. -/
def unknownWarning (name : String) : String := "✘ Unknown theme: " ++ name

end Theme

end Typeahead.Terminal
