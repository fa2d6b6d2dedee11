-- Drawing a result list. A translation shows its number and title, and
-- its link on the next line; a diagnostic shows a warning sign; a
-- placeholder shows its title alone. Every line is indented by two spaces
-- and ends with a newline.
import Typeahead.Terminal.Theme
import Typeahead.Lookup.Item

namespace Typeahead.Terminal

/-- How the screen is drawn: the theme, colour on or off, and emoji or plain signs. -/
structure Look where
  theme : Theme
  color : Bool
  emoji : Bool

/-- The lines of one item at a position counted from 0. -/
def Look.item (l : Look) (i : Nat) (it : Item) : String :=
  match it.kind with
  | .translation =>
    let head := "  " ++ l.theme.index.paint l.color (toString (i + 1)) ++ ". " ++
      l.theme.translation.paint l.color it.title ++ "\n"
    match it.action with
    | some (.openUrl url) =>
      head ++ "     " ++ (if l.emoji then "🔗" else "->") ++ " " ++ l.theme.link.paint l.color url ++ "\n"
    | none => head
  | .diagnostic =>
    "  " ++ (if l.emoji then "⚠️ " else "!") ++ " " ++ l.theme.diagnostic.paint l.color it.title ++ "\n"
  | .placeholder => "  " ++ l.theme.placeholder.paint l.color it.title ++ "\n"

/-- The text of a result list. -/
def Look.render (l : Look) (items : List Item) : String :=
  String.join ((items.zipIdx.map (fun (it, i) => l.item i it)))

/-- The line shown when a lookup starts. -/
def Look.loadingLine (l : Look) : String :=
  "  " ++ l.theme.loading.paint l.color (if l.emoji then "⏳ translating..." else "translating...") ++ "\n"

/-- The follow-up command of the item at a position, if any. -/
def actionAt (items : List Item) (i : Nat) : Option Action := (items[i]?).bind Item.action

end Typeahead.Terminal
