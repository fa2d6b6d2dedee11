-- The answer of a dictionary service: for each language, a list of usages,
-- each with a list of definitions in markup. The translation is the first
-- definition, in the order given, that has some plain text.
import Typeahead.Json.Decode
import Typeahead.Text.Markup
import Typeahead.Lookup.Outcome

namespace Typeahead.Dictionary

open Json

/-- The shape of one definition: its markup text. -/
def definitionShape : Shape := .record "Definition" [("definition", .text, false)]

/-- The shape of one usage: its definitions, none when absent. -/
def usageShape : Shape := .record "Usage" [("definitions", .list definitionShape, true)]

/-- The shape of a whole answer: usages by language. -/
def answerShape : Shape := .dict (.list usageShape)

/-- The markup texts of the definitions a language has, in order. -/
def definitionsOf (answer : Value) (language : String) : List String :=
  match answer.field? language with
  | some usages =>
    usages.items.flatMap (fun u =>
      match u.field? "definitions" with
      | some ds => ds.items.filterMap (fun d => (d.field? "definition").bind Value.text?)
      | none => [])
  | none => []

/-- The translation a body gives for a language: the first definition with
plain text; a body that is not such an answer is malformed. -/
def extract (body : String) (language : String) : Except FailureReason String :=
  match Json.read answerShape body.toUTF8.toList with
  | .error f => .error (.malformedResponse f.message)
  | .ok answer =>
    match (definitionsOf answer language).map Text.stripMarkup |>.find? (fun d => !d.isEmpty) with
    | some t => .ok t
    | none => .error .notFound

end Typeahead.Dictionary
