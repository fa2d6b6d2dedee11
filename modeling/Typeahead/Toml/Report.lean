-- How a fault of a TOML document is shown: a heading with the line and
-- column, the line itself, carets under the span, and the message. Lines are
-- counted from one, and the column counts characters, from one.
import Typeahead.Toml.Document

namespace Typeahead.Toml

/-- The line and column, both from zero, of a byte offset of the text. An
offset past the end counts on from the last byte. -/
def position (text : List UInt8) (offset : Nat) : Nat × Nat :=
  if text.isEmpty then (0, offset)
  else
    let safe := min offset (text.length - 1)
    let beyond := offset - safe
    let before := text.take safe
    let lineStart := match (before.reverse.findIdx? (· == 10)) with
      | some k => safe - k
      | none => 0
    let line := (text.take lineStart).count 10
    let upto := (text.drop lineStart).take (safe + 1 - lineStart)
    let column := match Text.decode? upto with
      | some cs => cs.length - 1
      | none => safe - lineStart
    (line, column + beyond)

/-- The lines of the text, split at each line feed. -/
def splitLines (text : List UInt8) : List (List UInt8) :=
  text.splitOn 10

/-- The fault shown against the text it was found in. -/
def Fault.render (f : Fault) (text : List UInt8) : String :=
  match f.span with
  | none => f.message ++ "\n"
  | some s =>
    let (line, column) := position text s.start
    let number := toString (line + 1)
    let gutter := String.ofList (List.replicate (number.length + 1) ' ')
    let content := ((splitLines text)[line]?).getD []
    let marks := min (s.stop - s.start) (content.length - column)
    "TOML parse error at line " ++ number ++ ", column " ++ toString (column + 1) ++ "\n" ++
      gutter ++ "|\n" ++
      number ++ " | " ++ textOf content ++ "\n" ++
      gutter ++ "|" ++ String.ofList (List.replicate (column + 1) ' ') ++
      String.ofList (List.replicate (max marks 1) '^') ++ "\n" ++
      f.message ++ "\n"

end Typeahead.Toml
