-- What the command line prints when it is not read through: the help, the
-- version, and the text of each fault, with the usage line built from the
-- options met before it. A text is a list of marked pieces; on a colour
-- terminal each marked piece is wrapped in its escape codes and a reset,
-- and otherwise the marks are dropped.
import Typeahead.Command.Options

namespace Typeahead.Command

/-- How a piece of a message stands out on a colour terminal. -/
inductive Mark where
  | plain
  /-- The `error:` label: bold red. -/
  | error
  /-- What was given and not accepted: yellow. -/
  | invalid
  /-- Option names and the program's name: bold. -/
  | literal
  /-- Accepted values and tips: green. -/
  | valid
  /-- Section headings: bold and underlined. -/
  | heading
  deriving Repr, DecidableEq

/-- The escape codes that start a mark. -/
def Mark.codes : Mark → String
  | .plain => ""
  | .error => "\x1b[1m\x1b[31m"
  | .invalid => "\x1b[33m"
  | .literal => "\x1b[1m"
  | .valid => "\x1b[32m"
  | .heading => "\x1b[1m\x1b[4m"

/-- A piece of text and its mark. -/
abbrev Piece := Mark × String

/-- A plain piece. -/
def plain (t : String) : Piece := (.plain, t)

/-- Writes pieces, with their codes when colours are on. -/
def renderPieces (color : Bool) (ps : List Piece) : String :=
  String.join (ps.map fun (m, t) =>
    if color && m != .plain then m.codes ++ t ++ "\x1b[0m" else t)

/-- The program's name as the command line shows it. -/
def programName : String := "tt"

/-- The version line. -/
def versionText : String := programName ++ " 0.1.0\n"

/-- The value part of an option, after its name. -/
def Spec.valuePart (s : Spec) : String := (s.value.map (fun v => " <" ++ v ++ ">")).getD ""

/-- The left column of an option in the help: its short and long forms and its value. -/
def Spec.column (s : Spec) : List Piece :=
  (match s.short with
   | some c => [plain "  ", (.literal, "-" ++ c.toString), plain ", "]
   | none => [plain "      "]) ++ [(.literal, "--" ++ s.long), plain s.valuePart]

/-- The width of pieces without their codes. -/
def width (ps : List Piece) : Nat := ps.foldl (fun n p => n + p.2.length) 0

/-- The right column of an option in the help: what it does, its values and default. -/
def Spec.describe (s : Spec) : String :=
  let extra := (if s.choices.isEmpty then [] else
      ["[possible values: " ++ ", ".intercalate s.choices ++ "]"]) ++
    (s.default.map (fun d => "[default: " ++ d ++ "]")).toList
  " ".intercalate (s.about :: extra)

/-- The usage line: the options met so far, or a placeholder for all. -/
def usage (given : List Key) : List Piece :=
  [(.heading, "Usage:"), plain " ", (.literal, programName)] ++
    (if given.isEmpty then [plain " [OPTIONS]"]
     else given.flatMap (fun k =>
       let s := specOf k
       [plain " ", (.literal, "--" ++ s.long), plain s.valuePart]))

/-- The help: the summary, the usage, and one line an option with the
descriptions in one column two spaces past the widest left column. -/
def helpPieces : List Piece :=
  let widest := (specs.map (fun s => width s.column)).foldl max 0
  let line (s : Spec) := s.column ++
    [plain (String.ofList (List.replicate (widest + 2 - width s.column) ' ') ++ s.describe ++ "\n")]
  [plain "Translate as you type.\n\n"] ++ usage [] ++
    [plain "\n\n", (.heading, "Options:"), plain "\n"] ++ specs.flatMap line

/-- The similar value among the accepted ones, if one is. -/
def similarTip (value : String) (choices : List String) : List Piece :=
  match mostSimilar value choices with
  | some v => [plain "\n\n  ", (.valid, "tip:"), plain " a similar value exists: '", (.valid, v), plain "'"]
  | none => []

/-- The accepted values of an option, if it has a short list of them. -/
def choicesList (choices : List String) : List Piece :=
  if choices.isEmpty then []
  else [plain "\n  [possible values: "] ++
    ((choices.map (fun c => [(.valid, c)])).intersperse [plain ", "]).flatten ++ [plain "]"]

/-- The pieces of a fault's message, between the label and the pointer to the help. -/
def Fault.body : Fault → List Piece
  | .invalidValue arg value choices =>
    (if value.isEmpty then
       [plain "a value is required for '", (.literal, arg), plain "' but none was supplied"]
     else [plain "invalid value '", (.invalid, value), plain "' for '", (.literal, arg), plain "'"]) ++
    choicesList choices ++ similarTip value choices
  | .badNumber arg value why =>
    [plain "invalid value '", (.invalid, value), plain "' for '", (.literal, arg), plain ("': " ++ why)]
  | .repeated arg =>
    [plain "the argument '", (.invalid, arg), plain "' cannot be used multiple times\n\n"] ++ usage []
  | .unknown arg similar given =>
    [plain "unexpected argument '", (.invalid, arg), plain "' found"] ++
    ((similar.map (fun s =>
      [plain "\n\n  ", (.valid, "tip:"), plain " a similar argument exists: '", (.valid, s), plain "'"])).getD []) ++
    [plain "\n\n"] ++ usage given
  | .unexpectedValue arg value given =>
    [plain "unexpected value '", (.invalid, value), plain "' for '", (.literal, arg),
      plain "' found; no more were expected\n\n"] ++ usage given
  | .help | .version => []

/-- The full text of a fault as printed, ending in a newline. -/
def Fault.render (color : Bool) : Fault → String
  | .help => renderPieces color helpPieces
  | .version => versionText
  | f => renderPieces color ([(.error, "error:"), plain " "] ++ f.body ++
      [plain "\n\nFor more information, try '", (.literal, "--help"), plain "'.\n"])

/-- The plain text of a fault. -/
def Fault.text (f : Fault) : String := f.render false

/-- Whether a fault is a request for the help or the version, printed to
standard output with success, rather than a fault. -/
def Fault.isInfo : Fault → Bool
  | .help | .version => true
  | _ => false

/-- The name of a fault's kind. -/
def Fault.kind : Fault → String
  | .invalidValue .. => "InvalidValue"
  | .badNumber .. => "ValueValidation"
  | .repeated .. => "ArgumentConflict"
  | .unknown .. => "UnknownArgument"
  | .unexpectedValue .. => "TooManyValues"
  | .help => "DisplayHelp"
  | .version => "DisplayVersion"

end Typeahead.Command
