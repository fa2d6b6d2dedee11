-- A phrase model: a table from source phrases to target phrases, read
-- from a folder holding a JSON manifest and a tab-separated table. Phrases
-- are lists of words; a source word is lowered when the manifest asks for
-- it, and a later row for the same phrase replaces the earlier one.
import Typeahead.Files
import Typeahead.Json.Decode
import Typeahead.Text.Case
import Typeahead.Text.Lines
import Typeahead.Text.Blank

namespace Typeahead.Lexicon

/-- The files a model folder must hold, in the order they are checked. -/
def requiredFiles : List String := ["config.json", "lexicon.tsv"]

/-- What the manifest of a model says. -/
structure Manifest where
  source : String
  target : String
  joiner : String
  lowercase : Bool
  deriving Repr

/-- The shape of a manifest: the two languages, then the joiner (a space
when absent) and whether to lower words (yes when absent). -/
def manifestShape : Json.Shape :=
  .record "Manifest" [("source_language", .text, false), ("target_language", .text, false),
    ("joiner", .text, true), ("lowercase", .flag, true)]

/-- The manifest a read value holds. -/
def Manifest.ofValue (v : Json.Value) : Manifest :=
  { source := ((v.field? "source_language").bind Json.Value.text?).getD ""
    target := ((v.field? "target_language").bind Json.Value.text?).getD ""
    joiner := ((v.field? "joiner").bind Json.Value.text?).getD " "
    lowercase := ((v.field? "lowercase").bind Json.Value.flag?).getD true }

/-- A loaded model. -/
structure Model where
  name : String
  joiner : String
  lowercase : Bool
  /-- Source phrase to target phrase; no phrase appears twice. -/
  phrases : List (List String × List String)
  /-- The most words of a source phrase. -/
  maxLen : Nat
  deriving Repr, DecidableEq

/-- A word as phrases are keyed: lowered when the model lowers. -/
def normalize (lowercase : Bool) (w : String) : String :=
  if lowercase then Text.lowerString w else w

/-- The table with a row added; a row for the same phrase is replaced. -/
def insertPhrase (ps : List (List String × List String)) (k v : List String) :
    List (List String × List String) :=
  ps.filter (fun e => e.1 != k) ++ [(k, v)]

/-- The target of a source phrase. -/
def Model.lookup (m : Model) (k : List String) : Option (List String) :=
  (m.phrases.find? (fun e => e.1 == k)).map (·.2)

/-- What a line of the table is: skipped, a row, or malformed. -/
inductive Row where
  | skip
  | entry (key value : List String)
  | malformed

/-- Reads one line: a blank line or a `#` line is skipped, and a row has a
tab between its source and its target; the first tab splits. -/
def readRow (lowercase : Bool) (line : String) : Row :=
  let t := Text.trim line.toList
  if t.isEmpty || t.head? = some '#' then .skip
  else
    match t.splitOn '\t' with
    | src :: rest@(_ :: _) =>
      let tgt := ['\t'].intercalate rest
      let key := (Text.words src).map (fun w => normalize lowercase (String.ofList w))
      let value := (Text.words tgt).map String.ofList
      if key.isEmpty || value.isEmpty then .skip else .entry key value
    | _ => .malformed

/-- Builds the table from its text. -/
def ofTable (man : Manifest) (table : String) : Except Error Model := do
  let lines := Text.lines table.toList
  let step (acc : List (List String × List String) × Nat) (il : Nat × List Char) :
      Except Error (List (List String × List String) × Nat) :=
    match readRow man.lowercase (String.ofList il.2) with
    | .skip => pure acc
    | .entry k v => pure (insertPhrase acc.1 k v, max acc.2 k.length)
    | .malformed => throw (.modelAssets ("lexicon.tsv line " ++ toString (il.1 + 1) ++
        ": expected source<TAB>target"))
  let (phrases, maxLen) ← (lines.zipIdx.map (fun (l, i) => (i, l))).foldlM step ([], 0)
  if phrases.isEmpty then throw (.modelAssets "lexicon.tsv has no entries")
  pure { name := man.source ++ "-" ++ man.target, joiner := man.joiner,
         lowercase := man.lowercase, phrases, maxLen }

/-- Joins a folder path and a file name. -/
def within (dir file : String) : String := if dir.endsWith "/" then dir ++ file else dir ++ "/" ++ file

/-- Loads the model in a folder: the folder must exist, both files must be
there, the manifest must read, and so must the table. -/
def load (fs : Files) (dir : String) : Except Error Model := do
  if !fs.isFolder dir then throw (.modelAssets ("model directory not found: " ++ dir))
  let missing := requiredFiles.filter (fun f => !fs.isFile (within dir f))
  if !missing.isEmpty then
    throw (.modelAssets (dir ++ " is missing files: " ++ ", ".intercalate missing))
  let manText ← fs.readText (within dir "config.json")
  let man ← match Json.read manifestShape manText.toUTF8.toList with
    | .ok v => pure (Manifest.ofValue v)
    | .error f => throw (.json f.message)
  let table ← fs.readText (within dir "lexicon.tsv")
  ofTable man table

end Typeahead.Lexicon
