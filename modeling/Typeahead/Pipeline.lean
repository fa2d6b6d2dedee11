-- The local backend: two step models in a row, from the source language to
-- English and from English to the target. A step model emits its output one
-- token at a time and calls back after each token; a callback that says stop
-- ends it at once, with no output. A lookup reads its cancellation token
-- first, then in every callback of every stage, and once more when the
-- stages are done; the callbacks say stop once the token is cancelled. A
-- token found cancelled at the first or the last read makes the lookup
-- cancelled, and an output with no words is no translation. The stages run
-- as one blocking job: a stage that panics ends the job, and awaiting it
-- gives a join error, which fails the lookup before the final check.
import Typeahead.Lexicon.Generate
import Typeahead.Lookup.Outcome

namespace Typeahead

/-- How a step model's generation ends when no callback stops it: it returns
an output, no output, or an error; or it panics, and awaiting the job the
stages run in then gives a join error whose text is `joinText`. -/
inductive StageEnd where
  | returns (r : Except Error (Option String))
  | panics (joinText : String)

/-- What a step model does with one text when no callback stops it: it emits
`steps` tokens, calling back after each with the count so far, and then ends
as `result` says. A panic after some tokens is a run of those tokens that
ends in a panic. -/
structure StepRun where
  steps : Nat
  result : StageEnd

/-- The step numbers of the first `n` callbacks. -/
def stepNumbers (n : Nat) : List Nat := (List.range n).map (· + 1)

/-- A step model's generation under a callback: the step numbers it calls
back with, and what it returns. It stops at the first step the callback
stops, with no output. -/
def StepRun.under (r : StepRun) (stop : Nat → Bool) : List Nat × StageEnd :=
  match (stepNumbers r.steps).find? stop with
  | some k => (stepNumbers k, .returns (.ok none))
  | none => (stepNumbers r.steps, r.result)

/-- A model that turns a text into a text one token at a time. Its contract
is that it calls back after every token it emits and stops, with no output,
at the first callback that says stop; so what it does under any callback
follows from its run when nothing stops it. -/
structure StepModel where
  name : String
  run : String → StepRun

instance : Repr StepModel := ⟨fun s _ => repr s.name⟩

/-- A phrase model as a step model: each output word is a step, and the
output joins them. -/
def Lexicon.Model.toStep (m : Lexicon.Model) : StepModel :=
  ⟨m.name, fun text =>
    ⟨(m.outputWords text).length, .returns (.ok (some (m.joiner.intercalate (m.outputWords text))))⟩⟩

/-- A cancellation token as one lookup's reads of it find it. The reads are
numbered from 0 in the order they are made; from the first that finds the
token cancelled, if any, every later read finds it cancelled too. -/
structure Token where
  firstCancelled : Option Nat
  deriving Repr, DecidableEq

namespace Token

/-- Whether read `i` finds the token cancelled. -/
def seen (t : Token) (i : Nat) : Bool := t.firstCancelled.any (· ≤ i)

/-- A token cancelled before the lookup, or never. -/
def ofFlag (cancelled : Bool) : Token := ⟨if cancelled then some 0 else none⟩

end Token

/-- Two step models used one after the other. -/
structure Pipeline where
  toEnglish : StepModel
  fromEnglish : StepModel
  deriving Repr

namespace Pipeline

/-- The name the local backend goes by. -/
def name : String := "local"

/-- Loads both models, the first one first. -/
def load (fs : Files) (toEnglish fromEnglish : String) : Except Error Pipeline := do
  let a ← Lexicon.load fs toEnglish
  let b ← Lexicon.load fs fromEnglish
  pure ⟨a.toStep, b.toStep⟩

/-- The stages in the order they run. -/
def stages (p : Pipeline) : List StepModel := [p.toEnglish, p.fromEnglish]

/-- Runs the stages in turn, each on the text the one before gave, with
callbacks that say stop once they find the token cancelled; `last` numbers
the last read made before. Gives how the stages ended, the step numbers of
each stage invoked, and the number of the last read made. A stage that
stops, fails or panics ends the run. -/
def runStages (tok : Token) : List StepModel → String → Nat →
    StageEnd × List (List Nat) × Nat
  | [], text, last => (.returns (.ok (some text)), [], last)
  | s :: rest, text, last =>
    let (steps, e) := (s.run text).under (fun k => tok.seen (last + k))
    match e with
    | .returns (.ok (some next)) =>
      let (e', more, last') := runStages tok rest next (last + steps.length)
      (e', steps :: more, last')
    | e => (e, [steps], last + steps.length)

/-- The outcome of what the stages return, with the token live at the end:
the output, unless it has no words; no output is a cancelled lookup; an
error fails for the reason it gives. -/
def outcomeOf : Except Error (Option String) → Outcome
  | .ok (some out) => if (Text.trim out.toList).isEmpty then .failure .notFound else .success out
  | .ok none => .cancelled
  | .error e => .failure (FailureReason.ofError e)

/-- What one lookup did: its outcome, the step numbers of each stage it
invoked, in order, and the number of its last read of the token. -/
structure Call where
  outcome : Outcome
  stages : List (List Nat)
  lastRead : Nat
  deriving Repr, DecidableEq

/-- The outcome of how the stages ended, with the token live at the end: a
panic fails for the join error's text; otherwise `outcomeOf` what they
returned. -/
def endOutcome : StageEnd → Outcome
  | .panics joinText => .failure (.modelRuntime joinText)
  | .returns r => outcomeOf r

/-- A lookup with the token `tok`: read 0 is the check at the start, the
stages' callbacks come next, and the read after them is the final check. A
stage that panics fails the lookup as the job is awaited, before that
check, so the last read is then the last callback. -/
def lookup (p : Pipeline) (text : String) (tok : Token) : Call :=
  if tok.seen 0 then ⟨.cancelled, [], 0⟩
  else
    let (e, steps, last) := runStages tok p.stages text 0
    match e with
    | .panics joinText => ⟨.failure (.modelRuntime joinText), steps, last⟩
    | .returns r => ⟨if tok.seen (last + 1) then .cancelled else outcomeOf r, steps, last + 1⟩

/-- The outcome of a lookup whose token is cancelled before it, or never. -/
def translate (p : Pipeline) (text : String) (cancelled : Bool) : Outcome :=
  (p.lookup text (Token.ofFlag cancelled)).outcome

end Pipeline

end Typeahead
