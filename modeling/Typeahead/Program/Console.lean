-- The program at its terminal: a controller session, the result list the
-- terminal shows, and what has been written so far. Every action of the
-- session is followed by showing what it did: the loading line when a
-- lookup starts after none was running, and the whole result list on each
-- notice. Time is virtual; waiting for the lookups to end moves the clock in
-- steps of fifty milliseconds, as long as loading lasts and at most for the
-- quiet period and fifteen seconds more.
import Typeahead.Query.Session
import Typeahead.Terminal.Render
import Typeahead.Program.World
import Typeahead.Opener

namespace Typeahead.Program

open Terminal

/-- A running program's terminal and session. -/
structure Console where
  session : Query.Session
  look : Look
  /-- The items last handed to the terminal, and whether it shows loading. -/
  items : List Item
  loading : Bool
  out : String
  err : String
  /-- Every log record made, before any filter. -/
  log : List LogRecord

namespace Console

/-- How the terminal takes one call of the controller. -/
def display (c : Console) : Query.SinkCall → Console
  | .setResults items => { c with items := items }
  | .setLoading on =>
    let c := if on && !c.loading then { c with out := c.out ++ c.look.loadingLine } else c
    { c with loading := on }
  | .notify => { c with out := c.out ++ c.look.render c.items }

/-- Shows what the session did since the last time and keeps its log records. -/
def drain (c : Console) : Console :=
  let s := c.session
  let c := s.sinkCalls.foldl display c
  { c with log := c.log ++ s.notes, session := s.clearRecord }

/-- A console over a session, with the session's first records kept. -/
def start (session : Query.Session) (look : Look) (log : List LogRecord) : Console :=
  drain ⟨session, look, [], false, "", "", log⟩

/-- Writes to standard output. -/
def say (c : Console) (text : String) : Console := { c with out := c.out ++ text }

/-- Writes to standard error. -/
def complain (c : Console) (text : String) : Console := { c with err := c.err ++ text }

/-- Adds a log record. -/
def note (c : Console) (r : LogRecord) : Console := { c with log := c.log ++ [r] }

/-- A change of the input. -/
def input (c : Console) (old new : String) : Console :=
  drain { c with session := c.session.input old new }

/-- Lets time pass. -/
def sleep (c : Console) (ms : Nat) : Console := drain { c with session := c.session.sleep ms }

/-- Closes the controller. -/
def shutdown (c : Console) : Console := drain { c with session := c.session.shutdown }

/-- How long waiting for the lookups lasts at most beyond the quiet period. -/
def settleTimeout : Nat := 15000

/-- The step of the clock while waiting. -/
def pollStep : Nat := 50

/-- The steps of the clock until `target`, at least one. -/
def stepsTo (now target : Nat) : Nat := max 1 ((target - now + pollStep - 1) / pollStep)

/-- Waits in steps while loading lasts and the deadline is not reached.
Each round moves the clock past the next task due, so a round ends a
task or the wait. -/
def waitUntil (c : Console) (deadline : Nat) (fuel : Nat) : Console :=
  match fuel with
  | 0 => c
  | fuel + 1 =>
    let s := c.session
    if !s.state.loading || s.now ≥ deadline then c
    else
      let due := s.tasks.foldl (fun (acc : Option Nat) t =>
        match t.due?, acc with
        | some d, some a => some (min d a)
        | some d, none => some d
        | none, _ => some s.now) none
      let target := min ((due.getD deadline)) deadline
      waitUntil (c.sleep (pollStep * stepsTo s.now target)) deadline fuel

/-- Waits for the lookups to end, as the program does before it stops. -/
def waitIdle (c : Console) : Console :=
  let s := c.session
  waitUntil c (s.now + s.settings.debounce + settleTimeout) (2 * s.tasks.length + 4)

/-- The mark before each typed prefix. -/
def typedLine (color : Bool) (text : String) : String :=
  (Style.of .cyan []).paint color "›" ++ " " ++ (Style.effectsOnly [.bold]).paint color text ++ "\n"

/-- Types a text one character at a time, waiting `interval` after each,
then waits for the lookups to end. -/
def typeOut (c : Console) (text : String) (interval : Nat) : Console :=
  let cs := text.toList
  let (c, _) := (List.range cs.length).foldl (fun (acc : Console × String) n =>
    let (c, previous) := acc
    let next := String.ofList (cs.take (n + 1))
    let c := (c.say (typedLine c.look.color next)).input previous next
    (c.sleep interval, next)) (c, "")
  c.waitIdle

/-- Reads an item number as a machine-word unsigned number. -/
def readIndex? (s : String) : Option Nat :=
  let ds := match s.toList with
    | '+' :: r => r
    | r => r
  if ds.isEmpty || !ds.all Char.isDigit then none
  else
    let v := ds.foldl (fun acc d => acc * 10 + (d.toNat - 48)) 0
    if v < Nat.pow 2 64 then some v else none

/-- The outcome of starting a program. -/
inductive Launch where
  | missing
  | exited (status : Nat)
  deriving Repr, DecidableEq

/-- Starts a program with its arguments, its output thrown away. -/
def launch (fs : Files) : List String → Launch
  | [] => .missing
  | p :: args =>
    match helper? p with
    | some h => .exited (h.run fs args).2.2
    | none => .missing

/-- Opens the item at a position with the browser, reporting what goes wrong. -/
def openAt (c : Console) (fs : Files) (browser : Option String) (i : Nat) : Console :=
  match actionAt c.items i with
  | none => c.complain ((Style.of .yellow []).paint c.look.color "Nothing to open" ++ "\n")
  | some (.openUrl url) =>
    let argv := openerArgv url browser
    let c := c.note ⟨.debug, .launcher, "opening url",
      [("argv", "[" ++ ", ".intercalate (argv.map Text.quote) ++ "]")]⟩
    match launch fs argv with
    | .missing => c.complain ((Style.of .red []).paint c.look.color
        "✘ Failed to open: IO error: No such file or directory (os error 2)" ++ "\n")
    | .exited 0 => c
    | .exited n => c.note ⟨.warn, .launcher, "url opener exited with failure",
        [("status", "exit status: " ++ toString n)]⟩

/-- Reports a word after `:open` that is not an item number. -/
def notNumber (c : Console) (arg : String) : Console :=
  c.complain ((Style.of .red []).paint c.look.color ("✘ Not an item number: " ++ arg) ++ "\n")

/-- The `:open` command with what follows it: no number means the first item. -/
def openItem (c : Console) (fs : Files) (browser : Option String) (arg : String) : Console :=
  if arg.isEmpty then c.openAt fs browser 0
  else
    match readIndex? arg with
    | some n => if n > 0 then c.openAt fs browser (n - 1) else c.notNumber arg
    | none => c.notNumber arg

/-- Drops every leading copy of a word. -/
def dropWord (word : List Char) (cs : List Char) (fuel : Nat) : List Char :=
  match fuel with
  | 0 => cs
  | fuel + 1 => if word.isPrefixOf cs && !word.isEmpty then dropWord word (cs.drop word.length) fuel else cs

/-- The prompt printed before reading lines. -/
def prompt : String := "Type text to translate (:open [N], :clear, :quit)"

/-- Takes the input items in order; `current` is the text last given. Each
line is a command or the new text; the end of input waits for the lookups,
and an interrupt stops at once. -/
def interact (c : Console) (fs : Files) (browser : Option String) (current : String) :
    List Feed → Console
  | [] => c.waitIdle
  | .pause ms :: rest => interact (c.sleep ms) fs browser current rest
  | .interrupt :: _ => c.complain "\nInterrupted, shutting down...\n"
  | .line l :: rest =>
    let command := Text.trimString l
    if command = ":quit" || command = ":q" then c
    else if command = ":clear" then interact (c.input current "") fs browser "" rest
    else if ":open".isPrefixOf command then
      let arg := Text.trimString (String.ofList (dropWord ":open".toList command.toList command.length))
      interact (c.openItem fs browser arg) fs browser current rest
    else interact (c.input current l) fs browser l rest

/-- A notice shows the whole result list the terminal holds. -/
theorem display_notify (c : Console) :
    (c.display .notify).out = c.out ++ c.look.render c.items := rfl

/-- Setting results writes nothing. -/
theorem display_setResults (c : Console) (items : List Item) :
    (c.display (.setResults items)).out = c.out := rfl

end Console

end Typeahead.Program
