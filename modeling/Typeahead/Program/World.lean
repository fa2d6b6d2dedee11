-- The world the program runs in: its files, with the working folder at the
-- home folder, its environment variables, which also tell whether its
-- output is coloured, and the dictionary service its requests reach. The
-- program reads its configuration and models from folders under the home
-- folder, and can start a few helper programs.
import Typeahead.Files
import Typeahead.Remote.Dictionary

namespace Typeahead.Program

/-- Where the program runs. -/
structure World where
  files : Files
  /-- The absolute path of the home folder, which is also the working folder. -/
  home : String
  env : List (String × String)
  /-- What replies to the requests of a remote backend. -/
  network : Remote.Service

/-- One item of standard input, as it comes in time. -/
inductive Feed where
  /-- A line of text, ended by a newline. -/
  | line (text : String)
  /-- A quiet spell of some milliseconds. -/
  | pause (ms : Nat)
  /-- An interrupt from the keyboard. -/
  | interrupt
  deriving Repr, DecidableEq

/-- The input as the program reads it: text cut into lines at each newline,
a carriage return before a newline dropped. -/
def Feed.lines (feed : List Feed) : List Feed :=
  feed.flatMap (fun f =>
    match f with
    | .line text => (text.splitOn "\n").map (fun l =>
        Feed.line (if l.endsWith "\r" then String.ofList (l.toList.dropLast) else l))
    | other => [other])

/-- Pauses and interrupts pass through line cutting as they are. -/
theorem Feed.lines_pause (ms : Nat) : Feed.lines [.pause ms] = [.pause ms] := rfl

/-- What a run leaves behind. -/
structure Transcript where
  exit : Nat
  out : String
  err : String
  /-- The log lines written to standard error. -/
  logLines : List String
  files : Files

namespace World

/-- The value of an environment variable, the last setting winning. -/
def var? (w : World) (name : String) : Option String :=
  (w.env.reverse.find? (·.1 == name)).map (·.2)

/-- Whether the program's own output is coloured: its output is no
terminal, so only a `CLICOLOR_FORCE` other than `0` turns colours on. -/
def color (w : World) : Bool :=
  match w.var? "CLICOLOR_FORCE" with
  | some v => v != "0"
  | none => false

/-- Whether the command line's messages are coloured: as for the output,
except that a non-empty `NO_COLOR` turns colours off first. -/
def commandColor (w : World) : Bool :=
  match w.var? "NO_COLOR" with
  | some v => v.isEmpty && w.color
  | none => w.color

/-- A base folder named by a variable if it holds an absolute path, else a
folder under home. -/
def baseFolder (w : World) (name fallback : String) : String :=
  match w.var? name with
  | some p => if p.startsWith "/" then p else w.home ++ "/" ++ fallback
  | none => w.home ++ "/" ++ fallback

/-- The folder of the configuration. -/
def configFolder (w : World) : String := w.baseFolder "XDG_CONFIG_HOME" ".config" ++ "/tt"

/-- The path of the configuration file. -/
def configPath (w : World) : String := w.configFolder ++ "/config.toml"

/-- The folder the default configuration reads models from. -/
def modelsFolder (w : World) : String := w.baseFolder "XDG_DATA_HOME" ".local/share" ++ "/tt/models"

end World

/-- How a helper program behaves: what it prints for its arguments and its exit status. -/
structure Helper where
  run : Files → List String → String × String × Nat

/-- The last part of a path. -/
def baseName (path : String) : String := (path.splitOn "/").getLast?.getD path

/-- The message of a file tool about a path that holds no file. -/
def toolFault (tool path : String) (fs : Files) : String :=
  if fs.isFolder path then tool ++ ": " ++ path ++ ": Is a directory\n"
  else tool ++ ": " ++ path ++ ": No such file or directory\n"

/-- The helper programs the world has: printing files, echoing, and the
programs that only succeed or fail. A name with a folder must name one of
the system folders of programs. -/
def helper? (program : String) : Option Helper :=
  let name := if program.toList.contains '/' then
      (if program = "/bin/" ++ baseName program || program = "/usr/bin/" ++ baseName program
       then baseName program else "")
    else program
  match name with
  | "true" => some ⟨fun _ _ => ("", "", 0)⟩
  | "false" => some ⟨fun _ _ => ("", "", 1)⟩
  | "echo" => some ⟨fun _ args => (" ".intercalate args ++ "\n", "", 0)⟩
  | "cat" => some ⟨fun fs args =>
      args.foldl (fun (out, err, code) a =>
        match fs.node? a with
        | some (.file bs) => (out ++ Text.lossyString bs, err, code)
        | _ => (out, err ++ toolFault "cat" a fs, 1)) ("", "", 0)⟩
  | _ => none

end Typeahead.Program
