-- The whole program, from its command line to its exit. It reads the
-- command line, then the configuration (a file that does not read gives a
-- warning and the defaults), applies the options over it, and sets up the
-- log. Then it does one thing: writes a sample configuration, opens the
-- configuration in the editor, shows its status, types a text, or reads
-- lines until the input ends. Failures before the controller starts stop
-- the program with status 1; a bad command line stops it with status 2.
import Typeahead.Command.Report
import Typeahead.Config.Read
import Typeahead.Config.Sample
import Typeahead.Setup
import Typeahead.Log.Filter
import Typeahead.Program.Console

namespace Typeahead.Program

open Terminal

/-- Where the log goes once it is set up. -/
inductive LogTarget where
  | off
  | stderr (f : LogFilter)
  | file (path : String) (f : LogFilter)

/-- What the program has written before its controller runs. -/
structure Early where
  out : String
  err : String
  files : Files
  log : List LogRecord
  target : LogTarget

namespace Early

/-- The transcript of a run that ends here with a status. -/
def finish (e : Early) (code : Nat) : Transcript :=
  let lines := fun (f : LogFilter) => (e.log.filter f.allows).map LogRecord.line
  match e.target with
  | .off => ⟨code, e.out, e.err, [], e.files⟩
  | .stderr f => ⟨code, e.out, e.err, lines f, e.files⟩
  | .file path f =>
    let text := String.join ((lines f).map (· ++ "\n"))
    ⟨code, e.out, e.err, [], e.files.append path text.toUTF8.toList⟩

/-- The transcript of a run stopped by a failure. -/
def fail (e : Early) (message : String) : Transcript :=
  ({ e with err := e.err ++ "Error: " ++ message ++ "\n" }).finish 1

end Early

/-- The message of a failed file operation, with its cause below it. -/
def ioFailure (why : String) : String := "IO error: " ++ why ++ "\n\nCaused by:\n    " ++ why

/-- Reads the configuration file: the configuration and a warning, or the
failure that stops the program. A missing file gives the defaults. -/
def loadConfig (w : World) : Except String (Config × String) :=
  let modelsDir := w.modelsFolder
  match w.files.node? w.configPath with
  | none => .ok (Config.default modelsDir, "")
  | some .folder => .error (ioFailure Files.isAFolder)
  | some (.file bytes) =>
    match Text.decode? bytes with
    | none => .error (ioFailure "stream did not contain valid UTF-8")
    | some cs =>
      match Config.read modelsDir (String.ofList cs) with
      | .ok c => .ok (c, "")
      | .error t => .ok (Config.default modelsDir,
          "Warning: Failed to parse config file: " ++ (Error.toml t).message ++ ". Using defaults.\n")

/-- The configuration with the command line's choices over it. -/
def overridden (c : Config) (o : Command.Options) : Config :=
  { c with
    backend := match o.backend with
      | some k => { c.backend with kind := k }
      | none => c.backend
    debounceMs := o.debounceMs.getD c.debounceMs
    minQueryChars := match o.minChars with
      | some n => some n
      | none => c.minQueryChars }

/-- Sets up the log: off, to standard error, or appended to a file that is
made if missing. The filter comes from `RUST_LOG` when that reads, else
from the configured level. -/
def setUpLog (w : World) (fs : Files) (l : LogSettings) : Except String (LogTarget × Files) :=
  if !l.enable then .ok (.off, fs)
  else
    let f := ((w.var? "RUST_LOG").bind LogFilter.read?).getD (LogFilter.ofLevel (LogLevel.ofName l.level))
    match l.path with
    | some p =>
      if p.isEmpty then .ok (.stderr f, fs)
      else
        match fs.openFault? p with
        | some why => .error (ioFailure why)
        | none => .ok (.file p f, fs.append p [])
    | none => .ok (.stderr f, fs)

/-- Writes the sample configuration unless a file is already there. -/
def generate (w : World) (e : Early) : Transcript :=
  let path := w.configPath
  if e.files.exists? path then
    ({ e with err := e.err ++ "Config file already exists at: " ++ path ++ "\n" }).finish 0
  else
    let text := (Config.default w.modelsFolder).toToml
    ({ e with files := e.files.write path text.toUTF8.toList,
              out := e.out ++ "Generated config file at: " ++ path ++ "\n" }).finish 0

/-- Opens the configuration file in the editor `EDITOR` names, `vi` by default. -/
def edit (w : World) (e : Early) : Transcript :=
  match helper? ((w.var? "EDITOR").getD "vi") with
  | some h =>
    let (out, err, _) := h.run e.files [w.configPath]
    ({ e with out := e.out ++ out, err := e.err ++ err }).finish 0
  | none => e.fail Files.notFound

/-- The log record of loaded local models. -/
def loadedNote (b : Query.Backend) : List LogRecord :=
  match b.engine with
  | .phrases p => [⟨.info, .localModels, "local models loaded",
      [LogRecord.quoted "to_english" p.toEnglish.name, LogRecord.quoted "from_english" p.fromEnglish.name]⟩]
  | _ => []

/-- The status report. -/
def status (color : Bool) (c : Config) (path : String) (backend : Except Error Query.Backend) : String :=
  let backendLine := match backend with
    | .ok b => b.name
    | .error err => (Style.of .red []).paint color "unavailable" ++ " (" ++ err.message ++ ")"
  (Style.of .green [.bold]).paint color "tt Status" ++ "\n" ++
    String.ofList (List.replicate 40 '━') ++ "\n" ++
    "Backend: " ++ backendLine ++ "\n" ++
    "Config: " ++ path ++ "\n" ++
    "Debounce: " ++ toString c.debounceMs ++ " ms\n" ++
    "Min query length: " ++ toString c.minChars ++ "\n" ++
    "Cache: " ++ (if c.cache.enable then "enabled (" ++ toString c.cache.capacity ++ " entries max)"
      else "disabled") ++ "\n"

/-- Runs the controller: types the text the command line gives, or reads
the input lines, then closes the controller. -/
def interactive (w : World) (o : Command.Options) (c : Config) (e : Early)
    (backend : Except Error Query.Backend) (feed : List Feed) : Transcript :=
  let name := o.theme.getD c.theme
  let e := match Theme.named? name with
    | some _ => e
    | none => { e with err := e.err ++ (Style.of .red []).paint w.color (Theme.unknownWarning name) ++ "\n" }
  let look : Look := ⟨Theme.ofName name, w.color, c.enableEmoji⟩
  let session := Query.Session.start c.settings (backend.mapError (·.message))
  let console := Console.start session look []
  let console := match o.typeText with
    | some text => console.typeOut text o.intervalMs
    | none =>
      let console := console.say ((Style.of .brightBlack []).paint w.color Console.prompt ++ "\n")
      console.interact e.files c.browser "" (Feed.lines feed)
  let console := console.shutdown
  ({ e with out := e.out ++ console.out, err := e.err ++ console.err, log := e.log ++ console.log }).finish 0

/-- Runs the program with its command line (without the program's name)
and its input. -/
def run (w : World) (args : List String) (feed : List Feed) : Transcript :=
  match Command.Options.parse args with
  | .error f =>
    let text := f.render w.commandColor
    if f.isInfo then ⟨0, text, "", [], w.files⟩ else ⟨2, "", text, [], w.files⟩
  | .ok o =>
    let e : Early := ⟨"", "", w.files, [], .off⟩
    match loadConfig w with
    | .error why => e.fail why
    | .ok (c, warning) =>
      let e := { e with err := warning }
      let c := overridden c o
      match setUpLog w e.files c.logging with
      | .error why => e.fail why
      | .ok (target, files) =>
        let e := { e with files := files, target := target }
        if o.generateConfig then generate w e
        else if o.editConfig then edit w e
        else
          match Setup.client c with
          | .error err => e.fail err.message
          | .ok () =>
            let backend := Setup.backend e.files w.network c
            let e := { e with log := e.log ++ ((backend.toOption.map loadedNote).getD []) }
            if o.status then
              ({ e with out := e.out ++ status w.color c w.configPath backend }).finish 0
            else interactive w o c e backend feed

/-- The paths a run may read or write besides the configuration file: the
two model folders the configuration names and the log file. -/
def touched (w : World) (args : List String) : List String :=
  match Command.Options.parse args, loadConfig w with
  | .ok o, .ok (c, _) =>
    let c := overridden c o
    [c.backend.localPaths.sourceToEnglish, c.backend.localPaths.englishToTarget] ++
      (c.logging.path.filter (!·.isEmpty)).toList
  | _, _ => []

end Typeahead.Program
