-- The program's command line. It reads the files a run can reach into a
-- file tree, runs the program on its arguments and on the lines of
-- standard input, prints what the run wrote, and writes back the files the
-- run changed. It reaches no network: a remote backend gets no reply.
import Typeahead.Program.Run

open Typeahead Typeahead.Program

/-- What stands at a path on disk: a file with its bytes, a folder (a path
that cannot be read as a file), or nothing. -/
def probe (path : String) : IO (Option Node) := do
  try
    let bytes ← IO.FS.readBinFile path
    return some (.file bytes.toList)
  catch e =>
    match e with
    | .noFileOrDirectory .. => return none
    | _ => return some .folder

/-- The path of a list of names. -/
def pathOf (names : List String) : String := "/" ++ "/".intercalate names

/-- The entries of a path and of the folders above it, as found on disk. -/
def entriesAt (fs : Files) (path : String) : IO (List (List String × Node)) := do
  let names := fs.resolve path
  let mut out := []
  for k in List.range names.length do
    let q := names.take (k + 1)
    match ← probe (pathOf q) with
    | some n => out := out ++ [(q, n)]
    | none => pure ()
  return out

/-- Reads the standard input to its end, one line an item. -/
partial def readFeed (stdin : IO.FS.Stream) (acc : Array Feed) : IO (Array Feed) := do
  let line ← stdin.getLine
  if line.isEmpty then return acc
  let text := if line.endsWith "\n" then String.ofList line.toList.dropLast else line
  readFeed stdin (acc.push (.line text))

/-- Writes a file back if the run left it different. -/
def writeBack (before after : Files) (path : String) : IO Unit := do
  match after.node? path with
  | some (.file bs) =>
    if before.node? path != some (.file bs) then
      let names := after.resolve path
      IO.FS.createDirAll (pathOf names.dropLast)
      IO.FS.writeBinFile (pathOf names) (ByteArray.mk bs.toArray)
  | _ => pure ()

def main (args : List String) : IO UInt32 := do
  let home := (← IO.getEnv "HOME").getD "/"
  let cwd := (← IO.getEnv "PWD").getD home
  let mut env := []
  for name in ["XDG_CONFIG_HOME", "XDG_DATA_HOME", "EDITOR", "RUST_LOG", "CLICOLOR_FORCE", "NO_COLOR"] do
    if let some v ← IO.getEnv name then env := env ++ [(name, v)]
  let empty : Files := ⟨[], (cwd.splitOn "/").filter (· ≠ "")⟩
  let w0 : World := ⟨empty, home, env, .silent⟩
  let config ← entriesAt empty w0.configPath
  let w1 := { w0 with files := { empty with nodes := config } }
  let mut nodes := config
  for p in touched w1 args do
    nodes := nodes ++ (← entriesAt empty p)
    for name in ["config.json", "lexicon.tsv"] do
      nodes := nodes ++ (← entriesAt empty (p ++ "/" ++ name))
  let w := { w0 with files := { empty with nodes := nodes } }
  let feed ← readFeed (← IO.getStdin) #[]
  let t := run w args feed.toList
  let stdout ← IO.getStdout
  stdout.putStr t.out
  stdout.flush
  let stderr ← IO.getStderr
  stderr.putStr t.err
  for l in t.logLines do
    stderr.putStrLn l
  stderr.flush
  for p in w.configPath :: touched w args do
    writeBack w.files t.files p
  return t.exit.toUInt32
