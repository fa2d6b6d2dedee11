-- A tree of files as the program sees it: each absolute path, as a list of
-- names, holds a file with its bytes or a folder. A path written relative
-- is read from the working folder; `.` names the folder it is in and `..`
-- the folder above.
import Typeahead.Error
import Typeahead.Text.Utf8

namespace Typeahead

/-- What stands at a path. -/
inductive Node where
  | file (bytes : List UInt8)
  | folder
  deriving Repr, DecidableEq

/-- The files the program can reach, and the folder it works in. -/
structure Files where
  nodes : List (List String × Node)
  cwd : List String
  deriving Repr

namespace Files

/-- The names of a written path, `.` and empty names dropped and `..` going up. -/
def walk (start : List String) (names : List String) : List String :=
  (names.foldl (fun acc n =>
    if n = "" || n = "." then acc
    else if n = ".." then acc.drop 1
    else n :: acc) start.reverse).reverse

/-- The absolute names of a written path. -/
def resolve (fs : Files) (path : String) : List String :=
  let names := path.splitOn "/"
  if path.startsWith "/" then walk [] names else walk fs.cwd names

/-- What stands at a path: the last entry for it wins. -/
def node? (fs : Files) (path : String) : Option Node :=
  let p := fs.resolve path
  if p = [] then some .folder
  else (fs.nodes.reverse.find? (fun e => e.1 = p)).map (·.2)

/-- Whether a folder stands at the path. -/
def isFolder (fs : Files) (path : String) : Bool := fs.node? path = some .folder

/-- Whether a file stands at the path. -/
def isFile (fs : Files) (path : String) : Bool :=
  match fs.node? path with
  | some (.file _) => true
  | _ => false

/-- Whether anything stands at the path. -/
def exists? (fs : Files) (path : String) : Bool := (fs.node? path).isSome

/-- The failure of reading a path that holds no file. -/
def notFound : String := "No such file or directory (os error 2)"
def isAFolder : String := "Is a directory (os error 21)"

/-- The bytes of a file. -/
def readBytes (fs : Files) (path : String) : Except Error (List UInt8) :=
  match fs.node? path with
  | some (.file bs) => .ok bs
  | some .folder => .error (.io isAFolder)
  | none => .error (.io notFound)

/-- The text of a file, which must be well-formed UTF-8. -/
def readText (fs : Files) (path : String) : Except Error String := do
  let bs ← fs.readBytes path
  match Text.decode? bs with
  | some cs => pure (String.ofList cs)
  | none => throw (.io "stream did not contain valid UTF-8")

/-- The tree with a file written at a path, its folders made as needed. -/
def write (fs : Files) (path : String) (bytes : List UInt8) : Files :=
  let p := fs.resolve path
  let folders := (List.range p.length).filterMap (fun k =>
    if k = 0 then none else some (p.take k))
  let missing := folders.filter (fun q => !(fs.nodes.any (fun e => e.1 = q)))
  { fs with nodes := fs.nodes ++ missing.map (·, Node.folder) ++ [(p, .file bytes)] }

/-- The failure of reaching a folder through a file. -/
def notAFolder : String := "Not a directory (os error 20)"

/-- Why a file cannot be opened at a path to be written, if it cannot:
every folder above it must exist, and the path must not be a folder. -/
def openFault? (fs : Files) (path : String) : Option String :=
  let p := fs.resolve path
  let above := (List.range p.length).filterMap (fun k => if k = 0 then none else some (p.take k))
  let blocked := above.findSome? (fun q =>
    match ((fs.nodes.reverse.find? (fun e => e.1 = q)).map (·.2) : Option Node) with
    | some Node.folder => none
    | some (Node.file _) => some notAFolder
    | none => some notFound)
  match blocked with
  | some why => some why
  | none => if p = [] || fs.isFolder path then some isAFolder else none

/-- The tree with bytes added at the end of the file at a path, which is
made empty first if it is missing. -/
def append (fs : Files) (path : String) (bytes : List UInt8) : Files :=
  let old := match fs.node? path with
    | some (.file bs) => bs
    | _ => []
  fs.write path (old ++ bytes)

end Files

end Typeahead
