-- Reading and writing URLs. A URL is a scheme, perhaps an authority (user
-- info, host and port), a path, a query and a fragment. The schemes `http`,
-- `https`, `ws`, `wss`, `ftp` and `file` are special: their host is a domain
-- or an address and their path is a list of segments, with `.` and `..`
-- resolved. Other schemes may have an opaque path. Characters that may not
-- stand in a part are percent-encoded when the URL is written.
import Typeahead.Url.Host

namespace Typeahead.Url

/-- The path of a URL: segments, or opaque text. -/
inductive Path where
  | segments (parts : List String)
  | plain (text : String)
  deriving Repr, DecidableEq

end Typeahead.Url

namespace Typeahead

/-- A URL. -/
structure Url where
  scheme : String
  username : String
  password : String
  host : Option Url.Host
  port : Option Nat
  path : Url.Path
  query : Option String
  fragment : Option String
  deriving Repr, DecidableEq

end Typeahead

namespace Typeahead.Url

/-- The default port of a special scheme. -/
def defaultPort : String → Option Nat
  | "http" | "ws" => some 80
  | "https" | "wss" => some 443
  | "ftp" => some 21
  | _ => none

/-- Whether a scheme is special. -/
def isSpecial (scheme : String) : Bool :=
  ["http", "https", "ws", "wss", "ftp", "file"].contains scheme

/-! ## Sets of characters written percent-encoded -/

/-- Characters written encoded in a fragment. -/
def inFragmentSet (c : Char) : Bool :=
  isControlOrWide c || c = ' ' || c = '"' || c = '<' || c = '>' || c = '`'

/-- Characters written encoded in a query. -/
def inQuerySet (c : Char) : Bool :=
  isControlOrWide c || c = ' ' || c = '"' || c = '#' || c = '<' || c = '>'

/-- Characters written encoded in the query of a special URL. -/
def inSpecialQuerySet (c : Char) : Bool := inQuerySet c || c = Char.ofNat 39

/-- Characters written encoded in a path segment. -/
def inPathSet (c : Char) : Bool :=
  inQuerySet c || c = '?' || c = '`' || c = '{' || c = '}'

/-- Characters written encoded in user info. -/
def inUserinfoSet (c : Char) : Bool :=
  inPathSet c || "/:;=@[\\]^|".toList.contains c

/-! ## Reading -/

/-- A character trimmed from both ends of the input: a control or a space. -/
def isEdgeBlank (c : Char) : Bool := c.toNat ≤ 32

/-- The input with blanks and controls trimmed from its ends and every tab
and line break removed. -/
def prepare (s : String) : List Char :=
  let cs := s.toList.dropWhile isEdgeBlank
  let cs := (cs.reverse.dropWhile isEdgeBlank).reverse
  cs.filter (fun c => c != '\t' && c != '\n' && c != '\r')

/-- The scheme, lower-cased, and what follows its colon. -/
def readScheme (cs : List Char) : Option (String × List Char) :=
  match cs with
  | c :: _ =>
    if !c.isAlpha then none
    else
      let name := cs.takeWhile (fun c => c.isAlphanum || c = '+' || c = '-' || c = '.')
      match cs.drop name.length with
      | ':' :: rest => some (String.ofList (name.map Char.toLower), rest)
      | _ => none
  | [] => none

/-- Whether a character ends a path segment. -/
def isSlash (special : Bool) (c : Char) : Bool := c = '/' || (special && c = '\\')

/-- Whether a segment is `.` written plainly or encoded. -/
def isSingleDot (s : String) : Bool := s = "." || s.toLower = "%2e"

/-- Whether a segment is `..` written plainly or encoded. -/
def isDoubleDot (s : String) : Bool :=
  let t := s.toLower
  t = ".." || t = ".%2e" || t = "%2e." || t = "%2e%2e"

/-- Whether a text is a Windows drive letter: a letter and `:` or `|`. -/
def isDriveLetter (s : List Char) : Bool :=
  match s with
  | [a, b] => a.isAlpha && (b = ':' || b = '|')
  | _ => false

/-- Drops the last segment of a path, keeping a lone drive letter of a file URL. -/
def shorten (file : Bool) (segs : List String) : List String :=
  match segs with
  | [s] => if file && (match s.toList with | [a, ':'] => a.isAlpha | _ => false) then segs else []
  | _ => segs.dropLast

/-- Reads path segments up to a query, a fragment or the end. -/
def readSegments (special file : Bool) (cs : List Char) (segs : List String) (buffer : List Char)
    (fuel : Nat) : List String × List Char :=
  match fuel with
  | 0 => (segs, cs)
  | fuel + 1 =>
    let ends := match cs with
      | [] => some false
      | c :: _ => if isSlash special c then some true else if c = '?' || c = '#' then some false else none
    match ends with
    | none =>
      match cs with
      | c :: rest => readSegments special file rest segs (buffer ++ [c]) fuel
      | [] => (segs, cs)
    | some slash =>
      let seg := encodeWith inPathSet buffer
      let segs :=
        if isDoubleDot seg then
          let s := shorten file segs
          if slash then s else s ++ [""]
        else if isSingleDot seg then
          if slash then segs else segs ++ [""]
        else if file && segs.isEmpty && isDriveLetter seg.toList then
          segs ++ [String.ofList [seg.toList.head?.getD 'c', ':']]
        else segs ++ [seg]
      if slash then readSegments special file cs.tail segs [] fuel else (segs, cs)

/-- Reads a path after its leading slash. -/
def readPath (special file : Bool) (cs : List Char) : List String × List Char :=
  readSegments special file cs [] [] (cs.length + 2)

/-- Reads the query and the fragment. -/
def readQueryAndFragment (special : Bool) (cs : List Char) : Option String × Option String :=
  let querySet := if special then inSpecialQuerySet else inQuerySet
  match cs with
  | '?' :: rest =>
    let q := rest.takeWhile (· != '#')
    let frag := match rest.drop q.length with
      | '#' :: f => some (encodeWith inFragmentSet f)
      | _ => none
    (some (encodeWith querySet q), frag)
  | '#' :: f => (none, some (encodeWith inFragmentSet f))
  | _ => (none, none)

/-- Reads user info: the text before the last `@` of the authority. -/
def readUserinfo (special : Bool) (cs : List Char) :
    Except ParseError (String × String × List Char) :=
  let auth := cs.takeWhile (fun c => !(c = '/' || c = '?' || c = '#' || (special && c = '\\')))
  match auth.reverse.findIdx? (· = '@') with
  | none => .ok ("", "", cs)
  | some k =>
    let at_ := auth.length - 1 - k
    let after := cs.drop (at_ + 1)
    if at_ = 0 then
      match after with
      | c :: _ =>
        if c = '/' || c = '?' || c = '#' || (special && c = '\\') then .error .emptyHost
        else .ok ("", "", after)
      | [] => .ok ("", "", after)
    else
      let info := cs.take at_
      let user := info.takeWhile (· != ':')
      let pass := (info.drop user.length).drop 1
      .ok (encodeWith inUserinfoSet user, encodeWith inUserinfoSet pass, after)

/-- The text of the host part and what follows it. -/
def hostText (special : Bool) (cs : List Char) : List Char × List Char :=
  let rec go (cs acc : List Char) (inside : Bool) : List Char × List Char :=
    match cs with
    | [] => (acc.reverse, [])
    | c :: rest =>
      if (c = ':' && !inside) || (special && c = '\\') || c = '/' || c = '?' || c = '#' then
        (acc.reverse, cs)
      else go rest (c :: acc) (if c = '[' then true else if c = ']' then false else inside)
  go cs [] false

/-- Reads a port after its colon; the default port of the scheme is no port. -/
def readPort (scheme : String) (cs : List Char) : Except ParseError (Option Nat × List Char) :=
  let digits := cs.takeWhile Char.isDigit
  let rest := cs.drop digits.length
  let stopsWell := match rest with
    | [] => true
    | c :: _ => c = '/' || c = '\\' || c = '?' || c = '#'
  let value := digits.foldl (fun acc c => acc * 10 + (c.toNat - 48)) 0
  if (digits.zipIdx.any (fun (_, i) =>
      (digits.take (i + 1)).foldl (fun acc c => acc * 10 + (c.toNat - 48)) 0 > 65535)) then
    .error .invalidPort
  else if !stopsWell then .error .invalidPort
  else if digits.isEmpty || defaultPort scheme = some value then .ok (none, rest)
  else .ok (some value, rest)

/-- Reads what follows `//`: the authority, then the path, query and fragment. -/
def readAuthority (scheme : String) (cs : List Char) : Except ParseError Url := do
  let special := isSpecial scheme
  let (user, pass, cs) ← readUserinfo special cs
  let (hostCs, cs) := hostText special cs
  if special && hostCs.isEmpty then throw .emptyHost
  let host ← if special then Host.parse hostCs else Host.parsePlain hostCs
  if host.isEmpty && (cs.head? = some ':' || special) then throw .emptyHost
  let (port, cs) ← match cs with
    | ':' :: r => readPort scheme r
    | _ => pure (none, cs)
  if host.isEmpty && (!user.isEmpty || !pass.isEmpty) then throw .emptyHost
  let (segs, cs) :=
    match cs with
    | c :: r =>
      if isSlash special c then readPath special false r
      else if !special && (c = '?' || c = '#') then ([], cs)
      else readPath special false cs
    | [] => if special then ([""], []) else ([], [])
  let (query, fragment) := readQueryAndFragment special cs
  pure ⟨scheme, user, pass, some host, port, .segments segs, query, fragment⟩

/-- Reads the rest of a `file` URL. -/
def readFile (cs : List Char) : Except ParseError Url := do
  let finish (host : Host) (segs : List String) (rest : List Char) : Url :=
    let segs := match segs with
      | "" :: more@(_ :: _) => (more.dropWhile (· = "")) |> fun m => if m.isEmpty then [""] else m
      | _ => segs
    let (query, fragment) := readQueryAndFragment true rest
    ⟨"file", "", "", some host, none, .segments segs, query, fragment⟩
  match cs with
  | c1 :: r1 =>
    if c1 = '/' || c1 = '\\' then
      match r1 with
      | c2 :: r2 =>
        if c2 = '/' || c2 = '\\' then
          let hostCs := r2.takeWhile (fun c => !(c = '/' || c = '\\' || c = '?' || c = '#'))
          if isDriveLetter hostCs then
            let (segs, rest) := readPath true true r2
            pure (finish (.domain "") segs rest)
          else
            let after := r2.drop hostCs.length
            let host ← if hostCs.isEmpty then pure (Host.domain "") else do
              let h ← Host.parse hostCs
              pure (if h = .domain "localhost" then Host.domain "" else h)
            let (segs, rest) := match after with
              | c :: r => if c = '/' || c = '\\' then readPath true true r else readPath true true after
              | [] => ([""], [])
            pure (finish host segs rest)
        else
          let (segs, rest) := readPath true true r1
          pure (finish (.domain "") segs rest)
      | [] =>
        let (segs, rest) := readPath true true r1
        pure (finish (.domain "") segs rest)
    else
      let (segs, rest) := readPath true true cs
      pure (finish (.domain "") segs rest)
  | [] => pure (finish (.domain "") [""] [])

/-- Reads a URL that has no base. -/
def parse (s : String) : Except ParseError Url :=
  let cs := prepare s
  match readScheme cs with
  | none => .error .relativeWithoutBase
  | some (scheme, rest) =>
    if scheme = "file" then readFile rest
    else if isSpecial scheme then readAuthority scheme (rest.dropWhile (fun c => c = '/' || c = '\\'))
    else
      match rest with
      | '/' :: '/' :: r => readAuthority scheme r
      | '/' :: r =>
        let (segs, cs) := readPath false false r
        let (query, fragment) := readQueryAndFragment false cs
        .ok ⟨scheme, "", "", none, none, .segments segs, query, fragment⟩
      | _ =>
        let p := rest.takeWhile (fun c => c != '?' && c != '#')
        let (query, fragment) := readQueryAndFragment false (rest.drop p.length)
        .ok ⟨scheme, "", "", none, none, .plain (encodeWith isControlOrWide p), query, fragment⟩

/-! ## Writing -/

/-- The text of a URL. -/
def text (u : Url) : String :=
  let userinfo :=
    if u.username.isEmpty && u.password.isEmpty then ""
    else u.username ++ (if u.password.isEmpty then "" else ":" ++ u.password) ++ "@"
  let authority := match u.host with
    | some h => "//" ++ userinfo ++ h.text ++ ((u.port.map (fun p => ":" ++ toString p)).getD "")
    | none =>
      match u.path with
      | .segments ("" :: _ :: _) => "/."
      | _ => ""
  let path := match u.path with
    | .segments segs => String.join (segs.map ("/" ++ ·))
    | .plain t => t
  u.scheme ++ ":" ++ authority ++ path ++
    ((u.query.map ("?" ++ ·)).getD "") ++ ((u.fragment.map ("#" ++ ·)).getD "")

/-- Whether a URL has a host that is not empty. -/
def hasHost (u : Url) : Bool :=
  match u.host with
  | some h => !h.isEmpty
  | none => false

end Typeahead.Url
