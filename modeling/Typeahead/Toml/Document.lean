-- A whole TOML document: key-value lines, `[table]` headers and `[[array]]`
-- headers, read into one root table. Tables are kept in the order they were
-- first made; a header that names a table made only on the way to another
-- takes that table over. A key, a table or a value may be defined only once.
import Typeahead.Toml.Value

namespace Typeahead.Toml

/-- A fault of a document: its message and the span it points at, if any. -/
structure Fault where
  message : String
  span : Option Span
  deriving Repr

/-- The single quote. -/
def singleQuote : Char := Char.ofNat 39

/-- Whether a text holds three single quotes in a row. -/
def hasQuoteRun : List Char → Bool
  | a :: tail@(b :: c :: _) =>
    (a == singleQuote && b == singleQuote && c == singleQuote) || hasQuoteRun tail
  | _ => false

/-- Whether a quoted key is written literally, between single quotes and
as it is: when it holds a backslash or a double quote, which would need
escapes, and a literal can hold it: no control character but a tab or a
line feed, no three single quotes in a row, no single quote at the end. -/
def keyLiteral (cs : List Char) : Bool :=
  (cs.contains '\\' || cs.contains '"') &&
    cs.all (fun ch => ch = '\t' || ch = '\n' || (ch.toNat > 31 && ch.toNat ≠ 127)) &&
    !hasQuoteRun cs && cs.getLast? != some singleQuote

/-- The text of a key as a fault writes it: bare when it can be, else
literal or between double quotes with escapes. -/
def keyRepr (name : String) : String :=
  let cs := name.toList
  let bare := !cs.isEmpty && cs.all (fun ch => ch.toNat < 128 && isBareKeyByte ch.toNat.toUInt8)
  if bare then name
  else if keyLiteral cs then "'" ++ name ++ "'"
  else
    let esc (ch : Char) : String :=
      if ch = '\x08' then "\\b" else if ch = '\t' then "\\t"
      else if ch = '\n' then "\\n" else if ch = '\x0c' then "\\f"
      else if ch = '\r' then "\\r" else if ch = '"' then "\\\""
      else if ch = '\\' then "\\\\"
      else if ch.toNat ≤ 31 || ch.toNat = 127 then
        let hex := (Nat.toDigits 16 ch.toNat).map Char.toUpper
        "\\u" ++ String.ofList (List.replicate (4 - hex.length) '0' ++ hex)
      else ch.toString
    "\"" ++ String.join (cs.map esc) ++ "\""

/-- What a fault says of the `i`-th part of a header path that is defined twice. -/
def duplicateAt (path : List Key) (i : Nat) : String :=
  let k := (path.drop i).head?.map (·.name) |>.getD ""
  if i = 0 then "duplicate key `" ++ keyRepr k ++ "` in document root"
  else "duplicate key `" ++ keyRepr k ++ "` in table `" ++
    ".".intercalate ((path.take i).map (·.name)) ++ "`"

/-- Walks down `path` from a table, making implicit tables where none stand,
and applies `edit` to the entries and kind of the table at its end. Through an
array of tables the walk goes into its last table. `dotted` tells whether the
walk follows a dotted key, which may not pass a table that a header made;
that fault names the key alone. -/
def descend {α : Type} (entries : List (Key × Node)) (kind : TableKind) (dotted : Bool)
    (full : List Key) (done : List Key)
    (edit : List (Key × Node) → TableKind → Except String (List (Key × Node) × α)) :
    List Key → Except String (List (Key × Node) × α)
  | [] => edit entries kind
  | p :: rest =>
    let i := done.length
    let here := done ++ [p]
    let (entries, node) := match lookup entries p.name with
      | some n => (entries, n)
      | none =>
        let n := Node.table [] ⟨false, true, dotted⟩ none
        (entries ++ [(p, n)], n)
    match node with
    | .table sub k span =>
      if k.inline then .error (extendsValue here "inline table")
      else if dotted && !k.implicit then .error (duplicateKey p.name)
      else do
        let (sub', a) ← descend sub k dotted full here edit rest
        .ok (setEntry entries p (.table sub' k span), a)
    | .tables items span =>
      match items.reverse with
      | (.table sub k s) :: older => do
        let (sub', a) ← descend sub k dotted full here edit rest
        .ok (setEntry entries p (.tables ((.table sub' k s) :: older).reverse span), a)
      | _ => .error (duplicateAt full i)
    | n => .error (extendsValue here n.typeName)

/-- The document as it is being read. -/
structure Builder where
  /-- The root table, once the first header has been read. -/
  root : List (Key × Node)
  /-- The entries of the table being filled. -/
  current : List (Key × Node)
  currentSpan : Option Span
  /-- The header of the table being filled, empty for the root. -/
  path : List Key
  isArray : Bool

/-- The kind of a table that a header made. -/
def headerKind : TableKind := ⟨false, false, false⟩

/-- A builder before anything is read. -/
def Builder.init : Builder := ⟨[], [], some ⟨0, 0⟩, [], false⟩

/-- Adds a key-value line to the table being filled. -/
def Builder.keyval (b : Builder) (path : List Key) (k : Key) (v : Node) : Except String Builder := do
  let span := match b.currentSpan, v.span? with
    | some s, some vs => some ⟨s.start, vs.stop⟩
    | s, _ => s
  let place (entries : List (Key × Node)) (kind : TableKind) :
      Except String (List (Key × Node) × Unit) :=
    if kind.dotted == path.isEmpty then .error (duplicateKey k.name)
    else if (lookup entries k.name).isSome then
      .error (duplicateKey k.name ++
        (if b.path.isEmpty then " in document root"
         else " in table `" ++ ".".intercalate (b.path.map (·.name)) ++ "`"))
    else .ok (entries ++ [(k, v)], ())
  let (current, _) ← descend b.current headerKind true path [] place path
  .ok { b with current := current, currentSpan := span }

/-- The node of the table being filled. -/
def Builder.table (b : Builder) : Node := .table b.current headerKind b.currentSpan

/-- The span from the first to the last of some tables. -/
def spanOfTables (items : List Node) : Option Span :=
  match items.head?.bind Node.span?, items.getLast?.bind Node.span? with
  | some f, some l => some ⟨f.start, l.stop⟩
  | _, _ => none

/-- Puts the table being filled into the root. -/
def Builder.finish (b : Builder) : Except String (List (Key × Node)) :=
  match b.path.reverse with
  | [] => .ok b.current
  | k :: parent =>
    let full := b.path
    let i := parent.length
    let put (entries : List (Key × Node)) (_ : TableKind) : Except String (List (Key × Node) × Unit) :=
      match lookup entries k.name with
      | none =>
        if b.isArray then .ok (entries ++ [(k, .tables [b.table] (spanOfTables [b.table]))], ())
        else .ok (entries ++ [(k, b.table)], ())
      | some (.tables items _) =>
        if b.isArray then
          let items := items ++ [b.table]
          .ok (setEntry entries k (.tables items (spanOfTables items)), ())
        else .error (duplicateAt full i)
      | some (.table _ kind _) =>
        if !b.isArray && kind.implicit && !kind.inline then .ok (setEntry entries k b.table, ())
        else .error (duplicateAt full i)
      | some _ => .error (duplicateAt full i)
    (descend b.root headerKind false full [] put parent.reverse).map (·.1)

/-- Starts the table of a `[table]` header, taking over an implicit table of
that name. -/
def Builder.startTable (b : Builder) (path : List Key) (span : Span) : Except String Builder := do
  let root ← b.finish
  match path.reverse with
  | [] => .ok b
  | k :: parent =>
    let take (entries : List (Key × Node)) (_ : TableKind) :
        Except String (List (Key × Node) × List (Key × Node)) :=
      match lookup entries k.name with
      | none => .ok (entries, [])
      | some (.table es kind _) =>
        if kind.implicit && !kind.dotted && !kind.inline then .ok (removeEntry entries k.name, es)
        else .error (duplicateAt path parent.length)
      | some _ => .error (duplicateAt path parent.length)
    let (root, current) ← descend root headerKind false path [] take parent.reverse
    .ok ⟨root, current, some span, path, false⟩

/-- Starts a table of a `[[array]]` header. -/
def Builder.startArrayTable (b : Builder) (path : List Key) (span : Span) : Except String Builder := do
  let root ← b.finish
  match path.reverse with
  | [] => .ok b
  | k :: parent =>
    let make (entries : List (Key × Node)) (_ : TableKind) : Except String (List (Key × Node) × Unit) :=
      match lookup entries k.name with
      | none => .ok (entries ++ [(k, .tables [] none)], ())
      | some (.tables ..) => .ok (entries, ())
      | some _ => .error (duplicateAt path parent.length)
    let (root, _) ← descend root headerKind false path [] make parent.reverse
    .ok ⟨root, [], some span, path, true⟩

/-! ## Reading a document -/

/-- Reads a header line and starts its table. -/
def header (b : Builder) (c : Cursor) : Except Miss (Builder × Cursor) :=
  noting [.label "table header"] do
    let isArray := c.startsWith [91, 91]
    let open_ := if isArray then 2 else 1
    let (path, c1) ← cutting (key (c.skip open_))
    let close := if isArray then [93, 93] else [93]
    let c2 ← if c1.startsWith close then .ok (c1.skip open_)
      else .error (c1.stop [charNote '.', .expected (if isArray then "`]]`" else "`]`")] none)
    let c3 ← cutting (noting [charNote '\n', charNote '#'] (lineTrailing c2))
    let span : Span := ⟨c.pos, c2.pos⟩
    let started := if isArray then b.startArrayTable path span else b.startTable path span
    match started with
    | .ok b' => .ok (b', c3)
    | .error why => .error (c.stop [] (some why))

/-- Reads a key-value line and adds it to the table being filled. -/
def keyvalLine (b : Builder) (c : Cursor) : Except Miss (Builder × Cursor) := do
  let (path, c1) ← cutting (key c)
  let (v, c2) ← cutting do
    match c1.rest with
    | 61 :: _ => value (c1.skip 1).ws.fuel 0 (c1.skip 1).ws
    | _ => .error (c1.miss.note [charNote '.', charNote '='])
  let c3 ← cutting (noting [charNote '\n', charNote '#'] (lineTrailing c2))
  match path.reverse with
  | k :: init =>
    match b.keyval init.reverse k v with
    | .ok b' => .ok (b', c3)
    | .error why => .error (c.stop [] (some why))
  | [] => .ok (b, c3)

/-- Reads the lines of a document. -/
def lines (b : Builder) (c : Cursor) (fuel : Nat) : Except Miss (Builder × Cursor) :=
  match fuel with
  | 0 => .ok (b, c)
  | fuel + 1 =>
    match c.rest with
    | [] => .ok (b, c)
    | 35 :: _ =>
      match lineEnding ((comment? c).getD c) with
      | .ok c' => lines b c'.ws fuel
      | .error m => .error m.cut
    | 91 :: _ => do
      let (b', c') ← header b c
      lines b' c'.ws fuel
    | 10 :: _ | 13 :: _ =>
      match newline c with
      | .ok c' => lines b c'.ws fuel
      | .error _ => .error c.miss
    | _ => do
      let (b', c') ← keyvalLine b c
      lines b' c'.ws fuel

/-- The span a miss points at: the byte where reading stopped, or the empty
span at the end of the text. -/
def missSpan (text : List UInt8) (m : Miss) : Span :=
  if m.pos = text.length then ⟨m.pos, m.pos⟩ else ⟨m.pos, m.pos + 1⟩

/-- Reads a document into its root table. -/
def readDocument (text : List UInt8) : Except Fault Node :=
  let c0 : Cursor := ⟨text, 0⟩
  let c1 := if c0.startsWith [0xEF, 0xBB, 0xBF] then c0.skip 3 else c0
  match lines Builder.init c1.ws (text.length + 1) with
  | .error m => .error ⟨m.message, some (missSpan text m)⟩
  | .ok (b, _) =>
    match b.finish with
    | .ok root => .ok (.table root headerKind b.currentSpan)
    | .error why => .error ⟨why, none⟩

end Typeahead.Toml
