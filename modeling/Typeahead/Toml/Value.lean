-- Keys and values of TOML text. A key is a dotted path of bare or quoted
-- parts. A value is a string, number, boolean or date-time, an array, or an
-- inline table; arrays and inline tables nest at most 79 deep.
import Typeahead.Toml.Number

namespace Typeahead.Toml

/-- How deep arrays and inline tables may nest, plus one. -/
def nestingLimit : Nat := 80

/-- Reads one part of a key, with the blanks around it. -/
def keyPart (c : Cursor) : Except Miss (Key × Cursor) :=
  let c1 := c.ws
  let part : Except Miss (String × Cursor) :=
    match c1.rest with
    | 34 :: _ => basicString c1
    | 39 :: _ => literalString c1
    | _ =>
      let (run, c') := c1.span isBareKeyByte
      if run.isEmpty then .error c1.miss else .ok (textOf run, c')
  part.map (fun (name, c2) => (⟨name, ⟨c1.pos, c2.pos⟩⟩, c2.ws))

/-- Reads more parts of a dotted key, each after a dot. A dot that no part
follows is left unread. -/
def keyMore (acc : List Key) (c : Cursor) (fuel : Nat) : Except Miss (List Key × Cursor) :=
  match fuel with
  | 0 => .ok (acc, c)
  | fuel + 1 =>
    match c.rest with
    | 46 :: _ =>
      match keyPart (c.skip 1) with
      | .ok (k, c') => keyMore (acc ++ [k]) c' fuel
      | .error m => if m.final then .error m else .ok (acc, c)
    | _ => .ok (acc, c)

/-- Reads a key: its parts in order. -/
def key (c : Cursor) : Except Miss (List Key × Cursor) :=
  noting [.label "key"] do
    let (k, c1) ← keyPart c
    keyMore [k] c1 c1.rest.length

/-- What a fault says of a key that stands twice. -/
def duplicateKey (name : String) : String := "duplicate key `" ++ name ++ "`"

/-- What a fault says of a dotted key that runs through a value. -/
def extendsValue (path : List Key) (what : String) : String :=
  "dotted key `" ++ ".".intercalate (path.map (·.name)) ++
    "` attempted to extend non-table type (" ++ what ++ ")"

/-- Places a value at a dotted path in the entries of an inline table,
making the tables on the way; a dotted key may not pass into an inline
table written as a value. `dotted` tells whether this table was made by a
dotted key, and `whole` whether the full path was empty. -/
def placeInline (entries : List (Key × Node)) (dotted whole : Bool) (done : List Key) :
    List Key → Key → Node → Except String (List (Key × Node))
  | [], k, v =>
    if dotted == whole then .error (duplicateKey k.name)
    else if (lookup entries k.name).isSome then .error (duplicateKey k.name)
    else .ok (entries ++ [(k, v)])
  | p :: rest, k, v =>
    match lookup entries p.name with
    | none => do
      let sub ← placeInline [] true whole (done ++ [p]) rest k v
      .ok (entries ++ [(p, .table sub ⟨true, true, true⟩ none)])
    | some (.table sub kind span) =>
      if kind.inline && !kind.implicit then .error (duplicateKey p.name)
      else if kind.inline then do
        let sub' ← placeInline sub kind.dotted whole (done ++ [p]) rest k v
        .ok (setEntry entries p (.table sub' kind span))
      else .error (extendsValue (done ++ [p]) "table")
    | some n => .error (extendsValue (done ++ [p]) n.typeName)

/-- The entries of an inline table built from its key-value pairs in order. -/
def inlineEntries (pairs : List (List Key × Node)) : Except String (List (Key × Node)) :=
  pairs.foldlM (fun entries (path, v) =>
    match path.reverse with
    | k :: init => placeInline entries false init.isEmpty [] init.reverse k v
    | [] => .ok entries) []

mutual

/-- Reads a value. -/
def value (fuel depth : Nat) (c : Cursor) : Except Miss (Node × Cursor) :=
  match fuel with
  | 0 => .error c.miss
  | fuel + 1 =>
    let scalar (v : Scalar) (c' : Cursor) : Node × Cursor := (.scalar v ⟨c.pos, c'.pos⟩, c')
    let wrongStart : Miss :=
      c.miss.note [.label "string", charNote '"', charNote (Char.ofNat 39)]
    match c.rest with
    | [] => .error c.miss
    | b :: _ =>
      if b == 34 || b == 39 then (quotedString c).map (fun (s, c') => scalar (.str s) c')
      else if b == 91 then
        if depth + 1 ≥ nestingLimit then .error (c.stop [] (some "recursion limit exceeded"))
        else array fuel (depth + 1) c
      else if b == 123 then
        if depth + 1 ≥ nestingLimit then .error (c.stop [] (some "recursion limit exceeded"))
        else inlineTable fuel (depth + 1) c
      else if b == 43 || b == 45 || isDigit b then
        match dateTime c with
        | .ok c' => .ok (scalar .datetime c')
        | .error m =>
          if m.final then .error m
          else
            match float c with
            | .ok (x, c') => .ok (scalar (.float x) c')
            | .error m' =>
              if m'.final then .error m'
              else (integer c).map (fun (n, c') => scalar (.int n) c')
      else if b == 95 then
        noting [.expected "leading digit"] ((integer c).map (fun (n, c') => scalar (.int n) c'))
      else if b == 46 then
        noting [.expected "leading digit"] ((float c).map (fun (x, c') => scalar (.float x) c'))
      else if b == 116 then
        if c.startsWith [116, 114, 117, 101] then .ok (scalar (.bool true) (c.skip 4))
        else .error wrongStart.cut
      else if b == 102 then
        if c.startsWith [102, 97, 108, 115, 101] then .ok (scalar (.bool false) (c.skip 5))
        else .error wrongStart.cut
      else if b == 105 then
        if c.startsWith [105, 110, 102] then .ok (scalar (.float (.infinite false)) (c.skip 3))
        else .error wrongStart
      else if b == 110 then
        if c.startsWith [110, 97, 110] then .ok (scalar (.float .nan) (c.skip 3))
        else .error wrongStart
      else .error wrongStart

/-- Reads an array; the cursor stands at its opening bracket. -/
def array (fuel depth : Nat) (c : Cursor) : Except Miss (Node × Cursor) :=
  match fuel with
  | 0 => .error c.miss
  | fuel + 1 => do
    let (items, c1) ← cutting (arrayValues fuel depth (c.skip 1))
    match c1.rest with
    | 93 :: _ => .ok (.array items ⟨c.pos, c1.pos + 1⟩, c1.skip 1)
    | _ => .error (c1.stop [.label "array", charNote ']'] none)

/-- Reads the items of an array, a trailing comma, and what stands before the
closing bracket. -/
def arrayValues (fuel depth : Nat) (c : Cursor) : Except Miss (List Node × Cursor) :=
  match fuel with
  | 0 => .error c.miss
  | fuel + 1 => do
    let (items, c1) ←
      match arrayValue fuel depth c with
      | .error m => if m.final then .error m else .ok ([], c)
      | .ok (v, c') => do
        let (vs, c'') ← arrayMore fuel depth [v] c'
        .ok (vs, if c''.startsWith [44] then c''.skip 1 else c'')
    let c2 ← wsCommentNewline c1 c1.rest.length
    .ok (items, c2)

/-- Reads one item of an array with the blanks and comments around it. -/
def arrayValue (fuel depth : Nat) (c : Cursor) : Except Miss (Node × Cursor) :=
  match fuel with
  | 0 => .error c.miss
  | fuel + 1 => do
    let c1 ← wsCommentNewline c c.rest.length
    let (v, c2) ← value fuel depth c1
    let c3 ← wsCommentNewline c2 c2.rest.length
    .ok (v, c3)

/-- Reads more items of an array, each after a comma. A comma that no item
follows is left unread. -/
def arrayMore (fuel depth : Nat) (acc : List Node) (c : Cursor) : Except Miss (List Node × Cursor) :=
  match fuel with
  | 0 => .ok (acc, c)
  | fuel + 1 =>
    match c.rest with
    | 44 :: _ =>
      match arrayValue fuel depth (c.skip 1) with
      | .ok (v, c') => arrayMore fuel depth (acc ++ [v]) c'
      | .error m => if m.final then .error m else .ok (acc, c)
    | _ => .ok (acc, c)

/-- Reads an inline table; the cursor stands at its opening brace. -/
def inlineTable (fuel depth : Nat) (c : Cursor) : Except Miss (Node × Cursor) :=
  match fuel with
  | 0 => .error c.miss
  | fuel + 1 => do
    let c1 := c.skip 1
    let (pairs, c2) ← cutting (inlinePairs fuel depth c1)
    let entries ← match inlineEntries pairs with
      | .ok es => .ok es
      | .error why => .error (c1.stop [] (some why))
    match c2.rest with
    | 125 :: _ => .ok (.table entries ⟨true, false, false⟩ (some ⟨c.pos, c2.pos + 1⟩), c2.skip 1)
    | _ => .error (c2.stop [.label "inline table", charNote '}'] none)

/-- Reads the key-value pairs of an inline table, separated by commas. -/
def inlinePairs (fuel depth : Nat) (c : Cursor) : Except Miss (List (List Key × Node) × Cursor) :=
  match fuel with
  | 0 => .error c.miss
  | fuel + 1 =>
    match inlinePair fuel depth c with
    | .error m => if m.final then .error m else .ok ([], c.ws)
    | .ok (p, c') => do
      let (ps, c'') ← inlineMore fuel depth [p] c'
      .ok (ps, c''.ws)

/-- Reads one key-value pair of an inline table. Past the key every miss is final. -/
def inlinePair (fuel depth : Nat) (c : Cursor) : Except Miss ((List Key × Node) × Cursor) :=
  match fuel with
  | 0 => .error c.miss
  | fuel + 1 => do
    let (path, c1) ← key c
    cutting do
      match c1.rest with
      | 61 :: _ => do
        let (v, c2) ← value fuel depth (c1.skip 1).ws
        .ok ((path, v), c2.ws)
      | _ => .error (c1.miss.note [charNote '.', charNote '='])

/-- Reads more pairs of an inline table, each after a comma. -/
def inlineMore (fuel depth : Nat) (acc : List (List Key × Node)) (c : Cursor) :
    Except Miss (List (List Key × Node) × Cursor) :=
  match fuel with
  | 0 => .ok (acc, c)
  | fuel + 1 =>
    match c.rest with
    | 44 :: _ =>
      match inlinePair fuel depth (c.skip 1) with
      | .ok (p, c') => inlineMore fuel depth (acc ++ [p]) c'
      | .error m => if m.final then .error m else .ok (acc, c)
    | _ => .ok (acc, c)

end

/-- Fuel enough for every value of the text ahead. -/
def Cursor.fuel (c : Cursor) : Nat := 8 * (c.rest.length + 1)

end Typeahead.Toml
