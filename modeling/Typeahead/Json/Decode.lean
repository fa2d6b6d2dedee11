-- Reading a JSON text into a value of an expected shape. A shape names
-- what each place of the text must hold: a string, a boolean, a list, a
-- map with string keys, a record of named fields, or anything. The first
-- place that does not fit ends the reading with a fault worded for it.
import Typeahead.Json.Skip

namespace Typeahead.Json

/-- What a place of the text must hold. -/
inductive Shape where
  | text
  | flag
  | list (item : Shape)
  | dict (item : Shape)
  /-- A record: its name, and its fields with their shapes and whether a
  missing field takes a default. -/
  | record (name : String) (fields : List (String × Shape × Bool))
  | any
  deriving Repr

/-- A JSON value as read. -/
inductive Value where
  | null
  | bool (b : Bool)
  | num (n : Num)
  | str (s : String)
  | arr (items : List Value)
  | obj (fields : List (String × Value))
  deriving Repr

/-- How a shape is named in a message about a value of the wrong kind. -/
def Shape.expecting : Shape → String
  | .text => "a string"
  | .flag => "a boolean"
  | .list _ => "a sequence"
  | .dict _ => "a map"
  | .record name _ => "struct " ++ name
  | .any => "any valid JSON value"

/-- The fault for a value of the wrong kind at the cursor, after reading
past a scalar so that the fault stands just after it. -/
def wrongKind (c : Cursor) (expecting : String) : Fault :=
  let say (what : String) (c : Cursor) : Fault :=
    c.fault (.shape ("invalid type: " ++ what ++ ", expected " ++ expecting))
  let scalar (r : Except Fault Cursor) (what : String) : Fault :=
    match r with
    | .ok c' => say what c'
    | .error e => e
  let number (r : Except Fault (Num × Cursor)) : Fault :=
    match r with
    | .ok (n, c') => say n.describe c'
    | .error e => e
  match c.peek? with
  | some 110 => scalar (readWord c.bump restOfNull) "null"
  | some 116 => scalar (readWord c.bump restOfTrue) "boolean `true`"
  | some 102 => scalar (readWord c.bump restOfFalse) "boolean `false`"
  | some 45 => number (readNumber c.bump false)
  | some 34 =>
    match readString c.bump with
    | .ok (s, c') => say ("string " ++ Text.quote s) c'
    | .error e => e
  | some 91 => say "sequence" c
  | some 123 => say "map" c
  | some b => if isDigit b then number (readNumber c true) else c.peekFault .expectedValue
  | none => c.peekFault .expectedValue

/-- Reads what closes a list after its items: a `]`, or a fault for what stands there. -/
def closeList (c : Cursor) : Except Fault Cursor :=
  let c := c.skipSpace
  match c.peek? with
  | some 93 => .ok c.bump
  | some 44 =>
    let c := c.bump.skipSpace
    match c.peek? with
    | some 93 => .error (c.peekFault .trailingComma)
    | _ => .error (c.peekFault .trailingCharacters)
  | some _ => .error (c.peekFault .trailingCharacters)
  | none => .error (c.peekFault .eofList)

/-- Reads what closes an object after its fields. -/
def closeObject (c : Cursor) : Except Fault Cursor :=
  let c := c.skipSpace
  match c.peek? with
  | some 125 => .ok c.bump
  | some 44 => .error (c.peekFault .trailingComma)
  | some _ => .error (c.peekFault .trailingCharacters)
  | none => .error (c.peekFault .eofObject)

/-- Whether another item follows in a list: `first` is whether none was read yet. -/
def nextItem (first : Bool) (c : Cursor) : Except Fault (Bool × Cursor) :=
  let c := c.skipSpace
  match c.peek? with
  | none => .error (c.peekFault .eofList)
  | some 93 => .ok (false, c)
  | some b =>
    if first then .ok (true, c)
    else if b = 44 then
      let c := c.bump.skipSpace
      match c.peek? with
      | some 93 => .error (c.peekFault .trailingComma)
      | some _ => .ok (true, c)
      | none => .error (c.peekFault .eofValue)
    else .error (c.peekFault .expectedListCommaOrEnd)

/-- The next key of an object, read up to its closing quote, or `none` at the end. -/
def nextKey (first : Bool) (c : Cursor) : Except Fault (Option String × Cursor) := do
  let c := c.skipSpace
  let c ← match c.peek? with
    | some 125 => return (none, c)
    | some 44 => if first then pure c else pure c.bump.skipSpace
    | some _ => if first then pure c else throw (c.peekFault .expectedObjectCommaOrEnd)
    | none => throw (c.peekFault .eofObject)
  match c.peek? with
  | some 34 => do let (k, c) ← readString c.bump; pure (some k, c)
  | some 125 => throw (c.peekFault .trailingComma)
  | some _ => throw (c.peekFault .keyMustBeString)
  | none => throw (c.peekFault .eofValue)

/-- Reads the colon between a key and its value. -/
def readColon (c : Cursor) : Except Fault Cursor :=
  let c := c.skipSpace
  match c.peek? with
  | some 58 => .ok c.bump
  | some _ => .error (c.peekFault .expectedColon)
  | none => .error (c.peekFault .eofObject)

/-- The fields of a record that the value lacks and that take no default. -/
def missingField? (fields : List (String × Shape × Bool)) (got : List (String × Value)) : Option String :=
  (fields.find? (fun f => !f.2.2 && !(got.any (fun g => g.1 == f.1)))).map (·.1)

/-- The wording of a list too short for a record. -/
def lengthMessage (got : Nat) (name : String) (count : Nat) : String :=
  "invalid length " ++ toString got ++ ", expected struct " ++ name ++ " with " ++
    toString count ++ (if count = 1 then " element" else " elements")

mutual

/-- Reads a value of the given shape; `fuel` bounds the steps and is never
short when it starts from the size of the text. -/
def decode (fuel : Nat) (shape : Shape) (c : Cursor) : Except Fault (Value × Cursor) :=
  match fuel with
  | 0 => .error (c.fault .eofValue)
  | f + 1 =>
    let c := c.skipSpace
    match c.peek? with
    | none => .error (c.peekFault .eofValue)
    | some b =>
      match shape with
      | .text =>
        if b = 34 then (readString c.bump).map (fun (s, c) => (.str s, c))
        else .error (wrongKind c shape.expecting)
      | .flag =>
        if b = 116 then (readWord c.bump restOfTrue).map (.bool true, ·)
        else if b = 102 then (readWord c.bump restOfFalse).map (.bool false, ·)
        else .error (wrongKind c shape.expecting)
      | .list item =>
        if b = 91 then do
          let inner ← c.enter
          let (items, c') ← decodeItems f item true [] inner
          let c' ← closeList c'
          pure (.arr items, c'.leave c)
        else .error (wrongKind c shape.expecting)
      | .dict item =>
        if b = 123 then do
          let inner ← c.enter
          let (kvs, c') ← decodeEntries f item true [] inner
          let c' ← closeObject c'
          pure (.obj kvs, c'.leave c)
        else .error (wrongKind c shape.expecting)
      | .record name fields =>
        if b = 91 then do
          let inner ← c.enter
          let (got, c', short) ← decodeFieldsInOrder f fields true 0 [] inner
          let c' ← closeList c'
          match short with
          | some n => throw (c'.fault (.shape (lengthMessage n name fields.length)))
          | none => pure (.obj got, c'.leave c)
        else if b = 123 then do
          let inner ← c.enter
          let (got, c') ← decodeFields f fields true [] inner
          let c' ← closeObject c'
          match missingField? fields got with
          | some m => throw (c'.fault (.shape ("missing field `" ++ m ++ "`")))
          | none => pure (.obj got, c'.leave c)
        else .error (wrongKind c shape.expecting)
      | .any => decodeAny f c

/-- Reads the fields of a record given as a list, in order. The last part
of the answer is the count of items read when the list ends before a field
that takes no default. -/
def decodeFieldsInOrder (fuel : Nat) (fields : List (String × Shape × Bool)) (first : Bool)
    (n : Nat) (acc : List (String × Value)) (c : Cursor) :
    Except Fault (List (String × Value) × Cursor × Option Nat) :=
  match fuel with
  | 0 => .ok (acc.reverse, c, none)
  | f + 1 =>
    match fields with
    | [] => .ok (acc.reverse, c, none)
    | (k, s, dflt) :: rest => do
      let (more, c) ← nextItem first c
      if more then
        let (v, c) ← decode f s c
        decodeFieldsInOrder f rest false (n + 1) ((k, v) :: acc) c
      else if dflt then decodeFieldsInOrder f rest false n acc c
      else pure (acc.reverse, c, some n)

/-- Reads the items of a list. -/
def decodeItems (fuel : Nat) (item : Shape) (first : Bool) (acc : List Value) (c : Cursor) :
    Except Fault (List Value × Cursor) :=
  match fuel with
  | 0 => .ok (acc.reverse, c)
  | f + 1 => do
    let (more, c) ← nextItem first c
    if more then
      let (v, c) ← decode f item c
      decodeItems f item false (v :: acc) c
    else pure (acc.reverse, c)

/-- Reads the entries of a map with string keys. -/
def decodeEntries (fuel : Nat) (item : Shape) (first : Bool) (acc : List (String × Value)) (c : Cursor) :
    Except Fault (List (String × Value) × Cursor) :=
  match fuel with
  | 0 => .ok (acc.reverse, c)
  | f + 1 => do
    match ← nextKey first c with
    | (none, c) => pure (acc.reverse, c)
    | (some k, c) =>
      let c ← readColon c
      let (v, c) ← decode f item c
      decodeEntries f item false ((k, v) :: acc) c

/-- Reads the fields of a record given as an object; unknown keys are read
past, and a field named twice is a fault. -/
def decodeFields (fuel : Nat) (fields : List (String × Shape × Bool)) (first : Bool)
    (acc : List (String × Value)) (c : Cursor) : Except Fault (List (String × Value) × Cursor) :=
  match fuel with
  | 0 => .ok (acc.reverse, c)
  | f + 1 => do
    match ← nextKey first c with
    | (none, c) => pure (acc.reverse, c)
    | (some k, c) =>
      match fields.find? (fun fd => fd.1 == k) with
      | some (_, s, _) =>
        if acc.any (fun g => g.1 == k) then
          -- the object is still closed before the fault takes its place
          let c := c.skipSpace
          let c := if c.peek? = some 125 then c.bump else c
          throw (c.fault (.shape ("duplicate field `" ++ k ++ "`")))
        else
          let c ← readColon c
          let (v, c) ← decode f s c
          decodeFields f fields false ((k, v) :: acc) c
      | none =>
        let c ← readColon c
        let c ← skipValue c
        decodeFields f fields false acc c

/-- Reads a value of any form. -/
def decodeAny (fuel : Nat) (c : Cursor) : Except Fault (Value × Cursor) :=
  match fuel with
  | 0 => .error (c.fault .eofValue)
  | f + 1 =>
    match c.peek? with
    | some 110 => (readWord c.bump restOfNull).map (.null, ·)
    | some 116 => (readWord c.bump restOfTrue).map (.bool true, ·)
    | some 102 => (readWord c.bump restOfFalse).map (.bool false, ·)
    | some 45 => (readNumber c.bump false).map (fun (n, c) => (.num n, c))
    | some 34 => (readString c.bump).map (fun (s, c) => (.str s, c))
    | some 91 => do
      let inner ← c.enter
      let (items, c') ← decodeItems f .any true [] inner
      let c' ← closeList c'
      pure (.arr items, c'.leave c)
    | some 123 => do
      let inner ← c.enter
      let (kvs, c') ← decodeEntries f .any true [] inner
      let c' ← closeObject c'
      pure (.obj kvs, c'.leave c)
    | some b =>
      if isDigit b then (readNumber c true).map (fun (n, c) => (.num n, c))
      else .error (c.peekFault .expectedValue)
    | none => .error (c.peekFault .eofValue)

end

/-- Reads a whole text as a value of the given shape; only blanks may follow it. -/
def read (shape : Shape) (bytes : List UInt8) : Except Fault Value := do
  let c := Cursor.start bytes
  let (v, c) ← decode (4 * bytes.length + 8) shape c
  let c := c.skipSpace
  match c.peek? with
  | some _ => throw (c.peekFault .trailingCharacters)
  | none => pure v

/-- The value of a field of an object; the last of several wins. -/
def Value.field? (v : Value) (k : String) : Option Value :=
  match v with
  | .obj kvs => (kvs.reverse.find? (fun kv => kv.1 == k)).map (·.2)
  | _ => none

/-- The text of a string value. -/
def Value.text? : Value → Option String
  | .str s => some s
  | _ => none

/-- The truth of a boolean value. -/
def Value.flag? : Value → Option Bool
  | .bool b => some b
  | _ => none

/-- The items of a list value. -/
def Value.items : Value → List Value
  | .arr xs => xs
  | _ => []

end Typeahead.Json
