-- Typed values out of a TOML tree. A decoder names what it wants in the words
-- a fault uses ("u64", "a boolean", "struct Name"). A fault that does not yet
-- point anywhere points at the node being decoded; inside a table, at the
-- entry's value or else its key. A record is read from a table in the order
-- its entries stand, or from an array field by field.
import Typeahead.Toml.Report
import Typeahead.Text.Quote

namespace Typeahead.Toml

/-- Reads a typed value from a node. -/
abbrev Decoder (α : Type) := Node → Except Fault α

/-- What a node is, as a fault of a wrong type names it. -/
def unexpected : Node → String
  | .scalar (.str s) _ => "string " ++ Text.quote s
  | .scalar (.int n) _ => "integer `" ++ toString n ++ "`"
  | .scalar (.float x) _ => "floating point `" ++ x.pointText ++ "`"
  | .scalar (.bool b) _ => "boolean `" ++ (if b then "true" else "false") ++ "`"
  | .scalar .datetime _ | .table .. => "map"
  | .array .. | .tables .. => "sequence"

/-- A fault with no span yet. -/
def Fault.unplaced (message : String) : Fault := ⟨message, none⟩

/-- The fault of a node of the wrong type. -/
def invalidType (n : Node) (wanted : String) : Fault :=
  .unplaced ("invalid type: " ++ unexpected n ++ ", expected " ++ wanted)

/-- Points a fault that points nowhere at a span. -/
def Fault.orAt (f : Fault) (s : Option Span) : Fault :=
  if f.span.isSome then f else { f with span := s }

/-- Points the fault of a decoding that points nowhere at the node. -/
def atNode {α : Type} (n : Node) (r : Except Fault α) : Except Fault α :=
  r.mapError (·.orAt n.span?)

/-- A natural number of the given width; a negative integer is a wrong value. -/
def natural (wanted : String) : Decoder Nat := fun n =>
  atNode n <|
    match n with
    | .scalar (.int i) _ =>
      if i ≥ 0 then .ok i.toNat
      else .error (.unplaced ("invalid value: integer `" ++ toString i ++ "`, expected " ++ wanted))
    | n => .error (invalidType n wanted)

/-- A boolean. -/
def boolean : Decoder Bool := fun n =>
  atNode n <|
    match n with
    | .scalar (.bool b) _ => .ok b
    | n => .error (invalidType n "a boolean")

/-- A string, named as `wanted` in a fault. -/
def string (wanted : String) : Decoder String := fun n =>
  atNode n <|
    match n with
    | .scalar (.str s) _ => .ok s
    | n => .error (invalidType n wanted)

/-- A value that may be absent; a present node is always decoded. -/
def optional {α : Type} (d : Decoder α) : Decoder (Option α) := fun n =>
  atNode n ((d n).map some)

/-- The list of allowed names as a fault gives it. -/
def oneOf (names : List String) : String :=
  let quoted := names.map (fun s => "`" ++ s ++ "`")
  match quoted with
  | [] => "there are no variants"
  | [a] => a
  | [a, b] => a ++ " or " ++ b
  | _ => "one of " ++ ", ".intercalate quoted

/-- The fault of a name that is none of the allowed ones. -/
def unknownVariant (name : String) (names : List String) : Fault :=
  .unplaced ("unknown variant `" ++ name ++ "`, expected " ++ oneOf names)

/-- The variant named by a key, whose value must be empty. -/
def variantEntry (names : List String) (k : Key) (v : Node) : Except Fault String :=
  if !names.contains k.name then .error ((unknownVariant k.name names).orAt (some k.span))
  else
    match v with
    | .tables items s =>
      if items.isEmpty then .ok k.name else .error ⟨"expected empty array", s⟩
    | .array items s =>
      if items.isEmpty then .ok k.name else .error ⟨"expected empty array", some s⟩
    | .table es _ s =>
      if es.isEmpty then .ok k.name else .error ⟨"expected empty table", s⟩
    | n => .error ⟨"expected table, found " ++ n.typeName, n.span?⟩

/-- One of some names, given as a string or as a table whose one key is the name. -/
def variant (names : List String) : Decoder String := fun n =>
  atNode n <|
    match n with
    | .scalar (.str s) _ => if names.contains s then .ok s else .error (unknownVariant s names)
    | .table entries kind span =>
      if kind.inline then
        match entries with
        | [] => .error ⟨"wanted exactly 1 element, found 0 elements", span⟩
        | [(k, v)] => variantEntry names k v
        | _ => .error ⟨"wanted exactly 1 element, more than 1 element", span⟩
      else
        match entries with
        | [] => .error ⟨"expected table with exactly 1 entry, found empty table", span⟩
        | (k, v) :: _ => variantEntry names k v
    | n => .error ⟨"wanted string or table", n.span?⟩

/-- A field of a record: its name, how a node sets it, and whether an array
must give it. -/
structure Field (σ : Type) where
  name : String
  set : Node → σ → Except Fault σ
  required : Bool

/-- A field that decodes its node and stores the value. -/
def Field.of {σ α : Type} (name : String) (d : Decoder α) (store : α → σ → σ)
    (required : Bool) : Field σ :=
  ⟨name, fun n s => (d n).map (store · s), required⟩

/-- The fault of an array too short for a record. -/
def invalidLength (given : Nat) (name : String) (fields : Nat) : Fault :=
  .unplaced ("invalid length " ++ toString given ++ ", expected struct " ++ name ++ " with " ++
    toString fields ++ (if fields = 1 then " element" else " elements"))

/-- Sets the fields of a record from the items of an array, in order. -/
def fromItems {σ : Type} (name : String) (count : Nat) : List (Field σ) → Nat → List Node → σ →
    Except Fault σ
  | [], _, _, s => .ok s
  | f :: fs, i, items, s =>
    match items with
    | v :: rest => do
      let s' ← (f.set v s).mapError (·.orAt v.span?)
      fromItems name count fs (i + 1) rest s'
    | [] =>
      if f.required then .error (invalidLength i name count)
      else fromItems name count fs (i + 1) [] s

/-- A record, starting from its defaults. Unknown keys are passed over. -/
def record {σ : Type} (name : String) (fields : List (Field σ)) (init : σ) : Decoder σ := fun n =>
  atNode n <|
    match n with
    | .table entries _ _ =>
      entries.foldlM (fun s (k, v) =>
        match fields.find? (·.name == k.name) with
        | some f => (f.set v s).mapError (·.orAt (v.span? <|> some k.span))
        | none => .ok s) init
    | .array items _ | .tables items _ => fromItems name fields.length fields 0 items init
    | .scalar .datetime _ => .ok init
    | n => .error (invalidType n ("struct " ++ name))

end Typeahead.Toml
