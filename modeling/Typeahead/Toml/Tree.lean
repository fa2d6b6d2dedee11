-- The tree a TOML document reads into. Every key and value keeps the byte
-- span it was read from, so that a later fault can point into the text.
-- Tables remember whether they were written inline, made implicitly by a
-- longer header, or made by a dotted key.
import Typeahead.Number.Binary64

namespace Typeahead.Toml

/-- A span of bytes of the text, from `start` up to but not including `stop`. -/
structure Span where
  start : Nat
  stop : Nat
  deriving Repr, DecidableEq

/-- A key as written, and where. -/
structure Key where
  name : String
  span : Span
  deriving Repr, DecidableEq

/-- A value that holds no other value. -/
inductive Scalar where
  | str (s : String)
  | int (n : Int)
  | float (x : Number.Float64)
  | bool (b : Bool)
  | datetime
  deriving Repr, DecidableEq

/-- How a table came to be. -/
structure TableKind where
  inline : Bool
  implicit : Bool
  dotted : Bool
  deriving Repr, DecidableEq

/-- A node of the tree. -/
inductive Node where
  | scalar (v : Scalar) (span : Span)
  /-- An array value. -/
  | array (items : List Node) (span : Span)
  /-- A table: its entries in order, how it came to be, and its span if it has one. -/
  | table (entries : List (Key × Node)) (kind : TableKind) (span : Option Span)
  /-- An array of tables made by `[[…]]` headers. -/
  | tables (items : List Node) (span : Option Span)
  deriving Repr

namespace Node

/-- The span of a node, if it has one. -/
def span? : Node → Option Span
  | .scalar _ s | .array _ s => some s
  | .table _ _ s | .tables _ s => s

/-- The name of a node's type, as faults say it. -/
def typeName : Node → String
  | .scalar (.str _) _ => "string"
  | .scalar (.int _) _ => "integer"
  | .scalar (.float _) _ => "float"
  | .scalar (.bool _) _ => "boolean"
  | .scalar .datetime _ => "datetime"
  | .array .. => "array"
  | .table _ k _ => if k.inline then "inline table" else "table"
  | .tables .. => "array of tables"

/-- Whether a node is a value, as opposed to a table or an array of tables. -/
def isValue : Node → Bool
  | .scalar .. | .array .. => true
  | .table _ k _ => k.inline
  | .tables .. => false

end Node

/-- The entry of a key in a list of entries. -/
def lookup (entries : List (Key × Node)) (name : String) : Option Node :=
  (entries.find? (fun e => e.1.name == name)).map (·.2)

/-- The entries with the entry of a key replaced, or added at the end. -/
def setEntry (entries : List (Key × Node)) (k : Key) (n : Node) : List (Key × Node) :=
  if entries.any (fun e => e.1.name == k.name) then
    entries.map (fun e => if e.1.name == k.name then (e.1, n) else e)
  else entries ++ [(k, n)]

/-- The entries without the entry of a key, the others kept in order. -/
def removeEntry (entries : List (Key × Node)) (name : String) : List (Key × Node) :=
  entries.filter (fun e => e.1.name != name)

end Typeahead.Toml
