-- A reading position in a JSON text. The cursor holds the bytes not yet
-- read, the line and byte column reached, and how many more arrays and
-- objects may open inside the current one. Every fault of a reading is
-- worded by `Code.text` and placed at a line and column.

namespace Typeahead.Json

/-- A place in the text: a line from 1 and the number of bytes before it on that line. -/
structure Pos where
  line : Nat
  column : Nat
  deriving Repr, DecidableEq

/-- What went wrong while reading. -/
inductive Code where
  | eofValue
  | eofObject
  | eofList
  | eofString
  | expectedColon
  | expectedListCommaOrEnd
  | expectedObjectCommaOrEnd
  | expectedIdent
  | expectedValue
  | keyMustBeString
  | invalidEscape
  | invalidNumber
  | numberOutOfRange
  | invalidCodePoint
  | controlCharacter
  | loneLeadingSurrogate
  | unexpectedEndOfHexEscape
  | trailingCharacters
  | trailingComma
  | recursionLimit
  /-- A value of the wrong kind, a missing field and the like, worded in full. -/
  | shape (text : String)
  deriving Repr, DecidableEq

/-- The words of a fault. -/
def Code.text : Code → String
  | .eofValue => "EOF while parsing a value"
  | .eofObject => "EOF while parsing an object"
  | .eofList => "EOF while parsing a list"
  | .eofString => "EOF while parsing a string"
  | .expectedColon => "expected `:`"
  | .expectedListCommaOrEnd => "expected `,` or `]`"
  | .expectedObjectCommaOrEnd => "expected `,` or `\x7d`"
  | .expectedIdent => "expected ident"
  | .expectedValue => "expected value"
  | .keyMustBeString => "key must be a string"
  | .invalidEscape => "invalid escape"
  | .invalidNumber => "invalid number"
  | .numberOutOfRange => "number out of range"
  | .invalidCodePoint => "invalid unicode code point"
  | .controlCharacter => "control character (\\u0000-\\u001F) found while parsing a string"
  | .loneLeadingSurrogate => "lone leading surrogate in hex escape"
  | .unexpectedEndOfHexEscape => "unexpected end of hex escape"
  | .trailingCharacters => "trailing characters"
  | .trailingComma => "trailing comma"
  | .recursionLimit => "recursion limit exceeded"
  | .shape t => t

/-- A fault and where it was found. -/
structure Fault where
  code : Code
  pos : Pos
  deriving Repr, DecidableEq

/-- The full text of a fault, with its line and column. -/
def Fault.message (f : Fault) : String :=
  f.code.text ++ " at line " ++ toString f.pos.line ++ " column " ++ toString f.pos.column

/-- The most arrays and objects that may be open at once. -/
def depthLimit : Nat := 128

/-- The state of a reading. -/
structure Cursor where
  rest : List UInt8
  line : Nat
  column : Nat
  /-- How many more arrays and objects may open. -/
  depth : Nat
  deriving Repr

namespace Cursor

/-- A cursor at the start of a text. -/
def start (bs : List UInt8) : Cursor := ⟨bs, 1, 0, depthLimit⟩

/-- The next byte, if any. -/
def peek? (c : Cursor) : Option UInt8 := c.rest.head?

/-- The next byte, or NUL at the end. -/
def peekOrNul (c : Cursor) : UInt8 := c.rest.headD 0

/-- The place of the next byte: the bytes read so far on this line. -/
def pos (c : Cursor) : Pos := ⟨c.line, c.column⟩

/-- The place just after the next byte, or the end. -/
def peekPos (c : Cursor) : Pos :=
  match c.rest with
  | b :: _ => if b = 10 then ⟨c.line + 1, 0⟩ else ⟨c.line, c.column + 1⟩
  | [] => c.pos

/-- Reads one byte. -/
def bump (c : Cursor) : Cursor :=
  match c.rest with
  | b :: r => if b = 10 then { c with rest := r, line := c.line + 1, column := 0 }
    else { c with rest := r, column := c.column + 1 }
  | [] => c

/-- A fault at the place of the next byte. -/
def fault (c : Cursor) (code : Code) : Fault := ⟨code, c.pos⟩

/-- A fault at the place just after the next byte. -/
def peekFault (c : Cursor) (code : Code) : Fault := ⟨code, c.peekPos⟩

theorem bump_rest (c : Cursor) : c.bump.rest = c.rest.tail := by
  unfold bump
  split
  · split <;> simp_all
  · simp_all

theorem bump_rest_length (c : Cursor) : c.bump.rest.length = c.rest.length - 1 := by
  rw [bump_rest]; simp

/-- A blank of the JSON grammar: space, tab, newline or return. -/
def isSpace (b : UInt8) : Bool := b = 32 || b = 9 || b = 10 || b = 13

set_option linter.unusedVariables false in
/-- Reads past blanks. -/
def skipSpace (c : Cursor) : Cursor :=
  match h : c.rest with
  | b :: _ => if isSpace b then skipSpace c.bump else c
  | [] => c
termination_by c.rest.length
decreasing_by rw [bump_rest_length, h]; simp

set_option linter.unusedVariables false in
/-- Reads past the bytes that satisfy `p`. -/
def skipWhile (p : UInt8 → Bool) (c : Cursor) : Cursor :=
  match h : c.rest with
  | b :: _ => if p b then skipWhile p c.bump else c
  | [] => c
termination_by c.rest.length
decreasing_by rw [bump_rest_length, h]; simp

/-- The bytes one more nested array or object would have; a fault at the limit. -/
def enter (c : Cursor) : Except Fault Cursor :=
  if c.depth ≤ 1 then .error (c.peekFault .recursionLimit)
  else .ok { c.bump with depth := c.depth - 1 }

/-- Gives back the nesting allowance of the value just left. -/
def leave (c : Cursor) (outer : Cursor) : Cursor := { c with depth := outer.depth }

end Cursor

end Typeahead.Json
