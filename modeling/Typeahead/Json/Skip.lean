-- Reading past a JSON value whose content is not wanted. The value is
-- checked for form only, with one stack of open arrays and objects and no
-- limit on their nesting; numbers are not converted.
import Typeahead.Json.Scalar

namespace Typeahead.Json

/-- The byte of `[` and of `{`. -/
def openList : UInt8 := 91
def openObject : UInt8 := 123

/-- Reads what follows a complete value inside the open frame `frame`: a
comma (when `acceptComma`), or closing brackets, each closing the next open
frame. Answers the frame to continue in, or `none` when the outermost value
has ended. -/
def closeFrames (fuel : Nat) (frames : List UInt8) (frame : UInt8) (acceptComma : Bool)
    (c : Cursor) : Except Fault (Option (UInt8 × List UInt8) × Cursor) :=
  match fuel with
  | 0 => .error (c.fault .eofValue)
  | f + 1 =>
    let c := c.skipSpace
    match c.peek? with
    | none => .error (c.peekFault (if frame = openList then .eofList else .eofObject))
    | some b =>
      if b = 44 && acceptComma then .ok (some (frame, frames), c.bump)
      else if (b = 93 && frame = openList) || (b = 125 && frame = openObject) then
        match frames with
        | g :: gs => closeFrames f gs g true c.bump
        | [] => .ok (none, c.bump)
      else if acceptComma then
        .error (c.peekFault
          (if frame = openList then .expectedListCommaOrEnd else .expectedObjectCommaOrEnd))
      else .ok (some (frame, frames), c)

/-- Reads a key and its colon inside an object whose value is not wanted. -/
def skipKey (c : Cursor) : Except Fault Cursor := do
  let c := c.skipSpace
  let c ← match c.peek? with
    | some 34 => pure c.bump
    | some _ => throw (c.peekFault .keyMustBeString)
    | none => throw (c.peekFault .eofObject)
  let c ← skipStringFrom (c.rest.length + 1) c
  let c := c.skipSpace
  match c.peek? with
  | some 58 => pure c.bump
  | some _ => throw (c.peekFault .expectedColon)
  | none => throw (c.peekFault .eofObject)

/-- Reads past values, `frames` being the open arrays and objects, innermost first. -/
def skipLoop (fuel : Nat) (frames : List UInt8) (c : Cursor) : Except Fault Cursor :=
  match fuel with
  | 0 => .error (c.fault .eofValue)
  | f + 1 => do
    let c := c.skipSpace
    let (opened, c) ← match c.peek? with
      | none => throw (c.peekFault .eofValue)
      | some 110 => do let c ← readWord c.bump restOfNull; pure (none, c)
      | some 116 => do let c ← readWord c.bump restOfTrue; pure (none, c)
      | some 102 => do let c ← readWord c.bump restOfFalse; pure (none, c)
      | some 45 => do let c ← skipNumber c.bump; pure (none, c)
      | some 34 => do let c ← skipStringFrom (c.rest.length + 1) c.bump; pure (none, c)
      | some b =>
        if isDigit b then do let c ← skipNumber c; pure (none, c)
        else if b = openList || b = openObject then pure (some b, c.bump)
        else throw (c.peekFault .expectedValue)
    let (next, c) ← match opened with
      | some b => closeFrames c.rest.length frames b false c
      | none => match frames with
        | g :: gs => closeFrames c.rest.length gs g true c
        | [] => pure (none, c)
    match next with
    | none => pure c
    | some (frame, rest) =>
      let c ← if frame = openObject then skipKey c else pure c
      skipLoop f (frame :: rest) c

/-- Reads past one value of any form. -/
def skipValue (c : Cursor) : Except Fault Cursor := skipLoop (2 * c.rest.length + 2) [] c

end Typeahead.Json
