-- Quoting a text for a message: the text between double quotes, with a
-- backslash before a quote or a backslash, the usual short escapes for tab,
-- return, newline and NUL, and `\u{…}` in lower-case hex for a character
-- that does not print as itself or that extends the one before it.
import Typeahead.Text.Classes

namespace Typeahead.Text

/-- The lower-case hex digits of a number, without leading zeros. -/
def lowerHex (n : Nat) : List Char := (Nat.toDigits 16 n)

/-- How one character is written inside a quoted text. -/
def quoteChar (c : Char) : List Char :=
  match c with
  | '\x00' => ['\\', '0']
  | '\t' => ['\\', 't']
  | '\r' => ['\\', 'r']
  | '\n' => ['\\', 'n']
  | '\\' => ['\\', '\\']
  | '"' => ['\\', '"']
  | _ =>
    if isExtending c || !isPrintable c then ['\\', 'u', '\x7b'] ++ lowerHex c.toNat ++ ['\x7d']
    else [c]

/-- A text between double quotes, escaped as `quoteChar` says. -/
def quote (s : String) : String := String.ofList ('"' :: s.toList.flatMap quoteChar ++ ['"'])

theorem quoteChar_quote : quoteChar '"' = ['\\', '"'] := rfl

end Typeahead.Text
