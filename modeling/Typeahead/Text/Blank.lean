-- Blanks are the characters of the Unicode White_Space property. Trimming
-- drops them at both ends, and `words` cuts a text at every run of them,
-- keeping no empty word.

namespace Typeahead.Text

/-- A character of the Unicode White_Space property. -/
def isBlank (c : Char) : Bool :=
  let n := c.toNat
  (0x09 ≤ n && n ≤ 0x0D) || n == 0x20 || n == 0x85 || n == 0xA0 || n == 0x1680 ||
    (0x2000 ≤ n && n ≤ 0x200A) || n == 0x2028 || n == 0x2029 || n == 0x202F ||
    n == 0x205F || n == 0x3000

/-- The text without its leading blanks. -/
def trimStart (cs : List Char) : List Char := cs.dropWhile isBlank

/-- The text without its trailing blanks. -/
def trimEnd (cs : List Char) : List Char := (cs.reverse.dropWhile isBlank).reverse

/-- The text without blanks at either end. -/
def trim (cs : List Char) : List Char := trimEnd (trimStart cs)

/-- The same trim on a `String`. -/
def trimString (s : String) : String := String.ofList (trim s.toList)

/-- A text that holds blanks only, or nothing. -/
def IsBlankText (cs : List Char) : Prop := ∀ c ∈ cs, isBlank c = true

/-- Cuts the text at blanks; `acc` is the current word, reversed. -/
def wordsFrom : List Char → List Char → List (List Char)
  | [], acc => if acc.isEmpty then [] else [acc.reverse]
  | c :: r, acc =>
    if isBlank c then
      if acc.isEmpty then wordsFrom r [] else acc.reverse :: wordsFrom r []
    else wordsFrom r (c :: acc)

/-- The words of a text: the maximal runs of characters that are not blanks. -/
def words (cs : List Char) : List (List Char) := wordsFrom cs []

/-- The words of a `String`, as strings. -/
def wordsOf (s : String) : List String := (words s.toList).map String.ofList

theorem trim_nil : trim [] = [] := rfl

theorem words_nil : words [] = [] := rfl

end Typeahead.Text
