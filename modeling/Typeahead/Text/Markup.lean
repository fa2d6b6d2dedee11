-- Plain text from a markup fragment: tags are dropped, six common
-- entities are decoded one after another, and blank runs become single
-- spaces with none at either end.
import Typeahead.Text.Blank
import Typeahead.Text.Replace

namespace Typeahead.Text

/-- Drops every span from a `<` to the next `>`; an unclosed `<` drops the
rest, and a `>` outside a tag stays. -/
def dropTags (inTag : Bool) : List Char → List Char
  | [] => []
  | c :: cs =>
    if c = '<' then dropTags true cs
    else if c = '>' && inTag then dropTags false cs
    else if inTag then dropTags inTag cs
    else c :: dropTags inTag cs

/-- The entities decoded, in the order they are replaced, each over the whole text. -/
def entities : List (List Char × List Char) :=
  [("&nbsp;".toList, [' ']), ("&lt;".toList, ['<']), ("&gt;".toList, ['>']),
   ("&quot;".toList, ['"']), ("&#39;".toList, [Char.ofNat 39]), ("&amp;".toList, ['&'])]

/-- Decodes the entities, one replacement pass per entity. -/
def decodeEntities (cs : List Char) : List Char :=
  entities.foldl (fun acc e => replace e.1 e.2 acc) cs

/-- The words of a text joined by single spaces. -/
def collapseBlanks (cs : List Char) : List Char := [' '].intercalate (words cs)

/-- The plain text of a markup fragment. -/
def stripMarkup (s : String) : String :=
  String.ofList (collapseBlanks (decodeEntities (dropTags false s.toList)))

end Typeahead.Text
