-- Replacing a pattern in a text: every occurrence, found left to right,
-- and an occurrence never overlaps the one before it.

namespace Typeahead.Text

/-- Replaces every occurrence of the pattern `p :: ps` by `rep`, scanning left to right. -/
def replaceAll (p : Char) (ps : List Char) (rep : List Char) : List Char → List Char
  | [] => []
  | c :: cs =>
    if c = p && ps.isPrefixOf cs then rep ++ replaceAll p ps rep (cs.drop ps.length)
    else c :: replaceAll p ps rep cs
termination_by cs => cs.length
decreasing_by
  · simp only [List.length_drop, List.length_cons]; omega
  · simp

/-- Replaces every occurrence of a non-empty pattern; an empty pattern changes nothing. -/
def replace (pat rep : List Char) (cs : List Char) : List Char :=
  match pat with
  | [] => cs
  | p :: ps => replaceAll p ps rep cs

theorem replace_nil_pattern (rep cs : List Char) : replace [] rep cs = cs := rfl

end Typeahead.Text
