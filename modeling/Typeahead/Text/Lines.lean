-- Lines of a text: cut after each newline, a return just before the
-- newline dropped, and no empty last line after a final newline.

namespace Typeahead.Text

/-- The line that ends at the next newline, and what follows that newline. -/
def lineAndRest : List Char → List Char × Option (List Char)
  | [] => ([], none)
  | c :: rest =>
    if c = '\n' then ([], some rest)
    else
      let p := lineAndRest rest
      (c :: p.1, p.2)

/-- A line ended by a newline loses a return before it. -/
def dropReturn (l : List Char) : List Char :=
  if l.getLast? = some '\r' then l.dropLast else l

theorem lineAndRest_length (cs : List Char) :
    ∀ r, (lineAndRest cs).2 = some r → r.length < cs.length := by
  induction cs with
  | nil => simp [lineAndRest]
  | cons c cs ih =>
    intro r h
    by_cases hc : c = '\n'
    · simp [lineAndRest, hc] at h
      subst h
      simp
    · simp only [lineAndRest, hc, if_false] at h
      have := ih r h
      simp only [List.length_cons]
      omega

/-- The lines of a text. -/
def lines (cs : List Char) : List (List Char) :=
  if cs = [] then []
  else
    match h : lineAndRest cs with
    | (l, none) => [l]
    | (l, some rest) =>
      have : rest.length < cs.length := lineAndRest_length cs rest (by rw [h])
      dropReturn l :: lines rest
termination_by cs.length

end Typeahead.Text
