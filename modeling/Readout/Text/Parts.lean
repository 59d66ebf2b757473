/-
# Parts of a text between separators

A text with n separators has n + 1 parts, some of which may be empty; putting the separators back
between them gives the text again.
-/

namespace Readout.Text

/-- The parts of a text between separators. -/
def parts (separator : Char) : List Char → List (List Char)
  | [] => [[]]
  | c :: cs =>
    if c = separator then [] :: parts separator cs
    else
      match parts separator cs with
      | [] => [[c]]
      | part :: more => (c :: part) :: more

theorem parts_ne_nil (separator : Char) (cs : List Char) : parts separator cs ≠ [] := by
  cases cs with
  | nil => simp [parts]
  | cons c cs =>
    unfold parts
    split
    · simp
    · split <;> simp

/-- **The parts are those of the text, with nothing lost.** -/
theorem intercalate_parts (separator : Char) (cs : List Char) :
    [separator].intercalate (parts separator cs) = cs := by
  induction cs with
  | nil => simp [parts, List.intercalate]
  | cons c cs ih =>
    have hne := parts_ne_nil separator cs
    unfold parts
    split
    · rename_i h
      subst h
      cases hp : parts c cs with
      | nil => exact absurd hp hne
      | cons p ps =>
        rw [hp] at ih
        simp only [List.intercalate, List.intersperse_cons_cons, List.flatten_cons, List.nil_append] at ih ⊢
        rw [ih]
        rfl
    · split
      · rename_i hp
        exact absurd hp hne
      · rename_i p ps hp
        rw [hp] at ih
        cases ps with
        | nil => simpa [List.intercalate] using ih
        | cons q qs =>
          simp only [List.intercalate, List.intersperse_cons_cons, List.flatten_cons, List.cons_append,
            List.cons.injEq, true_and] at ih ⊢
          exact ih

end Readout.Text
