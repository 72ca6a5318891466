import CatalogNames.Text.Basic

/-! Cutting a text at a separator. A bounded cut makes at most so many cuts, from the left, and
leaves later separators in the last part; joining the parts again gives the text back. -/

namespace CatalogNames.Text

/-- The parts before and after the first separator, when there is one. -/
def cut? (separator : Char) : Text → Option (Text × Text)
  | [] => none
  | head :: rest =>
      if head = separator then some ([], rest)
      else (cut? separator rest).map fun parts => (head :: parts.1, parts.2)

/-- The parts of a text that is cut at its first separators, at most the given number of times. -/
def splitAtMost (separator : Char) : Nat → Text → List Text
  | 0, text => [text]
  | cuts + 1, text =>
      match cut? separator text with
      | none => [text]
      | some (before, after) => before :: splitAtMost separator cuts after

def join (separator : Char) (parts : List Text) : Text := [separator].intercalate parts

theorem cut?_eq_some {separator : Char} {text before after : Text}
    (found : cut? separator text = some (before, after)) :
    text = before ++ separator :: after ∧ separator ∉ before := by
  induction text generalizing before with
  | nil => simp [cut?] at found
  | cons head rest ih =>
      simp only [cut?] at found
      split at found
      next same => simp_all
      next differs =>
        simp only [Option.map_eq_some_iff, Prod.exists, Prod.mk.injEq] at found
        obtain ⟨first, second, inner, rfl, rfl⟩ := found
        obtain ⟨split, absent⟩ := ih inner
        exact ⟨by rw [split]; rfl, by simp [absent, Ne.symm differs]⟩

theorem splitAtMost_ne_nil (separator : Char) (cuts : Nat) (text : Text) :
    splitAtMost separator cuts text ≠ [] := by
  cases cuts with
  | zero => simp [splitAtMost]
  | succ cuts => simp only [splitAtMost]; split <;> simp

theorem join_splitAtMost (separator : Char) (cuts : Nat) (text : Text) :
    join separator (splitAtMost separator cuts text) = text := by
  induction cuts generalizing text with
  | zero => simp [splitAtMost, join]
  | succ cuts ih =>
      simp only [splitAtMost]
      split
      next => simp [join]
      next before after found =>
        have parts := ih after
        unfold join at parts ⊢
        rw [List.intercalate_cons_of_ne_nil (splitAtMost_ne_nil separator cuts after), parts,
          (cut?_eq_some found).1]
        simp

end CatalogNames.Text
