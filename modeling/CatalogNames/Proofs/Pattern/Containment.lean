import CatalogNames.Proofs.Pattern.Open

/-! Patterns that are matched against patterns. A pattern is a text as well, in which a wildcard is a character
like any other. It stands for itself, since each of its wildcards may give way to a wildcard. Whatever gives
way to a text of the pattern may give way to each text that the pattern stands for, so a pattern that
matches another one matches all that this one matches. -/

namespace CatalogNames.Pattern

theorem expands_self (pattern : Text) : Expands pattern pattern := by
  induction pattern with
  | nil => exact .nil
  | cons char pattern ih =>
      by_cases wild : char = wildcard
      · subst wild
        exact .fill [wildcard] ih
      · exact .keep wild ih

theorem expands_trans (outer inner text : Text) (between : Expands outer inner)
    (expands : Expands inner text) : Expands outer text := by
  induction between generalizing text with
  | nil => exact expands
  | fill filling later ih =>
      -- What the filling stands for is a filling again.
      obtain ⟨front, rest, rfl, -, follows⟩ := (expands_append_iff filling _ text).mp expands
      exact .fill front (ih rest follows)
  | keep plain later ih =>
      obtain ⟨rest, rfl, follows⟩ := (expands_plain_iff _ _ text plain).mp expands
      exact .keep plain (ih rest follows)

/-- Matching is a preorder on patterns, and it tells whether one pattern contains another one. -/
theorem matchesText_contains_iff (inner outer : Text) :
    (Pattern.mk inner).matchesText inner = true ∧
      (∀ widest : Text, (Pattern.mk outer).matchesText inner = true →
        (Pattern.mk widest).matchesText outer = true →
        (Pattern.mk widest).matchesText inner = true) ∧
      ((Pattern.mk outer).matchesText inner = true ↔
        ∀ text, (Pattern.mk inner).matchesText text = true →
          (Pattern.mk outer).matchesText text = true) := by
  simp only [matchesText_iff_expands]
  refine ⟨expands_self inner, fun widest first second => expands_trans widest outer inner second first,
    ?_, ?_⟩
  · intro between text expands
    exact expands_trans outer inner text between expands
  · intro contains
    exact contains inner (expands_self inner)

/-- The wildcard of the inner pattern is a plain character there, and a wildcard takes it in. What stands
for it need not end as the narrower pattern does. -/
theorem matchesText_contains_iff_at_ending :
    (∀ text, (Pattern.mk "a%b".toList).matchesText text = true →
        (Pattern.mk "a%".toList).matchesText text = true) ∧
      ¬∀ text, (Pattern.mk "a%".toList).matchesText text = true →
        (Pattern.mk "a%b".toList).matchesText text = true :=
  ⟨(matchesText_contains_iff "a%b".toList "a%".toList).2.2.mp rfl,
    mt (matchesText_contains_iff "a%".toList "a%b".toList).2.2.mpr (by decide)⟩

end CatalogNames.Pattern
