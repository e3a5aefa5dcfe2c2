import Mathlib
import TokenLifecycle.Text.LetterCase

/-!
# Spellings of words

A word that is matched without regard to case is spelt with small and capital letters. The Kelvin
sign is a further spelling of `k` alone, so a word without that letter has finitely many spellings
(`mem_spellings`).
-/

namespace TokenLifecycle.Text

/-- All ways to spell a word in small and capital letters. -/
def spellings (word : List Char) : List (List Char) :=
  word.foldr (fun letter rest => rest.flatMap fun cs => [letter :: cs, letter.toUpper :: cs]) [[]]

theorem eq_or_eq_toUpper_of_lowerChar {c letter : Char} (other : letter ≠ 'k')
    (lower : lowerChar c = letter) : c = letter ∨ c = letter.toUpper := by
  rw [lowerChar] at lower
  split at lower
  · exact absurd lower.symm other
  · subst lower
    by_cases capital : c.isUpper
    · right
      rw [Char.toUpper_toLower_eq_toUpper,
        Char.toUpper_eq_of_not_isLower (Char.not_isLower_of_isUpper capital)]
    · left
      rw [Char.toLower_eq_of_not_isUpper capital]

/-- What is read as a word is one of its spellings. -/
theorem mem_spellings {word cs : List Char} (other : 'k' ∉ word)
    (lower : cs.map lowerChar = word) : cs ∈ spellings word := by
  induction word generalizing cs with
  | nil =>
      obtain rfl := List.map_eq_nil_iff.mp lower
      simp [spellings]
  | cons letter rest ih =>
      obtain ⟨c, tail, rfl, first, tail_lower⟩ := List.map_eq_cons_iff.mp lower
      have inside := ih (fun member => other (List.mem_cons_of_mem _ member)) tail_lower
      have apart : letter ≠ 'k' := by
        rintro rfl
        exact other List.mem_cons_self
      refine List.mem_flatMap.mpr ⟨tail, inside, ?_⟩
      rcases eq_or_eq_toUpper_of_lowerChar apart first with rfl | rfl <;> simp

end TokenLifecycle.Text
