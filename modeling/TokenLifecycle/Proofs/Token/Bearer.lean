import Mathlib.Data.List.TakeWhile
import Mathlib.Tactic
import TokenLifecycle.Token.Bearer

/-!
# What a bearer header carries

A header is read by its first space. So it carries a token exactly when it is the word `Bearer`, one
space and the token, and there is no other space in it.
-/

namespace TokenLifecycle.Bearer

/-- The header is the word `Bearer`, one space and the token; the token is not empty and has no
space in it. -/
structure Carries (header t : String) : Prop where
  spelled : header = "Bearer " ++ t
  nonempty : t ≠ ""
  spaceless : ' ' ∉ t.toList

private theorem not_space {front : List Char} (spaceless : ' ' ∉ front) :
    ∀ c ∈ front, decide (c ≠ ' ') = true := by
  intro c member
  refine decide_eq_true ?_
  rintro rfl
  exact spaceless member

/-- A header with a space is judged by what is before its first space and what is behind it. -/
theorem token_of_space {header : String} {front back : List Char}
    (whole : header.toList = front ++ ' ' :: back) (spaceless : ' ' ∉ front) :
    token header =
      if front = scheme.toList ∧ back ≠ [] ∧ ' ' ∉ back then .ok (String.ofList back)
      else refuse .invalidTokenFormat := by
  have before : header.toList.takeWhile (· ≠ ' ') = front := by
    rw [whole, List.takeWhile_append_of_pos (not_space spaceless)]
    simp
  have behind : header.toList.dropWhile (· ≠ ' ') = ' ' :: back := by
    rw [whole, List.dropWhile_append_of_pos (not_space spaceless)]
    simp
  rw [token, before, behind]

theorem token_of_spaceless {header : String} (spaceless : ' ' ∉ header.toList) :
    token header = refuse .invalidTokenFormat := by
  have behind : header.toList.dropWhile (· ≠ ' ') = [] :=
    List.dropWhile_eq_nil_iff.mpr (not_space spaceless)
  rw [token, behind]

/-- The token of a header is the one that it carries. -/
theorem token_eq_ok_iff {header t : String} : token header = .ok t ↔ Carries header t := by
  constructor
  · intro found
    by_cases space : ' ' ∈ header.toList
    · obtain ⟨front, back, whole, spaceless⟩ := List.eq_append_cons_of_mem space
      rw [token_of_space whole spaceless] at found
      split_ifs at found with shape
      · obtain ⟨rfl, filled, single⟩ := shape
        obtain rfl := Except.ok.inj found
        refine ⟨?_, by simpa using filled, by simpa using single⟩
        rw [← String.toList_inj, whole]
        simp [scheme]
      · cases found
    · rw [token_of_spaceless space] at found
      cases found
  · rintro ⟨rfl, nonempty, spaceless⟩
    have whole : ("Bearer " ++ t).toList = scheme.toList ++ ' ' :: t.toList := by simp [scheme]
    rw [token_of_space whole (by decide), if_pos ⟨rfl, by simpa using nonempty, spaceless⟩,
      String.ofList_toList]

/-- Either a header carries a token, which is found, or it is refused for its format. -/
theorem token_cases (header : String) :
    (∃ t, Carries header t ∧ token header = .ok t) ∨
      ((∀ t, ¬Carries header t) ∧ token header = refuse .invalidTokenFormat) := by
  have outcome : (∃ t, token header = .ok t) ∨ token header = refuse .invalidTokenFormat := by
    unfold token
    split
    · split_ifs
      · exact .inl ⟨_, rfl⟩
      · exact .inr rfl
    · exact .inr rfl
  rcases outcome with ⟨t, found⟩ | refused
  · exact .inl ⟨t, token_eq_ok_iff.mp found, found⟩
  · refine .inr ⟨fun t carried => ?_, refused⟩
    cases refused.symm.trans (token_eq_ok_iff.mpr carried)

end TokenLifecycle.Bearer
