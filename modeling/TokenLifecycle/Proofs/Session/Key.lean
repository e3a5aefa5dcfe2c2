import Mathlib.Tactic
import TokenLifecycle.Proofs.Numeral.Decimal
import TokenLifecycle.Session.Key

/-!
# Session keys tell principals apart

A numeral has no colon, so the last colon of a key is the one between the namespace and the
principal. Neither a colon nor digits in the namespace make two keys coincide.
-/

namespace TokenLifecycle.Session

/-- A list falls apart in one way only at the last place of an item. -/
private theorem append_cons_injective {α : Type} {a : α} {front front' back back' : List α}
    (absent : a ∉ back) (absent' : a ∉ back')
    (same : front ++ a :: back = front' ++ a :: back') : front = front' ∧ back = back' := by
  rcases List.append_eq_append_iff.mp same with ⟨gap, rfl, tail⟩ | ⟨gap, rfl, tail⟩
  · cases gap with
    | nil => exact ⟨by simp, (List.cons.inj tail).2⟩
    | cons b gap =>
        obtain ⟨-, rfl⟩ := List.cons.inj tail
        simp at absent
  · cases gap with
    | nil => exact ⟨by simp, (List.cons.inj tail).2.symm⟩
    | cons b gap =>
        obtain ⟨-, rfl⟩ := List.cons.inj tail
        simp at absent'

theorem colon_notMem_ofInt (n : Int) : ':' ∉ (Numeral.ofInt n).toList := by
  intro member
  rcases Numeral.isDigit_or_sign_of_mem_ofInt member with digit | sign
  · exact absurd digit (by decide)
  · exact absurd sign (by decide)

/-- A key determines its namespace and its principal. -/
theorem key_injective {space space' : String} {uid uid' : Int64}
    (same : key space uid = key space' uid') : space = space' ∧ uid = uid' := by
  have lists := congrArg String.toList same
  simp only [key, String.toList_append, List.append_assoc] at lists
  obtain ⟨spaces, numerals⟩ :=
    append_cons_injective (colon_notMem_ofInt _) (colon_notMem_ofInt _) lists
  have principals := Numeral.ofInt_injective (String.toList_injective numerals)
  exact ⟨String.toList_injective spaces, Int64.toInt_inj.mp principals⟩

end TokenLifecycle.Session
