import Mathlib.Tactic
import TokenLifecycle.Numeral.Decimal

/-!
# Decimal numerals read back

The digits of a number stand for that number and never begin with a superfluous zero, so a numeral
determines the integer that it was written for. A numeral that was read is written back as it was
exactly if it is canonical (`ofInt_eq_iff_canonical`).
-/

namespace TokenLifecycle.Numeral

theorem digitValue_digitChar {digit : Nat} (small : digit < 10) :
    digitValue (digitChar digit) = digit := by
  interval_cases digit <;> rfl

theorem isDigit_digitChar {digit : Nat} (small : digit < 10) :
    isDigit (digitChar digit) = true := by
  interval_cases digit <;> rfl

theorem digitChar_ne_zero {digit : Nat} (positive : 0 < digit) (small : digit < 10) :
    digitChar digit ≠ '0' := by
  interval_cases digit <;> decide

theorem value_snoc (front : List Char) (last : Char) :
    value (front ++ [last]) = 10 * value front + digitValue last := by
  simp [value, List.foldl_append]

/-- The digits of a number stand for it. -/
theorem value_digits (n : Nat) : value (digits n) = n := by
  fun_induction digits n with
  | case1 n small => simp [value, digitValue_digitChar small]
  | case2 n large ih =>
      rw [value_snoc, ih, digitValue_digitChar (Nat.mod_lt _ (by decide))]
      omega

theorem digits_ne_nil (n : Nat) : digits n ≠ [] := by
  rw [digits]
  split <;> simp

theorem isDigit_of_mem_digits {n : Nat} {c : Char} (member : c ∈ digits n) :
    isDigit c = true := by
  fun_induction digits n with
  | case1 n small =>
      obtain rfl := List.mem_singleton.mp member
      exact isDigit_digitChar small
  | case2 n large ih =>
      rcases List.mem_append.mp member with front | last
      · exact ih front
      · obtain rfl := List.mem_singleton.mp last
        exact isDigit_digitChar (Nat.mod_lt _ (by decide))

/-- Only the numeral of zero begins with a zero. -/
theorem head?_digits_ne_zero {n : Nat} (positive : 0 < n) : (digits n).head? ≠ some '0' := by
  fun_induction digits n with
  | case1 n small => simpa using digitChar_ne_zero positive small
  | case2 n large ih =>
      have front := ih (by omega)
      cases shape : digits (n / 10) with
      | nil => exact absurd shape (digits_ne_nil _)
      | cons first rest =>
          rw [shape] at front
          simpa using front

/-- A numeral of digits does not begin with anything else. -/
theorem digits_ne_cons {c : Char} (other : isDigit c = false) (n : Nat) (rest : List Char) :
    digits n ≠ c :: rest := by
  intro same
  have member : c ∈ digits n := same ▸ List.mem_cons_self
  rw [isDigit_of_mem_digits member] at other
  cases other

theorem digits_injective : Function.Injective digits := by
  intro m n same
  rw [← value_digits m, same, value_digits]

theorem toList_ofInt_natCast (n : Nat) : (ofInt (n : Int)).toList = digits n := by
  simp [ofInt, ofNat]

theorem toList_ofInt_negSucc (n : Nat) : (ofInt (.negSucc n)).toList = '-' :: digits (n + 1) := by
  simp [ofInt]

/-- A numeral determines its integer. -/
theorem ofInt_injective : Function.Injective ofInt := by
  have no_sign (m n : Nat) : digits m ≠ '-' :: digits n := digits_ne_cons (by decide) m _
  intro m n same
  have lists := congrArg String.toList same
  cases m with
  | ofNat m =>
      cases n with
      | ofNat n =>
          simp only [Int.ofNat_eq_natCast, toList_ofInt_natCast] at lists
          exact congrArg Int.ofNat (digits_injective lists)
      | negSucc n =>
          simp only [Int.ofNat_eq_natCast, toList_ofInt_natCast, toList_ofInt_negSucc] at lists
          exact absurd lists (no_sign _ _)
  | negSucc m =>
      cases n with
      | ofNat n =>
          simp only [Int.ofNat_eq_natCast, toList_ofInt_natCast, toList_ofInt_negSucc] at lists
          exact absurd lists.symm (no_sign _ _)
      | negSucc n =>
          simp only [toList_ofInt_negSucc, List.cons.injEq, true_and] at lists
          have := digits_injective lists
          simp_all

/-- A numeral is written with digits and perhaps a minus sign. -/
theorem isDigit_or_sign_of_mem_ofInt {n : Int} {c : Char} (member : c ∈ (ofInt n).toList) :
    isDigit c = true ∨ c = '-' := by
  cases n with
  | ofNat n =>
      rw [Int.ofNat_eq_natCast, toList_ofInt_natCast] at member
      exact .inl (isDigit_of_mem_digits member)
  | negSucc n =>
      rw [toList_ofInt_negSucc] at member
      rcases List.mem_cons.mp member with rfl | rest
      · exact .inr rfl
      · exact .inl (isDigit_of_mem_digits rest)

theorem nat?_digits (n : Nat) : nat? (digits n) = some (value (digits n)) := by
  have all_digits : (digits n).all isDigit = true :=
    List.all_eq_true.mpr fun _ member => isDigit_of_mem_digits member
  rw [nat?, all_digits, List.isEmpty_eq_false_iff.mpr (digits_ne_nil n)]
  rfl

/-- A numeral is read as the number that it was written for. -/
theorem unsigned?_ofNat (n : Nat) : unsigned? (ofNat n) = some n := by
  have read : nat? (digits n) = some n := by rw [nat?_digits, value_digits]
  rw [unsigned?, ofNat, String.toList_ofList]
  split
  · rename_i signed
    exact absurd signed (digits_ne_cons (by decide) n _)
  · exact read

theorem int?_ofInt (n : Int) : int? (ofInt n) = some n := by
  cases n with
  | ofNat n =>
      have read : nat? (digits n) = some n := by rw [nat?_digits, value_digits]
      rw [int?, Int.ofNat_eq_natCast, toList_ofInt_natCast]
      split
      · rename_i signed
        exact absurd signed (digits_ne_cons (by decide) n _)
      · rename_i signed
        exact absurd signed (digits_ne_cons (by decide) n _)
      · rw [read]
        rfl
  | negSucc n =>
      have read : nat? (digits (n + 1)) = some (n + 1) := by rw [nat?_digits, value_digits]
      rw [int?, toList_ofInt_negSucc]
      simp only [read]
      rfl

theorem int64?_ofInt (n : Int64) : int64? (ofInt n.toInt) = some n := by
  rw [int64?, int?_ofInt, Option.bind_some, toInt64?_toInt]

theorem uint64?_ofNat {n : Nat} (small : n < Nat.pow 2 64) :
    uint64? (ofNat n) = some (UInt64.ofNat n) := by
  have limit : Nat.pow 2 64 = 18446744073709551616 := rfl
  rw [uint64?, unsigned?_ofNat, Option.bind_some, toUInt64?, if_pos (by omega)]
  rfl

/-! ### Numerals that are written back -/

theorem digitChar_digitValue {c : Char} (digit : isDigit c = true) :
    digitChar (digitValue c) = c := by
  obtain ⟨low, high⟩ : '0' ≤ c ∧ c ≤ '9' := by simpa [isDigit] using digit
  have low : 48 ≤ c.toNat := low
  rw [digitChar, digitValue, Nat.add_sub_cancel' low, Char.ofNat_toNat]

theorem digitValue_lt {c : Char} (digit : isDigit c = true) : digitValue c < 10 := by
  obtain ⟨low, high⟩ : '0' ≤ c ∧ c ≤ '9' := by simpa [isDigit] using digit
  have high : c.toNat ≤ 57 := high
  rw [digitValue]
  omega

/-- Digits without a superfluous zero in front are those of the number that they stand for. -/
theorem digits_value {cs : List Char} (nonempty : cs ≠ []) (digit : ∀ c ∈ cs, isDigit c = true)
    (head : cs.head? ≠ some '0') : digits (value cs) = cs ∧ 0 < value cs := by
  -- By induction from the end: without its last digit the numeral has no zero in front either.
  induction cs using List.reverseRecOn with
  | nil => exact absurd rfl nonempty
  | append_singleton front last ih =>
      have last_digit : isDigit last = true := digit last (by simp)
      have small := digitValue_lt last_digit
      rw [value_snoc]
      cases front with
      | nil =>
          have same := digitChar_digitValue last_digit
          have positive : 0 < digitValue last := by
            by_contra zero
            have zero : digitValue last = 0 := by omega
            rw [zero] at same
            exact head (congrArg some same.symm)
          refine ⟨?_, by simpa [value] using positive⟩
          rw [digits, if_pos (by simpa [value] using small)]
          simpa [value] using same
      | cons first rest =>
          obtain ⟨same, positive⟩ :=
            ih (by simp) (fun c member => digit c (List.mem_append_left _ member)) head
          refine ⟨?_, by omega⟩
          have quotient : (10 * value (first :: rest) + digitValue last) / 10 =
              value (first :: rest) := by omega
          have remainder : (10 * value (first :: rest) + digitValue last) % 10 =
              digitValue last := by omega
          rw [digits, if_neg (by omega), quotient, remainder, same,
            digitChar_digitValue last_digit]

theorem digits_zero : digits 0 = ['0'] := by
  rw [digits, if_pos (by decide)]
  rfl

/-- Digits are those of the number that they stand for exactly if no superfluous zero is in
front. -/
theorem digits_value_eq_iff {cs : List Char} (nonempty : cs ≠ [])
    (digit : ∀ c ∈ cs, isDigit c = true) :
    digits (value cs) = cs ↔ cs = ['0'] ∨ cs.head? ≠ some '0' := by
  constructor
  · intro same
    by_cases positive : 0 < value cs
    · right
      rw [← same]
      exact head?_digits_ne_zero positive
    · left
      have zero : value cs = 0 := by omega
      rw [← same, zero, digits_zero]
  · rintro (rfl | head)
    · exact digits_zero
    · exact (digits_value nonempty digit head).1

theorem nat?_eq_some_iff {cs : List Char} {n : Nat} :
    nat? cs = some n ↔ (cs ≠ [] ∧ ∀ c ∈ cs, isDigit c = true) ∧ value cs = n := by
  rw [nat?]
  by_cases numeral : cs ≠ [] ∧ ∀ c ∈ cs, isDigit c = true
  · obtain ⟨nonempty, digit⟩ := numeral
    have all_digits : cs.all isDigit = true := List.all_eq_true.mpr digit
    rw [all_digits, List.isEmpty_eq_false_iff.mpr nonempty]
    exact ⟨fun read => ⟨⟨nonempty, digit⟩, Option.some.inj read⟩, fun read => congrArg some read.2⟩
  · rw [if_pos]
    · simp [numeral]
    · by_contra other
      simp only [Bool.or_eq_true, List.isEmpty_iff, Bool.not_eq_true', not_or,
        Bool.not_eq_false, List.all_eq_true] at other
      exact numeral other

/-- A numeral without a plus sign and without superfluous zeros; zero has no sign. -/
def Canonical (s : String) : Prop :=
  match s.toList with
  | '+' :: _ => False
  | '-' :: cs => cs.head? ≠ some '0'
  | cs => cs = ['0'] ∨ cs.head? ≠ some '0'

/-- A numeral is written the way it was read exactly if it is canonical. -/
theorem ofInt_eq_iff_canonical {s : String} {n : Int} (read : int? s = some n) :
    ofInt n = s ↔ Canonical s := by
  rw [int?] at read
  rw [← String.toList_inj]
  split at read
  · rename_i cs signed
    obtain ⟨m, -, rfl⟩ := Option.map_eq_some_iff.mp read
    rw [Canonical, signed, Int.ofNat_eq_natCast, toList_ofInt_natCast]
    simp [digits_ne_cons (c := '+') (by decide) m cs]
  · rename_i cs signed
    simp only [Option.map_eq_some_iff, Option.bind_eq_bind, Option.bind_eq_some_iff,
      Option.pure_def, Option.some.injEq] at read
    obtain ⟨_, ⟨m, digits_read, rfl⟩, rfl⟩ := read
    obtain ⟨⟨nonempty, digit⟩, rfl⟩ := nat?_eq_some_iff.mp digits_read
    rw [Canonical, signed]
    cases number : value cs with
    | zero =>
        have unsigned : (ofInt (-((0 : Nat) : Int))).toList = digits 0 := toList_ofInt_natCast 0
        have superfluous : cs.head? = some '0' := by
          by_contra head
          have positive := (digits_value nonempty digit head).2
          omega
        rw [unsigned]
        simp [digits_ne_cons (c := '-') (by decide) 0 cs, superfluous]
    | succ k =>
        have written : (ofInt (-((k + 1 : Nat) : Int))).toList = '-' :: digits (k + 1) :=
          toList_ofInt_negSucc k
        have not_zero : cs ≠ ['0'] := by
          rintro rfl
          cases number
        have same := digits_value_eq_iff nonempty digit
        rw [number] at same
        rw [written]
        simpa [not_zero] using same
  · rename_i no_plus no_minus
    obtain ⟨m, digits_read, rfl⟩ := Option.map_eq_some_iff.mp read
    obtain ⟨⟨nonempty, digit⟩, rfl⟩ := nat?_eq_some_iff.mp digits_read
    rw [Canonical, Int.ofNat_eq_natCast, toList_ofInt_natCast]
    split
    · rename_i cs signed
      exact absurd signed (no_plus cs)
    · rename_i cs signed
      exact absurd signed (no_minus cs)
    · exact digits_value_eq_iff nonempty digit

/-- So is a numeral of a signed word. -/
theorem ofInt_toInt_eq_iff_canonical {s : String} {n : Int64} (read : int64? s = some n) :
    ofInt n.toInt = s ↔ Canonical s := by
  obtain ⟨m, spelled, word⟩ := Option.bind_eq_some_iff.mp read
  have whole : n.toInt = m := by
    rw [toInt64?, Option.ite_none_right_eq_some] at word
    obtain ⟨⟨low, high⟩, same⟩ := word
    rw [← Option.some.inj same]
    exact Int64.toInt_ofInt_of_le low (by omega)
  rw [whole]
  exact ofInt_eq_iff_canonical spelled

/-! ### Narrowing -/

theorem ofInt_eq_of_toInt64? {n : Int} {word : Int64} (fits : toInt64? n = some word) :
    Int64.ofInt n = word := by
  rw [toInt64?, Option.ite_none_right_eq_some] at fits
  exact Option.some.inj fits.2

theorem ofNat_eq_of_toUInt64? {n : Nat} {word : UInt64} (fits : toUInt64? n = some word) :
    UInt64.ofNat n = word := by
  rw [toUInt64?, Option.ite_none_right_eq_some] at fits
  exact Option.some.inj fits.2

theorem ofNat_eq_of_toUInt32? {n : Nat} {word : UInt32} (fits : toUInt32? n = some word) :
    UInt32.ofNat n = word := by
  rw [toUInt32?, Option.ite_none_right_eq_some] at fits
  exact Option.some.inj fits.2

theorem ofNat_eq_of_toUInt8? {n : Nat} {word : UInt8} (fits : toUInt8? n = some word) :
    UInt8.ofNat n = word := by
  rw [toUInt8?, Option.ite_none_right_eq_some] at fits
  exact Option.some.inj fits.2

theorem toUInt32?_toNat (n : UInt32) : toUInt32? (n.toNat : Int) = some n := by
  have high := n.toNat_lt
  rw [toUInt32?, if_pos (by omega), Int.toNat_natCast, UInt32.ofNat_toNat]

theorem toUInt8?_toNat (n : UInt8) : toUInt8? (n.toNat : Int) = some n := by
  have high := n.toNat_lt
  rw [toUInt8?, if_pos (by omega), Int.toNat_natCast, UInt8.ofNat_toNat]

end TokenLifecycle.Numeral
