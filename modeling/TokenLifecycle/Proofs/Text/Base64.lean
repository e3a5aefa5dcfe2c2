import Mathlib.Tactic
import TokenLifecycle.Text.Base64

/-!
# Base 64 reads back

What is written in the alphabet for addresses is read back, and holds nothing but digits of that
alphabet. Nothing else is read: digits stand for bytes only if they are what is written for them.
-/

namespace TokenLifecycle.Text.Base64

/-- A digit stands for the number that it was written for. -/
theorem value?_digit {n : Nat} (small : n < 64) : address.value? (address.digit n) = some n := by
  interval_cases n <;> rfl

/-- What separates the parts of a token is no digit. -/
theorem digit_ne_point {n : Nat} (small : n < 64) : address.digit n ≠ 46 := by
  interval_cases n <;> decide

theorem digit_lt {n : Nat} (small : n < 64) : address.digit n < 128 := by
  interval_cases n <;> decide

/-- A character that a digit is written with: a letter, a numeral, a hyphen or an underscore. -/
def IsDigit (c : Char) : Prop :=
  c.isAlphanum = true ∨ c = '-' ∨ c = '_'

instance (c : Char) : Decidable (IsDigit c) :=
  inferInstanceAs (Decidable (_ ∨ _))

theorem isDigit_digit {n : Nat} (small : n < 64) :
    IsDigit (Char.ofNat (address.digit n).toNat) := by
  interval_cases n <;> decide

/-- The numbers behind the digits of a string of bytes, six bits each. -/
def sextets : Bytes → List Nat
  | [] => []
  | [x] => [x.toNat / 4, x.toNat % 4 * 16]
  | [x, y] => [x.toNat / 4, x.toNat % 4 * 16 + y.toNat / 16, y.toNat % 16 * 4]
  | x :: y :: z :: rest =>
    x.toNat / 4 :: (x.toNat % 4 * 16 + y.toNat / 16) ::
      (y.toNat % 16 * 4 + z.toNat / 64) :: (z.toNat % 64) :: sextets rest

theorem encode_eq_map_sextets (a : Alphabet) (bs : Bytes) :
    encode a bs = (sextets bs).map a.digit := by
  fun_induction sextets bs with
  | case1 => rfl
  | case2 x => rfl
  | case3 x y => rfl
  | case4 x y z rest ih => simp [encode, ih]

theorem lt_of_mem_sextets {bs : Bytes} {n : Nat} (member : n ∈ sextets bs) : n < 64 := by
  fun_induction sextets bs with
  | case1 => simp at member
  | case2 x =>
      have := x.toNat_lt
      simp only [List.mem_cons, List.not_mem_nil, or_false] at member
      omega
  | case3 x y =>
      have := x.toNat_lt
      have := y.toNat_lt
      simp only [List.mem_cons, List.not_mem_nil, or_false] at member
      omega
  | case4 x y z rest ih =>
      have := x.toNat_lt
      have := y.toNat_lt
      have := z.toNat_lt
      simp only [List.mem_cons] at member
      rcases member with rfl | rfl | rfl | rfl | later
      · omega
      · omega
      · omega
      · omega
      · exact ih later

/-- Every digit is that of a number of six bits. -/
theorem exists_digit_of_mem_encode {bs : Bytes} {b : UInt8} (member : b ∈ encode address bs) :
    ∃ n < 64, b = address.digit n := by
  rw [encode_eq_map_sextets, List.mem_map] at member
  obtain ⟨n, inside, rfl⟩ := member
  exact ⟨n, lt_of_mem_sextets inside, rfl⟩

theorem point_notMem_encode (bs : Bytes) : 46 ∉ encode address bs := by
  intro member
  obtain ⟨n, small, same⟩ := exists_digit_of_mem_encode member
  exact digit_ne_point small same.symm

theorem lt_of_mem_encode {bs : Bytes} {b : UInt8} (member : b ∈ encode address bs) : b < 128 := by
  obtain ⟨n, small, rfl⟩ := exists_digit_of_mem_encode member
  exact digit_lt small

theorem isDigit_of_mem_encode {bs : Bytes} {b : UInt8} (member : b ∈ encode address bs) :
    IsDigit (Char.ofNat b.toNat) := by
  obtain ⟨n, small, rfl⟩ := exists_digit_of_mem_encode member
  exact isDigit_digit small

/-- What is written is read back. -/
theorem decode?_encode (bs : Bytes) : decode? address (encode address bs) = some bs := by
  have byte {n : Nat} (x : UInt8) (same : n = x.toNat) : UInt8.ofNat n = x := by
    rw [same, UInt8.ofNat_toNat]
  fun_induction encode address bs with
  | case1 => rfl
  | case2 x =>
      have := x.toNat_lt
      rw [decode?, value?_digit (by omega), value?_digit (by omega)]
      have aligned : x.toNat % 4 * 16 % 16 = 0 := by omega
      simp only [Option.bind_eq_bind, Option.bind_some, aligned, ↓reduceIte]
      rw [byte x (by omega)]
  | case3 x y =>
      have := x.toNat_lt
      have := y.toNat_lt
      rw [decode?, value?_digit (by omega), value?_digit (by omega), value?_digit (by omega)]
      have aligned : y.toNat % 16 * 4 % 4 = 0 := by omega
      simp only [Option.bind_eq_bind, Option.bind_some, aligned, ↓reduceIte]
      rw [byte x (by omega), byte y (by omega)]
  | case4 x y z rest ih =>
      have := x.toNat_lt
      have := y.toNat_lt
      have := z.toNat_lt
      rw [decode?, value?_digit (by omega), value?_digit (by omega), value?_digit (by omega),
        value?_digit (by omega), ih]
      simp only [Option.bind_eq_bind, Option.bind_some, Option.pure_def]
      rw [byte x (by omega), byte y (by omega), byte z (by omega)]

/-! ### Only what is written is read -/

/-- A digit is the one that is written for the number that it stands for. -/
theorem digit_of_value? {b : UInt8} {n : Nat} (read : address.value? b = some n) :
    n < 64 ∧ address.digit n = b := by
  have bound := b.toNat_lt
  have byte {m : Nat} (same : m = b.toNat) : UInt8.ofNat m = b := by
    rw [same, UInt8.ofNat_toNat]
  simp only [Alphabet.value?, UInt8.le_iff_toNat_le] at read
  simp only [Alphabet.digit]
  split_ifs at read with capital small numeral minus underscore
  · obtain rfl := Option.some.inj read
    simp only [UInt8.reduceToNat] at capital
    refine ⟨by omega, ?_⟩
    rw [if_pos (by omega)]
    exact byte (by omega)
  · obtain rfl := Option.some.inj read
    simp only [UInt8.reduceToNat] at small
    refine ⟨by omega, ?_⟩
    rw [if_neg (by omega), if_pos (by omega)]
    exact byte (by omega)
  · obtain rfl := Option.some.inj read
    simp only [UInt8.reduceToNat] at numeral
    refine ⟨by omega, ?_⟩
    rw [if_neg (by omega), if_neg (by omega), if_pos (by omega)]
    exact byte (by omega)
  · obtain rfl := Option.some.inj read
    exact ⟨by decide, minus.symm⟩
  · obtain rfl := Option.some.inj read
    exact ⟨by decide, underscore.symm⟩

/-- Digits that stand for bytes are those that are written for them. -/
theorem encode_of_decode? {ds bs : Bytes} (read : decode? address ds = some bs) :
    encode address bs = ds := by
  have number {m : Nat} (small : m < 256) : (UInt8.ofNat m).toNat = m := by
    rw [UInt8.toNat_ofNat', Nat.mod_eq_of_lt small]
  fun_induction decode? address ds generalizing bs with
  | case1 =>
      obtain rfl := Option.some.inj read
      rfl
  | case2 => cases read
  | case3 p q =>
      simp only [Option.bind_eq_bind, Option.bind_eq_some_iff,
        Option.ite_none_right_eq_some] at read
      obtain ⟨a, first, b, second, aligned, same⟩ := read
      obtain ⟨a_lt, rfl⟩ := digit_of_value? first
      obtain ⟨b_lt, rfl⟩ := digit_of_value? second
      obtain rfl := Option.some.inj same
      have front : (a * 4 + b / 16) / 4 = a := by omega
      have back : (a * 4 + b / 16) % 4 * 16 = b := by omega
      rw [encode, number (by omega), front, back]
  | case4 p q r =>
      simp only [Option.bind_eq_bind, Option.bind_eq_some_iff,
        Option.ite_none_right_eq_some] at read
      obtain ⟨a, first, b, second, d, third, aligned, same⟩ := read
      obtain ⟨a_lt, rfl⟩ := digit_of_value? first
      obtain ⟨b_lt, rfl⟩ := digit_of_value? second
      obtain ⟨d_lt, rfl⟩ := digit_of_value? third
      obtain rfl := Option.some.inj same
      have front : (a * 4 + b / 16) / 4 = a := by omega
      have middle : (a * 4 + b / 16) % 4 * 16 + (b % 16 * 16 + d / 4) / 16 = b := by omega
      have back : (b % 16 * 16 + d / 4) % 16 * 4 = d := by omega
      rw [encode, number (by omega), number (by omega), front, middle, back]
  | case5 p q r s rest ih =>
      simp only [Option.bind_eq_bind, Option.bind_eq_some_iff, Option.pure_def] at read
      obtain ⟨a, first, b, second, d, third, e, fourth, tail, later, same⟩ := read
      obtain ⟨a_lt, rfl⟩ := digit_of_value? first
      obtain ⟨b_lt, rfl⟩ := digit_of_value? second
      obtain ⟨d_lt, rfl⟩ := digit_of_value? third
      obtain ⟨e_lt, rfl⟩ := digit_of_value? fourth
      obtain rfl := Option.some.inj same
      have front : (a * 4 + b / 16) / 4 = a := by omega
      have middle : (a * 4 + b / 16) % 4 * 16 + (b % 16 * 16 + d / 4) / 16 = b := by omega
      have middle' : (b % 16 * 16 + d / 4) % 16 * 4 + (d % 4 * 64 + e) / 64 = d := by omega
      have back : (d % 4 * 64 + e) % 64 = e := by omega
      rw [encode, number (by omega), number (by omega), number (by omega), ih later, front, middle,
        middle', back]

theorem decode?_eq_some_iff {ds bs : Bytes} :
    decode? address ds = some bs ↔ ds = encode address bs :=
  ⟨fun read => (encode_of_decode? read).symm, fun same => same ▸ decode?_encode bs⟩

end TokenLifecycle.Text.Base64
