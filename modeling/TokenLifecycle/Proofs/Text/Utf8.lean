import Mathlib.Tactic
import TokenLifecycle.Text.Utf8

/-!
# Bytes that are a text

The bytes of a text are those of its characters one after the other: a single byte below 128 for a
character of ASCII, and bytes from 128 on for any other. So a text stays one when other texts are
put for its bytes of ASCII, and nothing else is changed.
-/

namespace TokenLifecycle.Text

/-- The bytes are those of a text. -/
def Encoded (bs : Bytes) : Prop :=
  ∃ s : String, bytes s = bs

theorem bytes_ofList (cs : List Char) :
    bytes (String.ofList cs) = cs.flatMap String.utf8EncodeChar := by
  simp [bytes, List.utf8Encode]

theorem bytes_injective : Function.Injective bytes := by
  intro s s' same
  have read := ofBytes?_bytes s
  rw [same, ofBytes?_bytes] at read
  exact (Option.some.inj read).symm

/-- What is read from bytes has these bytes. -/
theorem bytes_of_ofBytes? {bs : Bytes} {s : String} (found : ofBytes? bs = some s) :
    bytes s = bs := by
  unfold ofBytes? String.fromUTF8? at found
  split at found
  · obtain rfl := Option.some.inj found
    rfl
  · cases found

/-- Characters with the same bytes are the same. -/
theorem utf8EncodeChar_injective : Function.Injective String.utf8EncodeChar := by
  intro c c' same
  have texts : String.ofList [c] = String.ofList [c'] := by
    refine bytes_injective ?_
    rw [bytes_ofList, bytes_ofList, List.flatMap_singleton, List.flatMap_singleton, same]
  exact List.singleton_inj.mp (String.ofList_injective texts)

theorem encoded_iff {bs : Bytes} :
    Encoded bs ↔ ∃ cs : List Char, cs.flatMap String.utf8EncodeChar = bs := by
  constructor
  · rintro ⟨s, rfl⟩
    exact ⟨s.toList, by rw [← bytes_ofList, String.ofList_toList]⟩
  · rintro ⟨cs, rfl⟩
    exact ⟨String.ofList cs, bytes_ofList cs⟩

theorem encoded_bytes (s : String) : Encoded (bytes s) :=
  ⟨s, rfl⟩

theorem encoded_nil : Encoded [] :=
  encoded_iff.mpr ⟨[], rfl⟩

theorem Encoded.append {front back : Bytes} (front_encoded : Encoded front)
    (back_encoded : Encoded back) : Encoded (front ++ back) := by
  obtain ⟨cs, rfl⟩ := encoded_iff.mp front_encoded
  obtain ⟨cs', rfl⟩ := encoded_iff.mp back_encoded
  exact encoded_iff.mpr ⟨cs ++ cs', List.flatMap_append⟩

theorem encoded_flatMap {α : Type} {f : α → Bytes} {parts : List α}
    (encoded : ∀ part ∈ parts, Encoded (f part)) : Encoded (parts.flatMap f) := by
  induction parts with
  | nil => exact encoded_nil
  | cons part parts ih =>
      rw [List.flatMap_cons]
      exact (encoded part List.mem_cons_self).append
        (ih fun later member => encoded later (List.mem_cons_of_mem part member))

/-! ### Bytes of ASCII and others -/

private theorem le_ofNat {n : Nat} (low : 128 ≤ n) (high : n < 256) :
    (128 : UInt8) ≤ UInt8.ofNat n := by
  rw [UInt8.le_iff_toNat_le, UInt8.toNat_ofNat']
  exact low.trans_eq (Nat.mod_eq_of_lt high).symm

/-- A character of ASCII is one byte, and every other one is bytes from 128 on. -/
theorem utf8EncodeChar_cases (c : Char) :
    (∃ b : UInt8, b < 128 ∧ String.utf8EncodeChar c = [b]) ∨
      ∀ b ∈ String.utf8EncodeChar c, 128 ≤ b := by
  fun_cases String.utf8EncodeChar c with
  | case1 v small =>
      refine .inl ⟨UInt8.ofNat v, ?_, rfl⟩
      rw [UInt8.lt_iff_toNat_lt, UInt8.toNat_ofNat', Nat.mod_eq_of_lt (by omega)]
      exact Nat.lt_succ_of_le small
  | case2 v =>
      refine .inr ?_
      simp only [List.forall_mem_cons]
      exact ⟨le_ofNat (by omega) (by omega), le_ofNat (by omega) (by omega), nofun⟩
  | case3 v =>
      refine .inr ?_
      simp only [List.forall_mem_cons]
      exact ⟨le_ofNat (by omega) (by omega), le_ofNat (by omega) (by omega),
        le_ofNat (by omega) (by omega), nofun⟩
  | case4 v =>
      refine .inr ?_
      simp only [List.forall_mem_cons]
      exact ⟨le_ofNat (by omega) (by omega), le_ofNat (by omega) (by omega),
        le_ofNat (by omega) (by omega), le_ofNat (by omega) (by omega), nofun⟩

/-- A byte below 128 is the code of a character. -/
theorem utf8EncodeChar_ascii {b : UInt8} (ascii : b < 128) :
    String.utf8EncodeChar (Char.ofNat b.toNat) = [b] := by
  have single : ∀ n < 128, String.utf8EncodeChar (Char.ofNat n) = [UInt8.ofNat n] := by decide
  rw [single b.toNat (UInt8.lt_iff_toNat_lt.mp ascii), UInt8.ofNat_toNat]

/-- The bytes of a text in ASCII are the codes of its characters. -/
theorem bytes_ofList_ascii {bs : Bytes} (ascii : ∀ b ∈ bs, b < 128) :
    bytes (String.ofList (bs.map fun b => Char.ofNat b.toNat)) = bs := by
  rw [bytes_ofList, List.flatMap_map,
    List.flatMap_congr fun b member => utf8EncodeChar_ascii (ascii b member),
    List.flatMap_singleton']

/-- A byte below 128 is the character that it is the code of, and no part of another one. -/
theorem count_utf8EncodeChar {b : UInt8} (ascii : b < 128) (c : Char) :
    (String.utf8EncodeChar c).count b = if c = Char.ofNat b.toNat then 1 else 0 := by
  split_ifs with same
  · rw [same, utf8EncodeChar_ascii ascii, List.count_singleton_self]
  · rw [List.count_eq_zero]
    intro member
    rcases utf8EncodeChar_cases c with ⟨b', _, single⟩ | large
    · obtain rfl := List.mem_singleton.mp (single ▸ member)
      exact same (utf8EncodeChar_injective (single.trans (utf8EncodeChar_ascii ascii).symm))
    · exact absurd ascii (UInt8.not_lt.mpr (large b member))

/-- A byte below 128 occurs in a text as often as the character that it is the code of. -/
theorem count_bytes {b : UInt8} (ascii : b < 128) (s : String) :
    (bytes s).count b = s.toList.count (Char.ofNat b.toNat) := by
  obtain ⟨cs, rfl⟩ : ∃ cs, String.ofList cs = s := ⟨s.toList, String.ofList_toList⟩
  rw [bytes_ofList, String.toList_ofList]
  induction cs with
  | nil => rfl
  | cons c cs ih =>
      rw [List.flatMap_cons, List.count_append, ih, count_utf8EncodeChar ascii, List.count_cons,
        Nat.add_comm]
      simp only [beq_iff_eq]

theorem encoded_of_ascii {bs : Bytes} (ascii : ∀ b ∈ bs, b < 128) : Encoded bs := by
  rw [← bytes_ofList_ascii ascii]
  exact encoded_bytes _

/-- A text stays one when texts are put for its bytes of ASCII. -/
theorem Encoded.flatMap {f : UInt8 → Bytes} {bs : Bytes} (encoded : Encoded bs)
    (ascii : ∀ b < 128, Encoded (f b)) (others : ∀ b, 128 ≤ b → f b = [b]) :
    Encoded (bs.flatMap f) := by
  obtain ⟨cs, rfl⟩ := encoded_iff.mp encoded
  rw [List.flatMap_assoc]
  refine encoded_flatMap fun c _ => ?_
  rcases utf8EncodeChar_cases c with ⟨b, small, single⟩ | large
  · rw [single, List.flatMap_singleton]
    exact ascii b small
  · have same : (String.utf8EncodeChar c).flatMap f = String.utf8EncodeChar c := by
      rw [List.flatMap_congr fun b member => others b (large b member), List.flatMap_singleton']
    rw [same]
    exact encoded_iff.mpr ⟨[c], List.flatMap_singleton _ _⟩

end TokenLifecycle.Text
