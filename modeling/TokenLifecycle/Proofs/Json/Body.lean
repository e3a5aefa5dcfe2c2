import Mathlib.Tactic
import TokenLifecycle.Json.Body

/-!
# Written strings read back

The written form of a string of bytes is scanned up to its closing quote and resolved to the same
bytes. So a text is read back from the body that is written for it.
-/

namespace TokenLifecycle.Json

theorem hexValue?_hexDigit {digit : Nat} (small : digit < 16) :
    hexValue? (Body.hexDigit digit) = some digit := by
  interval_cases digit <;> rfl

/-- A control character is written with its number in hexadecimal. -/
theorem hexQuad?_control (b : UInt8) :
    hexQuad? 48 48 (Body.hexDigit (b.toNat / 16)) (Body.hexDigit (b.toNat % 16)) =
      some b.toNat := by
  have bound := b.toNat_lt
  rw [hexQuad?, hexValue?_hexDigit (by omega), hexValue?_hexDigit (by omega)]
  simp [hexValue?]
  omega

namespace Body

/-- A byte is written as a one-letter escape, as an escape of its number, or as itself. -/
theorem escapeByte_cases (b : UInt8) :
    (∃ letter, escapeByte b = [92, letter] ∧ letter ≠ 117 ∧ simpleEscape? letter = some b) ∨
      (b < 32 ∧
        escapeByte b = [92, 117, 48, 48, hexDigit (b.toNat / 16), hexDigit (b.toNat % 16)]) ∨
      (escapeByte b = [b] ∧ b ≠ 34 ∧ b ≠ 92 ∧ ¬b < 32) := by
  unfold escapeByte
  split_ifs with quote backslash backspace tab feed page turn control
  · exact .inl ⟨34, rfl, by decide, by rw [quote]; rfl⟩
  · exact .inl ⟨92, rfl, by decide, by rw [backslash]; rfl⟩
  · exact .inl ⟨98, rfl, by decide, backspace ▸ rfl⟩
  · exact .inl ⟨116, rfl, by decide, tab ▸ rfl⟩
  · exact .inl ⟨110, rfl, by decide, feed ▸ rfl⟩
  · exact .inl ⟨102, rfl, by decide, page ▸ rfl⟩
  · exact .inl ⟨114, rfl, by decide, turn ▸ rfl⟩
  · exact .inr (.inl ⟨control, rfl⟩)
  · exact .inr (.inr ⟨rfl, quote, backslash, control⟩)

private theorem encodePoint_control {b : UInt8} (control : b < 32) : encodePoint b.toNat = [b] := by
  have small : b.toNat < 32 := UInt8.lt_iff_toNat_lt.mp control
  rw [encodePoint, if_pos (by omega), UInt8.ofNat_toNat]

/-- Reading resolves the written form of one byte. -/
theorem read_escapeByte_append (b : UInt8) (rest : Bytes) :
    read (escapeByte b ++ rest) = (read rest).after [b] := by
  rcases escapeByte_cases b with
    ⟨letter, written, plain, meaning⟩ | ⟨control, written⟩ | ⟨written, _, backslash, _⟩
  · simp [written, read, plain, meaning]
  · have small : b.toNat < 32 := UInt8.lt_iff_toNat_lt.mp control
    simp only [written, List.cons_append, List.nil_append, read, hexQuad?_control]
    rw [if_neg (by omega), if_neg (by omega), encodePoint_control control]
  · rw [written, List.singleton_append, read.eq_def]
    split <;> simp_all

/-- Reading undoes writing. -/
theorem read_escape (bs : Bytes) : read (escape bs) = .bytes bs := by
  induction bs with
  | nil => rfl
  | cons b bs ih =>
      rw [escape, List.flatMap_cons, read_escapeByte_append]
      change (read (escape bs)).after [b] = _
      rw [ih]
      rfl

/-- A text is read back from the body that is written for it. -/
@[simp] theorem text?_ofText (s : String) : text? (ofText s) = some s := by
  rw [text?, ofText, read_escape]
  exact Text.ofBytes?_bytes s

/-- Scanning takes up the written form of one byte. -/
theorem scanString_escapeByte_append (b : UInt8) (rest : Bytes) :
    scanString (escapeByte b ++ rest) =
      (scanString rest).map fun (body, r) => (escapeByte b ++ body, r) := by
  rcases escapeByte_cases b with
    ⟨letter, written, plain, meaning⟩ | ⟨control, written⟩ | ⟨written, quote, backslash, visible⟩
  · simp [written, scanString, plain, meaning]
  · simp [written, scanString, hexQuad?_control]
  · rw [written, List.singleton_append, scanString.eq_def]
    split <;> simp_all

/-- Scanning ends at the quote behind a written string. -/
theorem scanString_escape (bs rest : Bytes) :
    scanString (escape bs ++ 34 :: rest) = some (escape bs, rest) := by
  induction bs with
  | nil => simp [escape, scanString]
  | cons b bs ih =>
      rw [escape, List.flatMap_cons, List.append_assoc, scanString_escapeByte_append]
      change (scanString (escape bs ++ 34 :: rest)).map _ = _
      rw [ih]
      rfl

end Body

end TokenLifecycle.Json
