import Mathlib.Tactic
import TokenLifecycle.Proofs.Json.Record
import TokenLifecycle.Proofs.Text.Base64
import TokenLifecycle.Proofs.Text.Utf8
import TokenLifecycle.Token.Compact

/-!
# Compact tokens fall into their parts

The written form of a part has no point in it. So a token falls into the header, the payload and the
signature that it was put together from, and each of them is read back. Every text with two points
or more falls into parts (`Parts.Spell`), and a part stands for bytes when it is what is written for
them.
-/

namespace TokenLifecycle.Compact

open Json (Doc)

theorem splitLast?_append_point {front back : Bytes} (no_point : point ∉ back) :
    splitLast? (front ++ point :: back) = some (front, back) := by
  have last : ((front ++ point :: back).reverse.takeWhile (· ≠ point)).reverse = back := by
    rw [List.reverse_append, List.reverse_cons, List.append_assoc,
      List.takeWhile_append_of_pos (by
        intro b member
        have inside := List.mem_reverse.mp member
        simp only [ne_eq, decide_eq_true_eq]
        rintro rfl
        exact no_point inside)]
    simp
  simp only [splitLast?, last]
  rw [if_pos (by simp)]
  have width : (front ++ point :: back).length - back.length - 1 = front.length := by
    simp only [List.length_append, List.length_cons]
    omega
  rw [width, List.take_left]

theorem content?_part (bs : Bytes) : content? (part bs) = some bs :=
  Text.Base64.decode?_encode bs

theorem point_notMem_part (bs : Bytes) : point ∉ part bs :=
  Text.Base64.point_notMem_encode bs

theorem lt_of_mem_part {bs : Bytes} {b : UInt8} (member : b ∈ part bs) : b < 128 :=
  Text.Base64.lt_of_mem_encode member

theorem lt_of_mem_message {h : Header} {payload : Doc} {b : UInt8}
    (member : b ∈ message h payload) : b < 128 := by
  rcases List.mem_append.mp member with header | rest
  · exact lt_of_mem_part header
  · rcases List.mem_cons.mp rest with rfl | payload
    · decide
    · exact lt_of_mem_part payload

/-- The bytes of a token are its message, a point and its signature. -/
theorem bytes_text (h : Header) (payload : Doc) (signature : Bytes) :
    Text.bytes (text (message h payload) signature) =
      message h payload ++ point :: part signature := by
  refine Text.bytes_ofList_ascii fun b member => ?_
  rcases List.mem_append.mp member with front | rest
  · exact lt_of_mem_message front
  · rcases List.mem_cons.mp rest with rfl | back
    · decide
    · exact lt_of_mem_part back

/-- A token is written with the digits of base 64 and points. -/
theorem isDigit_or_point_of_mem_text {h : Header} {payload : Doc} {signature : Bytes} {c : Char}
    (member : c ∈ (text (message h payload) signature).toList) :
    Text.Base64.IsDigit c ∨ c = '.' := by
  rw [text, String.toList_ofList, List.mem_map] at member
  obtain ⟨b, inside, rfl⟩ := member
  simp only [message, part, List.mem_append, List.mem_cons] at inside
  rcases inside with (header | rfl | payload) | rfl | signature
  · exact .inl (Text.Base64.isDigit_of_mem_encode header)
  · exact .inr rfl
  · exact .inl (Text.Base64.isDigit_of_mem_encode payload)
  · exact .inr rfl
  · exact .inl (Text.Base64.isDigit_of_mem_encode signature)

theorem text_ne_empty (message signature : Bytes) : text message signature ≠ "" := by
  simp [text]

/-- A token falls into the parts that it was put together from. -/
theorem parts?_text (h : Header) (payload : Doc) (signature : Bytes) :
    parts? (text (message h payload) signature) =
      some ⟨part h.doc.bytes, part payload.bytes, part signature⟩ := by
  rw [parts?, bytes_text, splitLast?_append_point (point_notMem_part _)]
  simp [message, splitLast?_append_point (point_notMem_part _)]

/-! ### Texts that fall into parts -/

/-- A string of bytes is split where no point comes after. -/
theorem splitLast?_eq_some_iff {bs front back : Bytes} :
    splitLast? bs = some (front, back) ↔ bs = front ++ point :: back ∧ point ∉ back := by
  constructor
  · intro split
    have inside : point ∈ bs := by
      by_contra absent
      rw [splitLast?, if_neg absent] at split
      cases split
    obtain ⟨tail, head, reversed, no_point⟩ :=
      List.eq_append_cons_of_mem (List.mem_reverse.mpr inside)
    have whole : bs = head.reverse ++ point :: tail.reverse := by
      rw [← List.reverse_reverse bs, reversed]
      simp
    have no_point : point ∉ tail.reverse := fun member => no_point (List.mem_reverse.mp member)
    rw [whole, splitLast?_append_point no_point] at split
    obtain ⟨rfl, rfl⟩ := Prod.mk.inj (Option.some.inj split)
    exact ⟨whole, no_point⟩
  · rintro ⟨rfl, no_point⟩
    exact splitLast?_append_point no_point

/-- The parts are those of a token: put together they are its bytes, and there is no point in the
payload or in the signature. -/
structure Parts.Spell (p : Parts) (token : String) : Prop where
  bytes : Text.bytes token = p.message ++ point :: p.signature
  payload : point ∉ p.payload
  signature : point ∉ p.signature

theorem parts?_eq_some_iff {token : String} {p : Parts} :
    parts? token = some p ↔ p.Spell token := by
  simp only [parts?, Option.bind_eq_bind, Option.bind_eq_some_iff, Prod.exists,
    splitLast?_eq_some_iff, Option.pure_def, Option.some.injEq]
  constructor
  · rintro ⟨message, signature, ⟨whole, outer⟩, header, payload, ⟨rfl, inner⟩, rfl⟩
    exact ⟨whole, inner, outer⟩
  · rintro ⟨whole, inner, outer⟩
    exact ⟨p.message, p.signature, ⟨whole, outer⟩, p.header, p.payload, ⟨rfl, inner⟩, rfl⟩

theorem Parts.Spell.unique {token : String} {p p' : Parts} (spell : p.Spell token)
    (spell' : p'.Spell token) : p = p' :=
  Option.some.inj ((parts?_eq_some_iff.mpr spell).symm.trans (parts?_eq_some_iff.mpr spell'))

/-- A string of bytes with a point is split at the last one. -/
private theorem exists_split {bs : Bytes} (inside : point ∈ bs) :
    ∃ front back, bs = front ++ point :: back ∧ point ∉ back ∧
      bs.count point = front.count point + 1 := by
  have split : splitLast? bs = some (_, _) := if_pos inside
  obtain ⟨whole, no_point⟩ := splitLast?_eq_some_iff.mp split
  refine ⟨_, _, whole, no_point, ?_⟩
  conv_lhs => rw [whole]
  rw [List.count_append, List.count_cons_self, List.count_eq_zero.mpr no_point]

/-- A token has its parts when there are two points in it. -/
theorem exists_spell_iff {token : String} :
    (∃ p : Parts, p.Spell token) ↔ 2 ≤ token.toList.count '.' := by
  have points : (Text.bytes token).count point = token.toList.count '.' :=
    Text.count_bytes (by decide) token
  rw [← points]
  constructor
  · rintro ⟨p, whole, _, _⟩
    rw [whole, Parts.message]
    simp only [List.count_append, List.count_cons_self]
    omega
  · intro enough
    obtain ⟨message, signature, whole, outer, counted⟩ :=
      exists_split (List.count_pos_iff.mp (by omega : 0 < (Text.bytes token).count point))
    obtain ⟨header, payload, rfl, inner, _⟩ :=
      exists_split (List.count_pos_iff.mp (by omega : 0 < message.count point))
    exact ⟨⟨header, payload, signature⟩, whole, inner, outer⟩

/-- A part stands for bytes when it is what is written for them. -/
theorem content?_eq_some_iff {digits bs : Bytes} : content? digits = some bs ↔ digits = part bs :=
  Text.Base64.decode?_eq_some_iff

end TokenLifecycle.Compact
