/-!
# UTF-8

Texts as bytes. Main statement: `ofBytes?_bytes`, a text is read back from its own bytes.
-/

namespace TokenLifecycle

/-- A string of bytes. -/
abbrev Bytes := List UInt8

namespace Text

/-- The UTF-8 bytes of a text. -/
def bytes (s : String) : Bytes :=
  s.toByteArray.data.toList

/-- The text that the bytes encode, if they are well-formed UTF-8. -/
def ofBytes? (bs : Bytes) : Option String :=
  String.fromUTF8? ⟨bs.toArray⟩

theorem ofBytes?_bytes (s : String) : ofBytes? (bytes s) = some s := by
  have whole : (⟨(bytes s).toArray⟩ : ByteArray) = s.toByteArray := by simp [bytes]
  unfold ofBytes?
  rw [whole]
  unfold String.fromUTF8?
  rw [dif_pos s.isValidUTF8]
  rfl

/-- The bytes of an ASCII text, for words that are written out in this library. -/
def ascii (s : String) : Bytes :=
  s.toList.map fun c => UInt8.ofNat c.toNat

end Text

end TokenLifecycle
