import Mathlib.Tactic
import TokenLifecycle.Proofs.Json.Doc
import TokenLifecycle.Proofs.Text.Utf8

/-!
# Documents that are written

Data is written with literals, integers, texts and objects. The bytes of such a document are a text,
whatever characters stand in its strings, and it is read back from them. So a way to write data and
a way to read it fit together (`RoundTrips`) as soon as the reader undoes the writer on documents.
-/

namespace TokenLifecycle.Json

open Text (Encoded)

/-! ### Tokens -/

namespace Body

/-- A byte of ASCII is written in ASCII. -/
theorem ascii_escapeByte {b : UInt8} (ascii : b < 128) : ∀ b' ∈ escapeByte b, b' < 128 := by
  have small : b.toNat < 128 := UInt8.lt_iff_toNat_lt.mp ascii
  have hex {digit : Nat} (low : digit < 16) : hexDigit digit < 128 := by
    interval_cases digit <;> decide
  have short {letter : UInt8} (low : letter < 128) : ∀ b' ∈ [92, letter], b' < 128 := by
    simp only [List.forall_mem_cons]
    exact ⟨by decide, low, nofun⟩
  unfold escapeByte
  split_ifs
  · exact short (by decide)
  · exact short (by decide)
  · exact short (by decide)
  · exact short (by decide)
  · exact short (by decide)
  · exact short (by decide)
  · exact short (by decide)
  · simp only [List.forall_mem_cons]
    exact ⟨by decide, by decide, by decide, by decide, hex (by omega), hex (by omega), nofun⟩
  · simpa using ascii

/-- Other bytes are written as they are. -/
theorem escapeByte_of_le {b : UInt8} (high : 128 ≤ b) : escapeByte b = [b] := by
  have other {c : UInt8} (low : c < 128) : b ≠ c := by
    rintro rfl
    exact absurd high (UInt8.not_le.mpr low)
  have no_control : ¬b < 32 := fun low => absurd (UInt8.lt_of_lt_of_le low (by decide))
    (UInt8.not_lt.mpr high)
  rw [escapeByte, if_neg (other (by decide)), if_neg (other (by decide)),
    if_neg (other (by decide)), if_neg (other (by decide)), if_neg (other (by decide)),
    if_neg (other (by decide)), if_neg (other (by decide)), if_neg no_control]

theorem encoded_ofText (s : String) : Encoded (ofText s) :=
  (Text.encoded_bytes s).flatMap (fun _ ascii => Text.encoded_of_ascii (ascii_escapeByte ascii))
    fun _ => escapeByte_of_le

end Body

/-- An integer is written in ASCII. -/
theorem Number.ascii_bytes {n : Number} (formed : n.WellFormed) (whole : n.fraction = [])
    (plain : n.exponent = none) : ∀ b ∈ n.bytes, b < 128 := by
  intro b inside
  rw [bytes_eq, whole, plain] at inside
  simp only [fractionBytes, exponentBytes, List.isEmpty_nil, if_true, List.append_nil,
    List.mem_append] at inside
  rcases inside with sign | digit
  · split at sign
    · obtain rfl := List.mem_singleton.mp sign
      decide
    · cases sign
  · have small := formed.whole_digits b digit
    rw [isDigit, Bool.and_eq_true] at small
    exact UInt8.lt_of_le_of_lt (of_decide_eq_true small.2) (by decide)

namespace Doc

/-- A document as data is written: a literal, an integer, a text, or an object of such documents. -/
inductive Written : Doc → Prop
  | null : Written .null
  | bool (value : Bool) : Written (.bool value)
  | int (n : Int) : Written (.int n)
  | text (s : String) : Written (.text s)
  | ofMembers {members : List (String × Doc)} :
      (∀ member ∈ members, Written member.2) → Written (.ofMembers members)

theorem written_option {α : Type} {write : α → Doc} (written : ∀ a, (write a).Written)
    (value : Option α) : (Doc.option write value).Written := by
  cases value with
  | none => exact .null
  | some a => exact written a

namespace Written

variable {d : Doc}

theorem wellFormed (written : d.Written) : d.WellFormed := by
  induction written with
  | null => exact wellFormed_null
  | bool value =>
      intro t member
      obtain rfl := List.mem_singleton.mp member
      trivial
  | int n => exact wellFormed_int n
  | text s => exact wellFormed_text s
  | ofMembers _ ih => exact wellFormed_ofMembers ih

/-- Each token is written as a text. -/
theorem encoded_tokens (written : d.Written) : ∀ t ∈ d.tokens, Encoded t.bytes := by
  have ascii {bs : Bytes} (small : bs.all (· < 128) = true) : Encoded bs :=
    Text.encoded_of_ascii fun b inside => of_decide_eq_true (List.all_eq_true.mp small b inside)
  have quote : Encoded [34] := ascii (by decide)
  have string (s : String) : Encoded (Token.string (Body.ofText s)).bytes :=
    quote.append ((Body.encoded_ofText s).append quote)
  induction written with
  | null =>
      intro t member
      obtain rfl := List.mem_singleton.mp member
      exact ascii (by decide)
  | bool value =>
      intro t member
      obtain rfl := List.mem_singleton.mp member
      cases value <;> exact ascii (by decide)
  | int n =>
      intro t member
      have formed := wellFormed_int n t member
      obtain rfl := List.mem_singleton.mp member
      exact Text.encoded_of_ascii (Number.ascii_bytes formed rfl rfl)
  | text s =>
      intro t member
      obtain rfl := List.mem_singleton.mp member
      exact string s
  | ofMembers _ ih =>
      have marks : Encoded Token.openBrace.bytes ∧ Encoded Token.colon.bytes ∧
          Encoded Token.comma.bytes ∧ Encoded Token.closeBrace.bytes :=
        ⟨ascii (by decide), ascii (by decide), ascii (by decide), ascii (by decide)⟩
      exact forall_mem_tokens_ofMembers (P := fun t => Encoded t.bytes) marks string ih

/-- What is written is a text. -/
theorem encoded (written : d.Written) : Encoded d.bytes :=
  Text.encoded_flatMap written.encoded_tokens

end Written

/-- What is written for a value is a text, and the value is read back from it. -/
def RoundTrips {α : Type} (write : α → Doc) (read : Doc → Option α) : Prop :=
  ∀ a, ∃ text : String, Text.bytes text = (write a).bytes ∧
    (ofBytes? (Text.bytes text)).bind read = some a

/-- To read back what is written it is enough to undo the document. -/
theorem roundTrips_of_written {α : Type} {write : α → Doc} {read : Doc → Option α}
    (written : ∀ a, (write a).Written) (reads : ∀ a, read (write a) = some a) :
    RoundTrips write read := by
  intro a
  obtain ⟨text, spelled⟩ := (written a).encoded
  refine ⟨text, spelled, ?_⟩
  rw [spelled, ofBytes?_bytes (written a).wellFormed, Option.bind_some, reads]

end Doc

end TokenLifecycle.Json
