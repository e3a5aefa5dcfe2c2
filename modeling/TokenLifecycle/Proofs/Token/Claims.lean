import Mathlib.Tactic
import TokenLifecycle.Proofs.Json.Written
import TokenLifecycle.Proofs.Time.Instant
import TokenLifecycle.Proofs.Token.Compact
import TokenLifecycle.Token.Claims

/-!
# Claims read back

The claims and the header of a token are read back from the documents that are written for them.
-/

namespace TokenLifecycle

open Json (Doc)

namespace Header

theorem wellFormed_doc (h : Header) : h.doc.WellFormed := by
  refine (Doc.Written.ofMembers ?_).wellFormed
  simp only [List.forall_mem_cons]
  exact ⟨.text _, .text _, nofun⟩

/-- A header is read back from its document. -/
theorem ofDoc?_doc (h : Header) : ofDoc? h.doc = some h := by
  have distinct :
      ([("typ", Doc.text "JWT"), ("alg", Doc.text h.algorithm.name)].map (·.1)).Nodup := by
    simp
  have read := Doc.record?_ofMembers distinct fieldNames
  rw [ofDoc?, doc, read]
  simp [fieldNames, Record.optional?, Record.required?, Record.get?, List.lookup_cons,
    Algorithm.ofName?_name]

end Header

namespace Claims

/-- The members that claims are written with. -/
def members (c : Claims) : List (String × Doc) :=
  [("uid", Doc.int c.uid.toInt), ("iat", Doc.int c.issuedAt.toInt),
    ("exp", Doc.int c.expiry.toInt), ("jti", Doc.text c.jti)] ++
    (match c.issuer with
      | some issuer => [("iss", Doc.text issuer)]
      | none => [])

theorem written_members (c : Claims) : ∀ member ∈ c.members, member.2.Written := by
  refine List.forall_mem_append.mpr ⟨?_, ?_⟩
  · simp only [List.forall_mem_cons]
    exact ⟨.int _, .int _, .int _, .text _, nofun⟩
  · cases c.issuer with
    | none => exact nofun
    | some issuer => exact List.forall_mem_singleton.mpr (.text issuer)

theorem written_doc (c : Claims) : c.doc.Written :=
  .ofMembers c.written_members

theorem wellFormed_doc (c : Claims) : c.doc.WellFormed :=
  c.written_doc.wellFormed

theorem nodup_members (c : Claims) : (c.members.map (·.1)).Nodup := by
  obtain ⟨uid, issuedAt, expiry, jti, issuer⟩ := c
  cases issuer <;> simp [members]

/-- Claims are read from every record that gives their members for the fields. -/
theorem ofDoc?_of_record {c : Claims} {d : Doc} {f : Record Doc}
    (record : d.record? fieldNames = some f)
    (same : ∀ name ∈ fieldNames, f.get? name = c.members.lookup name) : ofDoc? d = some c := by
  have uid := same "uid" (by decide)
  have issuedAt := same "iat" (by decide)
  have expiry := same "exp" (by decide)
  have jti := same "jti" (by decide)
  have issuer := same "iss" (by decide)
  rw [ofDoc?, record]
  obtain ⟨_, _, _, _, stamped⟩ := c
  cases stamped with
  | none => simp_all [members, Record.required?, Record.withDefault?, List.lookup_cons]
  | some _ => simp_all [members, Record.required?, Record.withDefault?, List.lookup_cons]

/-- Claims are read back from their document. -/
theorem ofDoc?_doc (c : Claims) : ofDoc? c.doc = some c :=
  ofDoc?_of_record (Doc.record?_ofMembers c.nodup_members fieldNames) fun _ known =>
    Association.lookup_filter_contains known c.members

theorem spanBetween_eq_ok_iff {late early : Int} {span : Span} :
    spanBetween late early = .ok span ↔
      (Span.ofSeconds (late - early)).isRepresentable = true ∧
        span = .ofSeconds (late - early) := by
  rw [Span.isRepresentable_ofSeconds_iff]
  constructor
  · intro found
    simp only [spanBetween] at found
    split_ifs at found
    split at found
    · rename_i some_span
      obtain rfl := Except.ok.inj found
      exact Span.ofSeconds?_eq_some_iff.mp some_span
    · cases found
  · intro fits
    have whole := Span.ofSeconds?_eq_some_iff.mpr fits
    simp only [spanBetween, whole]
    exact if_neg (by omega)

theorem spanBetween_eq_ok {late early : Int} (low : -9223372036854775 ≤ late - early)
    (high : late - early ≤ 9223372036854775) :
    spanBetween late early = .ok (.ofSeconds (late - early)) :=
  spanBetween_eq_ok_iff.mpr ⟨Span.isRepresentable_ofSeconds_iff.mpr ⟨low, high⟩, rfl⟩

end Claims

end TokenLifecycle
