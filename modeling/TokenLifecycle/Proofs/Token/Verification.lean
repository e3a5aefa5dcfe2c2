import Mathlib.Tactic
import TokenLifecycle.Proofs.Token.Minting

/-!
# What verification checks

A payload is read twice, once for the claims that are handed out and once for the checks. When it is
an object, both readings find the same expiry and the same issuer. When it is an array, the checks
take its first item for the expiry and its fourth for the issuer, and these are handed out as the
principal and the identifier. The main statement `verify_checks` tells the two cases apart.
-/

namespace TokenLifecycle

open Json (Doc)

namespace Codec

/-- What passes the checks. -/
theorem check_eq_ok_iff {c : Codec} {now : Instant} {r : Registered} :
    c.check now r = .ok () ↔
      ∃ expiry, r.expiry = some expiry ∧ (c.leeway.toNat : Int) ≤ now.seconds ∧
        now.seconds ≤ expiry + c.leeway.toNat ∧
        (∀ issuer, c.issuer = some issuer → r.issuer = some issuer) ∧ r.hasAudience = false := by
  obtain ⟨expiry, issuer, hasAudience⟩ := r
  cases expiry with
  | none => simp [check, refuse]
  | some expiry =>
      simp only [check, refuse, Option.some.injEq, exists_eq_left']
      cases c.issuer with
      | none =>
          simp only [Option.isSome_none, Bool.false_and, Bool.false_eq_true, ↓reduceIte]
          split_ifs <;> simp_all
      | some required =>
          split_ifs <;> simp_all

/-- What a payload is accepted for. -/
theorem accept_eq_ok_iff {c : Codec} {now : Instant} {payload : Bytes} {claims : Claims} :
    c.accept now payload = .ok claims ↔
      ∃ d r, partDoc? payload = some d ∧ Claims.ofDoc? d = some claims ∧
        Registered.ofDoc? d = some r ∧ c.check now r = .ok () ∧ claims.uid ≠ 0 ∧
        claims.issuedAt < claims.expiry := by
  rw [accept]
  cases content : partDoc? payload with
  | none => simp [refuse]
  | some d =>
      cases read : Claims.ofDoc? d with
      | none => simp [refuse, read]
      | some found =>
          cases other_read : Registered.ofDoc? d with
          | none => simp [refuse, read, other_read]
          | some r =>
              cases checked : c.check now r with
              | error f => simp [read, other_read, checked]
              | ok _ =>
                  simp only [read, other_read, checked, Option.some.injEq, ↓existsAndEq, true_and]
                  split_ifs with rejected
                  · simp only [refuse, reduceCtorEq, false_iff]
                    rintro ⟨rfl, uid_ne, ordered⟩
                    exact rejected.elim uid_ne (Int64.not_le.mpr ordered)
                  · simp only [not_or, Int64.not_le] at rejected
                    simp only [Except.ok.injEq]
                    exact ⟨fun same => same ▸ ⟨rfl, rejected⟩, fun parts => parts.1⟩

/-- A token is accepted for its payload, when the signature is valid. -/
theorem verify_eq_ok_iff {c : Codec} {now : Instant} {token : String} {claims : Claims} :
    c.verify now token = .ok claims ↔
      ∃ payload, c.signedPayload token = .ok payload ∧ c.accept now payload = .ok claims := by
  rw [verify]
  cases c.signedPayload token <;> simp

/-- No token is accepted before the clock has reached the leeway. -/
theorem leeway_le_of_verify {c : Codec} {now : Instant} {token : String} {claims : Claims}
    (verified : c.verify now token = .ok claims) : (c.leeway.toNat : Int) ≤ now.seconds := by
  obtain ⟨_, _, accepted⟩ := verify_eq_ok_iff.mp verified
  obtain ⟨_, _, _, _, _, checked, _⟩ := accept_eq_ok_iff.mp accepted
  obtain ⟨_, _, running, _⟩ := check_eq_ok_iff.mp checked
  exact running

theorem running_of_verify {c : Codec} {now : Instant} {token : String} {claims : Claims}
    (verified : c.verify now token = .ok claims) : 0 ≤ now.seconds :=
  (Int.natCast_nonneg _).trans (leeway_le_of_verify verified)

/-- The signed payload is a part of the token. -/
theorem partDoc?_of_signedPayload {c : Codec} {token : String} {payload : Bytes}
    (signed : c.signedPayload token = .ok payload) : partDoc? payload = payload? token := by
  rw [signedPayload] at signed
  rw [payload?]
  split at signed
  · simp [refuse] at signed
  · rename_i p parts
    have same : p.payload = payload := by
      split at signed
      · simp [refuse] at signed
      · split_ifs at signed
        · simp [refuse] at signed
        · split at signed
          · simp [refuse] at signed
          · split_ifs at signed
            · exact Except.ok.inj signed
            · simp [refuse] at signed
    rw [parts, Option.bind_some, same]

/-- The claims that a token is accepted for are those that it carries. -/
theorem claims?_of_verify {c : Codec} {now : Instant} {token : String} {claims : Claims}
    (accepted : c.verify now token = .ok claims) : claims? token = some claims := by
  obtain ⟨payload, signed, taken⟩ := verify_eq_ok_iff.mp accepted
  obtain ⟨d, _, content, read, _⟩ := accept_eq_ok_iff.mp taken
  rw [partDoc?_of_signedPayload signed] at content
  rw [claims?, content, Option.bind_some, read]

/-- Accepted claims are of a principal and expire after their issue. When the payload is an object,
the other checks are about its expiry and its issuer; when it is an array, they are about the
principal and the identifier, and there is no issuer. So the expiry and the issuer are as checked
unless the payload is an array that has expired or lacks a required issuer. -/
theorem verify_checks {c : Codec} {now : Instant} {token : String} {claims : Claims}
    (accepted : c.verify now token = .ok claims) :
    claims.uid ≠ 0 ∧ claims.issuedAt < claims.expiry ∧
      (((∃ members, payload? token = some (.object members)) ∧
          now.seconds ≤ claims.expiry.toInt + c.leeway.toNat ∧
          ∀ issuer, c.issuer = some issuer → claims.issuer = some issuer) ∨
        ((∃ items, payload? token = some (.array items)) ∧
          now.seconds ≤ claims.uid.toInt + c.leeway.toNat ∧
          (∀ issuer, c.issuer = some issuer → claims.jti = issuer) ∧
          claims.issuer = none)) ∧
      ((now.seconds ≤ claims.expiry.toInt + c.leeway.toNat ∧
          ∀ issuer, c.issuer = some issuer → claims.issuer = some issuer) ↔
        (∃ members, payload? token = some (.object members)) ∨
          (c.issuer = none ∧ now.seconds ≤ claims.expiry.toInt + c.leeway.toNat)) := by
  obtain ⟨payload, signed, taken⟩ := verify_eq_ok_iff.mp accepted
  obtain ⟨d, r, content, read, other_read, checked, uid_ne, ordered⟩ := accept_eq_ok_iff.mp taken
  obtain ⟨expiry, expires, _, current, issuer_checked, no_audience⟩ := check_eq_ok_iff.mp checked
  rw [partDoc?_of_signedPayload signed] at content
  refine ⟨uid_ne, ordered, ?_⟩
  cases d with
  | object members =>
      obtain ⟨same_expiry, same_issuer⟩ := Registered.agree_of_object read other_read
      have sound : now.seconds ≤ claims.expiry.toInt + c.leeway.toNat ∧
          ∀ issuer, c.issuer = some issuer → claims.issuer = some issuer := by
        rw [← same_expiry expiry expires]
        exact ⟨current, fun issuer required => same_issuer issuer (issuer_checked issuer required)⟩
      exact ⟨.inl ⟨⟨members, content⟩, sound⟩, fun _ => .inl ⟨members, content⟩, fun _ => sound⟩
  | array items =>
      obtain ⟨same_expiry, same_issuer, no_issuer⟩ := Registered.agree_of_array read other_read
      have absent := no_issuer no_audience
      refine ⟨.inr ⟨⟨items, content⟩, ?_, ?_, absent⟩, ?_⟩
      · rw [← same_expiry expiry expires]
        exact current
      · exact fun issuer required => same_issuer issuer (issuer_checked issuer required)
      · rw [content, absent]
        cases c.issuer <;> simp
  | _ => simp [Claims.ofDoc?, Doc.record?] at read

/-- A required issuer is found in a payload that is not an array. -/
theorem verify_checks_of_members :
    let c : Codec := ⟨.digest, some "a", 0⟩
    let claims : Claims := ⟨7, 0, 60, "x", some "a"⟩
    let message := Compact.message ⟨.edDSA⟩ claims.doc
    let token := Compact.text message (Crypto.Sha2.sha256 message)
    c.verify (.ofSeconds 30) token = .ok claims ∧
      ∃ members, payload? token = some (.object members) := by
  intro c claims message token
  have accepted : c.verify (.ofSeconds 30) token = .ok claims :=
    verify_text (c := c) (by decide) (beq_self_eq_true _) (by decide) (by decide)
  have current : (Instant.ofSeconds 30).seconds ≤ claims.expiry.toInt + c.leeway.toNat := by
    decide
  obtain ⟨_, _, _, sound_iff⟩ := verify_checks accepted
  rcases sound_iff.mp ⟨current, fun _ required => required⟩ with object | ⟨unrequired, _⟩
  · exact ⟨accepted, object⟩
  · simp [c] at unrequired

/-- The payload of a token that expired in 1970. Its principal passes for the expiry, and its
identifier for the issuer. -/
def expiredArray : Doc :=
  .array [.int 9999999999, .int 0, .int 1, .text "x", .null]

theorem wellFormed_expiredArray : expiredArray.WellFormed := by
  refine Doc.wellFormed_array fun d item => ?_
  simp only [List.mem_cons, List.not_mem_nil, or_false] at item
  rcases item with rfl | rfl | rfl | rfl | rfl
  · exact Doc.wellFormed_int _
  · exact Doc.wellFormed_int _
  · exact Doc.wellFormed_int _
  · exact Doc.wellFormed_text _
  · exact Doc.wellFormed_null

theorem ofDoc?_expiredArray : Claims.ofDoc? expiredArray = some ⟨9999999999, 0, 1, "x", none⟩ := by
  decide +kernel

/-- The array is accepted in 2026, with no leeway, where no issuer but its identifier is
required. -/
theorem accept_expiredArray {c : Codec} (strict : c.leeway = 0)
    (required : ∀ issuer, c.issuer = some issuer → "x" = issuer) :
    c.accept (.ofSeconds 1767225600) (Compact.part expiredArray.bytes) =
      .ok ⟨9999999999, 0, 1, "x", none⟩ := by
  have content : partDoc? (Compact.part expiredArray.bytes) = some expiredArray := by
    rw [partDoc?, Compact.content?_part, Option.bind_some,
      Doc.ofBytes?_bytes wellFormed_expiredArray]
  have other_read :
      Registered.ofDoc? expiredArray = some ⟨some 9999999999, some "x", false⟩ := by
    decide +kernel
  have checked : c.check (.ofSeconds 1767225600) ⟨some 9999999999, some "x", false⟩ = .ok () := by
    refine check_eq_ok_iff.mpr ⟨9999999999, rfl, ?_, ?_, fun issuer given => ?_, rfl⟩
    · rw [strict]
      decide
    · rw [strict]
      decide
    · rw [required issuer given]
  exact accept_eq_ok_iff.mpr
    ⟨_, _, content, ofDoc?_expiredArray, other_read, checked, by decide, by decide⟩

/-- An expired token without an issuer is accepted where an issuer is required, because its payload
is an array. -/
theorem not_verify_checks_of_array :
    let c : Codec := ⟨.digest, some "x", 0⟩
    let now : Instant := .ofSeconds 1767225600
    let message := Compact.message ⟨.edDSA⟩ expiredArray
    let token := Compact.text message (Crypto.Sha2.sha256 message)
    ∃ claims, c.verify now token = .ok claims ∧
      ¬now.seconds ≤ claims.expiry.toInt + c.leeway.toNat ∧ claims.issuer ≠ c.issuer := by
  intro c now message token
  have signed : c.signedPayload token = .ok (Compact.part expiredArray.bytes) :=
    signedPayload_text (c := c) (beq_self_eq_true _)
  have accepted : c.accept now (Compact.part expiredArray.bytes) =
      .ok ⟨9999999999, 0, 1, "x", none⟩ :=
    accept_expiredArray rfl fun _ same => Option.some.inj same
  exact ⟨_, verify_eq_ok_iff.mpr ⟨_, signed, accepted⟩, by decide, by decide⟩

end Codec

end TokenLifecycle
