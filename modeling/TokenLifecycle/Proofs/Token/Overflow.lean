import Mathlib.Tactic
import TokenLifecycle.Proofs.Token.Minting

/-!
# When verification overflows

The check of the expiry goes back from the clock by the leeway. A clock that shows less than the
leeway cannot go back that far; whether a token comes to this check at all depends on its signature,
on its payload and on the claims that are required. Nothing else in verification can overflow, nor
can minting, but for the date that it starts from: before 1970 the clock cannot be read.
-/

namespace TokenLifecycle.Codec

open Json (Doc)

variable {c : Codec} {now : Instant}

/-- The registered claims include those that the codec requires: an expiry, and an issuer if the
codec has one. -/
def HasRequired (c : Codec) (r : Registered) : Prop :=
  r.expiry ≠ none ∧ (c.issuer ≠ none → r.issuer ≠ none)

/-- The token comes to the check of its expiry: it has a valid signature and a payload that can be
read, and the required claims are there. -/
def ComesToExpiry (c : Codec) (token : String) : Prop :=
  ∃ payload d claims r, c.signedPayload token = .ok payload ∧ partDoc? payload = some d ∧
    Claims.ofDoc? d = some claims ∧ Registered.ofDoc? d = some r ∧ c.HasRequired r

theorem check_eq_overflow_iff {r : Registered} :
    c.check now r = .error .overflow ↔ c.HasRequired r ∧ now.seconds < c.leeway.toNat := by
  obtain ⟨expiry, issuer, hasAudience⟩ := r
  cases expiry with
  | none => simp [check, HasRequired, refuse]
  | some expiry =>
      simp only [check, HasRequired, refuse, ne_eq, reduceCtorEq, not_false_eq_true, true_and]
      split_ifs with missing early
      · cases required : c.issuer <;> simp_all
      · cases required : c.issuer <;> simp_all
      · simp [early]
      · simp [early]
      · simp [early]
      · simp [early]

theorem signedPayload_ne_overflow (token : String) : c.signedPayload token ≠ .error .overflow := by
  unfold signedPayload
  split
  · simp [refuse]
  · split
    · simp [refuse]
    · split_ifs
      · simp [refuse]
      · split
        · simp [refuse]
        · split_ifs <;> simp [refuse]

theorem accept_eq_overflow_iff {payload : Bytes} :
    c.accept now payload = .error .overflow ↔
      (∃ d claims r, partDoc? payload = some d ∧ Claims.ofDoc? d = some claims ∧
        Registered.ofDoc? d = some r ∧ c.HasRequired r) ∧ now.seconds < c.leeway.toNat := by
  rw [accept]
  cases content : partDoc? payload with
  | none => simp [refuse]
  | some d =>
      cases read : Claims.ofDoc? d with
      | none => simp [refuse, read]
      | some claims =>
          cases other_read : Registered.ofDoc? d with
          | none => simp [refuse, read, other_read]
          | some r =>
              have checks := @check_eq_overflow_iff c now r
              simp only [read, other_read, Option.some.injEq, ↓existsAndEq, true_and]
              rw [← checks]
              cases checked : c.check now r with
              | error f => simp
              | ok _ =>
                  simp only [reduceCtorEq, iff_false]
                  split_ifs <;> simp [refuse]

/-- Verification overflows when the clock shows less than the leeway, for tokens that come to the
check of their expiry. -/
theorem verify_eq_overflow_iff {token : String} :
    c.verify now token = .error .overflow ↔
      c.ComesToExpiry token ∧ now.seconds < c.leeway.toNat := by
  rw [verify]
  cases signed : c.signedPayload token with
  | error f =>
      have other := signedPayload_ne_overflow (c := c) token
      simp_all [ComesToExpiry]
  | ok payload => simp [ComesToExpiry, signed, accept_eq_overflow_iff]

theorem mint_ne_overflow (c : Codec) (start : Instant) (uid : Int64) (lifetime : Span)
    (draw : Draw) :
    c.mint start uid lifetime draw ≠ .error .overflow := by
  unfold mint
  split_ifs
  · simp [refuse]
  · simp [refuse]
  · simp only
    split <;> simp [refuse]

theorem mintNow_eq_overflow_iff (c : Codec) (now : Instant) (uid : Int64) (lifetime : Span)
    (draw : Draw) : c.mintNow now uid lifetime draw = .error .overflow ↔ now.seconds < 0 := by
  have no_overflow := c.mint_ne_overflow now uid lifetime draw
  simp [mintNow_eq_error_iff, no_overflow]

end TokenLifecycle.Codec
