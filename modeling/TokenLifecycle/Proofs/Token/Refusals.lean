import Mathlib.Tactic
import TokenLifecycle.Proofs.Token.Verification

/-!
# What minting and verification refuse

Verification is refused because a credential is rejected, and for nothing else. Minting with a
signature is refused for the principal zero alone. What else can go wrong with a token is the
arithmetic of its times.
-/

namespace TokenLifecycle

@[simp] theorem refuse_inj {α : Type} {e e' : Error} :
    (refuse e : Outcome α) = refuse e' ↔ e = e' := by
  simp [refuse]

/-! ### Verification rejects credentials -/

/-- An outcome that is refused, if at all, because a credential is rejected. -/
def OnlyRejects {α : Type} (outcome : Outcome α) : Prop :=
  ∀ e, outcome = refuse e → e.isAuthenticationFailure = true

/-- An outcome that is refused, if at all, for one of the given errors. -/
def RefusedOnlyFor {α : Type} (errors : List Error) (outcome : Outcome α) : Prop :=
  ∀ e, outcome = refuse e → e ∈ errors

theorem refusedOnlyFor_refuse {α : Type} {errors : List Error} {e : Error} (listed : e ∈ errors) :
    RefusedOnlyFor errors (refuse e : Outcome α) := by
  intro e' same
  rw [← refuse_inj.mp same]
  exact listed

theorem RefusedOnlyFor.mono {α : Type} {errors more : List Error} {outcome : Outcome α}
    (refused : RefusedOnlyFor errors outcome) (listed : ∀ e ∈ errors, e ∈ more) :
    RefusedOnlyFor more outcome :=
  fun e same => listed e (refused e same)

/-- A failure that is passed on. -/
theorem RefusedOnlyFor.error {α β : Type} {errors : List Error} {outcome : Outcome α} {f : Failure}
    (refused : RefusedOnlyFor errors outcome) (failed : outcome = .error f) :
    RefusedOnlyFor errors (.error f : Outcome β) := by
  intro e same
  obtain rfl := Except.error.inj same
  exact refused e failed

namespace Codec

variable (c : Codec) (now : Instant)

/-- The errors of verification. -/
def verificationErrors : List Error :=
  [.tokenExpired, .invalidTokenFormat, .invalidSignature, .invalidClaims]

theorem refusedOnlyFor_check (r : Registered) :
    RefusedOnlyFor verificationErrors (c.check now r) := by
  unfold check
  split
  · exact refusedOnlyFor_refuse (by decide)
  · split_ifs
    · exact refusedOnlyFor_refuse (by decide)
    · exact nofun
    · exact refusedOnlyFor_refuse (by decide)
    · exact refusedOnlyFor_refuse (by decide)
    · exact refusedOnlyFor_refuse (by decide)
    · exact nofun

/-- The errors of a signature. -/
def signatureErrors : List Error :=
  [.invalidTokenFormat, .invalidSignature]

theorem refusedOnlyFor_signedPayload (token : String) :
    RefusedOnlyFor signatureErrors (c.signedPayload token) := by
  unfold signedPayload
  split
  · exact refusedOnlyFor_refuse (by decide)
  · split
    · exact refusedOnlyFor_refuse (by decide)
    · split_ifs
      · exact refusedOnlyFor_refuse (by decide)
      · split
        · exact refusedOnlyFor_refuse (by decide)
        · split_ifs
          · exact nofun
          · exact refusedOnlyFor_refuse (by decide)

theorem refusedOnlyFor_accept (payload : Bytes) :
    RefusedOnlyFor verificationErrors (c.accept now payload) := by
  unfold accept
  split
  · exact refusedOnlyFor_refuse (by decide)
  · split
    · split
      · rename_i failed
        exact (refusedOnlyFor_check c now _).error failed
      · split_ifs
        · exact refusedOnlyFor_refuse (by decide)
        · exact nofun
    · exact refusedOnlyFor_refuse (by decide)

theorem refusedOnlyFor_verify (token : String) :
    RefusedOnlyFor verificationErrors (c.verify now token) := by
  unfold verify
  split
  · rename_i failed
    exact ((refusedOnlyFor_signedPayload c token).mono (by decide)).error failed
  · exact refusedOnlyFor_accept c now _

theorem onlyRejects_verify (token : String) : OnlyRejects (c.verify now token) := by
  have rejects : ∀ e ∈ verificationErrors, e.isAuthenticationFailure = true := by decide
  exact fun e refused => rejects e (refusedOnlyFor_verify c now token e refused)

theorem leeway_le_of_check_expired {r : Registered}
    (expired : c.check now r = .error (.rejected .tokenExpired)) :
    (c.leeway.toNat : Int) ≤ now.seconds := by
  by_contra late
  have early : now.seconds < c.leeway.toNat := Int.not_le.mp late
  unfold check at expired
  split at expired
  · cases expired
  · rw [if_pos early] at expired
    split at expired <;> cases expired

/-- No token has expired before the clock has reached the leeway. -/
theorem leeway_le_of_expired {token : String}
    (expired : c.verify now token = .error (.rejected .tokenExpired)) :
    (c.leeway.toNat : Int) ≤ now.seconds := by
  unfold verify at expired
  split at expired
  · rename_i failed
    have listed := (refusedOnlyFor_signedPayload c token).error failed _ expired
    simp [signatureErrors] at listed
  · unfold accept at expired
    split at expired
    · cases expired
    · split at expired
      · split at expired
        · rename_i checked
          rw [Except.error.inj expired] at checked
          exact leeway_le_of_check_expired c now checked
        · split at expired <;> cases expired
      · cases expired

theorem running_of_expired {token : String}
    (expired : c.verify now token = .error (.rejected .tokenExpired)) : 0 ≤ now.seconds :=
  (Int.natCast_nonneg _).trans (leeway_le_of_expired c now expired)

/-! ### What is left of minting and verification -/

variable {c now}

/-- There are no tokens for the principal zero. -/
def zeroPrincipal : Error := .validation "principal id must be non-zero"

/-- Minting with a signature fails for the principal zero only. -/
theorem zero_of_mint_error {uid : Int64} {lifetime : Span} {draw : Draw} {f : Failure}
    (positive : 0 < lifetime.wholeSeconds)
    (signed : ∃ signature,
      c.keys.sign draw.entropy (c.mintedMessage now uid lifetime draw) = some signature)
    (failed : c.mint now uid lifetime draw = .error f) : uid = 0 ∧ f = .rejected zeroPrincipal := by
  by_cases zero : uid = 0
  · rw [mint, if_pos zero] at failed
    exact ⟨zero, (Except.error.inj failed).symm⟩
  · obtain ⟨signature, signed⟩ := signed
    rw [mint_eq_ok_iff.mpr ⟨zero, positive, signature, signed, rfl⟩] at failed
    cases failed

/-- Minting does not blame a credential. -/
theorem isAuthenticationFailure_of_mint {uid : Int64} {lifetime : Span} {draw : Draw} {e : Error}
    (failed : c.mint now uid lifetime draw = refuse e) : e.isAuthenticationFailure = false := by
  unfold mint at failed
  split_ifs at failed
  · rw [← refuse_inj.mp failed]
    rfl
  · rw [← refuse_inj.mp failed]
    rfl
  · simp only at failed
    split at failed
    · cases failed
    · rw [← refuse_inj.mp failed]
      rfl

theorem uid_ne_of_verify {token : String} {claims : Claims}
    (verified : c.verify now token = .ok claims) : claims.uid ≠ 0 := by
  obtain ⟨_, _, taken⟩ := verify_eq_ok_iff.mp verified
  obtain ⟨_, _, _, _, _, _, uid_ne, _⟩ := accept_eq_ok_iff.mp taken
  exact uid_ne

end Codec

namespace Claims

theorem overflow_of_spanBetween {late early : Int} {f : Failure}
    (failed : spanBetween late early = .error f) : f = .overflow := by
  unfold spanBetween at failed
  simp only at failed
  split_ifs at failed
  · exact (Except.error.inj failed).symm
  · split at failed
    · cases failed
    · exact (Except.error.inj failed).symm

end Claims

end TokenLifecycle
