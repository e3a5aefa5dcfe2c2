import Mathlib.Tactic
import TokenLifecycle.Proofs.Token.Minting

/-!
# Three readings of expiry

Whether a token has expired is asked in three places: when the token is verified, of its claims, and
by what is left of its lifetime. Without leeway all three compare the expiry with the whole seconds
of the clock. The main statement `expiry_readings` says where they part: in the second of the expiry
itself a token is still verified, though its claims have expired and nothing is left.
-/

namespace TokenLifecycle

namespace Claims

variable {claims : Claims} {now : Instant}

theorem isExpired_iff : claims.isExpired now = true ↔ claims.expiry.toInt ≤ now.seconds := by
  rw [isExpired, decide_eq_true_iff]

/-- When nothing is left of a lifetime, this can be told: the span is representable. -/
theorem exists_remaining_iff (forward : 0 ≤ claims.expiry.toInt)
    (today : Instant.inCalendar now.seconds = true) {P : Span → Prop}
    (passed : ∀ left, P left → left.nanoseconds ≤ 0) :
    (∃ left, claims.remaining now = .ok left ∧ P left) ↔
      P (.ofSeconds (claims.expiry.toInt - now.seconds)) := by
  constructor
  · rintro ⟨left, found, holds⟩
    obtain ⟨_, rfl⟩ := spanBetween_eq_ok_iff.mp found
    exact holds
  · intro holds
    have short := passed _ holds
    simp only [Instant.inCalendar, Bool.and_eq_true, decide_eq_true_eq] at today
    simp only [Span.ofSeconds, nanosecondsPerSecond] at short
    exact ⟨_, spanBetween_eq_ok (by omega) (by omega), holds⟩

theorem exists_remaining_neg_iff (forward : 0 ≤ claims.expiry.toInt)
    (today : Instant.inCalendar now.seconds = true) :
    (∃ left, claims.remaining now = .ok left ∧ left.nanoseconds < 0) ↔
      claims.expiry.toInt < now.seconds := by
  rw [exists_remaining_iff (P := (·.nanoseconds < 0)) forward today fun _ => le_of_lt]
  simp only [Span.ofSeconds, nanosecondsPerSecond]
  omega

theorem exists_remaining_nonpos_iff (forward : 0 ≤ claims.expiry.toInt)
    (today : Instant.inCalendar now.seconds = true) :
    (∃ left, claims.remaining now = .ok left ∧ left.nanoseconds ≤ 0) ↔
      claims.expiry.toInt ≤ now.seconds := by
  rw [exists_remaining_iff (P := (·.nanoseconds ≤ 0)) forward today fun _ => id]
  simp only [Span.ofSeconds, nanosecondsPerSecond]
  omega

end Claims

namespace Codec

variable {c : Codec} {now : Instant} {token : String} {claims : Claims}

/-- Verification, the claims and what is left of their lifetime say the same of a token at an
instant: it is accepted, or it has expired. -/
structure AgreeOnExpiry (c : Codec) (now : Instant) (token : String) (claims : Claims) :
    Prop where
  accepted : (∃ found, c.verify now token = .ok found) ↔ claims.isExpired now = false
  expired : c.verify now token = refuse .tokenExpired ↔ claims.isExpired now = true
  remaining : c.verify now token = refuse .tokenExpired ↔
    ∃ left, claims.remaining now = .ok left ∧ left.nanoseconds ≤ 0

/-- Nothing but the expiry decides whether a token with the claims is verified. -/
def GoesByExpiry (c : Codec) (now : Instant) (token : String) (claims : Claims) : Prop :=
  c.verify now token =
    if claims.expiry.toInt < now.seconds then refuse .tokenExpired else .ok claims

/-- For the codec that minted it, and that has no leeway, a token goes by its expiry. -/
theorem goesByExpiry_of_mint (strict : c.leeway = 0) (sound : c.keys.Sound) {start : Instant}
    {uid : Int64} {lifetime : Span} {draw : Draw} (inside : Instant.inCalendar start.seconds = true)
    (bounded : lifetime.isRepresentable = true)
    (forward : 0 ≤ start.seconds + lifetime.wholeSeconds) (running : 0 ≤ now.seconds)
    (minted : c.mint start uid lifetime draw = .ok token) :
    c.GoesByExpiry now token (.issue uid start lifetime draw.jti c.issuer) := by
  obtain ⟨_, positive, _⟩ := mint_eq_ok_iff.mp minted
  have leeway : (c.leeway.toNat : Int) = 0 := by
    rw [strict]
    rfl
  rw [GoesByExpiry, verify_of_own_mint sound inside bounded forward (by omega) minted,
    Claims.expiry_issue uid draw.jti c.issuer inside bounded positive, leeway, Int.add_zero]

namespace GoesByExpiry

theorem accepts_iff (goes : c.GoesByExpiry now token claims) {found : Claims} :
    c.verify now token = .ok found ↔ now.seconds ≤ claims.expiry.toInt ∧ found = claims := by
  rw [goes]
  split_ifs with late
  · simp only [refuse, reduceCtorEq, false_iff, not_and]
    omega
  · have early : now.seconds ≤ claims.expiry.toInt := by omega
    simp [early, eq_comm]

theorem refuses_iff (goes : c.GoesByExpiry now token claims) :
    c.verify now token = refuse .tokenExpired ↔ claims.expiry.toInt < now.seconds := by
  rw [goes]
  split_ifs with late
  · exact iff_of_true rfl late
  · exact iff_of_false (by simp [refuse]) late

/-- Only in the second of the expiry do the readings differ. -/
theorem agreeOnExpiry_iff (goes : c.GoesByExpiry now token claims)
    (forward : 0 ≤ claims.expiry.toInt) (today : Instant.inCalendar now.seconds = true) :
    c.AgreeOnExpiry now token claims ↔ claims.expiry.toInt ≠ now.seconds := by
  constructor
  · intro agree same
    have accepted := agree.accepted.mp ⟨claims, goes.accepts_iff.mpr ⟨same.ge, rfl⟩⟩
    have expired := Claims.isExpired_iff.mpr same.le
    rw [accepted] at expired
    cases expired
  · intro apart
    refine ⟨?_, ?_, ?_⟩
    · simp only [goes.accepts_iff, exists_eq_right, ← Bool.not_eq_true, Claims.isExpired_iff]
      omega
    · rw [goes.refuses_iff, Claims.isExpired_iff]
      omega
    · rw [goes.refuses_iff, Claims.exists_remaining_nonpos_iff forward today]
      omega

end GoesByExpiry

/-- Without leeway a minted token is verified up to the second of its expiry and refused once what
is left is negative. Its claims have expired as soon as nothing is left, in the second of the expiry
already. In this second a token is accepted that has expired, and in every other one the readings
agree. -/
theorem expiry_readings (strict : c.leeway = 0) (sound : c.keys.Sound) {start : Instant}
    {uid : Int64} {lifetime : Span} {draw : Draw} (inside : Instant.inCalendar start.seconds = true)
    (bounded : lifetime.isRepresentable = true)
    (forward : 0 ≤ start.seconds + lifetime.wholeSeconds)
    (today : Instant.inCalendar now.seconds = true) (running : 0 ≤ now.seconds)
    (minted : c.mint start uid lifetime draw = .ok token) :
    ∃ claims, claims? token = some claims ∧
      claims.expiry.toInt = start.seconds + lifetime.wholeSeconds ∧
      (c.verify now token = .ok claims ↔ now.seconds ≤ claims.expiry.toInt) ∧
      (c.verify now token = refuse .tokenExpired ↔
        ∃ left, claims.remaining now = .ok left ∧ left.nanoseconds < 0) ∧
      (claims.isExpired now = true ↔
        ∃ left, claims.remaining now = .ok left ∧ left.nanoseconds ≤ 0) ∧
      (c.verify now token = .ok claims ∧ claims.isExpired now = true ↔
        claims.expiry.toInt = now.seconds) ∧
      (c.AgreeOnExpiry now token claims ↔ claims.expiry.toInt ≠ now.seconds) := by
  obtain ⟨_, positive, _⟩ := mint_eq_ok_iff.mp minted
  have expiry := Claims.expiry_issue uid draw.jti c.issuer inside bounded positive
  have goes := goesByExpiry_of_mint strict sound inside bounded forward running minted
  refine ⟨_, claims?_of_mint minted, expiry, ?_, ?_, ?_, ?_,
    goes.agreeOnExpiry_iff (by omega) today⟩
  · simp only [goes.accepts_iff, and_true]
  · rw [goes.refuses_iff, Claims.exists_remaining_neg_iff (by omega) today]
  · rw [Claims.isExpired_iff, Claims.exists_remaining_nonpos_iff (by omega) today]
  · simp only [goes.accepts_iff, and_true, Claims.isExpired_iff]
    omega

/-- A token for a minute, two seconds before it expires by the clock. -/
theorem expiry_readings_of_minute :
    let c : Codec := ⟨.digest, none, 0⟩
    ∃ (token : String) (claims : Claims),
      c.mint (.ofSeconds 0) 7 (.ofSeconds 60) ⟨"x", []⟩ = .ok token ∧
        claims? token = some claims ∧ claims.expiry.toInt = 60 ∧
        c.AgreeOnExpiry (.ofSeconds 58) token claims := by
  intro c
  have minted : c.mint (.ofSeconds 0) 7 (.ofSeconds 60) ⟨"x", []⟩ = .ok _ :=
    mint_eq_ok_iff.mpr ⟨by decide, by decide, _, rfl, rfl⟩
  have today : Instant.inCalendar (Instant.ofSeconds 58).seconds = true := by decide
  obtain ⟨claims, carried, expiry, _, _, _, _, agree⟩ :=
    expiry_readings rfl KeyPair.sound_digest (by decide) (by decide) (by decide) today (by decide)
      minted
  have expires : claims.expiry.toInt = 60 := expiry
  exact ⟨_, claims, minted, carried, expires, agree.mpr (by rw [expires]; decide)⟩

/-- In the second in which it expires a token is verified, though it has expired. -/
theorem not_agreeOnExpiry_of_minute :
    let c : Codec := ⟨.digest, none, 0⟩
    ∃ (token : String) (claims : Claims),
      c.mint (.ofSeconds 0) 7 (.ofSeconds 60) ⟨"x", []⟩ = .ok token ∧
        claims? token = some claims ∧ c.verify (.ofSeconds 60) token = .ok claims ∧
        claims.isExpired (.ofSeconds 60) = true ∧
        ¬c.AgreeOnExpiry (.ofSeconds 60) token claims := by
  intro c
  have minted : c.mint (.ofSeconds 0) 7 (.ofSeconds 60) ⟨"x", []⟩ = .ok _ :=
    mint_eq_ok_iff.mpr ⟨by decide, by decide, _, rfl, rfl⟩
  have running : 0 ≤ (Instant.ofSeconds 60).seconds := by decide
  have goes := goesByExpiry_of_mint rfl KeyPair.sound_digest (by decide) (by decide) (by decide)
    running minted
  have same : (Claims.issue 7 (.ofSeconds 0) (.ofSeconds 60) "x" none).expiry.toInt =
      (Instant.ofSeconds 60).seconds :=
    Claims.expiry_issue 7 "x" none (by decide) (by decide) (by decide)
  refine ⟨_, _, minted, claims?_of_mint minted, goes.accepts_iff.mpr ⟨same.ge, rfl⟩,
    Claims.isExpired_iff.mpr same.le, fun agree => ?_⟩
  exact (goes.agreeOnExpiry_iff (by decide) (by decide)).mp agree same

end Codec

end TokenLifecycle
