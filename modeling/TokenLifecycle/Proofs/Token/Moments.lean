import Mathlib.Tactic
import TokenLifecycle.Proofs.Token.Minting

/-!
# The instants of claims

Claims tell the instants of issue and of expiry as dates of the calendar, and the span between them.
Spans reach further than the calendar, and an expiry behind its last second is told as the epoch.
The main statement `moments_of_issue` says what issued claims tell in any case, and that what they
tell fits together exactly when the expiry is in the calendar.
-/

namespace TokenLifecycle

namespace Claims

theorem instantOf_of_inCalendar {time : Int64} (inside : Instant.inCalendar time.toInt = true) :
    instantOf time = .ofSeconds time.toInt :=
  if_pos inside

theorem instantOf_of_not_inCalendar {time : Int64}
    (outside : ¬Instant.inCalendar time.toInt = true) : instantOf time = .ofSeconds 0 :=
  if_neg outside

/-- A time is told as itself exactly when it is in the calendar, since the epoch is. -/
theorem seconds_instantOf_iff {time : Int64} :
    (instantOf time).seconds = time.toInt ↔ Instant.inCalendar time.toInt = true := by
  by_cases inside : Instant.inCalendar time.toInt = true
  · rw [instantOf_of_inCalendar inside, Instant.seconds_ofSeconds]
    exact iff_of_true rfl inside
  · rw [instantOf_of_not_inCalendar inside, Instant.seconds_ofSeconds]
    refine iff_of_false (fun epoch => inside ?_) inside
    rw [← epoch]
    decide

/-- What claims tell fits together, and with the instant and the lifetime that they were issued
for. -/
structure TellsTimes (c : Claims) (start : Instant) (lifetime : Span) : Prop where
  issue : c.issueInstant = .ofSeconds start.seconds
  expiry : c.expiryInstant.seconds = c.expiry.toInt
  later : c.issueInstant < c.expiryInstant
  between : c.expiryInstant.since c.issueInstant = .ofSeconds lifetime.wholeSeconds
  whole : c.lifetime = .ok (.ofSeconds lifetime.wholeSeconds)
  remaining : c.remaining c.issueInstant = c.lifetime
  /-- The expiry lies ahead as long as the claims have not expired. -/
  ahead : ∀ now, c.isExpired now = false → now < c.expiryInstant

section Issue

variable (uid : Int64) {start : Instant} {lifetime : Span} (jti : String) (issuer : Option String)

theorem issueInstant_issue (inside : Instant.inCalendar start.seconds = true) (lifetime : Span) :
    (issue uid start lifetime jti issuer).issueInstant = .ofSeconds start.seconds := by
  have issued := issuedAt_issue uid jti issuer inside lifetime
  rw [issueInstant, instantOf_of_inCalendar (issued ▸ inside), issued]

/-- From every instant that is as many whole seconds before the expiry as the lifetime has, the
lifetime is left. -/
theorem remaining_issue (inside : Instant.inCalendar start.seconds = true)
    (bounded : lifetime.isRepresentable = true) (positive : 0 < lifetime.wholeSeconds)
    {now : Instant} (same : now.seconds = start.seconds) :
    (issue uid start lifetime jti issuer).remaining now =
      .ok (.ofSeconds lifetime.wholeSeconds) := by
  have limit := Span.wholeSeconds_le_of_isRepresentable bounded
  have left : start.seconds + lifetime.wholeSeconds - start.seconds = lifetime.wholeSeconds :=
    add_sub_cancel_left _ _
  rw [remaining, expiry_issue uid jti issuer inside bounded positive, same,
    spanBetween_eq_ok (by omega) (by omega), left]

theorem lifetime_issue (inside : Instant.inCalendar start.seconds = true)
    (bounded : lifetime.isRepresentable = true) (positive : 0 < lifetime.wholeSeconds) :
    (issue uid start lifetime jti issuer).lifetime = .ok (.ofSeconds lifetime.wholeSeconds) := by
  have whole := remaining_issue uid jti issuer inside bounded positive rfl
  rwa [remaining, ← issuedAt_issue uid jti issuer inside lifetime] at whole

/-- Claims with an expiry in the calendar tell their times. -/
theorem tellsTimes_issue (inside : Instant.inCalendar start.seconds = true)
    (bounded : lifetime.isRepresentable = true) (positive : 0 < lifetime.wholeSeconds)
    (ends_inside : Instant.inCalendar (start.seconds + lifetime.wholeSeconds) = true) :
    (issue uid start lifetime jti issuer).TellsTimes start lifetime := by
  have issued := issueInstant_issue uid jti issuer inside lifetime
  have expires := expiry_issue uid jti issuer inside bounded positive
  have shown : (issue uid start lifetime jti issuer).expiryInstant =
      .ofSeconds (start.seconds + lifetime.wholeSeconds) := by
    rw [expiryInstant, instantOf_of_inCalendar (expires ▸ ends_inside), expires]
  have whole := lifetime_issue uid jti issuer inside bounded positive
  refine ⟨issued, ?_, ?_, ?_, whole, ?_, ?_⟩
  · rw [shown, Instant.seconds_ofSeconds, expires]
  · rw [issued, shown, Instant.ofSeconds_lt_ofSeconds_iff]
    exact Int.lt_add_of_pos_right _ positive
  · rw [issued, shown, Instant.since_ofSeconds, add_sub_cancel_left]
  · rw [whole, issued]
    exact remaining_issue uid jti issuer inside bounded positive (Instant.seconds_ofSeconds _)
  · intro now running
    rw [isExpired, expires, decide_eq_false_iff_not, Int.not_le] at running
    rwa [shown, Instant.lt_ofSeconds_iff]

end Issue

/-- Claims that were issued for a second at least tell the instant of issue in whole seconds, and
the whole seconds of the lifetime as their lifetime and as what is left at the issue. They tell the
instant of expiry as it is exactly when it is in the calendar, and as the epoch otherwise. -/
theorem moments_of_issue (uid : Int64) {start : Instant} {lifetime : Span} (jti : String)
    (issuer : Option String) (inside : Instant.inCalendar start.seconds = true)
    (bounded : lifetime.isRepresentable = true) (positive : 0 < lifetime.wholeSeconds) :
    let c := issue uid start lifetime jti issuer
    c.expiry.toInt = start.seconds + lifetime.wholeSeconds ∧
      c.issueInstant = .ofSeconds start.seconds ∧
      c.lifetime = .ok (.ofSeconds lifetime.wholeSeconds) ∧
      c.remaining c.issueInstant = c.lifetime ∧
      (Instant.inCalendar c.expiry.toInt = false → c.expiryInstant = .ofSeconds 0) ∧
      (c.TellsTimes start lifetime ↔
        Instant.inCalendar (start.seconds + lifetime.wholeSeconds) = true) := by
  intro c
  have issued : c.issueInstant = .ofSeconds start.seconds :=
    issueInstant_issue uid jti issuer inside lifetime
  have expires : c.expiry.toInt = start.seconds + lifetime.wholeSeconds :=
    expiry_issue uid jti issuer inside bounded positive
  have whole : c.lifetime = .ok (.ofSeconds lifetime.wholeSeconds) :=
    lifetime_issue uid jti issuer inside bounded positive
  have left : c.remaining c.issueInstant = .ok (.ofSeconds lifetime.wholeSeconds) := by
    rw [issued]
    exact remaining_issue uid jti issuer inside bounded positive (Instant.seconds_ofSeconds _)
  refine ⟨expires, issued, whole, left.trans whole.symm, ?_, ?_⟩
  · intro outside
    exact instantOf_of_not_inCalendar (Bool.not_eq_true _ ▸ outside)
  · constructor
    · intro tells
      rw [← expires]
      exact seconds_instantOf_iff.mp tells.expiry
    · exact tellsTimes_issue uid jti issuer inside bounded positive

/-- Half a second before the epoch, claims are issued for a second and three quarters: they count
from the second before, and for one second. -/
theorem moments_of_issue_before_epoch :
    let start : Instant := ⟨-500000000⟩
    let lifetime : Span := ⟨1750000000⟩
    Instant.inCalendar start.seconds = true ∧ lifetime.isRepresentable = true ∧
      0 < lifetime.wholeSeconds ∧ start.seconds = -1 ∧
      (issue 7 start lifetime "x" none).TellsTimes start lifetime := by
  intro start lifetime
  have inside : Instant.inCalendar start.seconds = true := by decide
  have bounded : lifetime.isRepresentable = true := by decide
  have positive : 0 < lifetime.wholeSeconds := by decide
  obtain ⟨_, _, _, _, _, tells⟩ := moments_of_issue 7 "x" none inside bounded positive
  exact ⟨inside, bounded, positive, by decide, tells.mpr (by decide)⟩

/-- Claims that were issued in 2026 and expire one second behind the calendar tell that they expired
in 1970. -/
theorem not_tellsTimes_beyond_calendar :
    let start : Instant := .ofSeconds 1767225600
    let lifetime : Span := .ofSeconds 8208499651200
    let c := issue 7 start lifetime "x" none
    Instant.inCalendar start.seconds = true ∧ lifetime.isRepresentable = true ∧
      0 < lifetime.wholeSeconds ∧ c.isExpired start = false ∧
      c.expiryInstant = .ofSeconds 0 ∧ c.expiryInstant < c.issueInstant ∧
      ¬c.TellsTimes start lifetime := by
  intro start lifetime c
  have expired : c.expiryInstant < c.issueInstant := by decide
  refine ⟨by decide, by decide, by decide, by decide, by decide, expired, fun tells => ?_⟩
  have later : c.issueInstant < c.expiryInstant := tells.later
  rw [Instant.lt_iff] at expired later
  exact absurd expired (Int.not_lt.mpr later.le)

end Claims

end TokenLifecycle
