import Mathlib.Tactic
import TokenLifecycle.Proofs.Token.Claims
import TokenLifecycle.Service.Operations

/-!
# When a refresh token is replaced

The rest of a lifetime and its third part are compared to the nanosecond. As both the rest and the
lifetime are whole seconds, `rotationDue_eq` can say it in seconds alone.
-/

namespace TokenLifecycle.Service

/-- Less than a third of a whole number of seconds is left. -/
theorem lt_rotationThreshold_iff {lifetime : Int} (forward : 0 ≤ lifetime) (remaining : Int) :
    (Span.ofSeconds remaining).nanoseconds <
        (rotationThreshold (.ofSeconds lifetime)).nanoseconds ↔
      3 * remaining < lifetime := by
  have whole : 0 ≤ (Span.ofSeconds lifetime).nanoseconds := by
    simp only [Span.ofSeconds, nanosecondsPerSecond]
    omega
  rw [rotationThreshold, Int.tdiv_eq_ediv_of_nonneg whole]
  simp only [Span.ofSeconds, nanosecondsPerSecond, rotationDivisor]
  omega

/-- A token is replaced when less than a third of its lifetime is left. -/
theorem rotationDue_eq {c : Claims} {now : Instant} (ordered : c.issuedAt.toInt ≤ c.expiry.toInt)
    (bounded : c.expiry.toInt - c.issuedAt.toInt ≤ 9223372036854775)
    (low : -9223372036854775 ≤ c.expiry.toInt - now.seconds)
    (high : c.expiry.toInt - now.seconds ≤ 9223372036854775) :
    rotationDue c now =
      .ok (.ofSeconds (c.expiry.toInt - now.seconds),
        decide (3 * (c.expiry.toInt - now.seconds) < c.expiry.toInt - c.issuedAt.toInt)) := by
  have forward : 0 ≤ c.expiry.toInt - c.issuedAt.toInt := by omega
  simp only [rotationDue, Claims.remaining, Claims.lifetime, Claims.spanBetween_eq_ok low high,
    Claims.spanBetween_eq_ok (by omega : -9223372036854775 ≤ _) bounded,
    lt_rotationThreshold_iff forward]

end TokenLifecycle.Service
