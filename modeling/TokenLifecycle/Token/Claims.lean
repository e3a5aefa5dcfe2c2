import TokenLifecycle.Error
import TokenLifecycle.Json.Record
import TokenLifecycle.Time.Instant

/-!
# Claims

What a token says about its bearer. Access tokens and refresh tokens have the same claims and differ
only in how far the expiry lies behind the time of issue.
-/

namespace TokenLifecycle

open Json (Doc)

/-- The claims of a token. Times are whole seconds since 1970. -/
structure Claims where
  /-- The principal that the token was issued to. -/
  uid : Int64
  issuedAt : Int64
  expiry : Int64
  /-- The identifier of the token. -/
  jti : String
  issuer : Option String
  deriving DecidableEq, Repr

namespace Claims

/-- Claims that hold from an instant on for a span. Both are cut to whole seconds. -/
def issue (uid : Int64) (start : Instant) (lifetime : Span) (jti : String)
    (issuer : Option String) : Claims where
  uid := uid
  issuedAt := Int64.ofInt start.seconds
  expiry := Int64.ofInt (start.seconds + lifetime.wholeSeconds)
  jti := jti
  issuer := issuer

/-- A time as an instant of the calendar. Times beyond the calendar count as its epoch. -/
def instantOf (time : Int64) : Instant :=
  if Instant.inCalendar time.toInt then .ofSeconds time.toInt else .ofSeconds 0

/-- The instant of issue. -/
def issueInstant (c : Claims) : Instant :=
  instantOf c.issuedAt

/-- The instant of expiry. -/
def expiryInstant (c : Claims) : Instant :=
  instantOf c.expiry

/-- The span of a number of seconds that is the difference of two times. -/
def spanBetween (late early : Int) : Outcome Span :=
  let seconds := late - early
  if seconds < -9223372036854775808 ∨ 9223372036854775808 ≤ seconds then .error .overflow
  else
    match Span.ofSeconds? seconds with
    | some s => .ok s
    | none => .error .overflow

/-- The span between issue and expiry. -/
def lifetime (c : Claims) : Outcome Span :=
  spanBetween c.expiry.toInt c.issuedAt.toInt

/-- The span until expiry; negative after it. -/
def remaining (c : Claims) (now : Instant) : Outcome Span :=
  spanBetween c.expiry.toInt now.seconds

/-- The claims have expired at a reading of the clock. -/
def isExpired (c : Claims) (now : Instant) : Bool :=
  c.expiry.toInt ≤ now.seconds

/-- The claims as a document. An absent issuer is left out. -/
def doc (c : Claims) : Doc :=
  Doc.ofMembers
    ([("uid", Doc.int c.uid.toInt), ("iat", Doc.int c.issuedAt.toInt),
        ("exp", Doc.int c.expiry.toInt), ("jti", Doc.text c.jti)] ++
      (match c.issuer with
        | some issuer => [("iss", Doc.text issuer)]
        | none => []))

/-- The names of the members, in order. -/
def fieldNames : List String := ["uid", "iat", "exp", "jti", "iss"]

/-- Reads claims. -/
def ofDoc? (d : Doc) : Option Claims := do
  let f ← d.record? fieldNames
  let uid ← f.required? "uid" Doc.int64?
  let issuedAt ← f.required? "iat" Doc.int64?
  let expiry ← f.required? "exp" Doc.int64?
  let jti ← f.required? "jti" Doc.text?
  let issuer ← f.withDefault? "iss" (Doc.option? Doc.text?) none
  return ⟨uid, issuedAt, expiry, jti, issuer⟩

end Claims

end TokenLifecycle
