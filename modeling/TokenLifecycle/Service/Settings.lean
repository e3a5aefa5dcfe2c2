import TokenLifecycle.Config.Jwt
import TokenLifecycle.Config.Session
import TokenLifecycle.Time.Instant

/-!
# Settings of the token service

How long tokens live, and what session keys begin with. Whether settings can be used is checked when
a service is set up.
-/

namespace TokenLifecycle.Service

/-- Settings of the service. -/
structure Settings where
  accessLifetime : Span
  refreshLifetime : Span
  keyPrefix : String
  deriving DecidableEq, Repr

namespace Settings

/-- The settings where nothing is given: two hours, and thirty days. -/
def default : Settings :=
  ⟨.ofSeconds 7200, .ofSeconds 2592000, "refresh_token"⟩

/-- The refusal of a lifetime that no span has. -/
def outOfRange (kind : String) (seconds : Int) : Error :=
  .validation (kind ++ " token lifetime of " ++ Numeral.ofInt seconds ++ " seconds is out of range")

/-- The lifetime of a number of seconds. -/
def lifetime (kind : String) (seconds : Int64) : Outcome Span :=
  match Span.ofSeconds? seconds.toInt with
  | some s => .ok s
  | none => refuse (outOfRange kind seconds.toInt)

/-- The settings that a configuration gives. -/
def ofConfig (jwt : Config.Jwt) (session : Config.Session) : Outcome Settings :=
  match lifetime "access" jwt.accessTokenExpiry with
  | .error f => .error f
  | .ok access =>
    match lifetime "refresh" jwt.refreshTokenExpiry with
    | .error f => .error f
    | .ok refresh => .ok ⟨access, refresh, session.keyPrefix⟩

/-- Refuses lifetimes below a second and an empty prefix. -/
def validate (s : Settings) : Outcome Unit :=
  if s.accessLifetime.wholeSeconds ≤ 0 then
    refuse (.validation "access token lifetime must be positive")
  else if s.refreshLifetime.wholeSeconds ≤ 0 then
    refuse (.validation "refresh token lifetime must be positive")
  else if s.keyPrefix = "" then
    refuse (.validation "session key prefix must not be empty")
  else .ok ()

end Settings

end TokenLifecycle.Service
