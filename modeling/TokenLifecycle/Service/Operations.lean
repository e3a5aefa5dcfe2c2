import TokenLifecycle.Service.Settings
import TokenLifecycle.Session.Key
import TokenLifecycle.Session.Script
import TokenLifecycle.Token.Bearer
import TokenLifecycle.Token.Codec
import TokenLifecycle.Token.Pair

/-!
# The token service

Issues pairs of tokens, refreshes and revokes them. A principal has one live refresh token at a
time, the one in the session store; in the last third of its lifetime a refresh replaces it.
-/

namespace TokenLifecycle

open Session (Script)

namespace Service

/-- Chance, as one operation uses it. -/
structure Draws where
  access : Draw
  refresh : Draw

/-- What a refresh comes to. -/
structure Refreshed where
  tokens : TokenPair
  uid : Int64
  /-- A new refresh token takes the place of the presented one. -/
  rotated : Bool
  deriving DecidableEq, Repr

/-- A refresh token is replaced when less than this part of its lifetime is left. -/
def rotationDivisor : Nat := 3

end Service

/-- A token service. -/
structure Service where
  codec : Codec
  settings : Service.Settings

namespace Service

/-- The refusal of a refresh lifetime that a store cannot count. -/
def uncountable : Error :=
  .validation ("refresh token lifetime is not a valid store TTL: " ++
    "Source duration value is out of range for the target type")

/-- The service with settings that can be used. -/
def ofSettings (codec : Codec) (settings : Settings) : Outcome Service :=
  match settings.validate with
  | .error f => .error f
  | .ok () =>
    match settings.refreshLifetime.duration? with
    | some _ => .ok ⟨codec, settings⟩
    | none => refuse uncountable

/-- What is logged when a service has been set up. -/
def readyLine (s : Service) : LogLine :=
  ⟨.info, "Token service initialized",
    [("algorithm", s.codec.keys.algorithm.name),
      ("access_ttl_secs", Numeral.ofInt s.settings.accessLifetime.wholeSeconds),
      ("refresh_ttl_secs", Numeral.ofInt s.settings.refreshLifetime.wholeSeconds)]⟩

/-- The session key of a principal. -/
def sessionKey (s : Service) (uid : Int64) : String :=
  Session.key s.settings.keyPrefix uid

/-- A log field that names a principal. -/
def principalField (uid : Int64) : String × String :=
  ("principal_id", Numeral.ofInt uid.toInt)

/-- The script that goes on with the value of an outcome. -/
def proceed {α β : Type} (outcome : Outcome α) (next : α → Script β) : Script β :=
  match outcome with
  | .ok a => next a
  | .error f => .done (.error f)

/-- The script that goes on with a minted token. -/
def proceedWithToken {β : Type} (uid : Int64) (minted : Outcome String)
    (next : String → Script β) : Script β :=
  match minted with
  | .ok token => next token
  | .error (.rejected .tokenGenerationFailed) =>
    .log ⟨.error, "Failed to sign claims",
        [principalField uid, ("error", KeyFault.signingFailed.message)]⟩
      (.done (refuse .tokenGenerationFailed))
  | .error f => .done (.error f)

/-- The error that a failure of the store is reported as. -/
def storeError : Error → Error
  | .sessionStoreUnavailable m => .sessionStoreUnavailable m
  | e => .sessionStoreUnavailable e.message

/-- The script that goes on with an answer of the store. A refusal is logged. -/
def proceedWithAnswer {α β : Type} (operation : String) (answer : Outcome α)
    (next : α → Script β) : Script β :=
  match answer with
  | .ok a => next a
  | .error (.rejected e) =>
    .log ⟨.error, "Session store operation failed",
        [("operation", operation), ("error", e.message)]⟩
      (.done (refuse (storeError e)))
  | .error .overflow => .done (.error .overflow)

/-- Issues a pair of tokens to a principal. The new refresh token takes the place of an earlier
one. Before 1970 there are no tokens, and the store is not called. -/
def generate (s : Service) (now : Instant) (draws : Draws) (uid : Int64) : Script TokenPair :=
  proceedWithToken uid (s.codec.mintNow now uid s.settings.accessLifetime draws.access)
    fun access =>
  proceedWithToken uid (s.codec.mintNow now uid s.settings.refreshLifetime draws.refresh)
    fun refresh =>
  .set (s.sessionKey uid) refresh s.settings.refreshLifetime fun answer =>
  proceedWithAnswer "persist session" answer fun () =>
  .log ⟨.info, "Issued token pair", [principalField uid]⟩
    (.done (.ok
      (.ofTokens access refresh s.settings.accessLifetime s.settings.refreshLifetime)))

/-- The claims of a token. -/
def claims (s : Service) (now : Instant) (token : String) : Outcome Claims :=
  s.codec.verify now token

/-- The principal of a token. -/
def principal (s : Service) (now : Instant) (token : String) : Outcome Int64 :=
  (s.claims now token).map (·.uid)

/-- The principal of the token in a bearer header. -/
def authenticate (s : Service) (now : Instant) (header : String) : Outcome Int64 :=
  match Bearer.token header with
  | .error f => .error f
  | .ok token => s.principal now token

/-- The claims of a refresh token. A refusal says only whether the token has expired. -/
def refreshClaims (s : Service) (now : Instant) (token : String) : Outcome Claims :=
  match s.codec.verify now token with
  | .ok c => .ok c
  | .error (.rejected .tokenExpired) => refuse .refreshTokenExpired
  | .error (.rejected e) =>
    if e.isAuthenticationFailure then refuse .invalidRefreshToken else refuse e
  | .error .overflow => .error .overflow

/-- A span divided by the rotation divisor, rounded toward zero. -/
def rotationThreshold (lifetime : Span) : Span :=
  ⟨Int.tdiv lifetime.nanoseconds rotationDivisor⟩

/-- How much is left of a token's lifetime, and whether it is time to replace the token. -/
def rotationDue (c : Claims) (now : Instant) : Outcome (Span × Bool) :=
  match c.remaining now with
  | .error f => .error f
  | .ok remaining =>
    match c.lifetime with
    | .error f => .error f
    | .ok lifetime =>
      .ok (remaining, remaining.nanoseconds < (rotationThreshold lifetime).nanoseconds)

/-- Goes on when the presented token is the one in the store. -/
def proceedIfLive {β : Type} (uid : Int64) (stored : Option String) (token : String)
    (next : Script β) : Script β :=
  let revoked (message : String) : Script β :=
    .log ⟨.warn, message, [principalField uid]⟩ (.done (refuse .tokenRevoked))
  match stored with
  | some current =>
    if current = token then next else revoked "Refresh token does not match the live session"
  | none => revoked "Refresh token presented without a live session"

/-- Gives a new access token for a live refresh token, and a new refresh token when it is time, at
a reading of the clock. -/
def refreshAt (s : Service) (now : Instant) (draws : Draws) (token : String) : Script Refreshed :=
  proceed (s.refreshClaims now token) fun c =>
  .get (s.sessionKey c.uid) fun answer =>
  proceedWithAnswer "read session" answer fun stored =>
  proceedIfLive c.uid stored token <|
  proceedWithToken c.uid (s.codec.mint now c.uid s.settings.accessLifetime draws.access)
    fun access =>
  proceed (rotationDue c now) fun (remaining, due) =>
  if due then
    proceedWithToken c.uid (s.codec.mint now c.uid s.settings.refreshLifetime draws.refresh)
      fun rotated =>
    .set (s.sessionKey c.uid) rotated s.settings.refreshLifetime fun answer =>
    proceedWithAnswer "rotate session" answer fun () =>
    .log ⟨.info, "Rotated refresh token",
        [principalField c.uid, ("remaining_secs", Numeral.ofInt remaining.wholeSeconds)]⟩
      (.done (.ok
        ⟨.ofTokens access rotated s.settings.accessLifetime s.settings.refreshLifetime, c.uid,
          true⟩))
  else
    .done (.ok ⟨.ofTokens access token s.settings.accessLifetime remaining, c.uid, false⟩)

/-- Redeems a refresh token now. The clock is read before anything else. -/
def refresh (s : Service) (now : Instant) (draws : Draws) (token : String) : Script Refreshed :=
  proceed now.read fun start => s.refreshAt start draws token

/-- Drops the session of a principal. -/
def clean (s : Service) (uid : Int64) : Script Unit :=
  .delete (s.sessionKey uid) fun answer =>
  proceedWithAnswer "delete session" answer fun () =>
  .log ⟨.info, "Session cleaned", [principalField uid]⟩ (.done (.ok ()))

end Service

end TokenLifecycle
