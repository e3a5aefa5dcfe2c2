import TokenLifecycle.Json.Record
import TokenLifecycle.Time.Instant

/-!
# Token pairs

An access token and the refresh token that belongs to it, with what is left of their lifetimes.
-/

namespace TokenLifecycle

open Json (Doc)

/-- A pair of tokens. Lifetimes are in seconds. -/
structure TokenPair where
  accessToken : String
  refreshToken : String
  accessExpiresIn : Int64
  refreshExpiresIn : Int64
  deriving DecidableEq, Repr

namespace TokenPair

/-- The pair of two tokens with their lifetimes in whole seconds. The lifetime of the refresh token
is not reported below zero. -/
def ofTokens (access refresh : String) (accessLifetime refreshLifetime : Span) : TokenPair where
  accessToken := access
  refreshToken := refresh
  accessExpiresIn := Int64.ofInt accessLifetime.wholeSeconds
  refreshExpiresIn := Int64.ofInt (max 0 refreshLifetime.wholeSeconds)

/-- The pair as a document. -/
def doc (p : TokenPair) : Doc :=
  Doc.ofMembers
    [("access_token", Doc.text p.accessToken), ("refresh_token", Doc.text p.refreshToken),
      ("access_expires_in", Doc.int p.accessExpiresIn.toInt),
      ("refresh_expires_in", Doc.int p.refreshExpiresIn.toInt)]

/-- The names of the members, in order. -/
def fieldNames : List String :=
  ["access_token", "refresh_token", "access_expires_in", "refresh_expires_in"]

/-- Reads a pair. -/
def ofDoc? (d : Doc) : Option TokenPair := do
  let f ← d.record? fieldNames
  let access ← f.required? "access_token" Doc.text?
  let refresh ← f.required? "refresh_token" Doc.text?
  let accessExpiresIn ← f.required? "access_expires_in" Doc.int64?
  let refreshExpiresIn ← f.required? "refresh_expires_in" Doc.int64?
  return ⟨access, refresh, accessExpiresIn, refreshExpiresIn⟩

end TokenPair

end TokenLifecycle
