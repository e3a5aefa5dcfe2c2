import TokenLifecycle.Text.Utf8

/-!
# Causes of failure

Failures at startup, rejected credentials and failures of the session store are told apart, so that
a caller can reject a request or try it again.
-/

namespace TokenLifecycle

/-- Why an operation was refused. -/
inductive Error
  | validation (message : String)
  | internal (message : String)
  | keyLoad (message : String)
  | unsupportedAlgorithm (name : String)
  | tokenExpired
  | invalidTokenFormat
  | invalidSignature
  | invalidClaims
  | tokenRevoked
  | refreshTokenExpired
  | invalidRefreshToken
  | tokenGenerationFailed
  | sessionStoreUnavailable (message : String)
  deriving DecidableEq, Repr

namespace Error

/-- The name of an error's kind. -/
def kind : Error → String
  | validation _ => "Validation"
  | internal _ => "Internal"
  | keyLoad _ => "KeyLoadError"
  | unsupportedAlgorithm _ => "UnsupportedAlgorithm"
  | tokenExpired => "TokenExpired"
  | invalidTokenFormat => "InvalidTokenFormat"
  | invalidSignature => "InvalidSignature"
  | invalidClaims => "InvalidClaims"
  | tokenRevoked => "TokenRevoked"
  | refreshTokenExpired => "RefreshTokenExpired"
  | invalidRefreshToken => "InvalidRefreshToken"
  | tokenGenerationFailed => "TokenGenerationFailed"
  | sessionStoreUnavailable _ => "SessionStoreUnavailable"

/-- The error of a kind, with the given text where that kind carries one. -/
def ofKind? (name text : String) : Option Error :=
  [validation text, internal text, keyLoad text, unsupportedAlgorithm text, tokenExpired,
    invalidTokenFormat, invalidSignature, invalidClaims, tokenRevoked, refreshTokenExpired,
    invalidRefreshToken, tokenGenerationFailed, sessionStoreUnavailable text].find?
      fun e => e.kind = name

/-- The error concerns tokens, keys or sessions, and not the request itself or the program. -/
def isTokenError : Error → Bool
  | validation _ => false
  | internal _ => false
  | _ => true

/-- The wording of an error. -/
def message : Error → String
  | validation m => "Validation error: " ++ m
  | internal m => "Internal error: " ++ m
  | keyLoad m => "Failed to load signing keys: " ++ m
  | unsupportedAlgorithm a => "Unsupported signing algorithm: " ++ a
  | tokenExpired => "Token expired"
  | invalidTokenFormat => "Invalid token format"
  | invalidSignature => "Invalid signature"
  | invalidClaims => "Invalid claims"
  | tokenRevoked => "Token revoked or replayed"
  | refreshTokenExpired => "Refresh token expired"
  | invalidRefreshToken => "Invalid refresh token"
  | tokenGenerationFailed => "Token generation failed"
  | sessionStoreUnavailable m => "Session store unavailable: " ++ m

/-- The stable code that clients see. -/
def code : Error → String
  | validation _ => "VALIDATION_ERROR"
  | internal _ => "INTERNAL_ERROR"
  | keyLoad _ => "CONFIGURATION_ERROR"
  | unsupportedAlgorithm _ => "CONFIGURATION_ERROR"
  | tokenExpired => "TOKEN_EXPIRED"
  | invalidTokenFormat => "TOKEN_INVALID"
  | invalidSignature => "TOKEN_INVALID"
  | invalidClaims => "TOKEN_INVALID"
  | tokenRevoked => "TOKEN_REVOKED"
  | refreshTokenExpired => "REFRESH_TOKEN_EXPIRED"
  | invalidRefreshToken => "REFRESH_TOKEN_INVALID"
  | tokenGenerationFailed => "TOKEN_GENERATION_FAILED"
  | sessionStoreUnavailable _ => "SESSION_STORE_UNAVAILABLE"

/-- The presented credential was rejected, and presenting it again will not help. -/
def isAuthenticationFailure : Error → Bool
  | tokenExpired => true
  | invalidTokenFormat => true
  | invalidSignature => true
  | invalidClaims => true
  | tokenRevoked => true
  | refreshTokenExpired => true
  | invalidRefreshToken => true
  | _ => false

/-- The session store failed, which may clear up on its own. -/
def isTransient : Error → Bool
  | sessionStoreUnavailable _ => true
  | _ => false

/-- The message that clients see. Which way a token is invalid, and what happened inside, stays in
the logs. -/
def publicMessage : Error → String
  | validation m => m
  | internal _ => "Internal error"
  | tokenExpired => "Invalid token"
  | invalidTokenFormat => "Invalid token"
  | invalidSignature => "Invalid token"
  | invalidClaims => "Invalid token"
  | sessionStoreUnavailable _ => "Session store unavailable"
  | e => e.message

end Error

/-- How an operation can fail: it is refused, or its arithmetic leaves the range of its numbers, as
the time since 1970 does before it. -/
inductive Failure
  | rejected (error : Error)
  | overflow
  deriving DecidableEq, Repr

/-- What an operation comes to. -/
abbrev Outcome (α : Type) : Type := Except Failure α

/-- The outcome of a refused operation. -/
def refuse {α : Type} (e : Error) : Outcome α :=
  .error (.rejected e)

end TokenLifecycle
