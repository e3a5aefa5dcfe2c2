import TokenLifecycle.Redis.Fault

/-!
# The handshake with Redis

What is sent first on a new connection: the credentials, if there are any, and the selection of a
database other than the first one.
-/

namespace TokenLifecycle.Redis.Handshake

variable {σ : Type}

/-- The server accepted the command. -/
def isAccepted : Answer → Bool
  | .reply .okay => true
  | _ => false

/-- The phrase occurs in the text. -/
def occurs (phrase : List Char) : List Char → Bool
  | [] => phrase.isEmpty
  | c :: rest => phrase.isPrefixOf (c :: rest) || occurs phrase rest

/-- The server takes credentials without a user only. -/
def wantsPasswordOnly : Answer → Bool
  | .refusal line => occurs "wrong number of arguments for 'auth' command".toList line.toList
  | _ => false

/-- Logs in. An old server is given the password alone. -/
def authenticate (exchange : List String → σ → Answer × σ) (a : Address) (s : σ) :
    Except Cause Unit × σ :=
  match a.password with
  | none => (.ok (), s)
  | some password =>
    let (answer, s) := exchange ("AUTH" :: a.user.toList ++ [password]) s
    if isAccepted answer then (.ok (), s)
    else if wantsPasswordOnly answer then
      let (answer, s) := exchange ["AUTH", password] s
      (if isAccepted answer then .ok () else .error .authenticationFailed, s)
    else (.error .authenticationFailed, s)

/-- Logs in and selects the database. -/
def run (exchange : List String → σ → Answer × σ) (a : Address) (s : σ) : Except Cause Unit × σ :=
  match authenticate exchange a s with
  | (.error cause, s) => (.error cause, s)
  | (.ok (), s) =>
    if a.database = 0 then (.ok (), s)
    else
      let (answer, s) := exchange ["SELECT", Numeral.ofInt a.database.toInt] s
      (if isAccepted answer then .ok () else .error .databaseRefused, s)

end TokenLifecycle.Redis.Handshake
