import TokenLifecycle.Config.Cache
import TokenLifecycle.Log.Line
import TokenLifecycle.Redis.Fault
import TokenLifecycle.Redis.Mask

/-!
# Connecting to Redis

A connection is tried several times, with pauses that double up to a bound. A fault that another
attempt will not mend ends the attempts.
-/

namespace TokenLifecycle.Redis

/-- What connecting comes to: its outcome, the pauses between attempts in milliseconds, and the
log. -/
structure Connected (α : Type) where
  outcome : Except Fault α
  pauses : List UInt64
  logs : List LogLine

namespace Connected

variable {σ α : Type}

/-- The first pause. -/
def firstPause : UInt64 := 100

/-- The longest pause. -/
def longestPause : UInt64 := 5000

/-- The pause after a pause. -/
def nextPause (pause : UInt64) : UInt64 :=
  min (2 * pause) longestPause

/-- What is logged before another attempt. -/
def retryLine (attempt attempts pause : Nat) (f : Fault) : LogLine :=
  ⟨.warn, "Failed to connect to Redis (attempt " ++ Numeral.ofNat attempt ++ "/" ++
    Numeral.ofNat attempts ++ "): " ++ f.message ++ ". Retrying in " ++ Numeral.ofNat pause ++
    "ms...", []⟩

/-- What is logged when the last attempt has been made, by its outcome. -/
def lastLine (attempt : Nat) : Except Fault α → LogLine
  | .ok _ => ⟨.info, "Successfully connected to Redis", []⟩
  | .error f =>
    ⟨.error, "Failed to connect to Redis after " ++ Numeral.ofNat attempt ++ " attempts: " ++
      f.message, []⟩

/-- What the attempt with a number comes to when it is the last one. -/
def ended (attempt : Nat) (outcome : Except Fault α) : Connected α :=
  ⟨outcome, [], [lastLine attempt outcome]⟩

/-- The same with a pause and a line before it. -/
def after (pause : UInt64) (line : LogLine) (c : Connected α) : Connected α :=
  ⟨c.outcome, pause :: c.pauses, line :: c.logs⟩

/-- Makes the attempt with the given number, and goes on while another one may help and there are
attempts left. Attempts and pauses are counted in machine words. -/
def attemptFrom (dial : Nat → σ → Except Fault α × σ) (attempts attempt : UInt32) (pause : UInt64)
    (s : σ) : Connected α × σ :=
  match dial attempt.toNat s with
  | (.ok a, s) => (ended attempt.toNat (.ok a), s)
  | (.error f, s) =>
    if attempt < attempts ∧ f.isRetriable then
      let line := retryLine attempt.toNat attempts.toNat pause.toNat f
      let (c, s) := attemptFrom dial attempts (attempt + 1) (nextPause pause) s
      (c.after pause line, s)
    else (ended attempt.toNat (.error f), s)
termination_by attempts.toNat - attempt.toNat
decreasing_by
  rename_i more
  have next : (attempt + 1).toNat = (attempt.toNat + 1) % 2 ^ 32 := UInt32.toNat_add attempt 1
  have below : attempt.toNat < attempts.toNat := UInt32.lt_iff_toNat_lt.mp more.1
  have limit := attempts.toNat_lt
  omega

/-- Tries to connect at least once and at most `attempts` times. `dial` makes the attempt with a
number, from one on, over a network with states of type `σ`. -/
def withRetry (attempts : UInt32) (dial : Nat → σ → Except Fault α × σ) (s : σ) :
    Connected α × σ :=
  attemptFrom dial (max 1 attempts) 1 firstPause s

/-- The address that settings name. A database in the settings takes the place of the one in the
address. -/
def address (c : Config.Cache) : Except AddressFault Address :=
  (Address.ofText c.url).map fun a =>
    if c.database = 0 then a else { a with database := Int64.ofNat c.database.toNat }

/-- What is logged before anything else: the masked address and the database. -/
def firstLine (c : Config.Cache) : LogLine :=
  ⟨.info, "Creating Redis client",
    [("url", mask c.url), ("database", Numeral.ofNat c.database.toNat)]⟩

/-- Connects to the server that settings name. `dial` gives the outcome of each attempt to connect
to an address. -/
def ofSettings (c : Config.Cache) (dial : Address → Nat → Except Fault α) : Connected α :=
  match address c with
  | .error f =>
    ⟨.error (.invalidAddress f), [],
      [firstLine c, ⟨.error, "Failed to parse Redis URL: " ++ f.message, []⟩]⟩
  | .ok a =>
    let connected := (withRetry c.connectAttempts (fun attempt s => (dial a attempt, s)) ()).1
    let last : List LogLine :=
      match connected.outcome with
      | .ok _ => [⟨.info, "Redis client created successfully", []⟩]
      | .error _ => []
    { connected with logs := firstLine c :: connected.logs ++ last }

end Connected

end TokenLifecycle.Redis
