import TokenLifecycle.Redis.Address
import TokenLifecycle.Redis.Reply

/-!
# Faults of the cache

What goes wrong with the cache, as the log and the callers are told.
-/

namespace TokenLifecycle.Redis

/-- A fault. -/
inductive Fault
  | cache (cause : Cause)
  /-- Connecting took longer than the given number of seconds. -/
  | connectTimeout (seconds : Nat)
  /-- The server did not answer within the given number of seconds. -/
  | responseTimeout (seconds : Nat)
  | invalidAddress (fault : AddressFault)
  /-- The server answered to a greeting, but not as it should. -/
  | unhealthy
  deriving DecidableEq, Repr

namespace Fault

/-- The name of a fault's kind. -/
def kind : Fault → String
  | cache _ => "Cache"
  | connectTimeout _ => "Timeout"
  | responseTimeout _ => "Timeout"
  | invalidAddress _ => "Config"
  | unhealthy => "Config"

/-- The wording of a fault. -/
def message : Fault → String
  | cache c => "Cache error: " ++ c.message
  | connectTimeout n => "Timeout: connecting to Redis took longer than " ++ Numeral.ofNat n ++ "s"
  | responseTimeout n => "Timeout: Redis did not answer within " ++ Numeral.ofNat n ++ "s"
  | invalidAddress f => "Configuration error: Invalid Redis URL: " ++ f.message
  | unhealthy => "Configuration error: Redis answered PING with an unexpected reply"

/-- Trying again may help. -/
def isRetriable : Fault → Bool
  | cache c => c.isRetriable
  | connectTimeout _ => true
  | responseTimeout _ => true
  | _ => false

end Fault

end TokenLifecycle.Redis
