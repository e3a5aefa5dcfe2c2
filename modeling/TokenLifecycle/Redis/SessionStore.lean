import TokenLifecycle.Redis.Client
import TokenLifecycle.Session.Script

/-!
# The session store in Redis

A session is one text under one key, which ends with the token it holds. Redis counts whole seconds,
at least one, so a span is rounded up.
-/

namespace TokenLifecycle.Redis.SessionStore

open Session (Store)

variable {σ α : Type}

/-- The whole seconds for which Redis keeps what is kept for a span. -/
def expirySeconds (ttl : Span) : Outcome Nat :=
  let whole := (ttl.nanoseconds / nanosecondsPerSecond).toNat
  if ttl.nanoseconds % nanosecondsPerSecond = 0 then .ok (max 1 whole)
  else if whole + 1 < Nat.pow 2 64 then .ok (whole + 1)
  else .error .overflow

/-- The error that callers of the store get. -/
def unavailable (f : Fault) : Failure :=
  .rejected (.sessionStoreUnavailable f.message)

/-- What an operation of the client comes to for the callers of the store. -/
def reply (r : Called σ α) : Session.Reply σ α :=
  match r.outcome with
  | .ok a => ⟨.ok a, r.logs, r.state⟩
  | .error f => ⟨.error (unavailable f), r.logs, r.state⟩

/-- The key in Redis that belongs to a session key. -/
def redisKey (c : Client σ) (key : String) : String :=
  c.settings.makeKey key

/-- The store over a client. -/
def ofClient (c : Client σ) : Store σ where
  set key value ttl s :=
    match expirySeconds ttl with
    | .ok seconds => reply (c.set (redisKey c key) value seconds s)
    | .error f => ⟨.error f, [], s⟩
  get key s := reply (c.get (redisKey c key) s)
  delete key s :=
    let r := reply (c.delete (redisKey c key) s)
    ⟨r.outcome.map fun _ => (), r.logs, r.state⟩

end TokenLifecycle.Redis.SessionStore
