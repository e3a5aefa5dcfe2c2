import TokenLifecycle.Redis.Reply
import TokenLifecycle.Session.Memory

/-!
# A Redis server

A server that answers every command in time, as far as sessions need it: it keeps values under keys
until they end.
-/

namespace TokenLifecycle.Redis

open Session (Memory)

/-- A server with its clock. -/
structure Server where
  now : Instant
  memory : Memory

namespace Server

/-- The server without keys. -/
def empty (now : Instant) : Server := ⟨now, .empty⟩

/-- The server after a span. -/
def advance (s : Server) (span : Span) : Server :=
  { s with now := s.now.add span }

/-- The server with a value that ends after a number of seconds. -/
def keep (s : Server) (key value : String) (seconds : Nat) : Server :=
  { s with memory := s.memory.insert key ⟨value, s.now.add (.ofSeconds seconds)⟩ }

/-- The whole seconds until a key ends, rounded to the nearest; negative for a key that is not
there. -/
def secondsLeft (s : Server) (key : String) : Int :=
  match s.memory.live? s.now key with
  | some e => ((e.deadline.since s.now).nanoseconds + 500000000) / nanosecondsPerSecond
  | none => -2

/-- Carries out a command. -/
def exchange (command : List String) (s : Server) : Answer × Server :=
  match command with
  | ["PING"] => (.reply (.status "PONG"), s)
  | ["AUTH", _] => (.reply .okay, s)
  | ["AUTH", _, _] => (.reply .okay, s)
  | ["SELECT", _] => (.reply .okay, s)
  | ["SET", key, value, "EX", seconds] =>
    match Numeral.uint64? seconds with
    | some n =>
      if n = 0 then (.refusal "ERR invalid expire time in 'set' command", s)
      else (.reply .okay, s.keep key value n.toNat)
    | none => (.refusal "ERR value is not an integer or out of range", s)
  | ["GET", key] =>
    match s.memory.live? s.now key with
    | some e => (.reply (.data (Text.bytes e.value)), s)
    | none => (.reply .nothing, s)
  | ["DEL", key] =>
    let count : Int64 := if (s.memory.live? s.now key).isSome then 1 else 0
    (.reply (.integer count), { s with memory := s.memory.erase key })
  | ["TTL", key] => (.reply (.integer (Int64.ofInt (s.secondsLeft key))), s)
  | _ => (.refusal "ERR unknown command", s)

end Server

end TokenLifecycle.Redis
