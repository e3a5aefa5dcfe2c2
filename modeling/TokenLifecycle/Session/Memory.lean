import TokenLifecycle.Session.Script

/-!
# The store in memory

Entries with a deadline on the steady clock. An entry is live before its deadline; a dead entry is
dropped when it is asked for. Reads and writes can be made to fail.
-/

namespace TokenLifecycle.Session

/-- A value with its deadline. -/
structure Entry where
  value : String
  deadline : Instant
  deriving DecidableEq, Repr

/-- The store's state. No key occurs twice in what the operations build. -/
structure Memory where
  entries : List (String × Entry)
  readsFail : Bool
  writesFail : Bool
  deriving DecidableEq, Repr

namespace Memory

/-- The store without entries. -/
def empty : Memory := ⟨[], false, false⟩

/-- The entry under a key, dead or alive. -/
def find? (m : Memory) (key : String) : Option Entry :=
  m.entries.lookup key

/-- The entry under a key, if it is live. -/
def live? (m : Memory) (now : Instant) (key : String) : Option Entry :=
  (m.find? key).filter fun e => now < e.deadline

/-- The store without a key. -/
def erase (m : Memory) (key : String) : Memory :=
  { m with entries := m.entries.filter fun (k, _) => k ≠ key }

/-- The store with an entry under a key. -/
def insert (m : Memory) (key : String) (e : Entry) : Memory :=
  { m with entries := (key, e) :: (m.erase key).entries }

/-- The deadline a span from now, unless the clock cannot show it. -/
def deadline? (now : Instant) (ttl : Span) : Option Instant :=
  let t := now.add ttl
  if t.seconds < 9223372036854775808 then some t else none

/-- The failure of a store that was made to fail. -/
def unavailable (operation : String) : Failure :=
  .rejected (.sessionStoreUnavailable ("in-memory store configured to fail " ++ operation))

/-- Keeps a value. -/
def set (now : Instant) (key value : String) (ttl : Span) (m : Memory) : Reply Memory Unit :=
  if m.writesFail then ⟨.error (unavailable "writes"), [], m⟩
  else
    match deadline? now ttl with
    | some t => ⟨.ok (), [], m.insert key ⟨value, t⟩⟩
    | none => ⟨.error .overflow, [], m⟩

/-- The value under a key. A dead entry is dropped. -/
def get (now : Instant) (key : String) (m : Memory) : Reply Memory (Option String) :=
  if m.readsFail then ⟨.error (unavailable "reads"), [], m⟩
  else
    match m.find? key with
    | none => ⟨.ok none, [], m⟩
    | some e =>
      if now < e.deadline then ⟨.ok (some e.value), [], m⟩ else ⟨.ok none, [], m.erase key⟩

/-- Drops a key. -/
def delete (key : String) (m : Memory) : Reply Memory Unit :=
  if m.writesFail then ⟨.error (unavailable "writes"), [], m⟩ else ⟨.ok (), [], m.erase key⟩

/-- The number of live entries. -/
def size (m : Memory) (now : Instant) : Nat :=
  (m.entries.filter fun (_, e) => now < e.deadline).length

/-- There is no live entry. -/
def isEmpty (m : Memory) (now : Instant) : Bool :=
  m.size now == 0

/-- How long the entry under a key stays live. -/
def ttl? (m : Memory) (now : Instant) (key : String) : Option Span :=
  (m.live? now key).map fun e => e.deadline.since now

/-- The store at a reading of the steady clock. -/
def store (now : Instant) : Store Memory where
  set := set now
  get := get now
  delete := delete

end Memory

end TokenLifecycle.Session
