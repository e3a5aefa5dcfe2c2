import Mathlib.Tactic
import TokenLifecycle.Proofs.Session.Memory

/-!
# Stores and the time that passes

A store keeps a value for a time, so what a read finds is settled by the last write of its key and
by how long ago that was. Uses of a store are recorded with the readings of a clock, and
`record?` is what the record leaves under a key, dead or alive.
-/

namespace TokenLifecycle.Session

variable {σ : Type}

/-- A use of a store: a call, or nanoseconds that pass. -/
inductive Use
  | set (key value : String) (ttl : Span)
  | get (key : String)
  | delete (key : String)
  | pass (elapsed : Nat)
  deriving DecidableEq, Repr

/-- What a use gives. -/
inductive Result
  | done (outcome : Outcome Unit)
  | found (outcome : Outcome (Option String))

/-- A store whose states go on with the time. -/
structure TimedStore (σ : Type) extends Store σ where
  /-- The state after a number of nanoseconds. -/
  pass : Nat → σ → σ

namespace TimedStore

/-- Uses a store. -/
def use (store : TimedStore σ) (st : σ) : Use → Result × σ
  | .set key value ttl =>
    let r := store.set key value ttl st
    (.done r.outcome, r.state)
  | .get key =>
    let r := store.get key st
    (.found r.outcome, r.state)
  | .delete key =>
    let r := store.delete key st
    (.done r.outcome, r.state)
  | .pass elapsed => (.done (.ok ()), store.pass elapsed st)

/-- The state after some uses. -/
def run (store : TimedStore σ) (st : σ) (uses : List Use) : σ :=
  uses.foldl (fun st u => (store.use st u).2) st

/-- What some uses give, one after the other. -/
def results (store : TimedStore σ) : σ → List Use → List Result
  | _, [] => []
  | st, u :: rest => (store.use st u).1 :: store.results (store.use st u).2 rest

end TimedStore

/-! ### Time that passes -/

theorem le_add_elapsed (now : Instant) (elapsed : Nat) : now ≤ now.add ⟨elapsed⟩ := by
  simp only [Instant.le_iff, Instant.add]
  omega

theorem add_elapsed_zero (now : Instant) : now.add ⟨(0 : Nat)⟩ = now :=
  congrArg Instant.mk (Int.add_zero _)

theorem add_elapsed_add (now : Instant) (elapsed later : Nat) :
    (now.add ⟨elapsed⟩).add ⟨later⟩ = now.add ⟨(elapsed + later : Nat)⟩ := by
  simp [Instant.add, Int.add_assoc]

theorem add_elapsed_lt_iff (now : Instant) (elapsed seconds : Nat) :
    now.add ⟨elapsed⟩ < now.add (.ofSeconds seconds) ↔ elapsed < seconds * 1000000000 := by
  simp only [Instant.lt_iff, Instant.add, Span.ofSeconds, nanosecondsPerSecond]
  omega

/-! ### The last write of a key -/

/-- A use, with the instant when it was made and with what it gave. -/
structure Event where
  instant : Instant
  use : Use
  result : Result

/-- The event is a successful write of a key. -/
def Event.writes (key : String) : Event → Bool
  | ⟨_, .set other _ _, .done (.ok ())⟩ => other = key
  | ⟨_, .delete other, .done (.ok ())⟩ => other = key
  | _ => false

/-- The last successful write of a key. -/
def lastWrite? (events : List Event) (key : String) : Option Event :=
  events.reverse.find? (·.writes key)

/-- The entry that an event makes, if it keeps a value. -/
def Event.entry? : Event → Option Entry
  | ⟨opened, .set _ value ttl, _⟩ => some ⟨value, opened.add ttl⟩
  | _ => none

/-- The entry that the last successful write of a key has left, dead or alive. -/
def record? (events : List Event) (key : String) : Option Entry :=
  (lastWrite? events key).bind Event.entry?

/-- The last successful write of a key has kept a value, for a time that ends at a deadline which is
still ahead. -/
def Keeps (events : List Event) (now : Instant) (key value : String) (deadline : Instant) : Prop :=
  now < deadline ∧
    ∃ opened ttl, lastWrite? events key = some ⟨opened, .set key value ttl, .done (.ok ())⟩ ∧
      deadline = opened.add ttl

section Record

variable {events : List Event} {event : Event} {key other value : String} {deadline : Instant}

theorem lastWrite?_append_singleton (events : List Event) (event : Event) (key : String) :
    lastWrite? (events ++ [event]) key =
      if event.writes key then some event else lastWrite? events key := by
  rw [lastWrite?, List.reverse_append, List.reverse_singleton, List.singleton_append,
    List.find?_cons]
  cases event.writes key <;> rfl

theorem record?_of_not_writes (keeps : ∀ key, event.writes key = false) (key : String) :
    record? (events ++ [event]) key = record? events key := by
  rw [record?, lastWrite?_append_singleton, if_neg (by simp [keeps key]), record?]

theorem record?_set (events : List Event) (opened : Instant) (key value : String) (ttl : Span)
    (other : String) :
    record? (events ++ [⟨opened, .set key value ttl, .done (.ok ())⟩]) other =
      if other = key then some ⟨value, opened.add ttl⟩ else record? events other := by
  rw [record?, lastWrite?_append_singleton, apply_ite (Option.bind · Event.entry?)]
  simp only [Event.writes, decide_eq_true_eq, eq_comm (a := key)]
  rfl

theorem record?_delete (events : List Event) (opened : Instant) (key other : String) :
    record? (events ++ [⟨opened, .delete key, .done (.ok ())⟩]) other =
      if other = key then none else record? events other := by
  rw [record?, lastWrite?_append_singleton, apply_ite (Option.bind · Event.entry?)]
  simp only [Event.writes, decide_eq_true_eq, eq_comm (a := key)]
  rfl

/-- There is a record of a key when its last successful write has kept a value. -/
theorem record?_eq_some_iff :
    record? events key = some ⟨value, deadline⟩ ↔
      ∃ opened ttl,
        lastWrite? events key = some ⟨opened, .set key value ttl, .done (.ok ())⟩ ∧
          deadline = opened.add ttl := by
  constructor
  · intro recorded
    obtain ⟨event, last, made⟩ := Option.bind_eq_some_iff.mp recorded
    have writes : event.writes key = true := List.find?_some last
    unfold Event.writes at writes
    split at writes
    · obtain rfl := of_decide_eq_true writes
      obtain ⟨rfl, rfl⟩ := Entry.mk.inj (Option.some.inj made)
      exact ⟨_, _, last, rfl⟩
    · cases made
    · cases writes
  · rintro ⟨opened, ttl, last, rfl⟩
    rw [record?, last]
    rfl

/-! ### What a timed map answers -/

/-- What a read at an instant finds of a record. -/
def held (events : List Event) (now : Instant) (key : String) : Option String :=
  ((record? events key).filter fun e => now < e.deadline).map (·.value)

/-- What uses give when nothing fails. -/
def expected (events : List Event) (now : Instant) : Use → Result
  | .get key => .found (.ok (held events now key))
  | _ => .done (.ok ())

theorem held_eq (recorded : record? events key = some ⟨value, deadline⟩) (now : Instant) :
    held events now key = if now < deadline then some value else none := by
  rw [held, recorded, Option.filter_some]
  by_cases ahead : now < deadline <;> simp [ahead]

theorem held_set (events : List Event) (opened : Instant) (key value : String) (ttl : Span)
    (now : Instant) (other : String) :
    held (events ++ [⟨opened, .set key value ttl, .done (.ok ())⟩]) now other =
      if other = key then if now < opened.add ttl then some value else none
      else held events now other := by
  rw [held, record?_set]
  split_ifs with same ahead
  · simp [ahead]
  · simp [ahead]
  · rfl

theorem held_delete (events : List Event) (opened : Instant) (key : String) (now : Instant)
    (other : String) :
    held (events ++ [⟨opened, .delete key, .done (.ok ())⟩]) now other =
      if other = key then none else held events now other := by
  rw [held, record?_delete]
  split_ifs <;> rfl

theorem held_of_not_writes (keeps : ∀ key, event.writes key = false) (now : Instant)
    (key : String) : held (events ++ [event]) now key = held events now key := by
  rw [held, record?_of_not_writes keeps, held]

theorem keeps_iff {now : Instant} :
    Keeps events now key value deadline ↔
      (record? events key).filter (fun e => now < e.deadline) = some ⟨value, deadline⟩ := by
  rw [Option.filter_eq_some_iff, record?_eq_some_iff, decide_eq_true_eq, and_comm]
  rfl

theorem held_eq_some_iff {now : Instant} :
    held events now key = some value ↔ ∃ deadline, Keeps events now key value deadline := by
  simp only [keeps_iff, held, Option.map_eq_some_iff]
  exact ⟨fun ⟨e, kept, same⟩ => ⟨e.deadline, same ▸ kept⟩, fun ⟨_, kept⟩ => ⟨_, kept, rfl⟩⟩

theorem held_eq_none_iff {now : Instant} :
    held events now key = none ↔ ∀ value deadline, ¬Keeps events now key value deadline := by
  rw [Option.eq_none_iff_forall_ne_some]
  simp only [ne_eq, held_eq_some_iff, not_exists]

end Record

end TokenLifecycle.Session
