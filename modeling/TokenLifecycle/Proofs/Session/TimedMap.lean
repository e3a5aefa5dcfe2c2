import Mathlib.Tactic
import TokenLifecycle.Proofs.Session.Timed

/-!
# The store in memory is a timed map

The map of the store holds dead entries until they are read. What the store answers is nevertheless
that of a map which forgets every value when its time is up: `Tracks` relates the store to the
record of its uses, one step preserves it, and the main statement `answers_of_last_write` reads all
answers off the last successful writes. It follows that reading never shows.
-/

namespace TokenLifecycle.Session.Memory

variable {m m' : Memory} {now : Instant} {key value : String}

/-! ### Live keys -/

theorem mem_entries_of_find? {e : Entry} (present : m.find? key = some e) :
    (key, e) ∈ m.entries := by
  obtain ⟨before, after, entries, _⟩ := List.lookup_eq_some_iff.mp present
  rw [entries]
  exact List.mem_append_right before List.mem_cons_self

/-- The size is the number of keys with a live entry. -/
theorem Distinct.exists_keys (distinct : m.Distinct) (now : Instant) :
    ∃ keys : Finset String, (∀ key, key ∈ keys ↔ ∃ e, m.live? now key = some e) ∧
      m.size now = keys.card := by
  let live := m.entries.filter fun entry => now < entry.2.deadline
  have nodup : (live.map Prod.fst).Nodup :=
    distinct.sublist (List.filter_sublist.map Prod.fst)
  refine ⟨(live.map Prod.fst).toFinset, fun key => ?_, ?_⟩
  · simp only [List.mem_toFinset, List.mem_map, Prod.exists, exists_and_right, exists_eq_right,
      live, List.mem_filter, decide_eq_true_eq, live?_eq_some_iff]
    refine exists_congr fun e => and_congr_left fun _ => ?_
    exact ⟨distinct.find?_eq, mem_entries_of_find?⟩
  · rw [List.toFinset_card_of_nodup nodup, List.length_map]
    rfl

/-- Stores that cannot be told apart have the same size. -/
theorem Alike.size_eq (alike : Alike now m m') (distinct : m.Distinct) (distinct' : m'.Distinct) :
    m.size now = m'.size now := by
  obtain ⟨keys, live, size⟩ := distinct.exists_keys now
  obtain ⟨keys', live', size'⟩ := distinct'.exists_keys now
  have same : keys = keys' := by
    ext key
    rw [live, live', alike.live? now (Int.le_refl _) key]
  rw [size, size', same]

/-! ### The store with its clock -/

/-- A store in memory, with what its clock shows. -/
structure Clocked where
  now : Instant
  memory : Memory

/-- The store in memory in the course of time. -/
def timed : TimedStore Clocked where
  set key value ttl st :=
    let r := st.memory.set st.now key value ttl
    ⟨r.outcome, r.logs, { st with memory := r.state }⟩
  get key st :=
    let r := st.memory.get st.now key
    ⟨r.outcome, r.logs, { st with memory := r.state }⟩
  delete key st :=
    let r := st.memory.delete key
    ⟨r.outcome, r.logs, { st with memory := r.state }⟩
  pass elapsed st := { st with now := st.now.add ⟨elapsed⟩ }

/-- What can be asked of a store in memory. -/
inductive Request
  | use (use : Use)
  | ttl (key : String)
  | size
  | isEmpty
  | failReads (failing : Bool)
  | failWrites (failing : Bool)
  deriving DecidableEq, Repr

/-- What a store in memory answers. -/
inductive Response
  | result (result : Result)
  | left (ttl : Option Span)
  | size (n : Nat)
  | isEmpty (empty : Bool)
  | switched

namespace Clocked

/-- Answers a request. -/
def respond (st : Clocked) : Request → Response × Clocked
  | .use u =>
    let (result, next) := timed.use st u
    (.result result, next)
  | .ttl key => (.left (st.memory.ttl? st.now key), st)
  | .size => (.size (st.memory.size st.now), st)
  | .isEmpty => (.isEmpty (st.memory.isEmpty st.now), st)
  | .failReads failing => (.switched, { st with memory.readsFail := failing })
  | .failWrites failing => (.switched, { st with memory.writesFail := failing })

/-- The state after some requests. -/
def run (st : Clocked) (requests : List Request) : Clocked :=
  requests.foldl (fun st r => (st.respond r).2) st

/-- The uses among some requests, as events. -/
def history (st : Clocked) : List Request → List Event
  | [] => []
  | .use u :: rest => ⟨st.now, u, (timed.use st u).1⟩ :: history (timed.use st u).2 rest
  | r :: rest => history (st.respond r).2 rest

end Clocked

/-! ### What a use can do -/

/-- The ways in which a use can end. -/
inductive UseEnds (st : Clocked) : Use → Result → Clocked → Prop
  | unwritten {key value : String} {ttl : Span} (f : Failure) :
      UseEnds st (.set key value ttl) (.done (.error f)) st
  | written {key value : String} {ttl : Span} :
      UseEnds st (.set key value ttl) (.done (.ok ()))
        { st with memory := st.memory.insert key ⟨value, st.now.add ttl⟩ }
  | unread {key : String} (f : Failure) : UseEnds st (.get key) (.found (.error f)) st
  | read {key : String} (found : Option String) : UseEnds st (.get key) (.found (.ok found)) st
  /-- A read finds a dead entry, which is dropped. -/
  | dropped {key : String} {e : Entry} :
      st.memory.find? key = some e →
      e.deadline ≤ st.now →
      UseEnds st (.get key) (.found (.ok none)) { st with memory := st.memory.erase key }
  | undeleted {key : String} (f : Failure) : UseEnds st (.delete key) (.done (.error f)) st
  | deleted {key : String} :
      UseEnds st (.delete key) (.done (.ok ())) { st with memory := st.memory.erase key }
  | passed (elapsed : Nat) :
      UseEnds st (.pass elapsed) (.done (.ok ())) { st with now := st.now.add ⟨elapsed⟩ }

/-- Every use ends in one of the given ways. -/
theorem use_ends (st : Clocked) (u : Use) :
    UseEnds st u (timed.use st u).1 (timed.use st u).2 := by
  cases u with
  | set key value ttl =>
      rcases set_cases st.memory st.now key value ttl with
        ⟨f, _, written⟩ | ⟨deadline, _, found, written⟩
      · simp only [TimedStore.use, timed, written]
        exact .unwritten f
      · obtain ⟨_, rfl⟩ := deadline?_eq_some_iff.mp found
        simp only [TimedStore.use, timed, written]
        exact .written
  | get key =>
      rcases get_cases st.memory st.now key with
        ⟨_, read⟩ | ⟨_, read | ⟨e, present, dead, read⟩⟩
      · simp only [TimedStore.use, timed, read]
        exact .unread _
      · simp only [TimedStore.use, timed, read]
        exact .read _
      · simp only [TimedStore.use, timed, read]
        exact .dropped present dead
  | delete key =>
      rcases delete_cases st.memory key with ⟨_, deleted⟩ | ⟨_, deleted⟩
      · simp only [TimedStore.use, timed, deleted]
        exact .undeleted _
      · simp only [TimedStore.use, timed, deleted]
        exact .deleted
  | pass elapsed => exact .passed elapsed

namespace UseEnds

variable {st next : Clocked} {u : Use} {result : Result}

theorem distinct (ends : UseEnds st u result next) (distinct : st.memory.Distinct) :
    next.memory.Distinct := by
  cases ends with
  | unwritten | unread | read | undeleted | passed => exact distinct
  | written => exact distinct.insert _ _
  | dropped | deleted => exact distinct.erase _

theorem switches_eq (ends : UseEnds st u result next) :
    next.memory.readsFail = st.memory.readsFail ∧
      next.memory.writesFail = st.memory.writesFail := by
  cases ends <;> exact ⟨rfl, rfl⟩

/-- A failed use changes nothing. -/
theorem eq_of_failed (ends : UseEnds st u result next) {f : Failure}
    (failed : result = .done (.error f) ∨ result = .found (.error f)) : next = st := by
  cases ends with
  | unwritten | unread | undeleted | read => rfl
  | written | dropped | deleted | passed => simp at failed

end UseEnds

/-! ### The store and the record of its uses -/

/-- From now on the live entries are those of the record. -/
structure Tracks (events : List Event) (st : Clocked) : Prop where
  distinct : st.memory.Distinct
  live?_eq : ∀ later, st.now ≤ later → ∀ key,
    st.memory.live? later key = (record? events key).filter fun e => later < e.deadline

namespace Tracks

variable {events : List Event} {st : Clocked}

theorem empty (now : Instant) : Tracks [] ⟨now, .empty⟩ :=
  ⟨distinct_empty, fun _ _ _ => rfl⟩

theorem insert (tracks : Tracks events st) (key value : String) (ttl : Span) :
    Tracks (events ++ [⟨st.now, .set key value ttl, .done (.ok ())⟩])
      { st with memory := st.memory.insert key ⟨value, st.now.add ttl⟩ } := by
  refine ⟨tracks.distinct.insert key _, fun later ahead other => ?_⟩
  rw [live?_insert, record?_set]
  split_ifs
  · rfl
  · exact tracks.live?_eq later ahead other

theorem erase (tracks : Tracks events st) (key : String) :
    Tracks (events ++ [⟨st.now, .delete key, .done (.ok ())⟩])
      { st with memory := st.memory.erase key } := by
  refine ⟨tracks.distinct.erase key, fun later ahead other => ?_⟩
  rw [live?_erase, record?_delete]
  split_ifs
  · rfl
  · exact tracks.live?_eq later ahead other

/-- What is no write and leaves the live entries as they are. -/
theorem quiet (tracks : Tracks events st) {event : Event} {next : Clocked}
    (keeps : ∀ key, event.writes key = false) (distinct : next.memory.Distinct)
    (ahead : st.now ≤ next.now)
    (live?_eq : ∀ later, next.now ≤ later → ∀ key,
      next.memory.live? later key = st.memory.live? later key) :
    Tracks (events ++ [event]) next := by
  refine ⟨distinct, fun later further key => ?_⟩
  have past : st.now ≤ later := Int.le_trans ahead further
  rw [live?_eq later further key, tracks.live?_eq later past key, record?_of_not_writes keeps]

/-- A use is recorded. -/
theorem use_ends (tracks : Tracks events st) {u : Use} {result : Result} {next : Clocked}
    (ends : UseEnds st u result next) : Tracks (events ++ [⟨st.now, u, result⟩]) next := by
  have distinct := ends.distinct tracks.distinct
  cases ends with
  | written => exact tracks.insert _ _ _
  | deleted => exact tracks.erase _
  | dropped present dead =>
      have alike := Alike.erase_dead present dead
      exact tracks.quiet (fun _ => rfl) distinct (Int.le_refl _) alike.live?
  | passed elapsed =>
      exact tracks.quiet (fun _ => rfl) distinct (le_add_elapsed _ elapsed) fun _ _ _ => rfl
  | unwritten | unread | read | undeleted =>
      exact tracks.quiet (fun _ => rfl) distinct (Int.le_refl _) fun _ _ _ => rfl

theorem use (tracks : Tracks events st) (u : Use) :
    Tracks (events ++ [⟨st.now, u, (timed.use st u).1⟩]) (timed.use st u).2 :=
  tracks.use_ends (Memory.use_ends st u)

/-- The record of a run of requests. -/
theorem run (tracks : Tracks events st) (requests : List Request) :
    Tracks (events ++ st.history requests) (st.run requests) := by
  induction requests generalizing events st with
  | nil =>
      rw [Clocked.history, List.append_nil]
      exact tracks
  | cons r rest ih =>
      cases r with
      | use u =>
          rw [Clocked.history, List.append_cons]
          exact ih (tracks.use u)
      | ttl key => exact ih tracks
      | size => exact ih tracks
      | isEmpty => exact ih tracks
      | failReads failing => exact ih ⟨tracks.distinct, tracks.live?_eq⟩
      | failWrites failing => exact ih ⟨tracks.distinct, tracks.live?_eq⟩

end Tracks

/-! ### Answers -/

section Answers

variable {events : List Event} {st : Clocked}

theorem Tracks.live?_iff (tracks : Tracks events st) {deadline : Instant} :
    st.memory.live? st.now key = some ⟨value, deadline⟩ ↔
      Keeps events st.now key value deadline := by
  rw [tracks.live?_eq st.now (Int.le_refl _) key, keeps_iff]

theorem Tracks.live?_eq_none_iff (tracks : Tracks events st) :
    st.memory.live? st.now key = none ↔
      ∀ value deadline, ¬Keeps events st.now key value deadline := by
  rw [← held_eq_none_iff, held, Option.map_eq_none_iff,
    tracks.live?_eq st.now (Int.le_refl _) key]

/-- What a read finds, when reads do not fail. -/
theorem Tracks.get_eq (tracks : Tracks events st) (reading : st.memory.readsFail = false)
    (key : String) :
    (timed.use st (.get key)).1 = .found (.ok (held events st.now key)) := by
  have read := outcome_get st.memory st.now key
  rw [reading, if_neg (by decide), tracks.live?_eq st.now (Int.le_refl _) key] at read
  exact congrArg Result.found read

/-- What a use gives, when neither reads nor writes fail and the clock shows all deadlines. -/
theorem Tracks.use_eq (tracks : Tracks events st) (reading : st.memory.readsFail = false)
    (writing : st.memory.writesFail = false) {u : Use}
    (fits : (timed.use st u).1 ≠ .done (.error .overflow)) :
    (timed.use st u).1 = expected events st.now u := by
  cases u with
  | set key value ttl =>
      have written := outcome_set st.memory st.now key value ttl
      rw [writing, if_neg (by decide)] at written
      simp only [TimedStore.use, timed, written] at fits ⊢
      split_ifs at fits ⊢ with shown
      · rfl
      · exact absurd rfl fits
  | get key => exact tracks.get_eq reading key
  | delete key =>
      have deleted := outcome_delete st.memory key
      rw [writing, if_neg (by decide)] at deleted
      exact congrArg Result.done deleted
  | pass elapsed => rfl

theorem Tracks.get_iff (tracks : Tracks events st) (reading : st.memory.readsFail = false)
    (key : String) :
    (∀ value, (st.respond (.use (.get key))).1 = .result (.found (.ok (some value))) ↔
        ∃ deadline, Keeps events st.now key value deadline) ∧
      ((st.respond (.use (.get key))).1 = .result (.found (.ok none)) ↔
        ∀ value deadline, ¬Keeps events st.now key value deadline) := by
  have answer :
      (st.respond (.use (.get key))).1 = .result (.found (.ok (held events st.now key))) :=
    congrArg Response.result (tracks.get_eq reading key)
  rw [answer]
  simp only [Response.result.injEq, Result.found.injEq, Except.ok.injEq, held_eq_some_iff,
    held_eq_none_iff, implies_true, and_self]

/-- What is left of the time of a key. -/
theorem Tracks.ttl_iff (tracks : Tracks events st) (key : String) :
    (∀ left, (st.respond (.ttl key)).1 = .left (some left) ↔
        ∃ value deadline, Keeps events st.now key value deadline ∧ left = deadline.since st.now) ∧
      ((st.respond (.ttl key)).1 = .left none ↔
        ∀ value deadline, ¬Keeps events st.now key value deadline) := by
  simp only [Clocked.respond, ttl?, Response.left.injEq]
  constructor
  · intro left
    simp only [← tracks.live?_iff, Option.map_eq_some_iff]
    exact ⟨fun ⟨e, live, same⟩ => ⟨e.value, e.deadline, live, same.symm⟩,
      fun ⟨_, _, live, same⟩ => ⟨_, live, same.symm⟩⟩
  · rw [Option.map_eq_none_iff, tracks.live?_eq_none_iff]

/-- The size counts the keys that have a value. -/
theorem Tracks.exists_keys (tracks : Tracks events st) :
    ∃ keys : Finset String,
      (∀ key, key ∈ keys ↔ ∃ value deadline, Keeps events st.now key value deadline) ∧
        (st.respond .size).1 = .size keys.card ∧
        (st.respond .isEmpty).1 = .isEmpty (decide (keys = ∅)) := by
  obtain ⟨keys, live, size⟩ := tracks.distinct.exists_keys st.now
  refine ⟨keys, fun key => ?_, congrArg Response.size size, ?_⟩
  · simp only [live, ← tracks.live?_iff]
    exact ⟨fun ⟨e, alive⟩ => ⟨e.value, e.deadline, alive⟩, fun ⟨_, _, alive⟩ => ⟨_, alive⟩⟩
  · have empty : st.memory.isEmpty st.now = decide (keys = ∅) := by
      rw [isEmpty, size, Bool.eq_iff_iff]
      simp
    exact congrArg Response.isEmpty empty

end Answers

/-! ### Failures -/

/-- What a request switches the failure of reads to. -/
def Request.readSwitch? : Request → Option Bool
  | .failReads failing => some failing
  | _ => none

/-- What a request switches the failure of writes to. -/
def Request.writeSwitch? : Request → Option Bool
  | .failWrites failing => some failing
  | _ => none

/-- To what a switch was set last. It is off at first. -/
def lastSwitch (switch? : Request → Option Bool) (requests : List Request) : Bool :=
  requests.foldl (fun failing r => (switch? r).getD failing) false

theorem switches_respond (st : Clocked) (r : Request) :
    (st.respond r).2.memory.readsFail = r.readSwitch?.getD st.memory.readsFail ∧
      (st.respond r).2.memory.writesFail = r.writeSwitch?.getD st.memory.writesFail := by
  cases r with
  | use u => exact (use_ends st u).switches_eq
  | ttl | size | isEmpty | failReads | failWrites => exact ⟨rfl, rfl⟩

theorem switches_run (st : Clocked) (requests : List Request) :
    (st.run requests).memory.readsFail =
        requests.foldl (fun failing r => r.readSwitch?.getD failing) st.memory.readsFail ∧
      (st.run requests).memory.writesFail =
        requests.foldl (fun failing r => r.writeSwitch?.getD failing) st.memory.writesFail := by
  induction requests generalizing st with
  | nil => exact ⟨rfl, rfl⟩
  | cons r rest ih =>
      obtain ⟨reads, writes⟩ := switches_respond st r
      rw [List.foldl_cons, List.foldl_cons, ← reads, ← writes]
      exact ih (st.respond r).2

/-- A failed request changes nothing. -/
theorem respond_of_failed {st : Clocked} {r : Request} {f : Failure}
    (failed : (st.respond r).1 = .result (.done (.error f)) ∨
      (st.respond r).1 = .result (.found (.error f))) : (st.respond r).2 = st := by
  cases r with
  | use u =>
      simp only [Clocked.respond, Response.result.injEq] at failed
      exact (use_ends st u).eq_of_failed failed
  | ttl | size | isEmpty | failReads | failWrites => simp [Clocked.respond] at failed

/-! ### Reading does not show -/

/-- The request only asks. -/
def Request.isRead : Request → Bool
  | .use (.get _) => true
  | .ttl _ => true
  | .size => true
  | .isEmpty => true
  | _ => false

namespace Clocked

/-- Two states that no request to come tells apart. -/
structure Alike (st st' : Clocked) : Prop where
  now : st.now = st'.now
  memory : Memory.Alike st.now st.memory st'.memory
  distinct : st.memory.Distinct
  distinct' : st'.memory.Distinct

namespace Alike

variable {st st' : Clocked}

theorem refl {st : Clocked} (distinct : st.memory.Distinct) : Alike st st :=
  ⟨rfl, .refl st.now st.memory, distinct, distinct⟩

theorem symm (alike : Alike st st') : Alike st' st :=
  ⟨alike.now.symm, alike.now ▸ alike.memory.symm, alike.distinct', alike.distinct⟩

theorem trans {st'' : Clocked} (alike : Alike st st') (alike' : Alike st' st'') :
    Alike st st'' := by
  refine ⟨alike.now.trans alike'.now, alike.memory.trans ?_, alike.distinct, alike'.distinct'⟩
  rw [alike.now]
  exact alike'.memory

/-- Uses give the same in states that cannot be told apart, and leave such. -/
theorem use (alike : Alike st st') (u : Use) :
    (timed.use st u).1 = (timed.use st' u).1 ∧ Alike (timed.use st u).2 (timed.use st' u).2 := by
  have distinct := (use_ends st u).distinct alike.distinct
  have distinct' := (use_ends st' u).distinct alike.distinct'
  obtain ⟨now, memory⟩ := st
  obtain ⟨now', memory'⟩ := st'
  obtain ⟨rfl, same, _, _⟩ := alike
  cases u with
  | set key value ttl =>
      have replies := alikeReplies_set same key value ttl
      exact ⟨congrArg Result.done replies.outcome, rfl, replies.state, distinct, distinct'⟩
  | get key =>
      have replies := alikeReplies_get same key
      exact ⟨congrArg Result.found replies.outcome, rfl, replies.state, distinct, distinct'⟩
  | delete key =>
      have replies := alikeReplies_delete same key
      exact ⟨congrArg Result.done replies.outcome, rfl, replies.state, distinct, distinct'⟩
  | pass elapsed =>
      exact ⟨rfl, rfl, same.later (le_add_elapsed now elapsed), distinct, distinct'⟩

/-- Requests are answered alike in states that cannot be told apart, and leave such. -/
theorem respond (alike : Alike st st') (r : Request) :
    (st.respond r).1 = (st'.respond r).1 ∧ Alike (st.respond r).2 (st'.respond r).2 := by
  have used := alike.use
  have size := alike.memory.size_eq alike.distinct alike.distinct'
  obtain ⟨now, memory⟩ := st
  obtain ⟨now', memory'⟩ := st'
  obtain ⟨rfl, same, distinct, distinct'⟩ := alike
  cases r with
  | use u => exact ⟨congrArg Response.result (used u).1, (used u).2⟩
  | ttl key =>
      refine ⟨?_, rfl, same, distinct, distinct'⟩
      simp only [Clocked.respond, ttl?, same.live? now (Int.le_refl _) key]
  | size => exact ⟨congrArg Response.size size, rfl, same, distinct, distinct'⟩
  | isEmpty =>
      refine ⟨?_, rfl, same, distinct, distinct'⟩
      simp only [Clocked.respond, Memory.isEmpty, size]
  | failReads failing =>
      exact ⟨rfl, rfl, ⟨rfl, same.writesFail, same.live?⟩, distinct, distinct'⟩
  | failWrites failing =>
      exact ⟨rfl, rfl, ⟨same.readsFail, rfl, same.live?⟩, distinct, distinct'⟩

/-- A request that only asks does not show. -/
theorem respond_isRead {r : Request} (read : r.isRead = true) (distinct : st.memory.Distinct) :
    Alike (st.respond r).2 st := by
  cases r with
  | use u =>
      cases u with
      | get key =>
          have left := (use_ends st (.get key)).distinct distinct
          exact ⟨rfl, Memory.Alike.get st.now key st.memory, left, distinct⟩
      | set | delete | pass => cases read
  | ttl | size | isEmpty => exact refl distinct
  | failReads | failWrites => cases read

/-- Whether the requests that only ask are left out of a run does not show. -/
theorem run_filter (alike : Alike st st') (requests : List Request) :
    Alike (st.run requests) (st'.run (requests.filter fun r => !r.isRead)) := by
  induction requests generalizing st st' with
  | nil => exact alike
  | cons r rest ih =>
      cases read : r.isRead with
      | true =>
          -- Only the left run takes this step, and comes to a state like the one before.
          rw [List.filter_cons_of_neg (by simp [read])]
          exact ih ((respond_isRead read alike.distinct).trans alike)
      | false =>
          rw [List.filter_cons_of_pos (by simp [read])]
          exact ih (alike.respond r).2

end Alike

end Clocked

/-- After requests of every kind, in any order, from the empty store on: while reads do not fail, a
read finds the value that the last successful write of the key has kept, until its time is up, and
nothing otherwise. So much of that time is left as the deadline lies ahead, and the size counts the
keys of such values. Reads and writes fail as they were last switched to, and writes on a span that
the clock cannot show; what fails changes nothing. Requests that only ask, be they inserted or left
out anywhere, change no other answer. -/
theorem answers_of_last_write (start : Instant) (requests : List Request) :
    let st := Clocked.run ⟨start, .empty⟩ requests
    let answer (r : Request) : Response := (st.respond r).1
    let kept := Keeps (Clocked.history ⟨start, .empty⟩ requests) st.now
    let readsFail := lastSwitch Request.readSwitch? requests
    let writesFail := lastSwitch Request.writeSwitch? requests
    (readsFail = false → ∀ key,
      (∀ value, answer (.use (.get key)) = .result (.found (.ok (some value))) ↔
          ∃ deadline, kept key value deadline) ∧
        (answer (.use (.get key)) = .result (.found (.ok none)) ↔
          ∀ value deadline, ¬kept key value deadline)) ∧
    (∀ key,
      (∀ left, answer (.ttl key) = .left (some left) ↔
          ∃ value deadline, kept key value deadline ∧ left = deadline.since st.now) ∧
        (answer (.ttl key) = .left none ↔ ∀ value deadline, ¬kept key value deadline)) ∧
    (∃ keys : Finset String, (∀ key, key ∈ keys ↔ ∃ value deadline, kept key value deadline) ∧
      answer .size = .size keys.card ∧ answer .isEmpty = .isEmpty (decide (keys = ∅))) ∧
    (readsFail = true → ∀ key,
      answer (.use (.get key)) = .result (.found (.error (unavailable "reads")))) ∧
    (∀ key value ttl, answer (.use (.set key value ttl)) = .result (.done (
      if writesFail then .error (unavailable "writes")
      else if (st.now.add ttl).seconds < 9223372036854775808 then .ok ()
      else .error .overflow))) ∧
    (∀ key, answer (.use (.delete key)) = .result (.done (
      if writesFail then .error (unavailable "writes") else .ok ()))) ∧
    (∀ r f, answer r = .result (.done (.error f)) ∨ answer r = .result (.found (.error f)) →
      (st.respond r).2 = st) ∧
    ∀ others : List Request,
      (others.filter fun r => !r.isRead) = (requests.filter fun r => !r.isRead) →
        ∀ r, ((Clocked.run ⟨start, .empty⟩ others).respond r).1 = answer r := by
  intro st answer kept readsFail writesFail
  have tracks : Tracks (Clocked.history ⟨start, .empty⟩ requests) st :=
    (Tracks.empty start).run requests
  obtain ⟨reads, writes⟩ := switches_run ⟨start, .empty⟩ requests
  refine ⟨?_, tracks.ttl_iff, tracks.exists_keys, ?_, ?_, ?_, fun r f => respond_of_failed, ?_⟩
  · exact fun reading => tracks.get_iff (reads.trans reading)
  · intro failing key
    have read := outcome_get st.memory st.now key
    rw [reads.trans failing, if_pos rfl] at read
    exact congrArg (fun outcome => Response.result (.found outcome)) read
  · intro key value ttl
    have written : (st.memory.set st.now key value ttl).outcome = if writesFail then _ else _ :=
      writes ▸ outcome_set st.memory st.now key value ttl
    exact congrArg (fun outcome => Response.result (.done outcome)) written
  · intro key
    have deleted : (st.memory.delete key).outcome = if writesFail then _ else _ :=
      writes ▸ outcome_delete st.memory key
    exact congrArg (fun outcome => Response.result (.done outcome)) deleted
  · intro others same r
    have blank : Clocked.Alike ⟨start, .empty⟩ ⟨start, .empty⟩ := .refl distinct_empty
    have alike := blank.run_filter others
    rw [same] at alike
    exact ((alike.trans (blank.run_filter requests).symm).respond r).1

/-- At its deadline a value is no longer found, although its entry is still there. -/
theorem answers_of_last_write_at_deadline :
    let st := Clocked.run ⟨.ofSeconds 0, .empty⟩ [.use (.set "a" "v" ⟨5⟩), .use (.pass 5)]
    st.memory.entries.length = 1 ∧
      (st.respond (.use (.get "a"))).1 = .result (.found (.ok none)) ∧
      (st.respond (.ttl "a")).1 = .left none := by
  intro st
  obtain ⟨reads, ttls, _⟩ := answers_of_last_write (.ofSeconds 0)
    [.use (.set "a" "v" ⟨5⟩), .use (.pass 5)]
  have ended (value : String) (deadline : Instant) :
      ¬Keeps (Clocked.history ⟨.ofSeconds 0, .empty⟩
        [.use (.set "a" "v" ⟨5⟩), .use (.pass 5)]) st.now "a" value deadline := by
    rintro ⟨ahead, opened, ttl, last, rfl⟩
    cases last
    exact absurd ahead (by decide)
  exact ⟨rfl, (reads rfl "a").2.mpr ended, (ttls "a").2.mpr ended⟩

end TokenLifecycle.Session.Memory
