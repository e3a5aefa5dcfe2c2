import Mathlib.Tactic
import TokenLifecycle.Proofs.Numeral.Decimal
import TokenLifecycle.Proofs.Session.TimedMap
import TokenLifecycle.Redis.Server
import TokenLifecycle.Redis.SessionStore

/-!
# Redis and memory as session stores

Both stores keep a value for a span, but Redis counts whole seconds from one second on. The same
uses, made of both at the same time, leave in Redis what the store in memory would hold if all spans
were rounded up: `Mirrors` relates the two, one use preserves it, and `stores_agree` compares what
the stores answer.
-/

namespace TokenLifecycle.Redis.SessionStore

open Session (Event Result TimedStore Use expected held lastWrite? record?)
open Session.Memory (Clocked Tracks)

variable {σ : Type}

/-! ### Spans in whole seconds -/

/-- The span for which Redis keeps what is kept for a span. -/
def rounded (ttl : Span) : Span :=
  match expirySeconds ttl with
  | .ok seconds => .ofSeconds seconds
  | .error _ => ttl

/-- Rounding up takes at most a second, and a whole second for the empty span only. -/
structure RoundsTo (ttl : Span) (seconds : Nat) : Prop where
  positive : 0 < seconds
  covers : ttl.nanoseconds ≤ seconds * 1000000000
  tight : seconds * 1000000000 ≤ ttl.nanoseconds + 1000000000
  loose_iff : seconds * 1000000000 = ttl.nanoseconds + 1000000000 ↔ ttl.nanoseconds = 0
  exact_of_whole : 0 < ttl.nanoseconds → ttl.nanoseconds % 1000000000 = 0 →
    seconds * 1000000000 = ttl.nanoseconds

theorem expirySeconds_eq (ttl : Span) :
    expirySeconds ttl =
      if ttl.nanoseconds % 1000000000 = 0 then
        .ok (max 1 (ttl.nanoseconds / 1000000000).toNat)
      else if (ttl.nanoseconds / 1000000000).toNat + 1 < Nat.pow 2 64 then
        .ok ((ttl.nanoseconds / 1000000000).toNat + 1)
      else .error .overflow :=
  rfl

theorem roundsTo_of_expirySeconds {ttl : Span} (forward : 0 ≤ ttl.nanoseconds) {seconds : Nat}
    (expiry : expirySeconds ttl = .ok seconds) : RoundsTo ttl seconds := by
  rw [expirySeconds_eq] at expiry
  split_ifs at expiry with whole
  · obtain rfl := Except.ok.inj expiry
    constructor <;> omega
  · obtain rfl := Except.ok.inj expiry
    constructor <;> omega

/-- A span that the steady clock can show is short enough for Redis. -/
theorem exists_expirySeconds (ttl : Span)
    (short : ttl.nanoseconds / 1000000000 < 9223372036854775808) :
    ∃ seconds, expirySeconds ttl = .ok seconds ∧ seconds < Nat.pow 2 64 := by
  rw [expirySeconds_eq]
  have limit : Nat.pow 2 64 = 18446744073709551616 := rfl
  split_ifs
  · exact ⟨_, rfl, by omega⟩
  · exact ⟨_, rfl, by omega⟩
  · omega

/-- Whole seconds, one at least, are kept as they are. -/
theorem rounded_of_whole {ttl : Span} (positive : 0 < ttl.nanoseconds)
    (whole : ttl.nanoseconds % 1000000000 = 0) : rounded ttl = ttl := by
  have expiry : expirySeconds ttl = .ok _ := (expirySeconds_eq ttl).trans (if_pos whole)
  have kept := (roundsTo_of_expirySeconds positive.le expiry).exact_of_whole positive whole
  rw [rounded, expiry]
  exact congrArg Span.mk kept

/-! ### A server that keeps sessions -/

/-- A server that answers every command in time and keeps what it is given for as many seconds as it
is told. `kept` is what is under a key when some more nanoseconds have passed. -/
structure KeepsSessions (exchange : List String → σ → Answer × σ) (pass : Nat → σ → σ)
    (kept : σ → String → Nat → Option String) : Prop where
  set : ∀ (key value : String) (seconds : Nat) (s : σ), 0 < seconds → seconds < Nat.pow 2 64 →
    ∃ s', exchange ["SET", key, value, "EX", Numeral.ofNat seconds] s = (.reply .okay, s') ∧
      ∀ other elapsed, kept s' other elapsed =
        if other = key then if elapsed < seconds * 1000000000 then some value else none
        else kept s other elapsed
  get : ∀ (key : String) (s : σ), ∃ s',
    exchange ["GET", key] s =
        (.reply ((kept s key 0).elim .nothing fun value => .data (Text.bytes value)), s') ∧
      ∀ other elapsed, kept s' other elapsed = kept s other elapsed
  delete : ∀ (key : String) (s : σ), ∃ count s',
    exchange ["DEL", key] s = (.reply (.integer count), s') ∧
      ∀ other elapsed, kept s' other elapsed = if other = key then none else kept s other elapsed
  pass : ∀ (elapsed : Nat) (s : σ) (key : String) (later : Nat),
    kept (pass elapsed s) key later = kept s key (elapsed + later)

/-- The store over a server, in the course of time. -/
def timed (settings : Config.Cache) (exchange : List String → σ → Answer × σ)
    (pass : Nat → σ → σ) : TimedStore σ where
  toStore := ofClient ⟨settings, exchange⟩
  pass := pass

namespace KeepsSessions

variable {exchange : List String → σ → Answer × σ} {pass : Nat → σ → σ}
  {kept : σ → String → Nat → Option String} (settings : Config.Cache)

theorem use_set (server : KeepsSessions exchange pass kept) {ttl : Span} {seconds : Nat}
    (expiry : expirySeconds ttl = .ok seconds) (positive : 0 < seconds)
    (small : seconds < Nat.pow 2 64) (key value : String) (s : σ) :
    ((timed settings exchange pass).use s (.set key value ttl)).1 = .done (.ok ()) ∧
      ∀ other elapsed,
        kept ((timed settings exchange pass).use s (.set key value ttl)).2 other elapsed =
          if other = settings.makeKey key then
            if elapsed < seconds * 1000000000 then some value else none
          else kept s other elapsed := by
  obtain ⟨s', answered, after⟩ := server.set (settings.makeKey key) value seconds s positive small
  simp only [TimedStore.use, timed, ofClient, expiry, Client.set, Client.call, redisKey, answered,
    Client.interpret, Reply.ignored, reply, true_and]
  exact after

theorem use_get (server : KeepsSessions exchange pass kept) (key : String) (s : σ) :
    ((timed settings exchange pass).use s (.get key)).1 =
        .found (.ok (kept s (settings.makeKey key) 0)) ∧
      ∀ other elapsed,
        kept ((timed settings exchange pass).use s (.get key)).2 other elapsed =
          kept s other elapsed := by
  obtain ⟨s', answered, after⟩ := server.get (settings.makeKey key) s
  have read : Reply.text? ((kept s (settings.makeKey key) 0).elim .nothing
      fun value => .data (Text.bytes value)) = .ok (kept s (settings.makeKey key) 0) := by
    cases kept s (settings.makeKey key) 0 with
    | none => rfl
    | some value =>
        simp only [Option.elim_some, Reply.text?, Reply.text, Reply.textOf, Text.ofBytes?_bytes]
        rfl
  simp only [TimedStore.use, timed, ofClient, Client.get, Client.call, redisKey, answered,
    Client.interpret, read, reply, true_and]
  exact after

theorem use_delete (server : KeepsSessions exchange pass kept) (key : String) (s : σ) :
    ((timed settings exchange pass).use s (.delete key)).1 = .done (.ok ()) ∧
      ∀ other elapsed,
        kept ((timed settings exchange pass).use s (.delete key)).2 other elapsed =
          if other = settings.makeKey key then none else kept s other elapsed := by
  obtain ⟨count, s', answered, after⟩ := server.delete (settings.makeKey key) s
  simp only [TimedStore.use, timed, ofClient, Client.delete, Client.call, redisKey, answered,
    Client.interpret, Reply.count, Reply.number, reply]
  exact ⟨rfl, after⟩

end KeepsSessions

/-! ### Keys -/

theorem makeKey_injective (settings : Config.Cache) : Function.Injective settings.makeKey := by
  intro key key' same
  unfold Config.Cache.makeKey at same
  split at same
  · exact (String.append_right_inj _).mp same
  · exact same

/-! ### The record of a store that rounds up -/

/-- An event as it is in Redis. -/
def roundUp : Event → Event
  | ⟨opened, .set key value ttl, result⟩ => ⟨opened, .set key value (rounded ttl), result⟩
  | event => event

theorem roundUp_of_whole {event : Event}
    (whole : ∀ key value ttl, event.use = .set key value ttl →
      0 < ttl.nanoseconds ∧ ttl.nanoseconds % 1000000000 = 0) : roundUp event = event := by
  obtain ⟨opened, u, result⟩ := event
  cases u with
  | set key value ttl =>
      obtain ⟨positive, exact_span⟩ := whole key value ttl rfl
      rw [roundUp, rounded_of_whole positive exact_span]
  | get | delete | pass => rfl

theorem writes_roundUp (event : Event) (key : String) :
    (roundUp event).writes key = event.writes key := by
  obtain ⟨opened, u, (_ | _) | _⟩ := event <;> cases u <;> rfl

theorem lastWrite?_map_roundUp (events : List Event) (key : String) :
    lastWrite? (events.map roundUp) key = (lastWrite? events key).map roundUp := by
  rw [lastWrite?, ← List.map_reverse, List.find?_map, lastWrite?]
  exact congrArg (Option.map roundUp) (congrArg (List.find? · _) (funext (writes_roundUp · key)))

theorem record?_map_roundUp_eq_none_iff (events : List Event) (key : String) :
    record? (events.map roundUp) key = none ↔ record? events key = none := by
  rw [record?, lastWrite?_map_roundUp, record?]
  cases lastWrite? events key with
  | none => rfl
  | some event =>
      obtain ⟨opened, u, result⟩ := event
      cases u <;> simp [roundUp, Event.entry?]

/-! ### What reads find -/

/-- What reads of both stores at an instant find of a key, by its last successful write: nothing
when that has not kept a value; otherwise the value until its time is up, which is the span in
memory, and in Redis the span in whole seconds. -/
def FindsKept (events : List Event) (now : Instant) (key : String) (inMemory inRedis : Result) :
    Prop :=
  ((∀ opened value ttl,
        lastWrite? events key ≠ some ⟨opened, .set key value ttl, .done (.ok ())⟩) ∧
      inMemory = .found (.ok none) ∧ inRedis = .found (.ok none)) ∨
    ∃ opened value ttl seconds,
      lastWrite? events key = some ⟨opened, .set key value ttl, .done (.ok ())⟩ ∧
        expirySeconds ttl = .ok seconds ∧ RoundsTo ttl seconds ∧
        inMemory = .found (.ok (if now < opened.add ttl then some value else none)) ∧
        inRedis =
          .found (.ok (if now < opened.add (.ofSeconds seconds) then some value else none))

/-- What is live in memory is there in Redis. -/
theorem FindsKept.of_live {events : List Event} {now : Instant} {key value : String}
    {inMemory inRedis : Result} (finds : FindsKept events now key inMemory inRedis)
    (live : inMemory = .found (.ok (some value))) : inRedis = .found (.ok (some value)) := by
  rcases finds with
    ⟨_, missing, _⟩ | ⟨opened, stored, ttl, seconds, _, _, rounds, in_memory, in_redis⟩
  · rw [missing] at live
    cases live
  · rw [in_memory] at live
    have running : now < opened.add ttl := by
      by_contra ended
      rw [if_neg ended] at live
      cases live
    have longer : now < opened.add (.ofSeconds seconds) := by
      have covers := rounds.covers
      simp only [Instant.lt_iff, Instant.add, Span.ofSeconds, nanosecondsPerSecond] at running ⊢
      omega
    rw [if_pos running] at live
    rw [in_redis, if_pos longer]
    exact live

/-! ### Redis mirrors the store in memory -/

/-- The span of an event can be sent to Redis. -/
def Rounds (event : Event) : Prop :=
  ∀ key value ttl, event.use = .set key value ttl →
    ∃ seconds, expirySeconds ttl = .ok seconds ∧ RoundsTo ttl seconds

/-- Redis holds what the store in memory would hold if all spans were rounded up. -/
structure Mirrors (settings : Config.Cache) (kept : σ → String → Nat → Option String)
    (events : List Event) (st : Clocked) (s : σ) : Prop where
  tracks : Tracks events st
  reading : st.memory.readsFail = false
  writing : st.memory.writesFail = false
  started : 0 ≤ st.now.nanoseconds
  rounds : ∀ event ∈ events, Rounds event
  kept_eq : ∀ key elapsed, kept s (settings.makeKey key) elapsed =
    held (events.map roundUp) (st.now.add ⟨elapsed⟩) key

namespace Mirrors

variable {exchange : List String → σ → Answer × σ} {pass : Nat → σ → σ}
  {kept : σ → String → Nat → Option String} {settings : Config.Cache} {events : List Event}
  {st : Clocked} {s : σ}

/-- A span whose end the steady clock shows can be sent to Redis. -/
theorem exists_seconds (mirrors : Mirrors settings kept events st s) {key value : String}
    {ttl : Span} (forward : 0 ≤ ttl.nanoseconds)
    (fits : (Session.Memory.timed.use st (.set key value ttl)).1 ≠ .done (.error .overflow)) :
    ∃ seconds, expirySeconds ttl = .ok seconds ∧ RoundsTo ttl seconds ∧
      seconds < Nat.pow 2 64 := by
  have started := mirrors.started
  have shown : (st.now.add ttl).seconds < 9223372036854775808 := by
    by_contra hidden
    have written := Session.Memory.outcome_set st.memory st.now key value ttl
    rw [mirrors.writing, if_neg (by decide), if_neg hidden] at written
    exact fits (congrArg Result.done written)
  simp only [Instant.seconds, Instant.add, nanosecondsPerSecond] at shown
  obtain ⟨seconds, expiry, small⟩ := exists_expirySeconds ttl (by omega)
  exact ⟨seconds, expiry, roundsTo_of_expirySeconds forward expiry, small⟩

theorem rounds_append (mirrors : Mirrors settings kept events st s) {event : Event}
    (rounds : Rounds event) : ∀ other ∈ events ++ [event], Rounds other :=
  List.forall_mem_append.mpr ⟨mirrors.rounds, List.forall_mem_singleton.mpr rounds⟩

/-- A use of both stores. -/
theorem use (mirrors : Mirrors settings kept events st s)
    (server : KeepsSessions exchange pass kept) {u : Use}
    (forward : ∀ key value ttl, u = .set key value ttl → 0 ≤ ttl.nanoseconds)
    (fits : (Session.Memory.timed.use st u).1 ≠ .done (.error .overflow)) :
    ((timed settings exchange pass).use s u).1 = expected (events.map roundUp) st.now u ∧
      Mirrors settings kept (events ++ [⟨st.now, u, (Session.Memory.timed.use st u).1⟩])
        (Session.Memory.timed.use st u).2 ((timed settings exchange pass).use s u).2 := by
  have tracks := mirrors.tracks.use u
  have given := mirrors.tracks.use_eq mirrors.reading mirrors.writing fits
  obtain ⟨reads, writes⟩ := (Session.Memory.use_ends st u).switches_eq
  have reading := reads.trans mirrors.reading
  have writing := writes.trans mirrors.writing
  cases u with
  | set key value ttl =>
      obtain ⟨seconds, expiry, rounds, small⟩ := mirrors.exists_seconds (forward _ _ _ rfl) fits
      obtain ⟨result, after⟩ := server.use_set settings expiry rounds.positive small key value s
      refine ⟨result, tracks, reading, writing, mirrors.started, mirrors.rounds_append ?_, ?_⟩
      · rintro _ _ _ ⟨⟩
        exact ⟨seconds, expiry, rounds⟩
      · intro other elapsed
        have span : rounded ttl = .ofSeconds seconds := by simp only [rounded, expiry]
        have stored := Session.held_set (events.map roundUp) st.now key value (rounded ttl)
          (st.now.add ⟨elapsed⟩) other
        -- The server counts from the command on, the record holds an instant: both say the same.
        rw [given, List.map_append, after]
        refine Eq.trans ?_ stored.symm
        simp only [(makeKey_injective settings).eq_iff, mirrors.kept_eq, span,
          Session.add_elapsed_lt_iff]
  | get key =>
      obtain ⟨result, after⟩ := server.use_get settings key s
      refine ⟨?_, tracks, reading, writing, mirrors.started, mirrors.rounds_append nofun, ?_⟩
      · rw [result, mirrors.kept_eq, Session.add_elapsed_zero]
        rfl
      · intro other elapsed
        rw [after, mirrors.kept_eq, List.map_append]
        exact (Session.held_of_not_writes (fun _ => rfl) _ _).symm
  | delete key =>
      obtain ⟨result, after⟩ := server.use_delete settings key s
      refine ⟨result, tracks, reading, writing, mirrors.started, mirrors.rounds_append nofun, ?_⟩
      intro other elapsed
      have dropped := Session.held_delete (events.map roundUp) st.now key
        (st.now.add ⟨elapsed⟩) other
      rw [given, List.map_append, after]
      refine Eq.trans ?_ dropped.symm
      simp only [(makeKey_injective settings).eq_iff, mirrors.kept_eq]
  | pass elapsed =>
      refine ⟨rfl, tracks, reading, writing, ?_, mirrors.rounds_append nofun, ?_⟩
      · have started := mirrors.started
        simp only [TimedStore.use, Session.Memory.timed, Instant.add]
        omega
      · intro other later
        have passed : kept (pass elapsed s) (settings.makeKey other) later =
            held (events.map roundUp) ((st.now.add ⟨elapsed⟩).add ⟨later⟩) other := by
          rw [server.pass, mirrors.kept_eq, Session.add_elapsed_add]
        rw [List.map_append]
        exact passed.trans (Session.held_of_not_writes (fun _ => rfl) _ _).symm

/-- Uses of both stores, one after the other. -/
theorem run (mirrors : Mirrors settings kept events st s)
    (server : KeepsSessions exchange pass kept) {uses : List Use}
    (forward : ∀ key value ttl, .set key value ttl ∈ uses → 0 ≤ ttl.nanoseconds)
    (fits : .done (.error .overflow) ∉ Session.Memory.timed.results st uses) :
    Mirrors settings kept (events ++ st.history (uses.map .use))
      (Session.Memory.timed.run st uses) ((timed settings exchange pass).run s uses) := by
  induction uses generalizing events st s with
  | nil =>
      rw [List.map_nil, Clocked.history, List.append_nil]
      exact mirrors
  | cons u rest ih =>
      obtain ⟨fits_now, fits_later⟩ := not_or.mp (mt List.mem_cons.mpr fits)
      obtain ⟨_, next⟩ := mirrors.use server
        (fun key value ttl same => forward key value ttl (same ▸ List.mem_cons_self))
        (Ne.symm fits_now)
      rw [List.map_cons, Clocked.history, List.append_cons]
      exact ih next (fun key value ttl member => forward key value ttl (.tail u member))
        fits_later

/-- While all spans are whole seconds, both stores give the same. -/
theorem results_eq (mirrors : Mirrors settings kept events st s)
    (server : KeepsSessions exchange pass kept) {uses : List Use}
    (whole : ∀ key value ttl, .set key value ttl ∈ uses →
      0 < ttl.nanoseconds ∧ ttl.nanoseconds % 1000000000 = 0)
    (fits : .done (.error .overflow) ∉ Session.Memory.timed.results st uses)
    (exact_events : events.map roundUp = events) :
    (timed settings exchange pass).results s uses = Session.Memory.timed.results st uses := by
  induction uses generalizing events st s with
  | nil => rfl
  | cons u rest ih =>
      obtain ⟨fits_now, fits_later⟩ := not_or.mp (mt List.mem_cons.mpr fits)
      have given := mirrors.tracks.use_eq mirrors.reading mirrors.writing (Ne.symm fits_now)
      obtain ⟨mirrored, next⟩ := mirrors.use server
        (fun key value ttl same => (whole key value ttl (same ▸ List.mem_cons_self)).1.le)
        (Ne.symm fits_now)
      rw [exact_events, ← given] at mirrored
      rw [TimedStore.results, TimedStore.results, mirrored]
      refine congrArg _ (ih next (fun key value ttl member => whole key value ttl (.tail u member))
        fits_later ?_)
      rw [List.map_append, exact_events, List.map_singleton, roundUp_of_whole]
      exact fun key value ttl same => whole key value ttl (same ▸ List.mem_cons_self)

/-- Reads of both stores find what the last successful write of the key has kept. -/
theorem findsKept (mirrors : Mirrors settings kept events st s)
    (server : KeepsSessions exchange pass kept) (key : String) :
    FindsKept events st.now key (Session.Memory.timed.use st (.get key)).1
      ((timed settings exchange pass).use s (.get key)).1 := by
  have in_memory := mirrors.tracks.get_eq mirrors.reading key
  have in_redis := (mirrors.use server (u := .get key) nofun nofun).1
  rw [in_memory, in_redis, expected]
  cases recorded : record? events key with
  | none =>
      have rounded_none := (record?_map_roundUp_eq_none_iff events key).mpr recorded
      rw [held, held, recorded, rounded_none]
      refine .inl ⟨fun opened value ttl last => ?_, rfl, rfl⟩
      rw [Session.record?_eq_some_iff.mpr ⟨opened, ttl, last, rfl⟩] at recorded
      cases recorded
  | some e =>
      obtain ⟨value, deadline⟩ := e
      obtain ⟨opened, ttl, last, rfl⟩ := Session.record?_eq_some_iff.mp recorded
      have member : _ ∈ events := List.mem_reverse.mp (List.mem_of_find?_eq_some last)
      obtain ⟨seconds, expiry, rounds⟩ := mirrors.rounds _ member key value ttl rfl
      have span : rounded ttl = .ofSeconds seconds := by simp only [rounded, expiry]
      have rounded_up :
          record? (events.map roundUp) key = some ⟨value, opened.add (rounded ttl)⟩ := by
        rw [record?, lastWrite?_map_roundUp, last]
        rfl
      rw [Session.held_eq recorded, Session.held_eq rounded_up, span]
      exact .inr ⟨opened, value, ttl, seconds, last, expiry, rounds, rfl, rfl⟩

end Mirrors

/-! ### A server with a clock -/

/-- What is under a key of a server when some more nanoseconds have passed. -/
def keptBy (s : Server) (key : String) (elapsed : Nat) : Option String :=
  (s.memory.live? (s.now.add ⟨elapsed⟩) key).map (·.value)

theorem keepsSessions_server :
    KeepsSessions Server.exchange (fun elapsed s => s.advance ⟨elapsed⟩) keptBy where
  set key value seconds s positive small := by
    have read := Numeral.uint64?_ofNat small
    have same : (UInt64.ofNat seconds).toNat = seconds := UInt64.toNat_ofNat_of_lt' small
    have present : UInt64.ofNat seconds ≠ 0 := by
      intro zero
      rw [zero] at same
      exact absurd same positive.ne
    refine ⟨s.keep key value seconds, by simp [Server.exchange, read, present, same], ?_⟩
    intro other elapsed
    simp only [keptBy, Server.keep, Session.Memory.live?_insert, Option.filter_some,
      Session.add_elapsed_lt_iff, decide_eq_true_eq]
    split_ifs <;> rfl
  get key s := by
    refine ⟨s, ?_, fun _ _ => rfl⟩
    simp only [keptBy, Session.add_elapsed_zero, Server.exchange]
    cases s.memory.live? s.now key <;> rfl
  delete key s := by
    refine ⟨_, { s with memory := s.memory.erase key }, rfl, fun other elapsed => ?_⟩
    simp only [keptBy, Session.Memory.live?_erase]
    split_ifs <;> rfl
  pass elapsed s key later := by
    simp only [keptBy, Server.advance, Session.add_elapsed_add]

/-! ### Agreement -/

/-- No value is kept for no time: either Redis is told a number of seconds from one on, or it is
told nothing. -/
theorem set_cases (settings : Config.Cache) (exchange : List String → σ → Answer × σ)
    (pass : Nat → σ → σ) (key value : String) (ttl : Span) (s : σ) :
    (∃ seconds, 0 < seconds ∧
      (timed settings exchange pass).set key value ttl s =
        reply (Client.set ⟨settings, exchange⟩ (settings.makeKey key) value seconds s)) ∨
      (timed settings exchange pass).set key value ttl s = ⟨.error .overflow, [], s⟩ := by
  simp only [timed, ofClient, expirySeconds_eq, redisKey]
  split_ifs
  · exact .inl ⟨_, by omega, rfl⟩
  · exact .inl ⟨_, by omega, rfl⟩
  · exact .inr rfl

/-- The same uses of both stores, from empty ones on, with spans whose end the steady clock can
show. While all spans are whole seconds from one on, both stores give the same, use by use.
Otherwise a read finds in both stores what the last successful write has kept, in memory for its
span and in Redis for that span rounded up; so what is live in memory is there in Redis, and stays
there for another second at most, which it takes for the empty span alone. Redis is never told to
keep a value for no time. -/
theorem stores_agree {exchange : List String → σ → Answer × σ} {pass : Nat → σ → σ}
    {kept : σ → String → Nat → Option String} (server : KeepsSessions exchange pass kept)
    (settings : Config.Cache) {start : Instant} (started : 0 ≤ start.nanoseconds) {s : σ}
    (blank : ∀ key elapsed, kept s (settings.makeKey key) elapsed = none) {uses : List Use}
    (forward : ∀ key value ttl, .set key value ttl ∈ uses → 0 ≤ ttl.nanoseconds)
    (fits : .done (.error .overflow) ∉ Session.Memory.timed.results ⟨start, .empty⟩ uses) :
    let memory := Session.Memory.timed
    let redis := timed settings exchange pass
    let st := memory.run ⟨start, .empty⟩ uses
    let events := Clocked.history ⟨start, .empty⟩ (uses.map .use)
    ((∀ key value ttl, .set key value ttl ∈ uses →
        0 < ttl.nanoseconds ∧ ttl.nanoseconds % 1000000000 = 0) →
      redis.results s uses = memory.results ⟨start, .empty⟩ uses) ∧
    (∀ key,
      let inMemory := (memory.use st (.get key)).1
      let inRedis := (redis.use (redis.run s uses) (.get key)).1
      FindsKept events st.now key inMemory inRedis ∧
        ∀ value, inMemory = .found (.ok (some value)) → inRedis = .found (.ok (some value))) ∧
    ∀ key value ttl s,
      (∃ seconds, 0 < seconds ∧
        redis.set key value ttl s =
          reply (Client.set ⟨settings, exchange⟩ (settings.makeKey key) value seconds s)) ∨
        redis.set key value ttl s = ⟨.error .overflow, [], s⟩ := by
  intro memory redis st events
  have first : Mirrors settings kept [] ⟨start, .empty⟩ s :=
    ⟨.empty start, rfl, rfl, started, nofun, blank⟩
  have last : Mirrors settings kept events st (redis.run s uses) :=
    first.run server forward fits
  refine ⟨fun whole => first.results_eq server whole fits rfl, fun key => ?_, ?_⟩
  · have finds := last.findsKept server key
    exact ⟨finds, fun value => finds.of_live⟩
  · exact set_cases settings exchange pass

/-- A value that was given a second and a half is gone from memory after a bit more, and is still in
Redis, under a key with a prefix. -/
theorem stores_agree_of_server :
    let settings := Config.Cache.default.withPrefix "ts"
    let start : Instant := .ofSeconds 0
    let uses : List Use := [.set "a" "v" ⟨1500000000⟩, .pass 1700000000]
    let memory := Session.Memory.timed
    let redis := timed settings Server.exchange fun elapsed s => s.advance ⟨elapsed⟩
    let s := Server.empty (.ofSeconds 60)
    (∀ key elapsed, keptBy s (settings.makeKey key) elapsed = none) ∧
      (∀ key value ttl, .set key value ttl ∈ uses → 0 ≤ ttl.nanoseconds) ∧
      .done (.error .overflow) ∉ memory.results ⟨start, .empty⟩ uses ∧
      (memory.use (memory.run ⟨start, .empty⟩ uses) (.get "a")).1 = .found (.ok none) ∧
      (redis.use (redis.run s uses) (.get "a")).1 = .found (.ok (some "v")) := by
  intro settings start uses memory redis s
  have blank : ∀ key elapsed, keptBy s (settings.makeKey key) elapsed = none := fun _ _ => rfl
  have forward : ∀ key value ttl, .set key value ttl ∈ uses → 0 ≤ ttl.nanoseconds := by
    simp only [uses, List.mem_cons, Use.set.injEq, reduceCtorEq, List.not_mem_nil, or_false]
    rintro _ _ _ ⟨_, _, rfl⟩
    decide
  have results : memory.results ⟨start, .empty⟩ uses = [.done (.ok ()), .done (.ok ())] := rfl
  have fits : .done (.error .overflow) ∉ memory.results ⟨start, .empty⟩ uses := by
    simp [results]
  obtain ⟨_, reads, _⟩ :=
    stores_agree keepsSessions_server settings (by decide) blank forward fits
  have written : lastWrite? (Clocked.history ⟨start, .empty⟩ (uses.map .use)) "a" =
      some ⟨start, .set "a" "v" ⟨1500000000⟩, .done (.ok ())⟩ := rfl
  refine ⟨blank, forward, fits, ?_⟩
  rcases (reads "a").1 with
    ⟨missing, _⟩ | ⟨opened, value, ttl, seconds, last, expiry, _, in_memory, in_redis⟩
  · exact absurd written (missing _ _ _)
  · rw [written] at last
    cases last
    cases expiry
    exact ⟨in_memory, in_redis⟩

end TokenLifecycle.Redis.SessionStore
