import Mathlib.Tactic
import TokenLifecycle.Proofs.Service.Causes
import TokenLifecycle.Proofs.Service.Rotation
import TokenLifecycle.Proofs.Service.Tracking
import TokenLifecycle.Proofs.Token.Bearer
import TokenLifecycle.Proofs.Token.Overflow

/-!
# Arithmetic in a run

The lifetime of a token and what is left of it are differences of times that anyone may have signed,
but they are taken only for tokens that the store holds. These were minted by the service itself, at
readings of the wall clock that lie within the calendar and not after the present one. So neither
they nor anything else that a step computes leaves the range of its numbers, except where the clock
shows less than the leeway, or a time before 1970. The main statement is `overflow_iff`.
-/

namespace TokenLifecycle.Service

open Session (Call Memory Script)

/-! ### Where an operation can overflow -/

/-- Nothing overflows behind the verification of a token: no call of the store, and no times of a
token that the store holds. -/
structure Course.Bounded (s : Service) (now : Instant) (calls : List Call) : Prop where
  answered : ∀ call ∈ calls, call.failure? ≠ some .overflow
  decided : ∀ token claims, s.codec.verify now token = .ok claims →
    .get (s.sessionKey claims.uid) (.ok (some token)) ∈ calls →
      rotationDue claims now ≠ .error .overflow

theorem Course.eq_overflow_iff {s : Service} {now : Instant} {draws : Draws} {op : Operation}
    {calls : List Call} {outcome : Outcome Answer} (course : Course s now draws op calls outcome)
    (bounded : Course.Bounded s now calls) :
    outcome = .error .overflow ↔
      now.seconds < 0 ∧ op.NeedsDate ∨
        ∃ token, (op = .refresh token ∨ op = .parse token) ∧
          s.codec.verify now token = .error .overflow := by
  by_cases early : now.seconds < 0 ∧ op.NeedsDate
  · exact iff_of_true (course.of_early early.1 early.2).2 (.inl early)
  rw [or_iff_right early]
  obtain ⟨answered, decided⟩ := bounded
  cases course with
  | unminted fails =>
      have no_overflow (uid : Int64) (lifetime : Span) (draw : Draw) :
          s.codec.mintNow now uid lifetime draw ≠ .error .overflow := fun overflowed =>
        early ⟨(s.codec.mintNow_eq_overflow_iff now uid lifetime draw).mp overflowed, trivial⟩
      simp only [Except.error.injEq, reduceCtorEq, or_self, false_and, exists_false, iff_false]
      rintro rfl
      exact fails.elim (no_overflow _ _ _) (no_overflow _ _ _)
  | unwritten f | uncleaned f =>
      have refused := answered _ List.mem_cons_self
      simp_all [reported_eq_overflow_iff, Call.failure?]
  | unread f verified =>
      have refused := answered _ List.mem_cons_self
      simp_all [reported_eq_overflow_iff, Call.failure?]
  | unrotated f verified =>
      have refused := answered _ (List.mem_cons_of_mem _ List.mem_cons_self)
      simp_all [reported_eq_overflow_iff, Call.failure?]
  | early before => exact absurd ⟨before, trivial⟩ early
  | @refused token f fails =>
      have overflows : s.refreshClaims now token = .error .overflow ↔ _ :=
        refreshClaims_eq_overflow_iff
      simp only [Operation.refresh.injEq, reduceCtorEq, or_false, exists_eq_left', ← overflows,
        fails, Except.error.injEq]
  | unredeemed verified fails =>
      have no_overflow := s.codec.mint_ne_overflow now
      have in_range := decided _ _ verified List.mem_cons_self
      simp only [Except.error.injEq, Operation.refresh.injEq, reduceCtorEq, or_false,
        exists_eq_left', verified, iff_false]
      rintro rfl
      rcases fails with unminted | undecided | unminted
      · exact no_overflow _ _ _ unminted
      · exact in_range undecided
      · exact no_overflow _ _ _ unminted
  | parsed token =>
      cases verified : s.codec.verify now token <;> simp [claims, verified, Except.map]
  | revoked verified => simp [verified, refuse]
  | kept verified => simp [verified]
  | rotated verified => simp [verified]
  | generated => simp
  | cleaned => simp

/-! ### Calls of a store in memory -/

theorem Course.ttl_eq {s : Service} {now : Instant} {draws : Draws} {op : Operation}
    {calls : List Call} {outcome : Outcome Answer} (course : Course s now draws op calls outcome)
    {key value : String} {ttl : Span} {answer : Outcome Unit}
    (made : .set key value ttl answer ∈ calls) : ttl = s.settings.refreshLifetime := by
  cases course <;> simp_all

/-- A session is read before anything else. -/
theorem Course.exists_eq_get_cons {s : Service} {now : Instant} {draws : Draws} {op : Operation}
    {calls : List Call} {outcome : Outcome Answer} (course : Course s now draws op calls outcome)
    {key : String} {answer : Outcome (Option String)} (made : .get key answer ∈ calls) :
    ∃ rest, calls = .get key answer :: rest := by
  cases course <;> simp_all

/-! ### What the store holds -/

/-- The wall clock is not set back. -/
def Action.KeepsWall : Action → Prop
  | .advance wall _ => 0 ≤ wall.nanoseconds
  | _ => True

/-- The tokens that the store holds were minted between an instant and now, by the wall clock. -/
structure MintedSince (s : Service) (start : Instant) (st : State) : Prop where
  started : start ≤ st.clock.wall
  minted : ∀ uid e, st.memory.find? (s.sessionKey uid) = some e →
    ∃ opened draw, start ≤ opened ∧ opened ≤ st.clock.wall ∧
      s.codec.mint opened uid s.settings.refreshLifetime draw = .ok e.value

namespace MintedSince

variable {s : Service} {start : Instant} {st : State}

theorem erase (since : MintedSince s start st) (key : String) :
    MintedSince s start { st with memory := st.memory.erase key } := by
  refine ⟨since.started, fun uid e present => ?_⟩
  rw [Memory.find?_erase] at present
  split_ifs at present
  exact since.minted uid e present

theorem insert (since : MintedSince s start st) {uid : Int64} {token : String} {draw : Draw}
    (minted : s.codec.mint st.clock.wall uid s.settings.refreshLifetime draw = .ok token)
    (deadline : Instant) :
    MintedSince s start
      { st with memory := st.memory.insert (s.sessionKey uid) ⟨token, deadline⟩ } := by
  refine ⟨since.started, fun other e present => ?_⟩
  simp only [Memory.find?_insert, sessionKey_inj] at present
  split_ifs at present with same
  · obtain rfl := Option.some.inj present
    rw [same]
    exact ⟨st.clock.wall, draw, since.started, Int.le_refl _, minted⟩
  · exact since.minted other e present

theorem advance (since : MintedSince s start st) {wall : Span} (forward : 0 ≤ wall.nanoseconds)
    (steady : Span) :
    MintedSince s start
      { st with clock := ⟨st.clock.wall.add wall, st.clock.steady.add steady⟩ } := by
  have later : st.clock.wall ≤ st.clock.wall.add wall := Int.le_add_of_nonneg_right forward
  refine ⟨Int.le_trans since.started later, fun uid e present => ?_⟩
  obtain ⟨opened, draw, after_start, before_now, minted⟩ := since.minted uid e present
  exact ⟨opened, draw, after_start, Int.le_trans before_now later, minted⟩

theorem step (since : MintedSince s start st) {action : Action} (keeps : action.KeepsWall) :
    MintedSince s start (s.step st action).state := by
  have ends := step_ends s st action
  generalize (s.step st action).outcome = outcome at ends
  generalize (s.step st action).state = next at ends ⊢
  cases ends with
  | failed | kept | parsed => exact since
  | dropped | cleaned => exact since.erase _
  | generated _ minted => exact since.insert minted _
  | rotated _ _ _ _ _ minted => exact since.insert minted _
  | advanced => exact since.advance keeps _
  | failedReads | failedWrites => exact ⟨since.started, since.minted⟩

theorem run (since : MintedSince s start st) {actions : List Action}
    (keep : ∀ action ∈ actions, action.KeepsWall) : MintedSince s start (s.run st actions) := by
  induction actions generalizing st with
  | nil => exact since
  | cons action rest ih =>
      have first := since.step (keep action List.mem_cons_self)
      exact ih first fun later taken => keep later (List.mem_cons_of_mem action taken)

end MintedSince

theorem mintedSince_fresh (s : Service) (start : Clock) :
    MintedSince s start.wall (.fresh start) := by
  refine ⟨Int.le_refl _, fun uid e present => ?_⟩
  cases present

/-! ### Times of stored tokens -/

/-- The times of a token that was minted within the calendar are never too far from each other, nor
from an instant of the calendar. -/
theorem Names.spans_eq {s : Service} {opened now : Instant} {uid : Int64} {token : String}
    {claims : Claims} (names : s.Names opened uid token claims) (issued : opened ≤ now)
    (inside : Instant.inCalendar opened.seconds = true)
    (now_inside : Instant.inCalendar now.seconds = true) :
    claims.lifetime = .ok (.ofSeconds s.settings.refreshLifetime.wholeSeconds) ∧
      claims.remaining now = .ok (.ofSeconds (claims.expiry.toInt - now.seconds)) := by
  have issuedAt := names.issuedAt
  have expiry := names.expiry
  have positive := names.positive
  have bounded := names.bounded
  have order : opened.seconds ≤ now.seconds := Int.ediv_le_ediv (by decide) issued
  have lifetime : claims.expiry.toInt - claims.issuedAt.toInt =
      s.settings.refreshLifetime.wholeSeconds := by omega
  simp only [Instant.inCalendar, Bool.and_eq_true, decide_eq_true_eq] at inside now_inside
  constructor
  · rw [Claims.lifetime, Claims.spanBetween_eq_ok (by omega) (by omega), lifetime]
  · exact Claims.spanBetween_eq_ok (by omega) (by omega)

/-- The third part of a span is a span. -/
theorem isRepresentable_rotationThreshold {lifetime : Span} (forward : 0 ≤ lifetime.nanoseconds)
    (bounded : lifetime.isRepresentable = true) :
    (rotationThreshold lifetime).isRepresentable = true := by
  rw [Span.isRepresentable, Bool.and_eq_true] at bounded ⊢
  have low : -(Span.maxMilliseconds * 1000000) ≤ lifetime.nanoseconds :=
    of_decide_eq_true bounded.1
  have high : lifetime.nanoseconds ≤ Span.maxMilliseconds * 1000000 :=
    of_decide_eq_true bounded.2
  rw [rotationThreshold, Int.tdiv_eq_ediv_of_nonneg forward]
  simp only [rotationDivisor]
  constructor
  · apply decide_eq_true
    omega
  · apply decide_eq_true
    omega

/-- The steady clock is further from the last instant that it can show than any span is long. -/
def State.HasRoom (st : State) : Prop :=
  st.clock.steady.seconds + 9223372036854776 < 9223372036854775808

theorem State.HasRoom.exists_deadline? {st : State} (room : st.HasRoom) {ttl : Span}
    (bounded : ttl.isRepresentable = true) :
    ∃ deadline, Memory.deadline? st.clock.steady ttl = some deadline := by
  rw [Span.isRepresentable, Bool.and_eq_true] at bounded
  have high : ttl.nanoseconds ≤ Span.maxMilliseconds * 1000000 := of_decide_eq_true bounded.2
  refine ⟨_, Memory.deadline?_eq_some_iff.mpr ⟨?_, rfl⟩⟩
  simp only [State.HasRoom, Instant.seconds, nanosecondsPerSecond] at room
  simp only [Span.maxMilliseconds] at high
  simp only [Instant.add, Instant.seconds, nanosecondsPerSecond]
  omega

/-! ### Steps of a run -/

/-- A token that the store holds has times in range when it is verified. -/
theorem MintedSince.spans_eq {s : Service} {start : Instant} {st : State}
    (since : MintedSince s start st) (bounded : s.settings.refreshLifetime.isRepresentable = true)
    (start_inside : Instant.inCalendar start.seconds = true)
    (now_inside : Instant.inCalendar st.clock.wall.seconds = true) {token : String}
    {claims : Claims}
    (verified : s.codec.verify st.clock.wall token = .ok claims)
    (stored : (st.memory.live? st.clock.steady (s.sessionKey claims.uid)).map (·.value) =
      some token) :
    0 < s.settings.refreshLifetime.wholeSeconds ∧
      claims.lifetime = .ok (.ofSeconds s.settings.refreshLifetime.wholeSeconds) ∧
      claims.remaining st.clock.wall =
        .ok (.ofSeconds (claims.expiry.toInt - st.clock.wall.seconds)) := by
  obtain ⟨e, live, rfl⟩ := Option.map_eq_some_iff.mp stored
  have present := (Memory.live?_eq_some_iff.mp live).1
  obtain ⟨opened, draw, after_start, before_now, minted⟩ := since.minted _ _ present
  have inside : Instant.inCalendar opened.seconds = true := by
    have low : start.seconds ≤ opened.seconds := Int.ediv_le_ediv (by decide) after_start
    have high : opened.seconds ≤ st.clock.wall.seconds := Int.ediv_le_ediv (by decide) before_now
    simp only [Instant.inCalendar, Bool.and_eq_true, decide_eq_true_eq] at *
    omega
  have names := Names.of_mint minted bounded inside
  have carried := names.claims?_eq.symm.trans (Codec.claims?_of_verify verified)
  rw [Option.some.inj carried] at names
  exact ⟨names.positive, names.spans_eq before_now inside now_inside⟩

/-- The results of what a step computes lie in the range of their numbers. -/
structure InRange (s : Service) (st : State) : Prop where
  /-- The times of new tokens, of which the expiry is a sum. -/
  issue : ∀ lifetime ∈ [s.settings.accessLifetime, s.settings.refreshLifetime], ∀ uid jti,
    let claims := Claims.issue uid st.clock.wall lifetime jti s.codec.issuer
    claims.issuedAt.toInt = st.clock.wall.seconds ∧
      claims.expiry.toInt = st.clock.wall.seconds + lifetime.wholeSeconds
  /-- The differences of the times of a verified token that the store holds, and the third part of
  its lifetime. -/
  spans : ∀ token claims, s.codec.verify st.clock.wall token = .ok claims →
    (st.memory.live? st.clock.steady (s.sessionKey claims.uid)).map (·.value) = some token →
    ∃ lifetime remaining, claims.lifetime = .ok lifetime ∧
      claims.remaining st.clock.wall = .ok remaining ∧
      (rotationThreshold lifetime).isRepresentable = true
  /-- How long entries are kept is no negative span. -/
  ttl : 0 ≤ s.settings.refreshLifetime.nanoseconds
  deadline : ∃ deadline,
    Memory.deadline? st.clock.steady s.settings.refreshLifetime = some deadline

theorem MintedSince.inRange {s : Service} {start : Instant} {st : State}
    (since : MintedSince s start st) (usable : s.settings.validate = .ok ())
    (access_bounded : s.settings.accessLifetime.isRepresentable = true)
    (bounded : s.settings.refreshLifetime.isRepresentable = true)
    (start_inside : Instant.inCalendar start.seconds = true)
    (now_inside : Instant.inCalendar st.clock.wall.seconds = true) (room : st.HasRoom) :
    InRange s st := by
  obtain ⟨access_positive, positive⟩ := lifetimes_pos_of_validate usable
  refine ⟨?_, ?_, Span.nanoseconds_nonneg positive, room.exists_deadline? bounded⟩
  · intro lifetime member uid jti
    have long : lifetime.isRepresentable = true ∧ 0 < lifetime.wholeSeconds := by
      simp only [List.mem_cons, List.not_mem_nil, or_false] at member
      rcases member with rfl | rfl
      · exact ⟨access_bounded, access_positive⟩
      · exact ⟨bounded, positive⟩
    exact ⟨Claims.issuedAt_issue _ _ _ now_inside _,
      Claims.expiry_issue _ _ _ now_inside long.1 long.2⟩
  · intro token claims verified stored
    obtain ⟨_, lifetime, remaining⟩ :=
      since.spans_eq bounded start_inside now_inside verified stored
    have high := Span.wholeSeconds_le_of_isRepresentable bounded
    have whole : (Span.ofSeconds s.settings.refreshLifetime.wholeSeconds).isRepresentable = true :=
      Span.isRepresentable_ofSeconds_iff.mpr ⟨by omega, high⟩
    have forward : 0 ≤ (Span.ofSeconds s.settings.refreshLifetime.wholeSeconds).nanoseconds := by
      simp only [Span.ofSeconds, nanosecondsPerSecond]
      omega
    exact ⟨_, _, lifetime, remaining, isRepresentable_rotationThreshold forward whole⟩

/-- Where all results are in range, nothing overflows behind the verification of a token. -/
theorem InRange.bounded_calls {s : Service} {st : State} (range : InRange s st) (draws : Draws)
    (op : Operation) :
    Course.Bounded s st.clock.wall
      ((s.script st.clock.wall draws op).calls (Memory.store st.clock.steady) st.memory) := by
  have course := s.course st.clock.wall draws (Memory.store st.clock.steady) st.memory op
  constructor
  · intro call made
    obtain ⟨m, answered⟩ := Script.exists_answeredBy_of_mem_calls made
    cases call with
    | set key value ttl answer =>
        obtain rfl := course.ttl_eq made
        obtain ⟨deadline, found⟩ := range.deadline
        have shown := (Memory.deadline?_eq_some_iff.mp found).1
        have reply : (m.set st.clock.steady key value s.settings.refreshLifetime).outcome =
            answer := answered
        rw [Memory.outcome_set, if_pos shown] at reply
        rw [← reply]
        split_ifs <;> simp [Call.failure?, Memory.unavailable]
    | get key answer =>
        have reply : (m.get st.clock.steady key).outcome = answer := answered
        rw [← reply, Memory.outcome_get]
        split_ifs <;> simp [Call.failure?, Memory.unavailable]
    | delete key answer =>
        have reply : (m.delete key).outcome = answer := answered
        rw [← reply, Memory.outcome_delete]
        split_ifs <;> simp [Call.failure?, Memory.unavailable]
  · intro token claims verified made overflowed
    obtain ⟨rest, first⟩ := course.exists_eq_get_cons made
    have reply : (st.memory.get st.clock.steady (s.sessionKey claims.uid)).outcome =
        .ok (some token) := Script.answeredBy_of_calls_eq_cons first
    rw [Memory.outcome_get] at reply
    split_ifs at reply
    obtain ⟨lifetime, remaining, lifetime_eq, remaining_eq, _⟩ :=
      range.spans token claims verified (Except.ok.inj reply)
    simp [rotationDue, lifetime_eq, remaining_eq] at overflowed

/-- The token that a step verifies. -/
def Action.presented? : Action → Option String
  | .refresh token _ => some token
  | .parse token => some token
  | _ => none

/-- What callers ask of the service in a step. -/
def Action.operation? : Action → Option (Operation × Draws)
  | .generate uid draws => some (.generate uid, draws)
  | .refresh token draws => some (.refresh token, draws)
  | .clean uid => some (.clean uid, ⟨⟨"", []⟩, ⟨"", []⟩⟩)
  | _ => none

/-- A step comes to what the script of its operation comes to. -/
theorem outcome_step_eq {s : Service} {st : State} {action : Action} {op : Operation}
    {draws : Draws} (asks : action.operation? = some (op, draws)) :
    (s.step st action).outcome =
      ((s.script st.clock.wall draws op).run (Memory.store st.clock.steady) st.memory).outcome := by
  cases action with
  | generate | refresh | clean =>
      obtain ⟨rfl, rfl⟩ := Prod.mk.inj (Option.some.inj asks)
      rw [script, Script.outcome_run_map]
      rfl
  | _ => cases asks

/-- A step overflows where the verification of the presented token does, and where it asks for the
date before 1970. -/
theorem InRange.step_eq_overflow_iff {s : Service} {st : State} (range : InRange s st)
    (action : Action) :
    (s.step st action).outcome = .error .overflow ↔
      (st.clock.wall.seconds < 0 ∧ ∃ asked ∈ action.operation?, asked.1.NeedsDate) ∨
        ∃ token, action.presented? = some token ∧
          s.codec.verify st.clock.wall token = .error .overflow := by
  have overflows (draws : Draws) (op : Operation) :=
    (s.course st.clock.wall draws (Memory.store st.clock.steady) st.memory op).eq_overflow_iff
      (range.bounded_calls draws op)
  cases action with
  | generate uid draws =>
      rw [outcome_step_eq rfl, overflows draws]
      simp [Action.presented?, Action.operation?]
  | refresh token draws =>
      rw [outcome_step_eq rfl, overflows draws]
      simp [Action.presented?, Action.operation?]
  | parse token =>
      cases verified : s.codec.verify st.clock.wall token <;>
        simp [step, claims, verified, Action.presented?, Action.operation?, Except.map]
  | clean uid =>
      rw [outcome_step_eq rfl, overflows]
      simp [Action.presented?, Action.operation?]
  | _ => simp [step, Action.presented?, Action.operation?]

theorem authenticate_eq_overflow_iff {s : Service} {now : Instant} {header : String} :
    s.authenticate now header = .error .overflow ↔
      ∃ token, Bearer.token header = .ok token ∧
        s.codec.verify now token = .error .overflow := by
  rw [authenticate]
  rcases Bearer.token_cases header with ⟨token, _, found⟩ | ⟨_, refused⟩
  · cases verified : s.codec.verify now token <;>
      simp [found, principal, claims, verified, Except.map]
  · simp [refused, refuse]

/-- In every run in which the wall clock is not set back, stays in the calendar, and the steady
clock has room, a step overflows for two causes only: it asks for the date before 1970, which no
clock shows that was started later, or the token that it verifies comes to the check of its expiry
while the clock shows less than the leeway. Whatever has been done before, the times of new tokens,
the differences of the times of a stored token, and the deadlines of entries lie in the range of
their numbers. -/
theorem overflow_iff {codec : Codec} {settings : Settings} {s : Service}
    (constructed : ofSettings codec settings = .ok s)
    (access_bounded : s.settings.accessLifetime.isRepresentable = true)
    (bounded : s.settings.refreshLifetime.isRepresentable = true) {start : Clock}
    {actions : List Action} (keep : ∀ action ∈ actions, action.KeepsWall)
    (start_inside : Instant.inCalendar start.wall.seconds = true)
    (now_inside : Instant.inCalendar (s.run (.fresh start) actions).clock.wall.seconds = true)
    (room : (s.run (.fresh start) actions).HasRoom) :
    let st := s.run (.fresh start) actions
    let tooEarly (token : String) : Prop :=
      s.codec.ComesToExpiry token ∧ st.clock.wall.seconds < s.codec.leeway.toNat
    (∀ action, (s.step st action).outcome = .error .overflow ↔
      (st.clock.wall.seconds < 0 ∧ ∃ asked ∈ action.operation?, asked.1.NeedsDate) ∨
        ∃ token, action.presented? = some token ∧ tooEarly token) ∧
    (∀ header, s.authenticate st.clock.wall header = .error .overflow ↔
      ∃ token, Bearer.token header = .ok token ∧ tooEarly token) ∧
    (0 ≤ start.wall.seconds → 0 ≤ st.clock.wall.seconds) ∧
    InRange s st := by
  intro st tooEarly
  have since := (mintedSince_fresh s start).run keep
  have range : InRange s st := since.inRange (validate_of_ofSettings constructed) access_bounded
    bounded start_inside now_inside room
  have later : start.wall.seconds ≤ st.clock.wall.seconds :=
    Int.ediv_le_ediv (by decide) since.started
  refine ⟨fun action => ?_, fun header => ?_, later.trans', range⟩
  · rw [range.step_eq_overflow_iff action]
    refine or_congr_right (exists_congr fun token => and_congr_right fun _ => ?_)
    exact Codec.verify_eq_overflow_iff
  · rw [authenticate_eq_overflow_iff]
    exact exists_congr fun token => and_congr_right fun _ => Codec.verify_eq_overflow_iff

/-- With the longest lifetimes there are, a token that is issued in the calendar's last minute and
presented in its last second leads to no overflow. -/
theorem overflow_iff_of_longest_lifetimes :
    let longest : Span := ⟨Span.maxMilliseconds * 1000000⟩
    let s : Service := ⟨⟨.digest, none, 0⟩, ⟨longest, longest, "session"⟩⟩
    let start : Clock := ⟨.ofSeconds 8210266876740, .ofSeconds 0⟩
    let draws : Draws := ⟨⟨"a", []⟩, ⟨"b", []⟩⟩
    let actions : List Action := [.generate 7 draws, .advance (.ofSeconds 59) (.ofSeconds 59)]
    let st := s.run (.fresh start) actions
    ofSettings s.codec s.settings = .ok s ∧ st.clock.wall.seconds = 8210266876799 ∧
      ∀ action, (s.step st action).outcome ≠ .error .overflow := by
  intro longest s start draws actions st
  have constructed : ofSettings s.codec s.settings = .ok s := rfl
  have signs : s.Signs start.wall 7 draws := ⟨⟨_, rfl⟩, _, rfl⟩
  obtain ⟨deadline, found⟩ : ∃ deadline,
      Memory.deadline? start.steady s.settings.refreshLifetime = some deadline := ⟨_, rfl⟩
  obtain ⟨_, _, _, _, (after : st = _)⟩ :=
    exists_issued signs rfl (by decide) (by decide) found (.ofSeconds 59) (by decide)
  have clock : st.clock = start.advance (.ofSeconds 59) := congrArg State.clock after
  have wall : st.clock.wall.seconds = 8210266876799 := by
    rw [clock]
    decide
  have now_inside : Instant.inCalendar st.clock.wall.seconds = true := by
    rw [wall]
    decide
  have room : st.HasRoom := by
    rw [State.HasRoom, clock]
    decide
  have forward : 0 ≤ (Span.ofSeconds 59).nanoseconds := by decide
  have keep : ∀ action ∈ actions, action.KeepsWall := by
    simp only [actions, List.forall_mem_cons]
    exact ⟨trivial, forward, fun action taken => by cases taken⟩
  obtain ⟨overflows, _⟩ :=
    overflow_iff constructed (by decide) (by decide) keep (by decide) now_inside room
  have reached : ¬st.clock.wall.seconds < 0 := by
    rw [wall]
    decide
  refine ⟨constructed, wall, fun action overflowed => ?_⟩
  rcases (overflows action).mp overflowed with ⟨before, _⟩ | ⟨_, _, _, early⟩
  · exact reached before
  · exact reached early

end TokenLifecycle.Service
