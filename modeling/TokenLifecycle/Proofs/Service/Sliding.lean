import Mathlib.Tactic
import TokenLifecycle.Proofs.Service.Redemption

/-!
# Sessions that slide

A client that comes back often enough is never signed out: when it presents the refresh token of its
last answer each time, every refresh finds a live session with time left, whatever is done for other
principals in between. What carries this from one refresh to the next is that at least a third of
the lifetime is left after each of them.
-/

namespace TokenLifecycle.Service

open Session (Memory)

/-! ### A client and the others -/

/-- The step does not make the store fail. -/
def Action.LeavesWorking : Action → Prop
  | .failReads failing => failing = false
  | .failWrites failing => failing = false
  | _ => True

/-- A step that others take while a client waits. It is not about the session of the client, the
clocks move together, and the store goes on to work. -/
structure Action.IsOther (uid : Int64) (action : Action) : Prop where
  joint : action.MovesJointly
  spares : action.Spares uid
  working : action.LeavesWorking

/-- A refresh of a client: what others do before it, and the chance that it uses. -/
structure Round where
  others : List Action
  draws : Draws

/-- A client comes back in time: its waiting, with a second added, is at most a third of the
lifetime. What others do in between is not about its session, and signing works. -/
structure Round.IsRegular (s : Service) (uid : Int64) (round : Round) : Prop where
  others : ∀ action ∈ round.others, action.IsOther uid
  signs : ∀ now, s.Signs now uid round.draws
  often : 3 * ((elapsed round.others).nanoseconds + 1000000000) ≤
    s.settings.refreshLifetime.wholeSeconds * 1000000000

/-- How long some rounds take. -/
def elapsedIn (rounds : List Round) : Span :=
  ⟨(rounds.map fun round => (elapsed round.others).nanoseconds).sum⟩

/-- The refresh token that a client goes on with. -/
def nextToken (token : String) : Outcome Answer → String
  | .ok (.refreshed r) => r.tokens.refreshToken
  | _ => token

/-- What the refreshes of a client come to that presents the refresh token of its last answer. -/
def follow (s : Service) : State → String → List Round → List (Outcome Answer)
  | _, _, [] => []
  | st, token, round :: rest =>
    let reply := s.step (s.run st round.others) (.refresh token round.draws)
    reply.outcome :: s.follow reply.state (nextToken token reply.outcome) rest

/-! ### A session with time left -/

/-- The store works and keeps the session of a token that does not expire for some seconds. -/
structure HasLeft (s : Service) (uid : Int64) (token : String) (left : Int) (st : State) :
    Prop where
  reading : st.memory.readsFail = false
  writing : st.memory.writesFail = false
  session : ∃ opened deadline claims, Kept s opened uid ⟨token, deadline⟩ st ∧
    s.Names opened.wall uid token claims ∧ left ≤ claims.expiry.toInt - st.clock.wall.seconds

/-- A third of a lifetime, in whole seconds and rounded up. -/
def third (s : Service) : Int :=
  (s.settings.refreshLifetime.wholeSeconds + 2) / 3

theorem working_step {s : Service} {st : State} (reading : st.memory.readsFail = false)
    (writing : st.memory.writesFail = false) {action : Action} (working : action.LeavesWorking) :
    (s.step st action).state.memory.readsFail = false ∧
      (s.step st action).state.memory.writesFail = false := by
  have ends := step_ends s st action
  generalize (s.step st action).outcome = outcome at ends
  generalize (s.step st action).state = next at ends ⊢
  cases ends with
  | failedReads failing => exact ⟨working, writing⟩
  | failedWrites failing => exact ⟨reading, working⟩
  | _ => exact ⟨reading, writing⟩

theorem working_run {s : Service} {st : State} (reading : st.memory.readsFail = false)
    (writing : st.memory.writesFail = false) {actions : List Action}
    (working : ∀ action ∈ actions, action.LeavesWorking) :
    (s.run st actions).memory.readsFail = false ∧
      (s.run st actions).memory.writesFail = false := by
  induction actions generalizing st with
  | nil => exact ⟨reading, writing⟩
  | cons action rest ih =>
      obtain ⟨reading', writing'⟩ :=
        working_step (s := s) reading writing (working action List.mem_cons_self)
      exact ih reading' writing' fun next taken => working next (List.mem_cons_of_mem action taken)

namespace HasLeft

variable {s : Service} {uid : Int64} {token : String} {left : Int} {st : State}

/-- A third is left, as the whole lifetime is, when a session has been opened. -/
theorem insert (reading : st.memory.readsFail = false) (writing : st.memory.writesFail = false)
    {draw : Draw} {deadline : Instant}
    (minted : s.codec.mint st.clock.wall uid s.settings.refreshLifetime draw = .ok token)
    (found : Memory.deadline? st.clock.steady s.settings.refreshLifetime = some deadline)
    (bounded : s.settings.refreshLifetime.isRepresentable = true)
    (inside : Instant.inCalendar st.clock.wall.seconds = true) :
    HasLeft s uid token s.third
      { st with memory := st.memory.insert (s.sessionKey uid) ⟨token, deadline⟩ } := by
  have names := Names.of_mint minted bounded inside
  refine ⟨reading, writing, st.clock, deadline, _, .insert minted found, names, ?_⟩
  have positive := names.positive
  change s.third ≤ _ - st.clock.wall.seconds
  rw [names.expiry, third]
  omega

/-- While the client waits for less than what is left, its session stays. -/
theorem wait (has : HasLeft s uid token left st) {actions : List Action}
    (others : ∀ action ∈ actions, action.IsOther uid)
    (short : (elapsed actions).nanoseconds + 1000000000 ≤ left * 1000000000) :
    HasLeft s uid token 1 (s.run st actions) := by
  obtain ⟨reading, writing, opened, deadline, claims, kept, names, unexpired⟩ := has
  have joint (action : Action) (taken : action ∈ actions) := (others action taken).joint
  obtain ⟨reading', writing'⟩ := working_run (s := s) reading writing fun action taken =>
    (others action taken).working
  have later := kept.run joint (quiet_of_all_spare fun action taken => (others action taken).spares)
  refine ⟨reading', writing', opened, deadline, claims, later, names, ?_⟩
  have wall : (s.run st actions).clock.wall = st.clock.wall.add (elapsed actions) :=
    congrArg Clock.wall (clock_run_eq s st joint)
  have waited := Instant.seconds_add_lt st.clock.wall short
  rw [wall]
  omega

/-- A refresh leaves a third of the lifetime at least: it replaces a token that has less left. -/
theorem refresh (has : HasLeft s uid token 1 st) (usable : s.settings.validate = .ok ())
    (bounded : s.settings.refreshLifetime.isRepresentable = true) (sound : s.codec.keys.Sound)
    (running : (s.codec.leeway.toNat : Int) ≤ st.clock.wall.seconds)
    (inside : Instant.inCalendar st.clock.wall.seconds = true) {next : Instant}
    (found : Memory.deadline? st.clock.steady s.settings.refreshLifetime = some next)
    {draws : Draws} (signs : s.Signs st.clock.wall uid draws) :
    ∃ r, (s.step st (.refresh token draws)).outcome = .ok (.refreshed r) ∧ r.uid = uid ∧
      HasLeft s uid r.tokens.refreshToken s.third (s.step st (.refresh token draws)).state := by
  obtain ⟨reading, writing, opened, deadline, claims, kept, names, unexpired⟩ := has
  have served := served_of_working reading writing found token draws
  obtain ⟨r, redeemed, principal⟩ :=
    redeem_of_kept kept names usable sound running (by omega) signs served
  refine ⟨r, redeemed, principal, ?_⟩
  have positive := names.positive
  have expiry := names.expiry
  have issued := kept.session.runs.seconds_le
  have accepted := names.verify_eq sound (by omega) running
  rw [if_neg (by omega)] at accepted
  have due := names.rotationDue_eq issued (by omega)
  -- Either the token stays, as enough is left of it, or a new session is opened.
  have ends := step_ends s st (.refresh token draws)
  rw [redeemed] at ends
  generalize (s.step st (.refresh token draws)).state = after at ends ⊢
  cases ends with
  | kept verified _ _ _ decided =>
      obtain rfl := Except.ok.inj (accepted.symm.trans verified)
      obtain ⟨_, not_due⟩ := Prod.mk.inj (Except.ok.inj (due.symm.trans decided))
      have enough := of_decide_eq_false not_due
      refine ⟨reading, writing, opened, deadline, claims, kept, names, ?_⟩
      rw [third]
      omega
  | rotated verified _ _ _ _ minted _ stored =>
      obtain rfl := Except.ok.inj (accepted.symm.trans verified)
      obtain rfl := names.principal
      exact .insert reading writing minted stored bounded inside

end HasLeft

/-! ### A client that comes back -/

theorem elapsedIn_cons (round : Round) (rest : List Round) :
    elapsedIn (round :: rest) =
      ⟨(elapsed round.others).nanoseconds + (elapsedIn rest).nanoseconds⟩ :=
  rfl

theorem elapsedIn_nonneg {s : Service} {uid : Int64} {rounds : List Round}
    (regular : ∀ round ∈ rounds, round.IsRegular s uid) : 0 ≤ (elapsedIn rounds).nanoseconds := by
  refine List.sum_nonneg fun span taken => ?_
  obtain ⟨round, member, rfl⟩ := List.mem_map.mp taken
  exact elapsed_nonneg fun action waited => ((regular round member).others action waited).joint

theorem refreshed_of_hasLeft {s : Service} {uid : Int64} {token : String} {st : State}
    {rounds : List Round} (has : HasLeft s uid token s.third st)
    (usable : s.settings.validate = .ok ())
    (bounded : s.settings.refreshLifetime.isRepresentable = true) (sound : s.codec.keys.Sound)
    (running : (s.codec.leeway.toNat : Int) ≤ st.clock.wall.seconds)
    (inside : Instant.inCalendar st.clock.wall.seconds = true)
    (last_inside : Instant.inCalendar (st.clock.advance (elapsedIn rounds)).wall.seconds = true)
    {next : Instant} (found : Memory.deadline? (st.clock.advance (elapsedIn rounds)).steady
      s.settings.refreshLifetime = some next)
    (regular : ∀ round ∈ rounds, round.IsRegular s uid) :
    ∀ outcome ∈ s.follow st token rounds, ∃ r, outcome = .ok (.refreshed r) ∧ r.uid = uid := by
  -- Each round takes the session to one that again has a third left, perhaps of another token.
  induction rounds generalizing st token with
  | nil => exact fun outcome taken => by cases taken
  | cons round rest ih =>
      obtain ⟨others, signs, often⟩ := regular round List.mem_cons_self
      have regular_rest (other : Round) (taken : other ∈ rest) :=
        regular other (List.mem_cons_of_mem round taken)
      have joint (action : Action) (taken : action ∈ round.others) := (others action taken).joint
      have ready := has.wait others (by rw [third]; omega)
      have runs := clock_run s st joint
      have last_eq : st.clock.advance (elapsedIn (round :: rest)) =
          (s.run st round.others).clock.advance (elapsedIn rest) := by
        rw [clock_run_eq s st joint, elapsedIn_cons]
        simp [Clock.advance, Instant.add, Int.add_assoc]
      rw [last_eq] at last_inside found
      have goes_on : (s.run st round.others).clock.RunsTo
          ((s.run st round.others).clock.advance (elapsedIn rest)) :=
        ⟨_, elapsedIn_nonneg regular_rest, rfl⟩
      have ready_inside := Clock.RunsTo.inCalendar inside last_inside runs goes_on
      have ready_running := Int.le_trans running runs.seconds_le
      obtain ⟨_, storable⟩ := Memory.exists_deadline?_of_le goes_on.steady_le found
      obtain ⟨r, redeemed, principal, after⟩ := ready.refresh usable bounded sound ready_running
        ready_inside storable (signs _)
      intro outcome taken
      rw [follow] at taken
      rcases List.mem_cons.mp taken with rfl | later
      · exact ⟨r, redeemed, principal⟩
      · rw [redeemed] at later
        exact ih after ready_running ready_inside last_inside found regular_rest outcome later

/-- A client is not signed out as long as it comes back in time: when a pair has been issued to a
principal, and from then on the refresh token of the last answer is presented again before a third
of a lifetime has passed, up to a second, then every refresh succeeds. It does not matter how often,
nor what is done for other principals in between. -/
theorem sliding_session {s : Service} {st : State} {uid : Int64} {draws : Draws} {pair : TokenPair}
    {rounds : List Round} {deadline : Instant} (usable : s.settings.validate = .ok ())
    (bounded : s.settings.refreshLifetime.isRepresentable = true) (sound : s.codec.keys.Sound)
    (reading : st.memory.readsFail = false)
    (running : (s.codec.leeway.toNat : Int) ≤ st.clock.wall.seconds)
    (inside : Instant.inCalendar st.clock.wall.seconds = true)
    (last_inside : Instant.inCalendar (st.clock.advance (elapsedIn rounds)).wall.seconds = true)
    (storable : Memory.deadline? (st.clock.advance (elapsedIn rounds)).steady
      s.settings.refreshLifetime = some deadline)
    (issued : (s.step st (.generate uid draws)).outcome = .ok (.generated pair))
    (regular : ∀ round ∈ rounds, round.IsRegular s uid) :
    ∀ outcome ∈ s.follow (s.step st (.generate uid draws)).state pair.refreshToken rounds,
      ∃ r, outcome = .ok (.refreshed r) ∧ r.uid = uid := by
  have ends := step_ends s st (.generate uid draws)
  rw [issued] at ends
  generalize (s.step st (.generate uid draws)).state = after at ends ⊢
  cases ends with
  | generated _ minted writing found =>
      have has := HasLeft.insert reading writing minted found bounded inside
      exact refreshed_of_hasLeft has usable bounded sound running inside last_inside storable
        regular

/-- A client comes back every ten days but a second, four times. It goes on to be signed in when the
thirty days of its first refresh token are over, and someone else signs in in between. -/
theorem sliding_session_for_forty_days :
    let s : Service := ⟨⟨.digest, none, 0⟩, .default⟩
    let st : State := .fresh ⟨.ofSeconds 100, .ofSeconds 0⟩
    let draws : Draws := ⟨⟨"a", []⟩, ⟨"b", []⟩⟩
    let wait : Span := .ofSeconds 863999
    let rounds : List Round := List.replicate 4 ⟨[.generate 8 draws, .advance wait wait], draws⟩
    s.settings.refreshLifetime.nanoseconds < (elapsedIn rounds).nanoseconds ∧
      ∃ pair, (s.step st (.generate 7 draws)).outcome = .ok (.generated pair) ∧
        ∀ outcome ∈ s.follow (s.step st (.generate 7 draws)).state pair.refreshToken rounds,
          ∃ r, outcome = .ok (.refreshed r) ∧ r.uid = 7 := by
  intro s st draws wait rounds
  have signs (now : Instant) : s.Signs now 7 draws := ⟨⟨_, rfl⟩, _, rfl⟩
  obtain ⟨⟨access, minted⟩, token, minted_refresh⟩ :=
    (signs st.clock.wall).exists_mint rfl (show (7 : Int64) ≠ 0 by decide)
  obtain ⟨issued, _⟩ : (s.step st (.generate 7 draws)).outcome = _ ∧ _ :=
    step_generated (by decide) minted minted_refresh rfl rfl
  have member {round : Round} (taken : round ∈ rounds) :
      round = ⟨[.generate 8 draws, .advance wait wait], draws⟩ := List.eq_of_mem_replicate taken
  refine ⟨by decide, _, issued, sliding_session rfl (by decide) KeyPair.sound_digest rfl (by decide)
    (by decide) (by decide) rfl issued fun round taken => ?_⟩
  obtain rfl := member taken
  refine ⟨fun action waiting => ?_, signs, by decide⟩
  simp only [List.mem_cons, List.not_mem_nil, or_false] at waiting
  rcases waiting with rfl | rfl
  · exact ⟨trivial, (by decide : (8 : Int64) ≠ 7), trivial⟩
  · exact ⟨⟨rfl, by decide⟩, trivial, trivial⟩

end TokenLifecycle.Service
