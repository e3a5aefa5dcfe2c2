import Mathlib.Tactic
import TokenLifecycle.Proofs.Service.Course
import TokenLifecycle.Proofs.Service.History
import TokenLifecycle.Proofs.Session.Twins
import TokenLifecycle.Proofs.Token.Twins

/-!
# Operations with other draws

An operation is done twice, over stores with twin tokens, and only what chance draws for tokens
differs. The two events are the same but for the tokens that they hand out, the lines are the same,
and the stores hold twin tokens again: `steps_generate` and the theorems behind it say so of each
kind of step.
-/

namespace TokenLifecycle

namespace Service

open Session (Memory Script)

/-! ### Corresponding answers -/

/-- Pairs of tokens that correspond, with the same lifetimes. -/
structure PairsCorrespond (R : String → String → Prop) (p p' : TokenPair) : Prop where
  accessToken : R p.accessToken p'.accessToken
  refreshToken : R p.refreshToken p'.refreshToken
  accessExpiresIn : p.accessExpiresIn = p'.accessExpiresIn
  refreshExpiresIn : p.refreshExpiresIn = p'.refreshExpiresIn

/-- Refreshes of one principal that come to corresponding pairs of tokens. -/
structure RefreshesCorrespond (R : String → String → Prop) (r r' : Refreshed) : Prop where
  tokens : PairsCorrespond R r.tokens r'.tokens
  uid : r.uid = r'.uid
  rotated : r.rotated = r'.rotated

/-- Events that are the same but for the tokens, which correspond. The claims of a token are the
same when the other run presents that token too, and differ at most in their identifiers when it
presents another one. -/
inductive EventsCorrespond (R : String → String → Prop) : Event → Event → Prop
  | failed (action action' : Action) (f : Failure) :
      EventsCorrespond R (action, .error f) (action', .error f)
  | generated (uid : Int64) (draws draws' : Draws) {pair pair' : TokenPair} :
      PairsCorrespond R pair pair' →
      EventsCorrespond R (.generate uid draws, .ok (.generated pair))
        (.generate uid draws', .ok (.generated pair'))
  | refreshed (token token' : String) (draws draws' : Draws) {r r' : Refreshed} :
      RefreshesCorrespond R r r' →
      EventsCorrespond R (.refresh token draws, .ok (.refreshed r))
        (.refresh token' draws', .ok (.refreshed r'))
  | parsed {token token' : String} {claims claims' : Claims} :
      claims.Twins claims' → (token = token' → claims = claims') →
      EventsCorrespond R (.parse token, .ok (.parsed claims)) (.parse token', .ok (.parsed claims'))
  | nothing (action : Action) : EventsCorrespond R (action, .ok .nothing) (action, .ok .nothing)

namespace EventsCorrespond

variable {R S : String → String → Prop} {event event' : Event}

theorem mono (correspond : EventsCorrespond R event event') (weaker : ∀ t t', R t t' → S t t') :
    EventsCorrespond S event event' := by
  have pairs {p p' : TokenPair} (same : PairsCorrespond R p p') : PairsCorrespond S p p' :=
    ⟨weaker _ _ same.accessToken, weaker _ _ same.refreshToken, same.accessExpiresIn,
      same.refreshExpiresIn⟩
  cases correspond with
  | failed action action' f => exact .failed action action' f
  | generated uid draws draws' same => exact .generated uid draws draws' (pairs same)
  | refreshed token token' draws draws' same =>
      exact .refreshed token token' draws draws' ⟨pairs same.tokens, same.uid, same.rotated⟩
  | parsed twins same => exact .parsed twins same
  | nothing action => exact .nothing action

/-- The tokens that corresponding events hand out correspond. -/
theorem handedOut (correspond : EventsCorrespond R event event') :
    List.Forall₂ R (handedOut event) (handedOut event') := by
  cases correspond with
  | failed action action' =>
      have none_given (action : Action) (f : Failure) :
          Service.handedOut (action, .error f) = [] := by
        cases action <;> rfl
      rw [none_given, none_given]
      exact .nil
  | generated _ _ _ same => exact .cons same.accessToken (.cons same.refreshToken .nil)
  | refreshed _ _ _ _ same =>
      have tokens := same.tokens
      simp only [Service.handedOut, accessTokens, refreshTokens, ← same.rotated]
      split_ifs
      · exact .cons tokens.accessToken (.cons tokens.refreshToken .nil)
      · exact .cons tokens.accessToken .nil
  | parsed => exact .nil
  | nothing action => cases action <;> exact .nil

end EventsCorrespond

/-! ### Scripts with other draws -/

/-- The failure behind which runs are not compared. -/
def unsigned : Failure := .rejected .tokenGenerationFailed

section Scripts

variable {α β : Type} {s : Service} {pairs : List (Draw × Draw)} {A : β → β → Prop}
  {found : String → String → Prop}

theorem twins_proceed {S : α → α → Prop} {outcome outcome' : Outcome α}
    {next next' : α → Script β} (outcomes : outcome.Twins S outcome')
    (goes_on : ∀ a a', S a a' →
      Script.Twins unsigned A (s.codec.Twins pairs) found (next a) (next' a')) :
    Script.Twins unsigned A (s.codec.Twins pairs) found (proceed outcome next)
      (proceed outcome' next') := by
  cases outcomes with
  | ok related => exact goes_on _ _ related
  | error f => exact .done (.error f)

theorem twins_proceedWithToken (start : Instant) (uid other : Int64) (lifetime : Span)
    {draw draw' : Draw} (drawn : (draw, draw') ∈ pairs) {next next' : String → Script β}
    (goes_on : ∀ token token', s.codec.Twins pairs token token' →
      Script.Twins unsigned A (s.codec.Twins pairs) found (next token) (next' token')) :
    Script.Twins unsigned A (s.codec.Twins pairs) found
      (proceedWithToken other (s.codec.mint start uid lifetime draw) next)
      (proceedWithToken other (s.codec.mint start uid lifetime draw') next') := by
  rcases s.codec.mint_cases start uid lifetime draw draw' with
    ⟨message, refused, refused'⟩ | failed | ⟨token, token', minted, minted'⟩
  · rw [refused, refused']
    exact .done (.error _)
  · refine .barred (failed.imp ?_ ?_)
    · intro failed
      rw [failed]
      exact endsAt_proceedWithToken other unsigned next
    · intro failed
      rw [failed]
      exact endsAt_proceedWithToken other unsigned next'
  · rw [minted, minted']
    exact goes_on token token' ⟨_, drawn, start, uid, lifetime, minted, minted'⟩

theorem twins_proceedWithAnswer (operation : String) {S : α → α → Prop} {reply reply' : Outcome α}
    {next next' : α → Script β} (replies : reply.Twins S reply')
    (goes_on : ∀ a a', S a a' →
      Script.Twins unsigned A (s.codec.Twins pairs) found (next a) (next' a')) :
    Script.Twins unsigned A (s.codec.Twins pairs) found (proceedWithAnswer operation reply next)
      (proceedWithAnswer operation reply' next') := by
  cases replies with
  | ok related => exact goes_on _ _ related
  | error f =>
      cases f with
      | rejected e => exact .log _ (.done (.error _))
      | overflow => exact .done (.error _)

theorem twins_proceedIfLive (uid : Int64) {stored stored' : Option String} {token token' : String}
    {next next' : Script β} (values : Option.Rel found stored stored')
    (compared : ∀ v v', found v v' → (v = token ↔ v' = token'))
    (goes_on : found token token' →
      Script.Twins unsigned A (s.codec.Twins pairs) found next next') :
    Script.Twins unsigned A (s.codec.Twins pairs) found (proceedIfLive uid stored token next)
      (proceedIfLive uid stored' token' next') := by
  cases values with
  | none => exact .log _ (.done (.error _))
  | @some v v' related =>
      have same := compared v v' related
      by_cases current : v = token
      · obtain rfl := current
        obtain rfl := same.mp rfl
        rw [proceedIfLive_self, proceedIfLive_self]
        exact goes_on related
      · have other : v' ≠ token' := fun current' => current (same.mpr current')
        simp only [proceedIfLive, if_neg current, if_neg other]
        exact .log _ (.done (.error _))

end Scripts

section Operations

variable {s : Service} {pairs : List (Draw × Draw)} {draws draws' : Draws}
  {found : String → String → Prop}

theorem twins_generate (access : (draws.access, draws'.access) ∈ pairs)
    (refresh : (draws.refresh, draws'.refresh) ∈ pairs) (now : Instant) (uid : Int64) :
    Script.Twins unsigned (PairsCorrespond (s.codec.Twins pairs)) (s.codec.Twins pairs) found
      (s.generate now draws uid) (s.generate now draws' uid) := by
  rcases Int.lt_or_le now.seconds 0 with early | running
  · rw [s.generate_before_epoch early, s.generate_before_epoch early]
    exact .done (.error _)
  simp only [generate, s.codec.mintNow_of_running running]
  refine twins_proceedWithToken now uid uid _ access fun accessToken accessToken' accesses => ?_
  refine twins_proceedWithToken now uid uid _ refresh fun token token' tokens => ?_
  refine .set _ _ tokens fun answer => ?_
  refine twins_proceedWithAnswer _ (.refl (fun _ => rfl) answer) fun _ _ _ => ?_
  exact .log _ (.done (.ok ⟨accesses, tokens, rfl, rfl⟩))

theorem twins_refreshClaims {now : Instant} {token token' : String}
    (verified : (s.codec.verify now token).Twins Claims.Twins (s.codec.verify now token')) :
    (s.refreshClaims now token).Twins Claims.Twins (s.refreshClaims now token') := by
  rw [refreshClaims, refreshClaims]
  generalize s.codec.verify now token = outcome at verified ⊢
  generalize s.codec.verify now token' = outcome' at verified ⊢
  cases verified with
  | ok twins => exact .ok twins
  | error f => exact .refl .refl _

theorem twins_refresh (access : (draws.access, draws'.access) ∈ pairs)
    (refresh : (draws.refresh, draws'.refresh) ∈ pairs) {now : Instant} {token token' : String}
    (verified : (s.codec.verify now token).Twins Claims.Twins (s.codec.verify now token'))
    (compared : ∀ v v', found v v' → (v = token ↔ v' = token'))
    (weaker : ∀ v v', found v v' → s.codec.Twins pairs v v') :
    Script.Twins unsigned (RefreshesCorrespond (s.codec.Twins pairs)) (s.codec.Twins pairs) found
      (s.refresh now draws token) (s.refresh now draws' token') := by
  rcases Int.lt_or_le now.seconds 0 with early | running
  · rw [s.refresh_before_epoch early, s.refresh_before_epoch early]
    exact .done (.error _)
  rw [s.refresh_of_running running, s.refresh_of_running running]
  refine twins_proceed (twins_refreshClaims verified) fun claims claims' twins => ?_
  have same : { claims with jti := claims'.jti } = claims' := twins
  have uid : claims.uid = claims'.uid := by simpa using congrArg Claims.uid same
  have decision : rotationDue claims now = rotationDue claims' now := by
    rw [← same]
    rfl
  rw [← uid, ← decision]
  refine .get _ fun answer answer' answers => ?_
  refine twins_proceedWithAnswer _ answers fun stored stored' values => ?_
  refine twins_proceedIfLive _ values compared fun current => ?_
  refine twins_proceedWithToken now claims.uid claims.uid _ access
    fun accessToken accessToken' accesses => ?_
  refine twins_proceed (.refl (fun _ => rfl) _) ?_
  rintro ⟨remaining, due⟩ _ rfl
  cases due with
  | false => exact .done (.ok ⟨⟨accesses, weaker _ _ current, rfl, rfl⟩, rfl, rfl⟩)
  | true =>
      refine twins_proceedWithToken now claims.uid claims.uid _ refresh
        fun rotated rotated' tokens => ?_
      refine .set _ _ tokens fun answer => ?_
      refine twins_proceedWithAnswer _ (.refl (fun _ => rfl) answer) fun _ _ _ => ?_
      exact .log _ (.done (.ok ⟨⟨accesses, tokens, rfl, rfl⟩, rfl, rfl⟩))

theorem twins_clean (uid : Int64) :
    Script.Twins unsigned (fun _ _ => True) (s.codec.Twins pairs) found (s.clean uid)
      (s.clean uid) := by
  refine .delete _ fun answer => ?_
  refine twins_proceedWithAnswer _ (.refl (fun _ => rfl) answer) fun _ _ _ => ?_
  exact .log _ (.done (.ok trivial))

end Operations

/-! ### Steps with other draws -/

/-- States with the same clocks and twin stores. -/
structure State.Twins (R : String → String → Prop) (st st' : State) : Prop where
  clock : st.clock = st'.clock
  memory : Memory.Twins R st.memory st'.memory

/-- A twin script takes a state to twins. -/
theorem State.Twins.perform {α : Type} {A : α → α → Prop} {R found : String → String → Prop}
    {st st' : State} (states : st.Twins found st') {script script' : Script α}
    (twins : Script.Twins unsigned A R found script script')
    (weaker : ∀ v v', found v v' → R v v') (answer : α → Answer)
    (allowed : (st.perform script answer).outcome ≠ .error unsigned)
    (allowed' : (st'.perform script' answer).outcome ≠ .error unsigned) :
    (∃ outcome outcome' : Outcome α, outcome.Twins A outcome' ∧
        (st.perform script answer).outcome = outcome.map answer ∧
        (st'.perform script' answer).outcome = outcome'.map answer) ∧
      (st.perform script answer).logs = (st'.perform script' answer).logs ∧
      (st.perform script answer).state.Twins R (st'.perform script' answer).state := by
  obtain ⟨clock, memory⟩ := st
  obtain ⟨clock', memory'⟩ := st'
  obtain ⟨rfl, same⟩ := states
  have no_failure {memory : Memory} {script : Script α}
      (allowed : (State.perform ⟨clock, memory⟩ script answer).outcome ≠ .error unsigned) :
      (script.run (Memory.store clock.steady) memory).outcome ≠ .error unsigned := by
    intro failed
    apply allowed
    simp only [State.perform, failed]
    rfl
  obtain ⟨outcomes, logs, state⟩ :=
    twins.run weaker clock.steady same (no_failure allowed) (no_failure allowed')
  exact ⟨⟨_, _, outcomes, rfl, rfl⟩, logs, rfl, state⟩

/-- Steps from two states that come to corresponding events, log the same lines and leave twins. -/
structure StepsCorrespond (s : Service) (R : String → String → Prop) (st st' : State)
    (action action' : Action) : Prop where
  event : EventsCorrespond R (action, (s.step st action).outcome)
    (action', (s.step st' action').outcome)
  logs : (s.step st action).logs = (s.step st' action').logs
  state : (s.step st action).state.Twins R (s.step st' action').state

section Steps

variable {s : Service} {pairs : List (Draw × Draw)} {st st' : State} {draws draws' : Draws}
  {token token' : String}

theorem steps_generate (states : st.Twins (s.codec.Twins pairs) st')
    (access : (draws.access, draws'.access) ∈ pairs)
    (refresh : (draws.refresh, draws'.refresh) ∈ pairs) (uid : Int64)
    (allowed : (s.step st (.generate uid draws)).outcome ≠ .error unsigned)
    (allowed' : (s.step st' (.generate uid draws')).outcome ≠ .error unsigned) :
    StepsCorrespond s (s.codec.Twins pairs) st st' (.generate uid draws)
      (.generate uid draws') := by
  have wall : st.clock.wall = st'.clock.wall := congrArg Clock.wall states.clock
  rw [step] at allowed allowed'
  rw [← wall] at allowed'
  obtain ⟨⟨outcome, outcome', twins, here, there⟩, logs, state⟩ :=
    states.perform (twins_generate access refresh st.clock.wall uid) (fun _ _ => id) .generated
      allowed allowed'
  refine ⟨?_, ?_, ?_⟩
  · rw [step, step, ← wall, here, there]
    cases twins with
    | ok correspond => exact .generated uid draws draws' correspond
    | error f => exact .failed _ _ f
  · rw [step, step, ← wall]
    exact logs
  · rw [step, step, ← wall]
    exact state

/-- What a refresh finds is the presented token in both runs or in neither. -/
theorem steps_refresh (states : st.Twins (s.codec.Twins pairs) st')
    (access : (draws.access, draws'.access) ∈ pairs)
    (refresh : (draws.refresh, draws'.refresh) ∈ pairs)
    (verified : (s.codec.verify st.clock.wall token).Twins Claims.Twins
      (s.codec.verify st.clock.wall token'))
    (compared : ∀ key e e', st.memory.find? key = some e → st'.memory.find? key = some e' →
      s.codec.Twins pairs e.value e'.value → (e.value = token ↔ e'.value = token'))
    (allowed : (s.step st (.refresh token draws)).outcome ≠ .error unsigned)
    (allowed' : (s.step st' (.refresh token' draws')).outcome ≠ .error unsigned) :
    StepsCorrespond s (s.codec.Twins pairs) st st' (.refresh token draws)
      (.refresh token' draws') := by
  have wall : st.clock.wall = st'.clock.wall := congrArg Clock.wall states.clock
  rw [step] at allowed allowed'
  rw [← wall] at allowed'
  let found (value value' : String) : Prop :=
    s.codec.Twins pairs value value' ∧ (value = token ↔ value' = token')
  have seen : st.Twins found st' :=
    ⟨states.clock, states.memory.imp fun key e e' present present' twins =>
      ⟨twins, compared key e e' present present' twins⟩⟩
  obtain ⟨⟨outcome, outcome', twins, here, there⟩, logs, state⟩ :=
    seen.perform (twins_refresh access refresh verified (fun _ _ both => both.2)
      fun _ _ both => both.1) (fun _ _ both => both.1) .refreshed allowed allowed'
  refine ⟨?_, ?_, ?_⟩
  · rw [step, step, ← wall, here, there]
    cases twins with
    | ok correspond => exact .refreshed token token' draws draws' correspond
    | error f => exact .failed _ _ f
  · rw [step, step, ← wall]
    exact logs
  · rw [step, step, ← wall]
    exact state

theorem steps_parse (states : st.Twins (s.codec.Twins pairs) st')
    (verified : (s.codec.verify st.clock.wall token).Twins Claims.Twins
      (s.codec.verify st.clock.wall token')) :
    StepsCorrespond s (s.codec.Twins pairs) st st' (.parse token) (.parse token') := by
  have wall : st.clock.wall = st'.clock.wall := congrArg Clock.wall states.clock
  refine ⟨?_, rfl, states⟩
  simp only [step, claims, ← wall]
  generalize here : s.codec.verify st.clock.wall token = outcome at verified ⊢
  generalize there : s.codec.verify st.clock.wall token' = outcome' at verified ⊢
  cases verified with
  | error f => exact .failed _ _ f
  | ok twins =>
      refine .parsed twins fun same => ?_
      rw [same, there] at here
      exact (Except.ok.inj here).symm

theorem steps_clean (states : st.Twins (s.codec.Twins pairs) st') (uid : Int64)
    (allowed : (s.step st (.clean uid)).outcome ≠ .error unsigned)
    (allowed' : (s.step st' (.clean uid)).outcome ≠ .error unsigned) :
    StepsCorrespond s (s.codec.Twins pairs) st st' (.clean uid) (.clean uid) := by
  obtain ⟨⟨outcome, outcome', twins, here, there⟩, logs, state⟩ :=
    states.perform (twins_clean uid) (fun _ _ => id) (fun _ => .nothing) allowed allowed'
  refine ⟨?_, logs, state⟩
  rw [step, step, here, there]
  cases twins with
  | ok => exact .nothing _
  | error f => exact .failed _ _ f

end Steps

end Service

end TokenLifecycle
