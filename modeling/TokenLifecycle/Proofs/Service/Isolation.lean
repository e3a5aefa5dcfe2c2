import Mathlib.Tactic
import TokenLifecycle.Proofs.Service.Run
import TokenLifecycle.Proofs.Session.Frame
import TokenLifecycle.Proofs.Session.Key
import TokenLifecycle.Proofs.Token.Verification

/-!
# Sessions do not touch each other

A step touches the session of one principal in one namespace at most. So services that share a store
do not disturb each other: what is done for one principal in one namespace does not show to anyone
else. The main statement `sessions_isolated` compares a run with the one that leaves these steps
out.
-/

namespace TokenLifecycle.Service

open Session (Memory Script)

/-! ### The keys of a step -/

/-- The keys that a step can call the store about. -/
def keysOf (s : Service) : Action → Set String
  | .generate uid _ => {s.sessionKey uid}
  | .refresh token _ =>
    {key | ∃ claims, Codec.claims? token = some claims ∧ key = s.sessionKey claims.uid}
  | .clean uid => {s.sessionKey uid}
  | _ => ∅

theorem Fails.within {α : Type} {script : Script α} (fails : Fails script) (keys : Set String) :
    script.Within keys := by
  cases fails <;> trivial

theorem generate_within (s : Service) (now : Instant) (draws : Draws) (uid : Int64) :
    (s.generate now draws uid).Within {s.sessionKey uid} := by
  have fails (script : Script TokenPair) (failing : Fails script) :
      script.Within {s.sessionKey uid} := failing.within _
  refine proceedWithToken_cases fails fun access _ => ?_
  refine proceedWithToken_cases fails fun refresh _ => ?_
  exact ⟨rfl, fun answer => proceedWithAnswer_cases fails fun _ _ => trivial⟩

/-- A refresh calls the store about the principal that the token names, after the token has been
verified. -/
theorem refresh_within (s : Service) (now : Instant) (draws : Draws) (token : String) :
    (s.refresh now draws token).Within (s.keysOf (.refresh token draws)) := by
  have fails (script : Script Refreshed) (failing : Fails script) :
      script.Within (s.keysOf (.refresh token draws)) := failing.within _
  refine refresh_cases fails fun _ => ?_
  refine proceed_cases fails fun claims presented => ?_
  have named := Codec.claims?_of_verify (refreshClaims_eq_ok_iff.mp presented)
  have inside : s.sessionKey claims.uid ∈ s.keysOf (.refresh token draws) := ⟨claims, named, rfl⟩
  refine ⟨inside, fun answer => proceedWithAnswer_cases fails fun stored _ => ?_⟩
  refine proceedIfLive_cases fails fun _ => ?_
  refine proceedWithToken_cases fails fun access _ => ?_
  refine proceed_cases fails ?_
  rintro ⟨remaining, due⟩ _
  cases due with
  | false => trivial
  | true =>
      refine proceedWithToken_cases fails fun refresh _ => ?_
      exact ⟨inside, fun answer => proceedWithAnswer_cases fails fun _ _ => trivial⟩

theorem clean_within (s : Service) (uid : Int64) : (s.clean uid).Within {s.sessionKey uid} :=
  ⟨rfl, fun _ => proceedWithAnswer_cases (fun _ failing => failing.within _) fun _ _ => trivial⟩

/-! ### Steps seen from some keys -/

/-- Two states with the same clocks whose stores agree on some keys. -/
structure State.Agree (keys : Set String) (st st' : State) : Prop where
  clock : st.clock = st'.clock
  memory : Memory.Agree keys st.memory st'.memory

theorem State.Agree.refl (keys : Set String) (st : State) : st.Agree keys st :=
  ⟨rfl, .refl keys st.memory⟩

theorem State.Agree.trans {keys : Set String} {st st' st'' : State} (agree : st.Agree keys st')
    (agree' : st'.Agree keys st'') : st.Agree keys st'' :=
  ⟨agree.clock.trans agree'.clock, agree.memory.trans agree'.memory⟩

section Perform

variable {α : Type} {keys : Set String} {script : Script α}

/-- A script does not show from keys that it does not call. -/
theorem State.agree_perform (within : script.Within keys) (st : State) (answer : α → Answer) :
    (st.perform script answer).state.Agree keysᶜ st :=
  ⟨rfl, Memory.agree_run within st.clock.steady st.memory⟩

/-- A script gets the same answers from states that agree on the keys that it calls. -/
theorem State.Agree.perform {st st' : State} (agree : st.Agree keys st')
    (within : script.Within keys) (answer : α → Answer) :
    (st.perform script answer).outcome = (st'.perform script answer).outcome ∧
      (st.perform script answer).logs = (st'.perform script answer).logs ∧
      (st.perform script answer).state.Agree keys (st'.perform script answer).state := by
  obtain ⟨clock, memory⟩ := st
  obtain ⟨clock', memory'⟩ := st'
  obtain ⟨rfl, same⟩ := agree
  have replies := script.run_related (Memory.matches_agree clock.steady keys) within same
  exact ⟨congrArg (Except.map answer) replies.outcome, replies.logs, rfl, replies.state⟩

end Perform

/-- A step gives the same from states that agree on its keys, and leaves such. -/
theorem step_agree (s : Service) {keys : Set String} {st st' : State} (agree : st.Agree keys st')
    {action : Action} (inside : s.keysOf action ⊆ keys) :
    (s.step st action).outcome = (s.step st' action).outcome ∧
      (s.step st action).logs = (s.step st' action).logs ∧
      (s.step st action).state.Agree keys (s.step st' action).state := by
  have wall := congrArg Clock.wall agree.clock
  have steady := congrArg Clock.steady agree.clock
  cases action with
  | generate uid draws =>
      rw [step, step, ← wall]
      exact agree.perform ((generate_within s _ draws uid).mono inside) _
  | refresh token draws =>
      rw [step, step, ← wall]
      exact agree.perform ((refresh_within s _ draws token).mono inside) _
  | parse token =>
      rw [step, step, ← wall]
      exact ⟨rfl, rfl, agree⟩
  | clean uid => exact agree.perform ((clean_within s uid).mono inside) _
  | advance wallSpan steadySpan =>
      refine ⟨rfl, rfl, ?_, agree.memory⟩
      simp only [step, wall, steady]
  | failReads failing =>
      exact ⟨rfl, rfl, agree.clock, rfl, agree.memory.writesFail, agree.memory.find?⟩
  | failWrites failing =>
      exact ⟨rfl, rfl, agree.clock, agree.memory.readsFail, rfl, agree.memory.find?⟩

/-! ### Services that share a store -/

/-- The step is about the session of a principal, and of no other one. A refresh is when the token
names that principal, or none. -/
def Action.isFor (uid : Int64) : Action → Bool
  | .generate other _ => other = uid
  | .refresh token _ => (Codec.claims? token).all (·.uid = uid)
  | .clean other => other = uid
  | _ => false

/-- A step through one of several services over one store. -/
structure Request where
  service : Service
  action : Action

/-- The request is about the session of a principal in a namespace, and of no other one. -/
def Request.isFor (space : String) (uid : Int64) (request : Request) : Bool :=
  request.service.settings.keyPrefix = space && request.action.isFor uid

/-- The state after some requests. -/
def serve (st : State) (requests : List Request) : State :=
  requests.foldl (fun st request => (request.service.step st request.action).state) st

/-- What some requests come to, with the lines that they log. -/
def responses : State → List Request → List (Request × Outcome Answer × List LogLine)
  | _, [] => []
  | st, request :: rest =>
    let reply := request.service.step st request.action
    (request, reply.outcome, reply.logs) :: responses reply.state rest

theorem keysOf_subset_of_isFor {space : String} {uid : Int64} {request : Request}
    (own : request.isFor space uid = true) :
    request.service.keysOf request.action ⊆ {Session.key space uid} := by
  obtain ⟨s, action⟩ := request
  simp only [Request.isFor, Bool.and_eq_true, decide_eq_true_eq] at own
  obtain ⟨rfl, own⟩ := own
  intro key reached
  cases action with
  | generate other draws =>
      obtain rfl : other = uid := of_decide_eq_true own
      exact reached
  | refresh token draws =>
      obtain ⟨claims, named, rfl⟩ := reached
      have same : claims.uid = uid := by simpa [Action.isFor, named] using own
      rw [same]
      rfl
  | clean other =>
      obtain rfl : other = uid := of_decide_eq_true own
      exact reached
  | parse | advance | failReads | failWrites => cases own

/-- A request for a session does not show from other keys. -/
theorem agree_of_isFor {space : String} {uid : Int64} {request : Request}
    (own : request.isFor space uid = true) (st : State) :
    (request.service.step st request.action).state.Agree {Session.key space uid}ᶜ st := by
  have inside := keysOf_subset_of_isFor own
  obtain ⟨s, action⟩ := request
  cases action with
  | generate other draws =>
      exact State.agree_perform ((generate_within s _ draws other).mono inside) st _
  | refresh token draws =>
      exact State.agree_perform ((refresh_within s _ draws token).mono inside) st _
  | clean other => exact State.agree_perform ((clean_within s other).mono inside) st _
  | parse | advance | failReads | failWrites => simp [Request.isFor, Action.isFor] at own

theorem sessionKey_ne {s : Service} {space : String} {uid other : Int64}
    (different : (s.settings.keyPrefix, other) ≠ (space, uid)) :
    s.sessionKey other ≠ Session.key space uid := by
  intro same
  obtain ⟨spaces, principals⟩ := Session.key_injective same
  exact different (Prod.ext spaces principals)

/-- A refresh of another session calls the store about other keys. -/
theorem keysOf_refresh_subset {s : Service} {token : String} {space : String} {uid : Int64}
    (different : ∀ claims, Codec.claims? token = some claims →
      (s.settings.keyPrefix, claims.uid) ≠ (space, uid)) (draws : Draws) :
    s.keysOf (.refresh token draws) ⊆ {Session.key space uid}ᶜ := by
  rintro _ ⟨claims, named, rfl⟩
  exact sessionKey_ne (different claims named)

/-- A request that is not for a session calls the store about other keys. -/
theorem keysOf_subset_compl {space : String} {uid : Int64} {request : Request}
    (other : request.isFor space uid = false) :
    request.service.keysOf request.action ⊆ {Session.key space uid}ᶜ := by
  obtain ⟨s, action⟩ := request
  have apart {principal : Int64}
      (different : s.settings.keyPrefix = space → principal ≠ uid) :
      s.sessionKey principal ≠ Session.key space uid :=
    sessionKey_ne fun same => different (congrArg Prod.fst same) (congrArg Prod.snd same)
  simp only [Request.isFor, Bool.and_eq_false_imp, decide_eq_true_eq] at other
  cases action with
  | generate principal draws =>
      rintro _ rfl
      exact apart fun same => of_decide_eq_false (other same)
  | refresh token draws =>
      refine keysOf_refresh_subset (fun claims named same => ?_) draws
      have unlike := other (congrArg Prod.fst same)
      simp only [Action.isFor, named, Option.all_some, decide_eq_false_iff_not] at unlike
      exact unlike (congrArg Prod.snd same)
  | clean principal =>
      rintro _ rfl
      exact apart fun same => of_decide_eq_false (other same)
  | parse | advance | failReads | failWrites => exact Set.empty_subset _

/-- From keys other than that of a session, a run cannot be told from the one without the requests
for that session. -/
theorem agree_serve {space : String} {uid : Int64} {st st' : State}
    (agree : st.Agree {Session.key space uid}ᶜ st') (requests : List Request) :
    let others := requests.filter fun request => !request.isFor space uid
    (responses st requests).filter (fun response => !response.1.isFor space uid) =
        responses st' others ∧
      (serve st requests).Agree {Session.key space uid}ᶜ (serve st' others) := by
  induction requests generalizing st st' with
  | nil => exact ⟨rfl, agree⟩
  | cons request rest ih =>
      cases own : request.isFor space uid with
      | true =>
          have next := (agree_of_isFor own st).trans agree
          simpa [responses, serve, own] using ih next
      | false =>
          obtain ⟨outcome, logs, next⟩ :=
            step_agree request.service agree (keysOf_subset_compl own)
          simpa [responses, serve, own, outcome, logs] using ih next

/-- Requests for the session of a principal in a namespace do not show to any other pair of a
namespace and a principal. Leaving them out of a run changes neither the clocks nor what any other
request comes to and logs, nor the entry of the other pair with the rest of its life, nor what a
refresh of the other session comes to afterwards. -/
theorem sessions_isolated (st : State) (requests : List Request) (space : String) (uid : Int64) :
    let others := requests.filter fun request => !request.isFor space uid
    let after := serve st requests
    let without := serve st others
    after.clock = without.clock ∧
      (responses st requests).filter (fun response => !response.1.isFor space uid) =
        responses st others ∧
      (∀ space' uid', (space', uid') ≠ (space, uid) →
        after.memory.find? (Session.key space' uid') =
            without.memory.find? (Session.key space' uid') ∧
          after.memory.ttl? after.clock.steady (Session.key space' uid') =
            without.memory.ttl? without.clock.steady (Session.key space' uid')) ∧
      ∀ (s : Service) (token : String) (draws : Draws),
        (∀ claims, Codec.claims? token = some claims →
          (s.settings.keyPrefix, claims.uid) ≠ (space, uid)) →
        (s.step after (.refresh token draws)).outcome =
            (s.step without (.refresh token draws)).outcome ∧
          (s.step after (.refresh token draws)).logs =
            (s.step without (.refresh token draws)).logs := by
  intro others after without
  obtain ⟨same_responses, agree⟩ := agree_serve (.refl {Session.key space uid}ᶜ st) requests
  refine ⟨agree.clock, same_responses, ?_, ?_⟩
  · intro space' uid' different
    have apart : Session.key space' uid' ∈ ({Session.key space uid}ᶜ : Set String) := by
      intro same
      obtain ⟨spaces, principals⟩ := Session.key_injective same
      exact different (Prod.ext spaces principals)
    have same_entry := agree.memory.find? _ apart
    refine ⟨same_entry, ?_⟩
    rw [Memory.ttl?, Memory.ttl?, Memory.live?, Memory.live?, same_entry, agree.clock]
  · intro s token draws different
    obtain ⟨outcome, logs, _⟩ := step_agree s agree (keysOf_refresh_subset different draws)
    exact ⟨outcome, logs⟩

/-- Two services share a store, and a colon and a digit make the namespace of one look like a
session of the other. What the first one does for principal 1 leaves the session that the second one
keeps for principal 1, and what its token is worth. -/
theorem sessions_isolated_of_colon :
    let first : Service := ⟨⟨.digest, none, 0⟩, { Settings.default with keyPrefix := "a" }⟩
    let second : Service := ⟨⟨.digest, none, 0⟩, { Settings.default with keyPrefix := "a:1" }⟩
    let draws : Draws := ⟨⟨"x", []⟩, ⟨"y", []⟩⟩
    let start : State := ⟨⟨.ofSeconds 0, .ofSeconds 0⟩, .empty⟩
    let issue : Request := ⟨second, .generate 1 draws⟩
    let other : List Request := [⟨first, .generate 1 draws⟩, ⟨first, .clean 1⟩]
    let after := serve start (issue :: other)
    let without := serve start [issue]
    (("a:1", 1) : String × Int64) ≠ ("a", 1) ∧
      after.memory.find? (Session.key "a:1" 1) = without.memory.find? (Session.key "a:1" 1) ∧
      ∃ token, second.codec.mint start.clock.wall 1 second.settings.refreshLifetime draws.refresh =
          .ok token ∧
        (second.step after (.refresh token draws)).outcome =
          (second.step without (.refresh token draws)).outcome := by
  intro first second draws start issue other after without
  have different : (("a:1", 1) : String × Int64) ≠ ("a", 1) := by decide
  obtain ⟨_, _, kept, redeemed⟩ := sessions_isolated start (issue :: other) "a" 1
  have minted : second.codec.mint start.clock.wall 1 second.settings.refreshLifetime
      draws.refresh = .ok _ :=
    Codec.mint_eq_ok_iff.mpr ⟨by decide, by decide, _, rfl, rfl⟩
  refine ⟨different, (kept "a:1" 1 different).1, _, minted, ?_⟩
  refine (redeemed second _ draws fun claims named => ?_).1
  obtain rfl := Option.some.inj ((Codec.claims?_of_mint minted).symm.trans named)
  exact different

end TokenLifecycle.Service
