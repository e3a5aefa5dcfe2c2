import Mathlib.Tactic
import TokenLifecycle.Proofs.Service.Run
import TokenLifecycle.Proofs.Session.Key
import TokenLifecycle.Proofs.Token.Minting

/-!
# What has been handed out

The refresh token that was handed out last to each principal is read off the history of a run,
without a look at the store. Whatever the clocks do and whenever the store fails, an entry in the
store holds that token and no other.
-/

namespace TokenLifecycle.Service

open Session (Memory)

/-- How an event changes the refresh token of each principal. A new one takes the place of an
earlier one, and a session that is dropped leaves none. -/
def record (latest : Int64 → Option String) : Event → Int64 → Option String
  | (.generate uid _, .ok (.generated pair)) =>
    Function.update latest uid (some pair.refreshToken)
  | (.refresh _ _, .ok (.refreshed r)) =>
    if r.rotated then Function.update latest r.uid (some r.tokens.refreshToken) else latest
  | (.clean uid, .ok _) => Function.update latest uid none
  | _ => latest

/-- The refresh token that each principal has been handed out last and that has not been dropped. -/
def latest (events : List Event) : Int64 → Option String :=
  events.foldl record fun _ => none

/-- The access tokens that an event hands out. -/
def accessTokens : Event → List String
  | (.generate _ _, .ok (.generated pair)) => [pair.accessToken]
  | (.refresh _ _, .ok (.refreshed r)) => [r.tokens.accessToken]
  | _ => []

/-- The refresh tokens that an event hands out for the first time. -/
def refreshTokens : Event → List String
  | (.generate _ _, .ok (.generated pair)) => [pair.refreshToken]
  | (.refresh _ _, .ok (.refreshed r)) => if r.rotated then [r.tokens.refreshToken] else []
  | _ => []

/-- The tokens that an event hands out for the first time. -/
def handedOut (event : Event) : List String :=
  accessTokens event ++ refreshTokens event

/-- The identifiers that a step draws for access tokens. -/
def Action.accessIdentifiers : Action → List String
  | .generate _ draws => [draws.access.jti]
  | .refresh _ draws => [draws.access.jti]
  | _ => []

/-- The identifiers that a step draws for refresh tokens. -/
def Action.refreshIdentifiers : Action → List String
  | .generate _ draws => [draws.refresh.jti]
  | .refresh _ draws => [draws.refresh.jti]
  | _ => []

/-- The identifiers that a step draws. -/
def Action.identifiers (action : Action) : List String :=
  action.accessIdentifiers ++ action.refreshIdentifiers

/-! ### The store and the history -/

/-- Entries of principals hold the tokens that were handed out last. -/
def Recorded (s : Service) (latest : Int64 → Option String) (m : Memory) : Prop :=
  ∀ uid e, m.find? (s.sessionKey uid) = some e → latest uid = some e.value

theorem sessionKey_injective {s : Service} {uid uid' : Int64}
    (same : s.sessionKey uid = s.sessionKey uid') : uid = uid' :=
  (Session.key_injective same).2

theorem sessionKey_inj {s : Service} {uid uid' : Int64} :
    s.sessionKey uid = s.sessionKey uid' ↔ uid = uid' :=
  ⟨sessionKey_injective, congrArg s.sessionKey⟩

namespace Recorded

variable {s : Service} {live : Int64 → Option String} {m : Memory}

theorem erase (recorded : Recorded s live m) (key : String) : Recorded s live (m.erase key) := by
  intro uid e present
  rw [Memory.find?_erase] at present
  split_ifs at present
  exact recorded uid e present

theorem insert (recorded : Recorded s live m) (uid : Int64) (e : Session.Entry) :
    Recorded s (Function.update live uid (some e.value)) (m.insert (s.sessionKey uid) e) := by
  intro other e' present
  simp only [Memory.find?_insert, sessionKey_inj] at present
  rw [Function.update_apply]
  split_ifs at present ⊢ with same
  · rw [Option.some.inj present]
  · exact recorded other e' present

theorem forget (recorded : Recorded s live m) (uid : Int64) :
    Recorded s (Function.update live uid none) (m.erase (s.sessionKey uid)) := by
  intro other e present
  simp only [Memory.find?_erase, sessionKey_inj] at present
  rw [Function.update_apply]
  split_ifs at present ⊢ with same
  exact recorded other e present

/-- A step keeps the store in line with the history. -/
theorem step {st : State} (recorded : Recorded s live st.memory) (action : Action) :
    Recorded s (record live (action, (s.step st action).outcome))
      (s.step st action).state.memory := by
  have ends := step_ends s st action
  generalize (s.step st action).outcome = outcome at ends ⊢
  generalize (s.step st action).state = next at ends ⊢
  cases ends with
  | failed => cases action <;> exact recorded
  | dropped => exact recorded.erase _
  | generated => exact recorded.insert _ _
  | kept => exact recorded
  | rotated => exact recorded.insert _ _
  | parsed => exact recorded
  | cleaned => exact recorded.forget _
  | advanced => exact recorded
  | failedReads => exact recorded
  | failedWrites => exact recorded

/-- A run keeps the store in line with the history. -/
theorem run {st : State} (recorded : Recorded s live st.memory) (actions : List Action) :
    Recorded s ((s.history st actions).foldl record live) (s.run st actions).memory := by
  induction actions generalizing st live with
  | nil => exact recorded
  | cons action rest ih => exact ih (recorded.step action)

end Recorded

/-- A state with an empty store. -/
def State.fresh (clock : Clock) : State :=
  ⟨clock, .empty⟩

theorem recorded_fresh (s : Service) (start : Clock) :
    Recorded s (fun _ => none) (State.fresh start).memory := by
  intro uid e present
  cases present

/-- After every run the store is in line with the history. -/
theorem recorded_run (s : Service) (start : Clock) (actions : List Action) :
    Recorded s (latest (s.history (.fresh start) actions)) (s.run (.fresh start) actions).memory :=
  (recorded_fresh s start).run actions

/-- What a refresh succeeds with is the token that was handed out last to the principal it is of. -/
theorem latest_of_refreshed {s : Service} {live : Int64 → Option String} {st : State}
    (recorded : Recorded s live st.memory) {token : String} {draws : Draws} {answer : Answer}
    (accepted : (s.step st (.refresh token draws)).outcome = .ok answer) :
    ∃ claims r, s.codec.verify st.clock.wall token = .ok claims ∧ answer = .refreshed r ∧
      r.uid = claims.uid ∧ live claims.uid = some token := by
  have ends := step_ends s st (.refresh token draws)
  rw [accepted] at ends
  generalize (s.step st (.refresh token draws)).state = next at ends
  cases ends with
  | kept verified _ alive =>
      have present := (Memory.live?_eq_some_iff.mp alive).1
      exact ⟨_, _, verified, rfl, rfl, recorded _ _ present⟩
  | rotated verified _ alive =>
      have present := (Memory.live?_eq_some_iff.mp alive).1
      exact ⟨_, _, verified, rfl, rfl, recorded _ _ present⟩

/-! ### Tokens and their identifiers -/

/-- The token was minted by the service with the given identifier. -/
def Minted (s : Service) (token jti : String) : Prop :=
  ∃ start uid lifetime draw, s.codec.mint start uid lifetime draw = .ok token ∧ draw.jti = jti

/-- A token has one identifier. -/
theorem Minted.unique {s : Service} {token jti jti' : String} (minted : s.Minted token jti)
    (minted' : s.Minted token jti') : jti = jti' := by
  obtain ⟨_, _, _, _, minted, rfl⟩ := minted
  obtain ⟨_, _, _, _, minted', rfl⟩ := minted'
  have carried := Codec.claims?_of_mint minted
  rw [Codec.claims?_of_mint minted'] at carried
  exact (congrArg Claims.jti (Option.some.inj carried)).symm

theorem minted_of_accessTokens {s : Service} {st : State} {action : Action} {token : String}
    (given : token ∈ accessTokens (action, (s.step st action).outcome)) :
    ∃ jti ∈ action.accessIdentifiers, s.Minted token jti := by
  have ends := step_ends s st action
  generalize (s.step st action).outcome = outcome at ends given
  generalize (s.step st action).state = next at ends
  cases ends with
  | failed => cases action <;> simp [accessTokens] at given
  | generated minted =>
      obtain rfl := List.mem_singleton.mp given
      exact ⟨_, List.mem_cons_self, _, _, _, _, minted, rfl⟩
  | kept _ _ _ minted =>
      obtain rfl := List.mem_singleton.mp given
      exact ⟨_, List.mem_cons_self, _, _, _, _, minted, rfl⟩
  | rotated _ _ _ minted =>
      obtain rfl := List.mem_singleton.mp given
      exact ⟨_, List.mem_cons_self, _, _, _, _, minted, rfl⟩
  | _ => simp [accessTokens] at given

theorem minted_of_refreshTokens {s : Service} {st : State} {action : Action} {token : String}
    (given : token ∈ refreshTokens (action, (s.step st action).outcome)) :
    ∃ jti ∈ action.refreshIdentifiers, s.Minted token jti := by
  have ends := step_ends s st action
  generalize (s.step st action).outcome = outcome at ends given
  generalize (s.step st action).state = next at ends
  cases ends with
  | failed => cases action <;> simp [refreshTokens] at given
  | generated _ minted =>
      obtain rfl := List.mem_singleton.mp given
      exact ⟨_, List.mem_cons_self, _, _, _, _, minted, rfl⟩
  | rotated _ _ _ _ _ minted =>
      obtain rfl := List.mem_singleton.mp given
      exact ⟨_, List.mem_cons_self, _, _, _, _, minted, rfl⟩
  | _ => simp [refreshTokens] at given

/-- What holds of the tokens of each step holds of the tokens of a run. -/
theorem minted_of_history {s : Service} {tokens : Event → List String}
    {identifiers : Action → List String}
    (drawn : ∀ {st action token}, token ∈ tokens (action, (s.step st action).outcome) →
      ∃ jti ∈ identifiers action, s.Minted token jti)
    {st : State} {actions : List Action} {token : String}
    (given : token ∈ (s.history st actions).flatMap tokens) :
    ∃ jti ∈ actions.flatMap identifiers, s.Minted token jti := by
  induction actions generalizing st with
  | nil => cases given
  | cons action rest ih =>
      rw [history, List.flatMap_cons, List.mem_append] at given
      rw [List.flatMap_cons]
      rcases given with now | later
      · obtain ⟨jti, member, minted⟩ := drawn now
        exact ⟨jti, List.mem_append_left _ member, minted⟩
      · obtain ⟨jti, member, minted⟩ := ih later
        exact ⟨jti, List.mem_append_right _ member, minted⟩

theorem minted_of_handedOut {s : Service} {st : State} {action : Action} {token : String}
    (given : token ∈ handedOut (action, (s.step st action).outcome)) :
    ∃ jti ∈ action.identifiers, s.Minted token jti := by
  rcases List.mem_append.mp given with access | refresh
  · obtain ⟨jti, member, minted⟩ := minted_of_accessTokens access
    exact ⟨jti, List.mem_append_left _ member, minted⟩
  · obtain ⟨jti, member, minted⟩ := minted_of_refreshTokens refresh
    exact ⟨jti, List.mem_append_right _ member, minted⟩

theorem refreshTokens_of_record {live : Int64 → Option String} {event : Event} {uid : Int64}
    {token : String} (current : record live event uid = some token) :
    live uid = some token ∨ token ∈ refreshTokens event := by
  unfold record at current
  split at current
  · rename_i other _ pair
    rw [Function.update_apply] at current
    split_ifs at current
    · exact .inr (List.mem_singleton.mpr (Option.some.inj current).symm)
    · exact .inl current
  · rename_i r
    split_ifs at current with rotated
    · rw [Function.update_apply] at current
      split_ifs at current
      · refine .inr ?_
        rw [refreshTokens, if_pos rotated]
        exact List.mem_singleton.mpr (Option.some.inj current).symm
      · exact .inl current
    · exact .inl current
  · rw [Function.update_apply] at current
    split_ifs at current
    exact .inl current
  · exact .inl current

/-- The token that was handed out last was so before some events or in one of them. -/
theorem refreshTokens_of_foldl_record {live : Int64 → Option String} {events : List Event}
    {uid : Int64} {token : String} (current : events.foldl record live uid = some token) :
    live uid = some token ∨ token ∈ events.flatMap refreshTokens := by
  induction events generalizing live with
  | nil => exact .inl current
  | cons event events ih =>
      rw [List.flatMap_cons, List.mem_append]
      rcases ih current with now | later
      · rcases refreshTokens_of_record now with before | here
        · exact .inl before
        · exact .inr (.inl here)
      · exact .inr (.inr later)

theorem refreshTokens_of_latest {events : List Event} {uid : Int64} {token : String}
    (current : latest events uid = some token) : token ∈ events.flatMap refreshTokens := by
  rcases refreshTokens_of_foldl_record current with before | given
  · cases before
  · exact given

theorem mem_identifiers_of_access {actions : List Action} {jti : String}
    (drawn : jti ∈ actions.flatMap Action.accessIdentifiers) :
    jti ∈ actions.flatMap Action.identifiers := by
  obtain ⟨action, taken, drawn⟩ := List.mem_flatMap.mp drawn
  exact List.mem_flatMap.mpr ⟨action, taken, List.mem_append_left _ drawn⟩

theorem mem_identifiers_of_refresh {actions : List Action} {jti : String}
    (drawn : jti ∈ actions.flatMap Action.refreshIdentifiers) :
    jti ∈ actions.flatMap Action.identifiers := by
  obtain ⟨action, taken, drawn⟩ := List.mem_flatMap.mp drawn
  exact List.mem_flatMap.mpr ⟨action, taken, List.mem_append_right _ drawn⟩

/-- Identifiers that are pairwise distinct tell access tokens from refresh tokens. -/
theorem disjoint_identifiers {actions : List Action}
    (distinct : (actions.flatMap Action.identifiers).Nodup) :
    List.Disjoint (actions.flatMap Action.accessIdentifiers)
      (actions.flatMap Action.refreshIdentifiers) := by
  induction actions with
  | nil => exact List.disjoint_nil_left _
  | cons action rest ih =>
      rw [List.flatMap_cons, List.nodup_append'] at distinct
      obtain ⟨here, later, apart⟩ := distinct
      intro jti access refresh
      rw [List.flatMap_cons, List.mem_append] at access refresh
      rcases access with access | access
      · rcases refresh with refresh | refresh
        · exact List.disjoint_of_nodup_append here access refresh
        · exact apart (List.mem_append_left _ access) (mem_identifiers_of_refresh refresh)
      · rcases refresh with refresh | refresh
        · exact apart (List.mem_append_right _ refresh) (mem_identifiers_of_access access)
        · exact ih later access refresh

/-- A token that was handed out and is not the last one of any principal never becomes so. -/
theorem latest_ne_of_superseded {s : Service} {st : State} {before after : List Action}
    (distinct : ((before ++ after).flatMap Action.identifiers).Nodup) {token : String}
    (given : token ∈ (s.history st before).flatMap handedOut)
    (superseded : ∀ uid, latest (s.history st before) uid ≠ some token) (uid : Int64) :
    latest (s.history st (before ++ after)) uid ≠ some token := by
  intro current
  rw [history_append, latest, List.foldl_append] at current
  rcases refreshTokens_of_foldl_record current with earlier | later
  · exact superseded uid earlier
  · obtain ⟨jti, drawn, minted⟩ := minted_of_history minted_of_handedOut given
    obtain ⟨jti', drawn', minted'⟩ := minted_of_history minted_of_refreshTokens later
    obtain rfl := minted.unique minted'
    rw [List.flatMap_append] at distinct
    exact List.disjoint_of_nodup_append distinct drawn (mem_identifiers_of_refresh drawn')

/-- An access token is not the last refresh token of any principal. -/
theorem latest_ne_of_access {s : Service} {st : State} {actions : List Action}
    (distinct : (actions.flatMap Action.identifiers).Nodup) {token : String}
    (given : token ∈ (s.history st actions).flatMap accessTokens) (uid : Int64) :
    latest (s.history st actions) uid ≠ some token := by
  intro current
  obtain ⟨jti, drawn, minted⟩ := minted_of_history minted_of_accessTokens given
  obtain ⟨jti', drawn', minted'⟩ :=
    minted_of_history minted_of_refreshTokens (refreshTokens_of_latest current)
  obtain rfl := minted.unique minted'
  exact disjoint_identifiers distinct drawn drawn'

end TokenLifecycle.Service
