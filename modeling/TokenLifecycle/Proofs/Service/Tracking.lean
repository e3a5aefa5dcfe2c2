import Mathlib.Tactic
import TokenLifecycle.Proofs.Service.History
import TokenLifecycle.Proofs.Service.Opening
import TokenLifecycle.Proofs.Token.Verification

/-!
# Sessions under joint clocks

While the two clocks move together, the store keeps the entry of a session from its opening until
the session is over, whatever else is done, unless another session of the same principal is opened
or the session is dropped on request. `kept_of_latest` says so of the tokens that were handed out
last, after every run.
-/

namespace TokenLifecycle.Service

open Session (Memory)

/-! ### Clocks in a run -/

/-- The clocks move together, and not back. -/
def Action.MovesJointly : Action → Prop
  | .advance wall steady => wall = steady ∧ 0 ≤ steady.nanoseconds
  | _ => True

/-- By how much a step moves the clocks, if both move together. -/
def Action.elapsed : Action → Span
  | .advance _ steady => steady
  | _ => ⟨0⟩

/-- By how much some steps move the clocks. -/
def elapsed (actions : List Action) : Span :=
  ⟨(actions.map (·.elapsed.nanoseconds)).sum⟩

theorem Action.MovesJointly.elapsed_nonneg {action : Action} (joint : action.MovesJointly) :
    0 ≤ action.elapsed.nanoseconds := by
  cases action with
  | advance => exact joint.2
  | _ => exact Int.le_refl 0

theorem elapsed_nonneg {actions : List Action} (joint : ∀ action ∈ actions, action.MovesJointly) :
    0 ≤ (elapsed actions).nanoseconds := by
  refine List.sum_nonneg fun span taken => ?_
  obtain ⟨action, member, rfl⟩ := List.mem_map.mp taken
  exact (joint action member).elapsed_nonneg

theorem clock_step_eq (s : Service) (st : State) {action : Action} (joint : action.MovesJointly) :
    (s.step st action).state.clock = st.clock.advance action.elapsed := by
  cases action with
  | advance =>
      obtain ⟨rfl, _⟩ := joint
      rfl
  | _ => simp [step, State.perform, Action.elapsed, Clock.advance, Instant.add]

theorem clock_run_eq (s : Service) (st : State) {actions : List Action}
    (joint : ∀ action ∈ actions, action.MovesJointly) :
    (s.run st actions).clock = st.clock.advance (elapsed actions) := by
  induction actions generalizing st with
  | nil => simp [run, elapsed, Clock.advance, Instant.add]
  | cons action rest ih =>
      have later := ih (s.step st action).state fun next taken =>
        joint next (List.mem_cons_of_mem action taken)
      rw [clock_step_eq s st (joint action List.mem_cons_self)] at later
      rw [run, List.foldl_cons, ← run, later]
      simp [elapsed, Clock.advance, Instant.add, Int.add_assoc]

theorem clock_step (s : Service) (st : State) {action : Action} (joint : action.MovesJointly) :
    st.clock.RunsTo (s.step st action).state.clock :=
  ⟨action.elapsed, joint.elapsed_nonneg, clock_step_eq s st joint⟩

theorem clock_run (s : Service) (st : State) {actions : List Action}
    (joint : ∀ action ∈ actions, action.MovesJointly) :
    st.clock.RunsTo (s.run st actions).clock :=
  ⟨elapsed actions, elapsed_nonneg joint, clock_run_eq s st joint⟩

/-! ### What becomes of an entry -/

/-- The event opens a session of a principal: a pair is issued, or a refresh token is replaced. -/
def Opens (uid : Int64) : Event → Prop
  | (.generate other _, .ok (.generated _)) => other = uid
  | (.refresh _ _, .ok (.refreshed r)) => r.rotated = true ∧ r.uid = uid
  | _ => False

/-- The event drops the session of a principal on request. -/
def Drops (uid : Int64) : Event → Prop
  | (.clean other, .ok _) => other = uid
  | _ => False

/-- A step that opens a session of a principal leaves an entry of that principal. Any other step
leaves the entry of that principal as it is, or drops it: on request, or because it is dead. -/
theorem find?_step_cases (s : Service) (st : State) (action : Action) (uid : Int64) :
    (Opens uid (action, (s.step st action).outcome) ∧
        (s.step st action).state.memory.find? (s.sessionKey uid) ≠ none) ∨
      (s.step st action).state.memory.find? (s.sessionKey uid) =
        st.memory.find? (s.sessionKey uid) ∨
      ((s.step st action).state.memory.find? (s.sessionKey uid) = none ∧
        (Drops uid (action, (s.step st action).outcome) ∨
          ∃ e, st.memory.find? (s.sessionKey uid) = some e ∧ e.deadline ≤ st.clock.steady)) := by
  have ends := step_ends s st action
  generalize (s.step st action).outcome = outcome at ends ⊢
  generalize (s.step st action).state = next at ends ⊢
  cases ends with
  | failed => exact .inr (.inl rfl)
  | @dropped _ _ claims e _ _ _ present dead =>
      by_cases same : uid = claims.uid
      · subst same
        exact .inr (.inr ⟨by simp, .inr ⟨e, present, dead⟩⟩)
      · exact .inr (.inl (by simp [sessionKey_inj, same]))
  | @generated other =>
      by_cases same : other = uid
      · subst same
        exact .inl ⟨rfl, by simp⟩
      · exact .inr (.inl (by simp [sessionKey_inj, Ne.symm same]))
  | kept => exact .inr (.inl rfl)
  | @rotated _ _ _ _ claims =>
      by_cases same : uid = claims.uid
      · subst same
        exact .inl ⟨⟨rfl, rfl⟩, by simp⟩
      · exact .inr (.inl (by simp [sessionKey_inj, same]))
  | parsed => exact .inr (.inl rfl)
  | @cleaned other =>
      by_cases same : other = uid
      · subst same
        exact .inr (.inr ⟨by simp, .inl rfl⟩)
      · exact .inr (.inl (by simp [sessionKey_inj, Ne.symm same]))
  | advanced => exact .inr (.inl rfl)
  | failedReads => exact .inr (.inl rfl)
  | failedWrites => exact .inr (.inl rfl)

/-- While no session of a principal is opened, the entry of that principal stays as it is until it
is dropped. -/
theorem find?_run_of_not_opens {s : Service} {st : State} {actions : List Action} {uid : Int64}
    (quiet : ∀ event ∈ s.history st actions, ¬Opens uid event) :
    (s.run st actions).memory.find? (s.sessionKey uid) = none ∨
      (s.run st actions).memory.find? (s.sessionKey uid) =
        st.memory.find? (s.sessionKey uid) := by
  induction actions generalizing st with
  | nil => exact .inr rfl
  | cons action rest ih =>
      have here := quiet _ List.mem_cons_self
      have later := ih fun event member => quiet event (List.mem_cons_of_mem _ member)
      rcases find?_step_cases s st action uid with ⟨opens, _⟩ | same | ⟨dropped, _⟩
      · exact absurd opens here
      · exact later.imp_right fun kept => kept.trans same
      · exact .inl (later.elim id fun kept => kept.trans dropped)

/-- The step is not about the session of a principal. -/
def Action.Spares (uid : Int64) : Action → Prop
  | .generate other _ => other ≠ uid
  | .refresh token _ => ∀ claims, Codec.claims? token = some claims → claims.uid ≠ uid
  | .clean other => other ≠ uid
  | _ => True

theorem quiet_of_spares {s : Service} {st : State} {action : Action} {uid : Int64}
    (spares : action.Spares uid) :
    ¬Opens uid (action, (s.step st action).outcome) ∧
      ¬Drops uid (action, (s.step st action).outcome) := by
  have ends := step_ends s st action
  generalize (s.step st action).outcome = outcome at ends ⊢
  generalize (s.step st action).state = next at ends
  cases ends with
  | failed => cases action <;> exact ⟨id, id⟩
  | generated => exact ⟨spares, id⟩
  | cleaned => exact ⟨id, spares⟩
  | rotated verified =>
      have apart := spares _ (Codec.claims?_of_verify verified)
      exact ⟨fun opens => apart opens.2, id⟩
  | kept => exact ⟨fun opens => Bool.false_ne_true opens.1, id⟩
  | _ => exact ⟨id, id⟩

theorem quiet_of_all_spare {s : Service} {st : State} {actions : List Action} {uid : Int64}
    (spare : ∀ action ∈ actions, action.Spares uid) :
    ∀ event ∈ s.history st actions, ¬Opens uid event ∧ ¬Drops uid event := by
  induction actions generalizing st with
  | nil => exact fun event member => by cases member
  | cons action rest ih =>
      intro event member
      rcases List.mem_cons.mp member with rfl | later
      · exact quiet_of_spares (spare action List.mem_cons_self)
      · exact ih (fun next taken => spare next (List.mem_cons_of_mem action taken)) event later

/-! ### Sessions that are kept -/

/-- The store keeps the entry of a session for as long as it is live. -/
structure Kept (s : Service) (opened : Clock) (uid : Int64) (e : Session.Entry) (st : State) :
    Prop where
  session : s.OpenedAt opened st.clock uid e
  found : st.memory.find? (s.sessionKey uid) = some e ∨
    st.memory.find? (s.sessionKey uid) = none ∧ e.deadline ≤ st.clock.steady

namespace Kept

variable {s : Service} {opened : Clock} {uid : Int64} {e : Session.Entry} {st : State}

/-- A session is kept from its opening on. -/
theorem insert {token : String} {draw : Draw} {deadline : Instant}
    (minted : s.codec.mint st.clock.wall uid s.settings.refreshLifetime draw = .ok token)
    (found : Memory.deadline? st.clock.steady s.settings.refreshLifetime = some deadline) :
    Kept s st.clock uid ⟨token, deadline⟩
      { st with memory := st.memory.insert (s.sessionKey uid) ⟨token, deadline⟩ } :=
  ⟨⟨.refl st.clock, ⟨draw, minted⟩, found⟩, .inl (by simp)⟩

/-- What is live of the principal is the entry, until the session is over. -/
theorem live?_eq (kept : Kept s opened uid e st) :
    st.memory.live? st.clock.steady (s.sessionKey uid) =
      if st.clock.wall < opened.wall.add s.settings.refreshLifetime then some e else none := by
  rw [Memory.live?]
  rcases kept.found with present | ⟨gone, dead⟩
  · simp only [present, Option.filter_some, decide_eq_true_eq, kept.session.lt_deadline_iff]
  · rw [gone, if_neg, Option.filter_none]
    rw [← kept.session.lt_deadline_iff]
    exact Instant.not_lt.mpr dead

theorem step (kept : Kept s opened uid e st) {action : Action} (joint : action.MovesJointly)
    (not_opens : ¬Opens uid (action, (s.step st action).outcome))
    (not_drops : ¬Drops uid (action, (s.step st action).outcome)) :
    Kept s opened uid e (s.step st action).state := by
  have runs := clock_step s st joint
  refine ⟨kept.session.run runs, ?_⟩
  have later (dead : e.deadline ≤ st.clock.steady) :
      e.deadline ≤ (s.step st action).state.clock.steady := Int.le_trans dead runs.steady_le
  rcases find?_step_cases s st action uid with
    ⟨opens, _⟩ | same | ⟨gone, drops | ⟨e', present, dead⟩⟩
  · exact absurd opens not_opens
  · rw [same]
    exact kept.found.imp_right fun ⟨gone, dead⟩ => ⟨gone, later dead⟩
  · exact absurd drops not_drops
  · rcases kept.found with found | ⟨_, dead'⟩
    · obtain rfl := Option.some.inj (found.symm.trans present)
      exact .inr ⟨gone, later dead⟩
    · exact .inr ⟨gone, later dead'⟩

theorem run (kept : Kept s opened uid e st) {actions : List Action}
    (joint : ∀ action ∈ actions, action.MovesJointly)
    (quiet : ∀ event ∈ s.history st actions, ¬Opens uid event ∧ ¬Drops uid event) :
    Kept s opened uid e (s.run st actions) := by
  induction actions generalizing st with
  | nil => exact kept
  | cons action rest ih =>
      obtain ⟨not_opens, not_drops⟩ := quiet _ List.mem_cons_self
      have first := kept.step (joint action List.mem_cons_self) not_opens not_drops
      exact ih first (fun later member => joint later (List.mem_cons_of_mem action member))
        fun event member => quiet event (List.mem_cons_of_mem _ member)

end Kept

/-! ### The tokens that were handed out last -/

theorem record_eq_of_quiet {live : Int64 → Option String} {event : Event} {uid : Int64}
    (not_opens : ¬Opens uid event) (not_drops : ¬Drops uid event) :
    record live event uid = live uid := by
  unfold record
  split
  · rw [Function.update_of_ne (Ne.symm not_opens)]
  · split_ifs with rotated
    · rw [Function.update_of_ne fun same => not_opens ⟨rotated, same.symm⟩]
    · rfl
  · rw [Function.update_of_ne (Ne.symm not_drops)]
  · rfl

theorem record_eq_of_drops {live : Int64 → Option String} {event : Event} {uid : Int64}
    (drops : Drops uid event) : record live event uid = none := by
  unfold Drops at drops
  split at drops
  · subst drops
    exact Function.update_self _ _ _
  · cases drops

theorem mem_refreshTokens_of_opens {live : Int64 → Option String} {event : Event} {uid : Int64}
    {token : String} (opens : Opens uid event) (current : record live event uid = some token) :
    token ∈ refreshTokens event := by
  unfold Opens at opens
  split at opens
  · subst opens
    rw [record, Function.update_self] at current
    exact List.mem_singleton.mpr (Option.some.inj current).symm
  · obtain ⟨rotated, rfl⟩ := opens
    rw [record, if_pos rotated, Function.update_self] at current
    rw [refreshTokens, if_pos rotated]
    exact List.mem_singleton.mpr (Option.some.inj current).symm
  · cases opens

/-- The last session of a principal that is opened in a run, with the token that is handed out for
it. No step behind it opens or drops a session of the principal. -/
structure LastOpening (s : Service) (st : State) (actions : List Action) (uid : Int64)
    (token : String) (before : List Action) (issue : Action) (after : List Action) : Prop where
  split : actions = before ++ issue :: after
  opens : Opens uid (issue, (s.step (s.run st before) issue).outcome)
  given : token ∈ refreshTokens (issue, (s.step (s.run st before) issue).outcome)
  quiet : ∀ event ∈ s.history (s.step (s.run st before) issue).state after,
    ¬Opens uid event ∧ ¬Drops uid event

theorem lastOpening_of_foldl_record {s : Service} {st : State} {live : Int64 → Option String}
    {actions : List Action} {uid : Int64} {token : String}
    (current : (s.history st actions).foldl record live uid = some token) :
    (live uid = some token ∧
        ∀ event ∈ s.history st actions, ¬Opens uid event ∧ ¬Drops uid event) ∨
      ∃ before issue after, s.LastOpening st actions uid token before issue after := by
  -- What the rest of the run says is about the record behind the first step, so `live` varies.
  induction actions generalizing st live with
  | nil => exact .inl ⟨current, fun event member => by cases member⟩
  | cons action rest ih =>
      rcases ih current with ⟨here, quiet⟩ | ⟨before, issue, after, opening⟩
      · by_cases opens : Opens uid (action, (s.step st action).outcome)
        · exact .inr ⟨[], action, rest, rfl, opens, mem_refreshTokens_of_opens opens here, quiet⟩
        · by_cases drops : Drops uid (action, (s.step st action).outcome)
          · rw [record_eq_of_drops drops] at here
            cases here
          · rw [record_eq_of_quiet opens drops] at here
            exact .inl ⟨here, List.forall_mem_cons.mpr ⟨⟨opens, drops⟩, quiet⟩⟩
      · obtain ⟨rfl, opens, given, quiet⟩ := opening
        exact .inr ⟨action :: before, issue, after, rfl, opens, given, quiet⟩

/-- Behind each token that was handed out last there is the opening of its session. -/
theorem lastOpening_of_latest {s : Service} {st : State} {actions : List Action} {uid : Int64}
    {token : String} (current : latest (s.history st actions) uid = some token) :
    ∃ before issue after, s.LastOpening st actions uid token before issue after := by
  rcases lastOpening_of_foldl_record current with ⟨none_yet, _⟩ | opening
  · cases none_yet
  · exact opening

/-- A step that opens a session hands out the token that the store keeps from then on. -/
theorem kept_of_opens {s : Service} {st : State} {action : Action} {uid : Int64} {token : String}
    (opens : Opens uid (action, (s.step st action).outcome))
    (given : token ∈ refreshTokens (action, (s.step st action).outcome)) :
    ∃ deadline, Kept s st.clock uid ⟨token, deadline⟩ (s.step st action).state := by
  have ends := step_ends s st action
  generalize (s.step st action).outcome = outcome at ends opens given
  generalize (s.step st action).state = next at ends ⊢
  cases ends with
  | failed => cases action <;> cases opens
  | generated _ minted _ found =>
      obtain rfl := opens
      obtain rfl := List.mem_singleton.mp given
      exact ⟨_, .insert minted found⟩
  | rotated _ _ _ _ _ minted _ found =>
      obtain ⟨_, rfl⟩ := opens
      obtain rfl := List.mem_singleton.mp given
      exact ⟨_, .insert minted found⟩
  | kept => cases opens.1
  | _ => cases opens

/-- The store keeps a session from the last opening on. -/
theorem LastOpening.kept {s : Service} {st : State} {actions before after : List Action}
    {issue : Action} {uid : Int64} {token : String}
    (opening : s.LastOpening st actions uid token before issue after)
    (joint : ∀ action ∈ actions, action.MovesJointly) :
    ∃ deadline, Kept s (s.run st before).clock uid ⟨token, deadline⟩ (s.run st actions) := by
  obtain ⟨rfl, opens, given, quiet⟩ := opening
  obtain ⟨deadline, kept⟩ := kept_of_opens opens given
  have later := kept.run (fun action taken => joint action
    (List.mem_append_right before (List.mem_cons_of_mem issue taken))) quiet
  refine ⟨deadline, ?_⟩
  rw [run_append]
  exact later

/-- The store keeps the session of each token that was handed out last. -/
theorem kept_of_latest {s : Service} {start : Clock} {actions : List Action}
    (joint : ∀ action ∈ actions, action.MovesJointly) {uid : Int64} {token : String}
    (current : latest (s.history (.fresh start) actions) uid = some token) :
    ∃ opened deadline, start.RunsTo opened ∧
      Kept s opened uid ⟨token, deadline⟩ (s.run (.fresh start) actions) := by
  obtain ⟨before, issue, after, opening⟩ := lastOpening_of_latest current
  obtain ⟨deadline, kept⟩ := opening.kept joint
  have runs := clock_run s (.fresh start) fun action taken =>
    joint action (opening.split ▸ List.mem_append_left _ taken)
  exact ⟨_, deadline, runs, kept⟩

/-! ### A pair that has been issued -/

/-- Over an empty store, a pair is issued when signing works, and then both clocks move. -/
theorem exists_issued {s : Service} {start : Clock} {uid : Int64} {draws : Draws}
    {deadline : Instant} (signs : s.Signs start.wall uid draws)
    (usable : s.settings.validate = .ok ()) (uid_ne : uid ≠ 0) (running : 0 ≤ start.wall.seconds)
    (found : Memory.deadline? start.steady s.settings.refreshLifetime = some deadline)
    (span : Span) (forward : 0 ≤ span.nanoseconds) :
    let actions : List Action := [.generate uid draws, .advance span span]
    ∃ token, s.codec.mint start.wall uid s.settings.refreshLifetime draws.refresh = .ok token ∧
      (∀ action ∈ actions, action.MovesJointly) ∧
      latest (s.history (.fresh start) actions) uid = some token ∧
      s.run (.fresh start) actions =
        ⟨start.advance span, Memory.empty.insert (s.sessionKey uid) ⟨token, deadline⟩⟩ := by
  intro actions
  obtain ⟨⟨access, minted⟩, token, minted_refresh⟩ := signs.exists_mint usable uid_ne
  obtain ⟨issued, stored⟩ : _ ∧ (s.step (.fresh start) (.generate uid draws)).state = _ :=
    step_generated running minted minted_refresh rfl found
  refine ⟨token, minted_refresh, ?_, ?_, ?_⟩
  · simp only [actions, List.forall_mem_cons]
    exact ⟨trivial, ⟨rfl, forward⟩, fun action taken => by cases taken⟩
  · simp [latest, actions, history, issued, record, TokenPair.ofTokens]
  · rw [run, List.foldl_cons, stored]
    rfl

end TokenLifecycle.Service
