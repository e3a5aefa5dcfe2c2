import Mathlib.Tactic
import TokenLifecycle.Proofs.Service.Tracking

/-!
# What the store holds

While both clocks move together, every entry of the store is the session of one principal: a signed
refresh token of that principal, kept as long as the token is valid and less than two seconds
longer. The main statement `entries_are_sessions` says so after every run, and tells what can become
of an entry in a step.
-/

namespace TokenLifecycle.Service

open Session (Memory)

/-! ### The keys of a store -/

/-- No key occurs twice, and all keys are those of principals. -/
structure Keyed (s : Service) (m : Memory) : Prop where
  distinct : m.Distinct
  named : ∀ key e, (key, e) ∈ m.entries → ∃ uid, key = s.sessionKey uid

namespace Keyed

variable {s : Service} {m : Memory}

theorem erase (keyed : Keyed s m) (key : String) : Keyed s (m.erase key) :=
  ⟨keyed.distinct.erase key, fun key' e member =>
    keyed.named key' e (Memory.mem_entries_of_erase member)⟩

theorem insert (keyed : Keyed s m) (uid : Int64) (e : Session.Entry) :
    Keyed s (m.insert (s.sessionKey uid) e) := by
  refine ⟨keyed.distinct.insert _ e, fun key e' member => ?_⟩
  rcases List.mem_cons.mp member with new | old
  · exact ⟨uid, congrArg Prod.fst new⟩
  · exact keyed.named key e' (Memory.mem_entries_of_erase old)

theorem step {st : State} (keyed : Keyed s st.memory) (action : Action) :
    Keyed s (s.step st action).state.memory := by
  have ends := step_ends s st action
  generalize (s.step st action).outcome = outcome at ends
  generalize (s.step st action).state = next at ends ⊢
  cases ends with
  | failed | kept | parsed | advanced => exact keyed
  | dropped | cleaned => exact keyed.erase _
  | generated | rotated => exact keyed.insert _ _
  | failedReads | failedWrites => exact ⟨keyed.distinct, keyed.named⟩

theorem run {st : State} (keyed : Keyed s st.memory) (actions : List Action) :
    Keyed s (s.run st actions).memory := by
  induction actions generalizing st with
  | nil => exact keyed
  | cons action rest ih => exact ih (keyed.step action)

end Keyed

theorem keyed_run (s : Service) (start : Clock) (actions : List Action) :
    Keyed s (s.run (.fresh start) actions).memory :=
  Keyed.run ⟨Memory.distinct_empty, fun _ _ member => by cases member⟩ actions

/-- Every entry under the key of a principal belongs to a session that was opened in the run. -/
theorem openedAt_of_find? {s : Service} {start : Clock} {actions : List Action}
    (joint : ∀ action ∈ actions, action.MovesJointly) {uid : Int64} {e : Session.Entry}
    (present : (s.run (.fresh start) actions).memory.find? (s.sessionKey uid) = some e) :
    ∃ opened, start.RunsTo opened ∧
      s.OpenedAt opened (s.run (.fresh start) actions).clock uid e := by
  have current := recorded_run s start actions uid e present
  obtain ⟨opened, deadline, since, kept⟩ := kept_of_latest joint current
  rcases kept.found with found | ⟨gone, _⟩
  · have session := kept.session
    rw [← Option.some.inj (present.symm.trans found)] at session
    exact ⟨opened, since, session⟩
  · cases present.symm.trans gone

/-! ### Entries as sessions -/

/-- The entry under a key is the session of a principal: it holds a signed refresh token of that
principal, and its deadline on the wall clock goes by the expiry of that token. -/
structure IsSession (s : Service) (clock : Clock) (key : String) (e : Session.Entry) (uid : Int64)
    (claims : Claims) : Prop where
  key_eq : key = s.sessionKey uid
  uid_ne : uid ≠ 0
  signed : s.codec.Signed claims e.value
  principal : claims.uid = uid
  lifetime : claims.expiry.toInt - claims.issuedAt.toInt =
    s.settings.refreshLifetime.wholeSeconds
  /-- It does not die before the token expires. -/
  expiry_le : .ofSeconds claims.expiry.toInt ≤ clock.onWall e.deadline
  /-- It dies less than two seconds after the token expires. -/
  lt_expiry : clock.onWall e.deadline < .ofSeconds (claims.expiry.toInt + 2)
  /-- It dies within one lifetime from now. -/
  le_lifetime : clock.onWall e.deadline ≤ clock.wall.add s.settings.refreshLifetime

theorem OpenedAt.isSession {s : Service} {opened clock : Clock} {uid : Int64} {e : Session.Entry}
    (session : s.OpenedAt opened clock uid e)
    (bounded : s.settings.refreshLifetime.isRepresentable = true)
    (inside : Instant.inCalendar opened.wall.seconds = true) :
    ∃ claims, s.IsSession clock (s.sessionKey uid) e uid claims := by
  obtain ⟨claims, names⟩ := session.exists_names bounded inside
  obtain ⟨expiry_le, lt_expiry⟩ := names.expiry_bounds
  rw [← session.onWall_deadline] at expiry_le lt_expiry
  refine ⟨claims, rfl, names.uid_ne, names.signed, names.principal, ?_, expiry_le, lt_expiry,
    session.onWall_deadline_le⟩
  rw [names.issuedAt, names.expiry]
  omega

namespace IsSession

variable {s : Service} {clock : Clock} {key : String} {e : Session.Entry} {uid : Int64}
  {claims : Claims}

/-- An entry is live until its token expires. -/
theorem alive (session : s.IsSession clock key e uid claims)
    (unexpired : clock.wall < .ofSeconds claims.expiry.toInt) : clock.steady < e.deadline :=
  Clock.lt_onWall_iff.mp (Int.lt_of_lt_of_le unexpired session.expiry_le)

theorem expiry_le_of_dead (session : s.IsSession clock key e uid claims)
    (dead : e.deadline ≤ clock.steady) : .ofSeconds claims.expiry.toInt ≤ clock.wall :=
  Int.le_trans session.expiry_le (Clock.onWall_le_iff.mpr dead)

/-- An entry is not live when its token has expired for two seconds. -/
theorem lt_expiry_of_alive (session : s.IsSession clock key e uid claims)
    (alive : clock.steady < e.deadline) : clock.wall < .ofSeconds (claims.expiry.toInt + 2) :=
  Int.lt_trans (Clock.lt_onWall_iff.mpr alive) session.lt_expiry

end IsSession

/-- The session of a token that was handed out last is live until the token expires. -/
theorem live?_of_latest {s : Service} {start : Clock} {actions : List Action}
    (bounded : s.settings.refreshLifetime.isRepresentable = true)
    (joint : ∀ action ∈ actions, action.MovesJointly)
    (start_inside : Instant.inCalendar start.wall.seconds = true)
    (now_inside : Instant.inCalendar (s.run (.fresh start) actions).clock.wall.seconds = true)
    {uid : Int64} {token : String}
    (current : latest (s.history (.fresh start) actions) uid = some token) :
    let st := s.run (.fresh start) actions
    ∃ e claims, e.value = token ∧ s.IsSession st.clock (s.sessionKey uid) e uid claims ∧
      (st.clock.wall < .ofSeconds claims.expiry.toInt →
        st.memory.live? st.clock.steady (s.sessionKey uid) = some e) := by
  intro st
  obtain ⟨opened, deadline, since, kept⟩ := kept_of_latest joint current
  have inside := Clock.RunsTo.inCalendar start_inside now_inside since kept.session.runs
  obtain ⟨claims, session⟩ := kept.session.isSession bounded inside
  refine ⟨_, claims, rfl, session, fun unexpired => ?_⟩
  have live := kept.live?_eq
  rw [if_pos (kept.session.lt_deadline_iff.mp (session.alive unexpired))] at live
  exact live

/-- When no session of a principal has been opened for one lifetime, there is no live entry of that
principal. -/
theorem live?_eq_none_of_not_opens {s : Service} {start : Clock} {before after : List Action}
    {uid : Int64} (joint : ∀ action ∈ before ++ after, action.MovesJointly)
    (quiet : ∀ event ∈ s.history (s.run (.fresh start) before) after, ¬Opens uid event)
    (passed : (s.run (.fresh start) before).clock.wall.add s.settings.refreshLifetime ≤
      (s.run (.fresh start) (before ++ after)).clock.wall) :
    (s.run (.fresh start) (before ++ after)).memory.live?
      (s.run (.fresh start) (before ++ after)).clock.steady (s.sessionKey uid) = none := by
  have kept := find?_run_of_not_opens quiet
  have runs := clock_run s (s.run (.fresh start) before) fun action taken =>
    joint action (List.mem_append_right before taken)
  rw [← run_append] at kept runs
  generalize s.run (.fresh start) (before ++ after) = st at *
  cases present : st.memory.find? (s.sessionKey uid) with
  | none => rw [Memory.live?, present, Option.filter_none]
  | some e =>
      rcases kept with gone | same
      · cases present.symm.trans gone
      · obtain ⟨_, _, session⟩ := openedAt_of_find?
          (fun action taken => joint action (List.mem_append_left after taken))
          (same.symm.trans present)
        have over_now : st.clock.onWall e.deadline ≤ st.clock.wall := by
          rw [runs.onWall_eq]
          exact Int.le_trans session.onWall_deadline_le passed
        exact Memory.live?_eq_none_of_dead present (Clock.onWall_le_iff.mp over_now)

/-- After every run under joint clocks all entries are sessions, each of one principal, under keys
of their own. So an entry is live until its token expires, and not two seconds longer; and the
session of the token that was handed out last to a principal is there until then. A step changes the
entry of a principal only by opening a session of that principal, and drops it only on request or
when the token has expired. When no session of a principal has been opened for one lifetime, there
is no live entry of that principal. -/
theorem entries_are_sessions (s : Service) (start : Clock) (actions : List Action)
    (bounded : s.settings.refreshLifetime.isRepresentable = true)
    (joint : ∀ action ∈ actions, action.MovesJointly)
    (start_inside : Instant.inCalendar start.wall.seconds = true)
    (now_inside :
      Instant.inCalendar (s.run (.fresh start) actions).clock.wall.seconds = true) :
    let st := s.run (.fresh start) actions
    (st.memory.entries.map Prod.fst).Nodup ∧
      (∀ key e, (key, e) ∈ st.memory.entries →
        ∃! uid, ∃ claims, s.IsSession st.clock key e uid claims) ∧
      (∀ key e uid claims, (key, e) ∈ st.memory.entries →
        s.IsSession st.clock key e uid claims →
          (st.memory.live? st.clock.steady key = some e →
            st.clock.wall < .ofSeconds (claims.expiry.toInt + 2)) ∧
          (st.clock.wall < .ofSeconds claims.expiry.toInt →
            st.memory.live? st.clock.steady key = some e)) ∧
      (∀ uid token, latest (s.history (.fresh start) actions) uid = some token →
        ∃ e claims, e.value = token ∧ s.IsSession st.clock (s.sessionKey uid) e uid claims ∧
          (st.clock.wall < .ofSeconds claims.expiry.toInt →
            st.memory.live? st.clock.steady (s.sessionKey uid) = some e)) ∧
      (∀ action uid,
        let next := (s.step st action).state
        (∀ e, next.memory.find? (s.sessionKey uid) = some e →
          st.memory.find? (s.sessionKey uid) = some e ∨
            Opens uid (action, (s.step st action).outcome)) ∧
        (∀ e claims, st.memory.find? (s.sessionKey uid) = some e →
          s.IsSession st.clock (s.sessionKey uid) e uid claims →
          next.memory.find? (s.sessionKey uid) = none →
            Drops uid (action, (s.step st action).outcome) ∨
              .ofSeconds claims.expiry.toInt ≤ st.clock.wall)) ∧
      ∀ before after uid, before ++ after = actions →
        (∀ event ∈ s.history (s.run (.fresh start) before) after, ¬Opens uid event) →
        (s.run (.fresh start) before).clock.wall.add s.settings.refreshLifetime ≤
          st.clock.wall →
        st.memory.live? st.clock.steady (s.sessionKey uid) = none := by
  intro st
  have keyed := keyed_run s start actions
  refine ⟨keyed.distinct, ?_, ?_, ?_, ?_, ?_⟩
  · intro key e member
    obtain ⟨uid, rfl⟩ := keyed.named key e member
    obtain ⟨opened, since, session⟩ := openedAt_of_find? joint (keyed.distinct.find?_eq member)
    have inside := Clock.RunsTo.inCalendar start_inside now_inside since session.runs
    refine ⟨uid, session.isSession bounded inside, ?_⟩
    rintro other ⟨claims, same⟩
    exact (sessionKey_injective same.key_eq).symm
  · intro key e uid claims member session
    constructor
    · intro live
      exact session.lt_expiry_of_alive (Memory.live?_eq_some_iff.mp live).2
    · intro unexpired
      have present := keyed.distinct.find?_eq member
      exact Memory.live?_eq_some_iff.mpr ⟨present, session.alive unexpired⟩
  · intro uid token current
    exact live?_of_latest bounded joint start_inside now_inside current
  · intro action uid next
    have changes := find?_step_cases s st action uid
    constructor
    · intro e present
      rcases changes with ⟨opens, _⟩ | same | ⟨gone, _⟩
      · exact .inr opens
      · exact .inl (same.symm.trans present)
      · cases gone.symm.trans present
    · intro e claims present session gone
      rcases changes with ⟨_, there⟩ | same | ⟨_, drops | ⟨e', found, dead⟩⟩
      · exact absurd gone there
      · cases present.symm.trans (same.symm.trans gone)
      · exact .inl drops
      · obtain rfl := Option.some.inj (present.symm.trans found)
        exact .inr (session.expiry_le_of_dead dead)
  · rintro before after uid rfl quiet passed
    exact live?_eq_none_of_not_opens joint quiet passed

/-- A session that is opened between two seconds and lasts for a broken number of seconds. Its token
expires at 2 s, its entry is live until 3.2 s. -/
theorem entries_are_sessions_of_fractions :
    let s : Service :=
      ⟨⟨.digest, none, 0⟩, { Settings.default with refreshLifetime := ⟨2500000000⟩ }⟩
    let start : Clock := ⟨⟨700000000⟩, .ofSeconds 0⟩
    let draws : Draws := ⟨⟨"a", []⟩, ⟨"b", []⟩⟩
    let actions : List Action := [.generate 7 draws, .advance (.ofSeconds 1) (.ofSeconds 1)]
    let st := s.run (.fresh start) actions
    ∃ e claims, (s.sessionKey 7, e) ∈ st.memory.entries ∧
      s.IsSession st.clock (s.sessionKey 7) e 7 claims ∧
      claims.expiry = 2 ∧
      st.clock.onWall e.deadline = ⟨3200000000⟩ ∧
      st.memory.live? st.clock.steady (s.sessionKey 7) = some e := by
  intro s start draws actions st
  have signs : s.Signs start.wall 7 draws := ⟨⟨_, rfl⟩, _, rfl⟩
  have found : Memory.deadline? start.steady s.settings.refreshLifetime = some ⟨2500000000⟩ := rfl
  obtain ⟨refresh, minted, joint, _, (after : st = _)⟩ :=
    exists_issued signs rfl (by decide) (by decide) found (.ofSeconds 1) (by decide)
  let e : Session.Entry := ⟨refresh, ⟨2500000000⟩⟩
  have member : (s.sessionKey 7, e) ∈ st.memory.entries := by
    rw [after]
    exact List.mem_cons_self
  have wall : st.clock.wall = ⟨1700000000⟩ := by
    rw [after]
    rfl
  have now_inside : Instant.inCalendar st.clock.wall.seconds = true := by
    rw [wall]
    decide
  obtain ⟨_, sessions, lives, _⟩ :=
    entries_are_sessions s start actions (by decide) joint (by decide) now_inside
  obtain ⟨uid, ⟨claims, session⟩, _⟩ := sessions _ e member
  obtain rfl := sessionKey_injective session.key_eq
  obtain rfl := Option.some.inj
    (session.signed.claims?_eq.symm.trans (Codec.claims?_of_mint minted))
  have unexpired : st.clock.wall <
      .ofSeconds (Claims.issue 7 start.wall s.settings.refreshLifetime "b" none).expiry.toInt := by
    rw [wall]
    decide
  have alive := (lives _ e 7 _ member session).2 unexpired
  refine ⟨e, _, member, session, by decide, ?_, alive⟩
  rw [after]
  rfl

end TokenLifecycle.Service
