import Mathlib.Tactic
import TokenLifecycle.Proofs.Service.Rotation
import TokenLifecycle.Proofs.Service.Tracking

/-!
# Which refresh tokens redeem

A refresh token redeems only if it is the one that was handed out last to its principal and the
session has not been dropped. While the two clocks move together, an entry of the store lives as
long as its token, so that such a token does redeem until it expires. The main statement
`redeems_iff_latest` says both.
-/

namespace TokenLifecycle

open Session (Memory Script Store)

/-- No call that a script makes of a store fails. -/
def Session.Script.Served {σ α : Type} (store : Store σ) : Script α → σ → Prop
  | .done _, _ => True
  | .log _ rest, s => rest.Served store s
  | .set key value ttl next, s =>
    let r := store.set key value ttl s
    r.outcome = .ok () ∧ (next r.outcome).Served store r.state
  | .get key next, s =>
    let r := store.get key s
    (∃ found, r.outcome = .ok found) ∧ (next r.outcome).Served store r.state
  | .delete key next, s =>
    let r := store.delete key s
    r.outcome = .ok () ∧ (next r.outcome).Served store r.state

namespace Service

/-! ### Stores that serve a refresh -/

theorem Fails.served {σ α : Type} {store : Store σ} {script : Script α} (fails : Fails script)
    (m : σ) : script.Served store m := by
  cases fails <;> trivial

/-- A store that works serves every refresh. -/
theorem served_of_working {s : Service} {st : State} (reading : st.memory.readsFail = false)
    (writing : st.memory.writesFail = false) {deadline : Instant}
    (found : Memory.deadline? st.clock.steady s.settings.refreshLifetime = some deadline)
    (token : String) (draws : Draws) :
    (s.refresh st.clock.wall draws token).Served (Memory.store st.clock.steady) st.memory := by
  let Q (script : Script Refreshed) : Prop :=
    script.Served (Memory.store st.clock.steady) st.memory
  have fails (script : Script Refreshed) (failing : Fails script) : Q script :=
    failing.served st.memory
  change Q (s.refresh st.clock.wall draws token)
  refine refresh_cases fails fun _ => ?_
  refine proceed_cases fails fun claims _ => ?_
  rcases Memory.get_cases st.memory st.clock.steady (s.sessionKey claims.uid) with
    ⟨failing, _⟩ | ⟨_, read | ⟨e, present, dead, read⟩⟩
  · rw [reading] at failing
    cases failing
  · simp only [Q, Script.Served, Memory.store, read]
    refine ⟨⟨_, rfl⟩, ?_⟩
    refine proceedWithAnswer_cases (Q := Q) fails fun stored _ => ?_
    refine proceedIfLive_cases fails fun current => ?_
    refine proceedWithToken_cases fails fun access _ => ?_
    refine proceed_cases fails ?_
    rintro ⟨remaining, due⟩ _
    cases due with
    | false => trivial
    | true =>
        refine proceedWithToken_cases fails fun refresh _ => ?_
        have written := Memory.set_of_deadline writing found (s.sessionKey claims.uid) refresh
        simp only [Q, Script.Served, Memory.store, written]
        exact ⟨trivial, trivial⟩
  · simp only [Q, Script.Served, Memory.store, read]
    exact ⟨⟨_, rfl⟩, trivial⟩

/-! ### Redeeming the latest token -/

section Redeem

variable {s : Service} {st : State} {token access refresh : String} {draws : Draws}
  {claims : Claims} {deadline : Instant} {remaining : Span} {due : Bool}

theorem readsFail_of_served (verified : s.codec.verify st.clock.wall token = .ok claims)
    (served : (s.refresh st.clock.wall draws token).Served (Memory.store st.clock.steady)
      st.memory) : st.memory.readsFail = false := by
  have presented := refreshClaims_eq_ok_iff.mpr verified
  simp only [s.refresh_of_verify verified, refreshAt, presented, proceed, Script.Served,
    Memory.store, Memory.outcome_get] at served
  obtain ⟨⟨stored, answered⟩, _⟩ := served
  split_ifs at answered with failing
  simpa using failing

/-- A live token is redeemed when no call of the store fails and signing works. -/
theorem redeem (verified : s.codec.verify st.clock.wall token = .ok claims)
    (live : st.memory.live? st.clock.steady (s.sessionKey claims.uid) = some ⟨token, deadline⟩)
    (minted : s.codec.mint st.clock.wall claims.uid s.settings.accessLifetime draws.access =
      .ok access)
    (decided : rotationDue claims st.clock.wall = .ok (remaining, due))
    (minted_refresh :
      s.codec.mint st.clock.wall claims.uid s.settings.refreshLifetime draws.refresh =
        .ok refresh)
    (served : (s.refresh st.clock.wall draws token).Served (Memory.store st.clock.steady)
      st.memory) :
    ∃ r, (s.step st (.refresh token draws)).outcome = .ok (.refreshed r) ∧ r.uid = claims.uid := by
  have working := readsFail_of_served verified served
  cases due with
  | false => exact ⟨_, step_kept verified working live minted decided, rfl⟩
  | true =>
      have presented := refreshClaims_eq_ok_iff.mpr verified
      have read := Memory.get_of_live working live
      simp only [s.refresh_of_verify verified, refreshAt, presented, proceed, Script.Served,
        Memory.store, read, proceedWithAnswer, proceedIfLive, ↓reduceIte, minted, proceedWithToken,
        decided, minted_refresh] at served
      obtain ⟨_, written, _⟩ := served
      rcases Memory.set_cases st.memory st.clock.steady (s.sessionKey claims.uid) refresh
          s.settings.refreshLifetime with ⟨f, _, failed⟩ | ⟨next, writing, found, _⟩
      · rw [failed] at written
        cases written
      · exact ⟨_, step_rotated verified working live minted decided minted_refresh writing found,
          rfl⟩

end Redeem

/-- The token of a session is replaced when less than a third of its lifetime is left. -/
theorem Names.rotationDue_eq {s : Service} {opened now : Instant} {uid : Int64} {token : String}
    {claims : Claims} (names : s.Names opened uid token claims)
    (issued : opened.seconds ≤ now.seconds) (current : now.seconds < claims.expiry.toInt + 2) :
    rotationDue claims now = .ok (.ofSeconds (claims.expiry.toInt - now.seconds),
      decide (3 * (claims.expiry.toInt - now.seconds) <
        s.settings.refreshLifetime.wholeSeconds)) := by
  have issuedAt := names.issuedAt
  have expiry := names.expiry
  have positive := names.positive
  have bounded := names.bounded
  have lifetime : claims.expiry.toInt - claims.issuedAt.toInt =
      s.settings.refreshLifetime.wholeSeconds := by omega
  rw [← lifetime]
  exact Service.rotationDue_eq (by omega) (by omega) (by omega) (by omega)

/-- The token of a live session is redeemed as long as it is verified. -/
theorem redeem_of_opened {s : Service} {st : State} {opened : Clock} {uid : Int64} {token : String}
    {deadline : Instant} {claims : Claims}
    (session : s.OpenedAt opened st.clock uid ⟨token, deadline⟩)
    (names : s.Names opened.wall uid token claims)
    (live : st.memory.live? st.clock.steady (s.sessionKey uid) = some ⟨token, deadline⟩)
    (verified : s.codec.verify st.clock.wall token = .ok claims)
    (usable : s.settings.validate = .ok ()) {draws : Draws}
    (signs : s.Signs st.clock.wall uid draws)
    (served : (s.refresh st.clock.wall draws token).Served (Memory.store st.clock.steady)
      st.memory) :
    ∃ r, (s.step st (.refresh token draws)).outcome = .ok (.refreshed r) ∧ r.uid = uid := by
  obtain rfl := names.principal
  have issued := session.runs.seconds_le
  have alive := session.lt_deadline_iff.mp (Memory.live?_eq_some_iff.mp live).2
  have current : st.clock.wall.seconds < claims.expiry.toInt + 2 :=
    Instant.lt_ofSeconds_iff.mp (Int.lt_trans alive names.expiry_bounds.2)
  have decided := names.rotationDue_eq issued current
  obtain ⟨⟨access, minted⟩, refresh, minted_refresh⟩ := signs.exists_mint usable names.uid_ne
  exact redeem verified live minted decided minted_refresh served

/-- A token that is kept redeems before it expires. -/
theorem redeem_of_kept {s : Service} {opened : Clock} {st : State} {uid : Int64} {token : String}
    {deadline : Instant} {claims : Claims} (kept : Kept s opened uid ⟨token, deadline⟩ st)
    (names : s.Names opened.wall uid token claims) (usable : s.settings.validate = .ok ())
    (sound : s.codec.keys.Sound) (running : (s.codec.leeway.toNat : Int) ≤ st.clock.wall.seconds)
    (unexpired : st.clock.wall.seconds < claims.expiry.toInt) {draws : Draws}
    (signs : s.Signs st.clock.wall uid draws)
    (served : (s.refresh st.clock.wall draws token).Served (Memory.store st.clock.steady)
      st.memory) :
    ∃ r, (s.step st (.refresh token draws)).outcome = .ok (.refreshed r) ∧ r.uid = uid := by
  have current : st.clock.wall < opened.wall.add s.settings.refreshLifetime :=
    Int.lt_of_lt_of_le (Instant.lt_ofSeconds_iff.mpr unexpired) names.expiry_bounds.1
  have live := kept.live?_eq
  rw [if_pos current] at live
  have verified := names.verify_eq sound (by omega) running
  rw [if_neg (by omega)] at verified
  exact redeem_of_opened kept.session names live verified usable signs served

/-- After any run, a refresh succeeds only for the token that was handed out last to the principal
that it is of, with no session dropped since. So other tokens never redeem: those that were not
handed out, those that were handed out and are no longer the last ones, whatever comes after, and
access tokens. When the two clocks moved together, the last token of a principal does redeem before
it expires, as long as the store serves the refresh and signing works. -/
theorem redeems_iff_latest (s : Service) (start : Clock) (actions : List Action) :
    let st := s.run (.fresh start) actions
    let events := s.history (.fresh start) actions
    (∀ token draws answer, (s.step st (.refresh token draws)).outcome = .ok answer →
      ∃ claims r, s.codec.verify st.clock.wall token = .ok claims ∧ answer = .refreshed r ∧
        r.uid = claims.uid ∧ latest events claims.uid = some token) ∧
    (∀ token ∉ events.flatMap handedOut, ∀ draws answer,
      (s.step st (.refresh token draws)).outcome ≠ .ok answer) ∧
    ((actions.flatMap Action.identifiers).Nodup →
      (∀ before after, before ++ after = actions →
        ∀ token ∈ (s.history (.fresh start) before).flatMap handedOut,
          (∀ uid, latest (s.history (.fresh start) before) uid ≠ some token) →
          ∀ draws answer, (s.step st (.refresh token draws)).outcome ≠ .ok answer) ∧
      ∀ token ∈ events.flatMap accessTokens, ∀ draws answer,
        (s.step st (.refresh token draws)).outcome ≠ .ok answer) ∧
    (s.settings.validate = .ok () → s.settings.refreshLifetime.isRepresentable = true →
      s.codec.keys.Sound → (∀ action ∈ actions, action.MovesJointly) →
      Instant.inCalendar start.wall.seconds = true →
      Instant.inCalendar st.clock.wall.seconds = true →
      (s.codec.leeway.toNat : Int) ≤ st.clock.wall.seconds →
      ∀ uid token, latest events uid = some token →
        ∃ claims, Codec.claims? token = some claims ∧ claims.uid = uid ∧
          (st.clock.wall.seconds < claims.expiry.toInt → ∀ draws,
            s.Signs st.clock.wall uid draws →
            (s.refresh st.clock.wall draws token).Served (Memory.store st.clock.steady)
              st.memory →
            ∃ r, (s.step st (.refresh token draws)).outcome = .ok (.refreshed r) ∧
              r.uid = uid)) := by
  intro st events
  have recorded := recorded_run s start actions
  have only_latest {token : String} (never : ∀ uid, latest events uid ≠ some token)
      (draws : Draws) (answer : Answer) :
      (s.step st (.refresh token draws)).outcome ≠ .ok answer := by
    intro accepted
    obtain ⟨claims, _, _, _, _, current⟩ := latest_of_refreshed recorded accepted
    exact never claims.uid current
  refine ⟨?_, ?_, ?_, ?_⟩
  · exact fun token draws answer accepted => latest_of_refreshed recorded accepted
  · intro token stray
    refine only_latest fun uid current => stray ?_
    obtain ⟨event, taken, given⟩ := List.mem_flatMap.mp (refreshTokens_of_latest current)
    exact List.mem_flatMap.mpr ⟨event, taken, List.mem_append_right _ given⟩
  · intro distinct
    constructor
    · rintro before after rfl token given superseded
      exact only_latest (latest_ne_of_superseded distinct given superseded)
    · exact fun token given => only_latest (latest_ne_of_access distinct given)
  · intro usable bounded sound joint start_inside now_inside running uid token current
    obtain ⟨opened, deadline, since, kept⟩ := kept_of_latest joint current
    have inside := Clock.RunsTo.inCalendar start_inside now_inside since kept.session.runs
    obtain ⟨claims, names⟩ := kept.session.exists_names bounded inside
    refine ⟨claims, names.claims?_eq, names.principal, fun unexpired draws signs served => ?_⟩
    exact redeem_of_kept kept names usable sound running unexpired signs served

/-- A refresh token redeems a minute after it was handed out, and the access token that came with it
does not. -/
theorem redeems_after_minute :
    let s : Service := ⟨⟨.digest, none, 0⟩, .default⟩
    let start : Clock := ⟨.ofSeconds 0, .ofSeconds 0⟩
    let draws : Draws := ⟨⟨"a", []⟩, ⟨"b", []⟩⟩
    let actions : List Action := [.generate 7 draws, .advance (.ofSeconds 60) (.ofSeconds 60)]
    ∃ access refresh r,
      s.codec.mint start.wall 7 s.settings.accessLifetime draws.access = .ok access ∧
      s.codec.mint start.wall 7 s.settings.refreshLifetime draws.refresh = .ok refresh ∧
      (∀ answer, (s.step (s.run (.fresh start) actions) (.refresh access draws)).outcome ≠
        .ok answer) ∧
      (s.step (s.run (.fresh start) actions) (.refresh refresh draws)).outcome =
        .ok (.refreshed r) ∧
      r.uid = 7 := by
  intro s start draws actions
  have signs (now : Instant) : s.Signs now 7 draws := ⟨⟨_, rfl⟩, _, rfl⟩
  obtain ⟨⟨access, minted_access⟩, refresh, minted_refresh⟩ :=
    (signs start.wall).exists_mint rfl (show (7 : Int64) ≠ 0 by decide)
  obtain ⟨generated, stored⟩ : _ ∧ (s.step (.fresh start) (.generate 7 draws)).state = _ :=
    step_generated (by decide) minted_access minted_refresh rfl rfl
  have events : s.history (.fresh start) actions =
      [(.generate 7 draws, .ok (.generated (.ofTokens access refresh s.settings.accessLifetime
        s.settings.refreshLifetime))),
        (.advance (.ofSeconds 60) (.ofSeconds 60), .ok .nothing)] := by
    simp only [actions, history, generated]
    rfl
  have after : s.run (.fresh start) actions =
      ⟨start.advance (.ofSeconds 60), Memory.empty.insert (s.sessionKey 7)
        ⟨refresh, .ofSeconds 2592000⟩⟩ := by
    simp only [actions, run, List.foldl_cons, stored]
    rfl
  obtain ⟨_, _, never, redeems⟩ := redeems_iff_latest s start actions
  have distinct : (actions.flatMap Action.identifiers).Nodup := by decide
  have joint : ∀ action ∈ actions, action.MovesJointly := by
    intro action taken
    simp only [actions, List.mem_cons, List.not_mem_nil, or_false] at taken
    rcases taken with rfl | rfl
    · trivial
    · exact ⟨rfl, by decide⟩
  let now : Clock := start.advance (.ofSeconds 60)
  have inside : Instant.inCalendar now.wall.seconds = true := by decide
  have running : (s.codec.leeway.toNat : Int) ≤ now.wall.seconds := by decide
  have unexpired : now.wall.seconds <
      (Claims.issue 7 start.wall s.settings.refreshLifetime "b" none).expiry.toInt := by decide
  rw [after, events] at never redeems
  obtain ⟨claims, carried, _, redeemed⟩ := redeems rfl (by decide) KeyPair.sound_digest joint
    (by decide) inside running 7 refresh rfl
  obtain rfl := Option.some.inj (carried.symm.trans (Codec.claims?_of_mint minted_refresh))
  obtain ⟨r, outcome, same⟩ := redeemed unexpired draws (signs _)
    (served_of_working rfl rfl rfl refresh draws)
  rw [after]
  exact ⟨access, refresh, r, minted_access, minted_refresh,
    (never distinct).2 access (by simp [accessTokens, TokenPair.ofTokens]) draws, outcome, same⟩

end Service

end TokenLifecycle
