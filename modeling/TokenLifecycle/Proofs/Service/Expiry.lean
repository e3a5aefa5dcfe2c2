import Mathlib.Tactic
import TokenLifecycle.Proofs.Service.Redemption
import TokenLifecycle.Proofs.Token.Refusals

/-!
# Refresh tokens near their expiry

A refresh token is accepted until its expiry in whole seconds, with the leeway on top. Its session
is over one lifetime after the opening, to the nanosecond and without a leeway. In between the token
is still accepted, and a refresh reports it as revoked. The main statement `refresh_of_latest` gives
the outcome for every instant.
-/

namespace TokenLifecycle.Service

open Session (Memory Script)

section Outcomes

variable {s : Service} {st : State} {token : String} {claims : Claims}

theorem refresh_of_expired (refused : s.codec.verify st.clock.wall token = refuse .tokenExpired)
    (draws : Draws) :
    (s.step st (.refresh token draws)).outcome = refuse .refreshTokenExpired := by
  have running := s.codec.running_of_expired st.clock.wall refused
  simp only [step, State.perform, s.refresh_of_running running, refreshAt, refreshClaims, refused,
    refuse, proceed, Script.run]
  rfl

/-- A token that is accepted counts as revoked when there is no live session. -/
theorem refresh_of_missing (verified : s.codec.verify st.clock.wall token = .ok claims)
    (working : st.memory.readsFail = false)
    (missing : st.memory.live? st.clock.steady (s.sessionKey claims.uid) = none) (draws : Draws) :
    (s.step st (.refresh token draws)).outcome = refuse .tokenRevoked := by
  have presented := refreshClaims_eq_ok_iff.mpr verified
  have read := Memory.outcome_get st.memory st.clock.steady (s.sessionKey claims.uid)
  rw [working, missing] at read
  simp only [step, State.perform, s.refresh_of_verify verified, refreshAt, presented, proceed,
    Script.run, Memory.store, read, Bool.false_eq_true, ↓reduceIte, Option.map_none,
    proceedWithAnswer, proceedIfLive]
  rfl

theorem parse_eq (s : Service) (st : State) (token : String) :
    (s.step st (.parse token)).outcome = (s.codec.verify st.clock.wall token).map .parsed :=
  rfl

end Outcomes

/-- A refresh succeeds exactly if the token is accepted. If not, it says that the token has expired,
and it never says that the token was revoked. -/
def RedeemsWhileAccepted (s : Service) (st : State) (token : String) (draws : Draws) : Prop :=
  ((∃ answer, (s.step st (.refresh token draws)).outcome = .ok answer) ↔
      ∃ answer, (s.step st (.parse token)).outcome = .ok answer) ∧
    ((∀ answer, (s.step st (.parse token)).outcome ≠ .ok answer) →
      (s.step st (.refresh token draws)).outcome = refuse .refreshTokenExpired) ∧
    (s.step st (.refresh token draws)).outcome ≠ refuse .tokenRevoked

section Kept

variable {s : Service} {opened : Clock} {st : State} {uid : Int64} {token : String}
  {deadline : Instant} {claims : Claims} {draws : Draws}

/-- A token that is accepted after its session is over is reported as revoked. -/
theorem refresh_of_over (kept : Kept s opened uid ⟨token, deadline⟩ st)
    (names : s.Names opened.wall uid token claims)
    (verified : s.codec.verify st.clock.wall token = .ok claims)
    (served : (s.refresh st.clock.wall draws token).Served (Memory.store st.clock.steady)
      st.memory)
    (over_now : ¬st.clock.wall < opened.wall.add s.settings.refreshLifetime) :
    (s.step st (.refresh token draws)).outcome = refuse .tokenRevoked := by
  have missing := kept.live?_eq
  rw [if_neg over_now, ← names.principal] at missing
  exact refresh_of_missing verified (readsFail_of_served verified served) missing draws

/-- When a refresh goes with the acceptance of a token, by what either comes to. -/
theorem redeemsWhileAccepted_iff {expired lasts : Prop} [Decidable expired]
    (accepted : (s.step st (.parse token)).outcome =
      if expired then refuse .tokenExpired else .ok (.parsed claims))
    (after_expiry : expired →
      (s.step st (.refresh token draws)).outcome = refuse .refreshTokenExpired)
    (in_session : ¬expired → lasts → ∃ r,
      (s.step st (.refresh token draws)).outcome = .ok (.refreshed r) ∧ r.uid = uid)
    (in_between : ¬expired → ¬lasts →
      (s.step st (.refresh token draws)).outcome = refuse .tokenRevoked) :
    s.RedeemsWhileAccepted st token draws ↔ expired ∨ lasts := by
  by_cases past : expired
  · rw [if_pos past] at accepted
    simp [RedeemsWhileAccepted, accepted, after_expiry past, refuse, past]
  · rw [if_neg past] at accepted
    by_cases open_still : lasts
    · obtain ⟨r, redeemed, _⟩ := in_session past open_still
      simp [RedeemsWhileAccepted, accepted, redeemed, refuse, open_still]
    · simp [RedeemsWhileAccepted, in_between past open_still, past, open_still]

end Kept

/-- The token that was handed out last to a principal, after any run. It is accepted until the
leeway behind its expiry is over; from then on a refresh says that it has expired. Until one
lifetime after the opening of its session a refresh succeeds, but then it reports a revoked token
for as long as the token is still accepted. So a refresh goes with the acceptance of the token
unless the session is over and the leeway is not. -/
theorem refresh_of_latest {s : Service} {start : Clock} {actions : List Action}
    (usable : s.settings.validate = .ok ())
    (bounded : s.settings.refreshLifetime.isRepresentable = true) (sound : s.codec.keys.Sound)
    (joint : ∀ action ∈ actions, action.MovesJointly)
    (running : (s.codec.leeway.toNat : Int) ≤ start.wall.seconds)
    (start_inside : Instant.inCalendar start.wall.seconds = true)
    (now_inside :
      Instant.inCalendar (s.run (.fresh start) actions).clock.wall.seconds = true)
    {uid : Int64} {token : String}
    (current : latest (s.history (.fresh start) actions) uid = some token) :
    let st := s.run (.fresh start) actions
    ∃ before issue after claims,
      s.LastOpening (.fresh start) actions uid token before issue after ∧
      let opened := (s.run (.fresh start) before).clock.wall
      let expired := claims.expiry.toInt + s.codec.leeway.toNat < st.clock.wall.seconds
      let lasts := st.clock.wall < opened.add s.settings.refreshLifetime
      s.Names opened uid token claims ∧
        (s.step st (.parse token)).outcome =
          (if expired then refuse .tokenExpired else .ok (.parsed claims)) ∧
        ∀ draws, s.Signs st.clock.wall uid draws →
          (s.refresh st.clock.wall draws token).Served (Memory.store st.clock.steady) st.memory →
          (expired →
            (s.step st (.refresh token draws)).outcome = refuse .refreshTokenExpired) ∧
          (¬expired → lasts → ∃ r,
            (s.step st (.refresh token draws)).outcome = .ok (.refreshed r) ∧ r.uid = uid) ∧
          (¬expired → ¬lasts →
            (s.step st (.refresh token draws)).outcome = refuse .tokenRevoked) ∧
          (s.RedeemsWhileAccepted st token draws ↔ expired ∨ lasts) := by
  intro st
  obtain ⟨before, issue, after, opening⟩ := lastOpening_of_latest current
  obtain ⟨deadline, kept⟩ := opening.kept joint
  have since := clock_run s (.fresh start) fun action taken =>
    joint action (opening.split ▸ List.mem_append_left (issue :: after) taken)
  obtain ⟨claims, names⟩ := kept.session.exists_names bounded
    (Clock.RunsTo.inCalendar start_inside now_inside since kept.session.runs)
  refine ⟨before, issue, after, claims, opening, ?_⟩
  intro opened expired lasts
  have issued : start.wall.seconds ≤ opened.seconds := since.seconds_le
  have positive := names.positive
  have expiry : claims.expiry.toInt =
      opened.seconds + s.settings.refreshLifetime.wholeSeconds := names.expiry
  have verified : s.codec.verify st.clock.wall token =
      if expired then refuse .tokenExpired else .ok claims :=
    names.verify_eq sound (by omega)
      (Int.le_trans running (Int.le_trans issued kept.session.runs.seconds_le))
  have accepted : (s.step st (.parse token)).outcome =
      if expired then refuse .tokenExpired else .ok (.parsed claims) := by
    rw [parse_eq, verified]
    split_ifs <;> rfl
  refine ⟨names, accepted, fun draws signs served => ?_⟩
  have after_expiry (past : expired) :
      (s.step st (.refresh token draws)).outcome = refuse .refreshTokenExpired :=
    refresh_of_expired (verified.trans (if_pos past)) draws
  have in_session (early : ¬expired) (open_still : lasts) : ∃ r,
      (s.step st (.refresh token draws)).outcome = .ok (.refreshed r) ∧ r.uid = uid := by
    have live := kept.live?_eq
    rw [if_pos open_still] at live
    exact redeem_of_opened kept.session names live (verified.trans (if_neg early)) usable signs
      served
  have in_between (early : ¬expired) (over_now : ¬lasts) :
      (s.step st (.refresh token draws)).outcome = refuse .tokenRevoked :=
    refresh_of_over kept names (verified.trans (if_neg early)) served over_now
  exact ⟨after_expiry, in_session, in_between,
    redeemsWhileAccepted_iff accepted after_expiry in_session in_between⟩

/-- When a first step is followed by one that moves the clocks, a session is opened in the first. -/
theorem LastOpening.before_eq_nil {s : Service} {st : State} {first issue : Action}
    {wall steady : Span} {uid : Int64} {token : String} {before after : List Action}
    (opening : s.LastOpening st [first, .advance wall steady] uid token before issue after) :
    before = [] := by
  obtain ⟨split, opens, _⟩ := opening
  cases before with
  | nil => rfl
  | cons other before =>
      obtain ⟨rfl, rest⟩ := List.cons_eq_cons.mp split
      rcases List.singleton_eq_append_iff.mp rest with ⟨rfl, last⟩ | ⟨_, none_left⟩
      · obtain ⟨rfl, rfl⟩ := List.cons_eq_cons.mp last
        have spares : (Action.advance wall steady).Spares uid := trivial
        exact absurd opens (quiet_of_spares spares).1
      · cases none_left

/-- Without a leeway, a token is accepted until the second of its expiry is over. Half a second into
it, the session is over already. -/
theorem refresh_of_latest_in_last_second :
    let s : Service := ⟨⟨.digest, none, 0⟩, .default⟩
    let start : Clock := ⟨.ofSeconds 100, .ofSeconds 0⟩
    let draws : Draws := ⟨⟨"a", []⟩, ⟨"b", []⟩⟩
    let span : Span := ⟨2592000500000000⟩
    let st := s.run (.fresh start) [.generate 7 draws, .advance span span]
    ∃ token claims,
      s.codec.mint start.wall 7 s.settings.refreshLifetime draws.refresh = .ok token ∧
      claims.expiry = 2592100 ∧ st.clock.wall.seconds = 2592100 ∧
      (s.step st (.parse token)).outcome = .ok (.parsed claims) ∧
      (s.step st (.refresh token draws)).outcome = refuse .tokenRevoked := by
  intro s start draws span st
  have signs (now : Instant) : s.Signs now 7 draws := ⟨⟨_, rfl⟩, _, rfl⟩
  have found : Memory.deadline? start.steady s.settings.refreshLifetime =
      some (.ofSeconds 2592000) := rfl
  obtain ⟨token, minted, joint, current, (state : st = _)⟩ :=
    exists_issued (signs start.wall) rfl (by decide) (by decide) found span (by decide)
  have clock : st.clock = start.advance span := by rw [state]
  have inside : Instant.inCalendar st.clock.wall.seconds = true := by
    rw [clock]
    decide
  obtain ⟨before, issue, after, claims, opening, names, accepted, refreshed⟩ :=
    refresh_of_latest rfl (by decide) KeyPair.sound_digest joint (by decide) (by decide) inside
      current
  obtain rfl := opening.before_eq_nil
  have expiry : claims.expiry.toInt = 2592100 := names.expiry
  have early : ¬claims.expiry.toInt + s.codec.leeway.toNat < st.clock.wall.seconds := by
    rw [expiry, clock]
    decide
  have over_now : ¬st.clock.wall < start.wall.add s.settings.refreshLifetime := by
    rw [clock]
    decide
  have working : st.memory.readsFail = false ∧ st.memory.writesFail = false := by
    rw [state]
    exact ⟨rfl, rfl⟩
  have later : Memory.deadline? st.clock.steady s.settings.refreshLifetime =
      some ⟨5184000500000000⟩ := by
    rw [clock]
    rfl
  obtain ⟨_, _, in_between, _⟩ := refreshed draws (signs _)
    (served_of_working working.1 working.2 later token draws)
  refine ⟨token, claims, minted, Int64.toInt_inj.mp expiry, ?_, ?_, ?_⟩
  · rw [clock]
    decide
  · exact accepted.trans (if_neg early)
  · exact in_between early over_now

/-- Half a minute into a leeway of a minute, the token that was handed out last is accepted and does
not redeem: a refresh reports it as revoked, with a store that works and clocks that moved
together. -/
theorem not_redeemsWhileAccepted_in_leeway :
    let s : Service := ⟨⟨.digest, none, 60⟩, .default⟩
    let start : Clock := ⟨.ofSeconds 100, .ofSeconds 0⟩
    let draws : Draws := ⟨⟨"a", []⟩, ⟨"b", []⟩⟩
    let span : Span := .ofSeconds 2592030
    let actions : List Action := [.generate 7 draws, .advance span span]
    let st := s.run (.fresh start) actions
    s.settings.validate = .ok () ∧ (s.codec.leeway.toNat : Int) ≤ start.wall.seconds ∧
      (∀ action ∈ actions, action.MovesJointly) ∧
      st.memory.readsFail = false ∧ st.memory.writesFail = false ∧
      ∃ token claims, latest (s.history (.fresh start) actions) 7 = some token ∧
        (s.step st (.parse token)).outcome = .ok (.parsed claims) ∧
        (s.step st (.refresh token draws)).outcome = refuse .tokenRevoked ∧
        ¬s.RedeemsWhileAccepted st token draws := by
  intro s start draws span actions st
  have signs : s.Signs start.wall 7 draws := ⟨⟨_, rfl⟩, _, rfl⟩
  have found : Memory.deadline? start.steady s.settings.refreshLifetime =
      some (.ofSeconds 2592000) := rfl
  obtain ⟨token, minted, joint, current, (state : st = _)⟩ :=
    exists_issued signs rfl (by decide) (by decide) found span (by decide)
  have clock : st.clock = start.advance span := by rw [state]
  let claims := Claims.issue 7 start.wall s.settings.refreshLifetime "b" none
  have names : s.Names start.wall 7 token claims := .of_mint minted (by decide) (by decide)
  have verified : s.codec.verify st.clock.wall token = .ok claims := by
    rw [clock]
    exact (names.verify_eq KeyPair.sound_digest (by decide) (by decide)).trans
      (if_neg (by decide))
  have working : st.memory.readsFail = false ∧ st.memory.writesFail = false := by
    rw [state]
    exact ⟨rfl, rfl⟩
  have missing : st.memory.live? st.clock.steady (s.sessionKey 7) = none := by
    have dead : Instant.ofSeconds 2592000 ≤ (start.advance span).steady := by decide
    rw [state]
    exact Memory.live?_eq_none_of_dead (e := ⟨token, .ofSeconds 2592000⟩) (by simp) dead
  have accepted : (s.step st (.parse token)).outcome = .ok (.parsed claims) := by
    rw [parse_eq, verified]
    rfl
  have revoked := refresh_of_missing verified working.1 missing draws
  exact ⟨rfl, by decide, joint, working.1, working.2, token, claims, current, accepted, revoked,
    fun while_accepted => while_accepted.2.2 revoked⟩

end TokenLifecycle.Service
