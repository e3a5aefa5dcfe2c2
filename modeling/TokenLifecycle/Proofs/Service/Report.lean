import Mathlib.Tactic
import TokenLifecycle.Proofs.Service.Redemption
import TokenLifecycle.Proofs.Service.Renewal

/-!
# What a pair of tokens says

Issuing and redeeming end with a pair of tokens and two lifetimes, which are computed apart from the
claims in the tokens and from the entry in the store. A state bears out such a pair when the tokens
verify for the principal, their times are those reported, the store holds the refresh token, and a
refresh gives it back. `bearsOut_step` says that every pair that is handed out is borne out by the
state behind the step; the main statement `report_holds` adds that its tokens are new.
-/

namespace TokenLifecycle

namespace Service

open Session (Memory)

/-- What a decision about a token comes from. -/
theorem eq_of_rotationDue {claims : Claims} {now : Instant} {remaining : Span} {due : Bool}
    (ordered : claims.issuedAt.toInt < claims.expiry.toInt)
    (decided : rotationDue claims now = .ok (remaining, due)) :
    remaining = .ofSeconds (claims.expiry.toInt - now.seconds) ∧
      remaining.isRepresentable = true ∧ due = decide (claims.IsDue now) := by
  have measured := decided
  unfold rotationDue at measured
  split at measured
  · cases measured
  · rename_i left remaining_eq
    split at measured
    · cases measured
    · rename_i whole lifetime_eq
      obtain ⟨rfl, _⟩ := Prod.mk.inj (Except.ok.inj measured)
      obtain ⟨remaining_fits, rfl⟩ := Claims.spanBetween_eq_ok_iff.mp remaining_eq
      obtain ⟨lifetime_fits, rfl⟩ := Claims.spanBetween_eq_ok_iff.mp lifetime_eq
      rw [rotationDue_eq_of_fits ordered lifetime_fits remaining_fits] at decided
      obtain ⟨_, same⟩ := Prod.mk.inj (Except.ok.inj decided)
      exact ⟨rfl, remaining_fits, same.symm⟩

/-! ### Pairs that a state bears out -/

/-- The principal and the pair of tokens that an event hands out. -/
def reported? : Event → Option (Int64 × TokenPair)
  | (.generate uid _, .ok (.generated pair)) => some (uid, pair)
  | (.refresh _ _, .ok (.refreshed r)) => some (r.uid, r.tokens)
  | _ => none

/-- All that a pair of tokens says of a principal holds in a state: both tokens verify, their
lifetimes are those reported, the store holds the refresh token, and redeeming it at once gives it
back, as often as it is done. -/
structure BearsOut (s : Service) (st : State) (uid : Int64) (pair : TokenPair) : Prop where
  access : ∃ claims, s.codec.verify st.clock.wall pair.accessToken = .ok claims ∧
    claims.uid = uid ∧
    claims.expiry.toInt - claims.issuedAt.toInt = pair.accessExpiresIn.toInt
  access_lifetime : pair.accessExpiresIn.toInt = s.settings.accessLifetime.wholeSeconds
  refresh : ∃ claims, s.codec.verify st.clock.wall pair.refreshToken = .ok claims ∧
    claims.uid = uid ∧
    claims.expiry.toInt - st.clock.wall.seconds = pair.refreshExpiresIn.toInt
  stored : ∃ deadline, st.memory.live? st.clock.steady (s.sessionKey uid) =
    some ⟨pair.refreshToken, deadline⟩
  redeems : st.memory.readsFail = false → ∀ draws : Draws,
    (∃ signature, s.codec.keys.sign draws.access.entropy
      (s.codec.mintedMessage st.clock.wall uid s.settings.accessLifetime draws.access) =
        some signature) →
    ∃ redeemed,
      (s.step st (.refresh pair.refreshToken draws)).outcome = .ok (.refreshed redeemed) ∧
      (s.step st (.refresh pair.refreshToken draws)).state = st ∧
      redeemed.uid = uid ∧ redeemed.rotated = false ∧
      redeemed.tokens.refreshToken = pair.refreshToken ∧
      redeemed.tokens.refreshExpiresIn = pair.refreshExpiresIn

section

variable {s : Service} {st : State} {token access : String} {draw : Draw} {claims : Claims}
  {deadline : Instant} {remaining : Span}

theorem state_of_unrotated {draws : Draws} {redeemed : Refreshed}
    (succeeds : (s.step st (.refresh token draws)).outcome = .ok (.refreshed redeemed))
    (unrotated : redeemed.rotated = false) : (s.step st (.refresh token draws)).state = st := by
  have ends := step_ends s st (.refresh token draws)
  rw [succeeds] at ends
  generalize (s.step st (.refresh token draws)).state = next at ends ⊢
  cases ends with
  | kept => rfl
  | rotated => cases unrotated

/-- A live token that verifies and is not due is borne out, beside an access token that has just
been minted. -/
theorem bearsOut_of_not_due (sound : s.codec.keys.Sound)
    (access_bounded : s.settings.accessLifetime.isRepresentable = true)
    (inside : Instant.inCalendar st.clock.wall.seconds = true)
    (running : (s.codec.leeway.toNat : Int) ≤ st.clock.wall.seconds)
    (minted : s.codec.mint st.clock.wall claims.uid s.settings.accessLifetime draw = .ok access)
    (verified : s.codec.verify st.clock.wall token = .ok claims)
    (live : st.memory.live? st.clock.steady (s.sessionKey claims.uid) = some ⟨token, deadline⟩)
    (decided : rotationDue claims st.clock.wall = .ok (remaining, false)) :
    s.BearsOut st claims.uid (.ofTokens access token s.settings.accessLifetime remaining) := by
  obtain ⟨uid_ne, positive, _⟩ := Codec.mint_eq_ok_iff.mp minted
  have short := Span.wholeSeconds_le_of_isRepresentable access_bounded
  have reported : (Int64.ofInt s.settings.accessLifetime.wholeSeconds).toInt =
      s.settings.accessLifetime.wholeSeconds := Int64.toInt_ofInt_of_le (by omega) (by omega)
  refine ⟨⟨_, Codec.verify_at_mint sound inside access_bounded running minted, rfl, ?_⟩, reported,
    ⟨claims, verified, rfl, ?_⟩, ⟨deadline, live⟩, ?_⟩
  · rw [Claims.expiry_issue _ _ _ inside access_bounded positive,
      Claims.issuedAt_issue _ _ _ inside, TokenPair.ofTokens, reported]
    omega
  · have ordered := Codec.issuedAt_lt_of_verify verified
    obtain ⟨rfl, fits, same⟩ := eq_of_rotationDue ordered decided
    have left := Claims.IsDue.remaining_pos_of_not ordered (of_decide_eq_false same.symm)
    have bounds := Span.isRepresentable_ofSeconds_iff.mp fits
    have whole := Span.wholeSeconds_ofSeconds (claims.expiry.toInt - st.clock.wall.seconds)
    rw [TokenPair.refreshExpiresIn_ofTokens _ _ _ (by omega) (by omega), whole]
  · rintro reading draws ⟨signature, signed⟩
    have minted' := Codec.mint_eq_ok_iff.mpr ⟨uid_ne, positive, signature, signed, rfl⟩
    have succeeds := step_kept verified reading live minted' decided
    exact ⟨_, succeeds, state_of_unrotated succeeds rfl, rfl, rfl, rfl, rfl⟩

/-- A refresh token that has just been minted and stored is borne out. -/
theorem bearsOut_insert {uid : Int64} {refresh : String} {draw' : Draw}
    (sound : s.codec.keys.Sound)
    (access_bounded : s.settings.accessLifetime.isRepresentable = true)
    (bounded : s.settings.refreshLifetime.isRepresentable = true)
    (inside : Instant.inCalendar st.clock.wall.seconds = true)
    (running : (s.codec.leeway.toNat : Int) ≤ st.clock.wall.seconds)
    (minted : s.codec.mint st.clock.wall uid s.settings.accessLifetime draw = .ok access)
    (minted_refresh :
      s.codec.mint st.clock.wall uid s.settings.refreshLifetime draw' = .ok refresh)
    (found : Memory.deadline? st.clock.steady s.settings.refreshLifetime = some deadline) :
    s.BearsOut { st with memory := st.memory.insert (s.sessionKey uid) ⟨refresh, deadline⟩ } uid
      (.ofTokens access refresh s.settings.accessLifetime s.settings.refreshLifetime) := by
  let next : State :=
    { st with memory := st.memory.insert (s.sessionKey uid) ⟨refresh, deadline⟩ }
  let issued : Claims :=
    .issue uid st.clock.wall s.settings.refreshLifetime draw'.jti s.codec.issuer
  have names : s.Names st.clock.wall uid refresh issued := .of_mint minted_refresh bounded inside
  have positive := names.positive
  have expiry := names.expiry
  have verified := Codec.verify_at_mint sound inside bounded running minted_refresh
  have live := (Kept.insert minted_refresh found).live?_eq
  have current : st.clock.wall < st.clock.wall.add s.settings.refreshLifetime := by
    have whole := Span.wholeSeconds_bounds positive
    simp only [Instant.lt_iff, Instant.add]
    omega
  rw [if_pos current] at live
  have decided := names.rotationDue_eq (Int.le_refl _) (by omega)
  have left : issued.expiry.toInt - st.clock.wall.seconds =
      s.settings.refreshLifetime.wholeSeconds := by omega
  rw [left, decide_eq_false (by omega)] at decided
  have borne : s.BearsOut next issued.uid (.ofTokens access refresh s.settings.accessLifetime
      (.ofSeconds s.settings.refreshLifetime.wholeSeconds)) :=
    bearsOut_of_not_due sound access_bounded inside running minted verified live decided
  rw [TokenPair.ofTokens, Span.wholeSeconds_ofSeconds] at borne
  exact borne

/-- The state behind a step bears out the pair that the step hands out. -/
theorem bearsOut_step (sound : s.codec.keys.Sound)
    (access_bounded : s.settings.accessLifetime.isRepresentable = true)
    (bounded : s.settings.refreshLifetime.isRepresentable = true)
    (inside : Instant.inCalendar st.clock.wall.seconds = true)
    (running : (s.codec.leeway.toNat : Int) ≤ st.clock.wall.seconds) {action : Action}
    {uid : Int64} {pair : TokenPair}
    (reports : reported? (action, (s.step st action).outcome) = some (uid, pair)) :
    s.BearsOut (s.step st action).state uid pair := by
  have ends := step_ends s st action
  generalize (s.step st action).outcome = outcome at ends reports
  generalize (s.step st action).state = next at ends ⊢
  cases ends with
  | failed => cases action <;> cases reports
  | generated minted minted_refresh _ found =>
      cases reports
      exact bearsOut_insert sound access_bounded bounded inside running minted minted_refresh found
  | kept verified _ live minted decided =>
      cases reports
      exact bearsOut_of_not_due sound access_bounded inside running minted verified live decided
  | rotated _ _ _ minted _ minted_refresh _ found =>
      cases reports
      exact bearsOut_insert sound access_bounded bounded inside running minted minted_refresh found
  | _ => cases reports

end

/-! ### Tokens that are new -/

section

variable {s : Service} {st : State} {action : Action} {uid : Int64} {pair : TokenPair}

/-- The event redeems a token without replacing it. -/
def Keeps (token : String) (event : Event) : Prop :=
  ∃ draws redeemed, event = (.refresh token draws, .ok (.refreshed redeemed)) ∧
    redeemed.rotated = false

theorem mem_accessTokens_of_reported {event : Event}
    (reports : reported? event = some (uid, pair)) :
    pair.accessToken ∈ accessTokens event := by
  unfold reported? at reports
  split at reports
  · cases reports
    exact List.mem_singleton_self _
  · cases reports
    exact List.mem_singleton_self _
  · cases reports

/-- The refresh token of a pair is handed out for the first time, or it is the presented one. -/
theorem refreshToken_cases
    (reports : reported? (action, (s.step st action).outcome) = some (uid, pair)) :
    pair.refreshToken ∈ refreshTokens (action, (s.step st action).outcome) ∨
      Keeps pair.refreshToken (action, (s.step st action).outcome) := by
  have ends := step_ends s st action
  generalize (s.step st action).outcome = outcome at ends reports ⊢
  generalize (s.step st action).state = next at ends
  cases ends with
  | failed => cases action <;> cases reports
  | generated =>
      cases reports
      exact .inl (List.mem_singleton_self _)
  | kept =>
      cases reports
      exact .inr ⟨_, _, rfl, rfl⟩
  | rotated =>
      cases reports
      exact .inl (List.mem_singleton_self _)
  | _ => cases reports

/-- A token with an identifier that has not been drawn before has not been handed out before. -/
theorem not_mem_handedOut_of_drawn {actions : List Action} {token jti : String}
    (distinct : ((actions ++ [action]).flatMap Action.identifiers).Nodup)
    (drawn : jti ∈ action.identifiers) (minted : s.Minted token jti) :
    token ∉ (s.history st actions).flatMap handedOut := by
  intro given
  obtain ⟨jti', earlier, minted'⟩ := minted_of_history minted_of_handedOut given
  obtain rfl := minted.unique minted'
  rw [List.flatMap_append, List.flatMap_singleton] at distinct
  exact List.disjoint_of_nodup_append distinct earlier drawn

end

/-- After any run, whatever the clocks have shown before, every pair of tokens that is handed out is
borne out by the store, by the claims in its tokens, and by a refresh at once: the access token
holds for the access lifetime, the refresh token for the seconds that are reported of it, and it is
the one that the store holds and that a refresh gives back. When no identifier is drawn twice, the
two tokens differ, and neither has been handed out before, unless it is a refresh token that is
kept. -/
theorem report_holds {s : Service} (sound : s.codec.keys.Sound)
    (access_bounded : s.settings.accessLifetime.isRepresentable = true)
    (bounded : s.settings.refreshLifetime.isRepresentable = true) {start : Clock}
    {actions : List Action}
    (inside : Instant.inCalendar (s.run (.fresh start) actions).clock.wall.seconds = true)
    (running :
      (s.codec.leeway.toNat : Int) ≤ (s.run (.fresh start) actions).clock.wall.seconds)
    {action : Action} {uid : Int64} {pair : TokenPair}
    (reports : reported? (action, (s.step (s.run (.fresh start) actions) action).outcome) =
      some (uid, pair)) :
    let st := s.run (.fresh start) actions
    let earlier := (s.history (.fresh start) actions).flatMap handedOut
    s.BearsOut (s.step st action).state uid pair ∧
      (((actions ++ [action]).flatMap Action.identifiers).Nodup →
        pair.accessToken ≠ pair.refreshToken ∧ pair.accessToken ∉ earlier ∧
          (pair.refreshToken ∉ earlier ∨
            Keeps pair.refreshToken (action, (s.step st action).outcome))) := by
  intro st earlier
  refine ⟨bearsOut_step sound access_bounded bounded inside running reports, fun distinct => ?_⟩
  obtain ⟨jti, drawn, minted⟩ := minted_of_accessTokens (mem_accessTokens_of_reported reports)
  have new_access : pair.accessToken ∉ earlier :=
    not_mem_handedOut_of_drawn distinct (List.mem_append_left _ drawn) minted
  rcases refreshToken_cases reports with given | kept
  · obtain ⟨jti', drawn', minted'⟩ := minted_of_refreshTokens given
    have here : action.identifiers.Nodup := by
      rw [List.flatMap_append, List.flatMap_singleton, List.nodup_append'] at distinct
      exact distinct.2.1
    refine ⟨fun same => ?_, new_access, .inl ?_⟩
    · rw [same] at minted
      obtain rfl := minted.unique minted'
      exact List.disjoint_of_nodup_append here drawn drawn'
    · exact not_mem_handedOut_of_drawn distinct (List.mem_append_right _ drawn') minted'
  · obtain ⟨draws, redeemed, happened, _⟩ := id kept
    obtain ⟨rfl, succeeds⟩ := Prod.mk.inj happened
    obtain ⟨claims, _, _, _, _, current⟩ :=
      latest_of_refreshed (recorded_run s start actions) succeeds
    obtain ⟨event, taken, given⟩ := List.mem_flatMap.mp (refreshTokens_of_latest current)
    have presented : pair.refreshToken ∈ earlier :=
      List.mem_flatMap.mpr ⟨event, taken, List.mem_append_right _ given⟩
    exact ⟨fun same => new_access (same ▸ presented), new_access, .inr kept⟩

/-- Half a second past the twenty-fifth day a refresh token is replaced, and the new pair is borne
out. -/
theorem report_holds_after_rotation :
    let s : Service := ⟨⟨.digest, some "a", 30⟩, .default⟩
    let start : Clock := ⟨⟨1000500000000⟩, .ofSeconds 0⟩
    let draws : Draws := ⟨⟨"a", []⟩, ⟨"b", []⟩⟩
    let later : Draws := ⟨⟨"c", []⟩, ⟨"d", []⟩⟩
    let wait : Span := .ofSeconds 2160000
    let actions : List Action := [.generate 7 draws, .advance wait wait]
    let st := s.run (.fresh start) actions
    ∃ token redeemed, (s.step st (.refresh token later)).outcome = .ok (.refreshed redeemed) ∧
      redeemed.rotated = true ∧
      s.BearsOut (s.step st (.refresh token later)).state 7 redeemed.tokens ∧
      redeemed.tokens.accessToken ≠ redeemed.tokens.refreshToken := by
  intro s start draws later wait actions st
  let now : Clock := start.advance wait
  have signs (now : Instant) (draws : Draws) : s.Signs now 7 draws := ⟨⟨_, rfl⟩, _, rfl⟩
  have uid_ne : (7 : Int64) ≠ 0 := by decide
  have inside : Instant.inCalendar now.wall.seconds = true := by decide
  have running : (s.codec.leeway.toNat : Int) ≤ now.wall.seconds := by decide
  obtain ⟨token, minted, _, _, (after : st = _)⟩ :=
    exists_issued (signs start.wall draws) rfl uid_ne (by decide) rfl wait (by decide)
  obtain ⟨⟨access, minted_access⟩, refresh, minted_refresh⟩ :=
    (signs now.wall later).exists_mint rfl uid_ne
  let pair : TokenPair :=
    .ofTokens access refresh s.settings.accessLifetime s.settings.refreshLifetime
  have names : s.Names start.wall 7 token _ := .of_mint minted (by decide) (by decide)
  have verified := names.verify_eq KeyPair.sound_digest (by decide) running
  rw [if_neg (by decide)] at verified
  have issued : start.wall.seconds ≤ now.wall.seconds := by decide
  have decided := names.rotationDue_eq issued (by decide)
  rw [decide_eq_true (by decide)] at decided
  have clock : st.clock = now := congrArg State.clock after
  have live : st.memory.live? st.clock.steady (s.sessionKey 7) =
      some ⟨token, start.steady.add s.settings.refreshLifetime⟩ := by
    rw [after, Memory.live?_insert, if_pos rfl]
    rfl
  have reading : st.memory.readsFail = false := by rw [after]; rfl
  have writing : st.memory.writesFail = false := by rw [after]; rfl
  rw [← clock] at inside running verified decided minted_access minted_refresh
  have storable : Memory.deadline? st.clock.steady s.settings.refreshLifetime =
      some (now.steady.add s.settings.refreshLifetime) := by rw [clock]; rfl
  have succeeds : (s.step st (.refresh token later)).outcome = .ok (.refreshed ⟨pair, 7, true⟩) :=
    step_rotated verified reading live minted_access decided minted_refresh writing storable
  have reports : reported? (.refresh token later, (s.step st (.refresh token later)).outcome) =
      some (7, pair) := by
    rw [succeeds]
    rfl
  obtain ⟨borne, new⟩ := report_holds KeyPair.sound_digest (by decide) (by decide) inside running
    reports
  have drawn : (actions ++ [Action.refresh token later]).flatMap Action.identifiers =
      ["a", "b", "c", "d"] := rfl
  have distinct : ((actions ++ [Action.refresh token later]).flatMap Action.identifiers).Nodup := by
    rw [drawn]
    decide
  exact ⟨token, _, succeeds, rfl, borne, (new distinct).1⟩

end Service

end TokenLifecycle
