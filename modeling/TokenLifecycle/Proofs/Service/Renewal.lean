import Mathlib.Tactic
import TokenLifecycle.Proofs.Service.Causes
import TokenLifecycle.Proofs.Service.Discipline
import TokenLifecycle.Proofs.Service.Rotation

/-!
# How the stored token is redeemed

The service compares a span of whole seconds with a third of another one that it keeps to the
nanosecond. For a stored token this comes to a comparison of whole numbers, `Claims.IsDue`, in which
neither the settings nor the fraction of a second appear. `renewal` says once how the redemption of
a stored token can go, and the main statement `rotates_iff_isDue` what follows for its result.
-/

namespace TokenLifecycle

/-- Less than a third of the lifetime is left, in whole seconds. -/
def Claims.IsDue (c : Claims) (now : Instant) : Prop :=
  3 * (c.expiry.toInt - now.seconds) < c.expiry.toInt - c.issuedAt.toInt

instance (c : Claims) (now : Instant) : Decidable (c.IsDue now) :=
  inferInstanceAs (Decidable (_ < _))

namespace Claims.IsDue

variable {c c' : Claims} {now later : Instant}

/-- Once a token is due, every token with its times stays due. -/
theorem mono (due : c.IsDue now) (same_issue : c'.issuedAt = c.issuedAt)
    (same_expiry : c'.expiry = c.expiry) (forward : now.seconds ≤ later.seconds) :
    c'.IsDue later := by
  unfold IsDue at due ⊢
  rw [same_issue, same_expiry]
  omega

theorem not_of_issue (ordered : c.issuedAt.toInt < c.expiry.toInt)
    (early : now.seconds ≤ c.issuedAt.toInt) : ¬c.IsDue now := by
  unfold IsDue
  omega

/-- What is left of a token that is not due. -/
theorem remaining_pos_of_not (ordered : c.issuedAt.toInt < c.expiry.toInt)
    (undue : ¬c.IsDue now) : 0 < c.expiry.toInt - now.seconds := by
  unfold IsDue at undue
  omega

end Claims.IsDue

theorem Codec.issuedAt_lt_of_verify {c : Codec} {now : Instant} {token : String} {claims : Claims}
    (verified : c.verify now token = .ok claims) : claims.issuedAt.toInt < claims.expiry.toInt := by
  obtain ⟨_, _, taken⟩ := verify_eq_ok_iff.mp verified
  obtain ⟨_, _, _, _, _, _, _, ordered⟩ := accept_eq_ok_iff.mp taken
  exact Int64.lt_iff_toInt_lt.mp ordered

/-- A lifetime of a second at least is reported as it is. -/
theorem TokenPair.refreshExpiresIn_ofTokens (access refresh : String) (accessLifetime : Span)
    {lifetime : Span} (positive : 0 < lifetime.wholeSeconds)
    (fits : lifetime.wholeSeconds ≤ 9223372036854775) :
    (ofTokens access refresh accessLifetime lifetime).refreshExpiresIn.toInt =
      lifetime.wholeSeconds := by
  rw [ofTokens, max_eq_right positive.le]
  exact Int64.toInt_ofInt_of_le (by omega) (by omega)

namespace Service

open Session (Call Script Store)

/-- A verified token that a store answers with, and whose times are near enough to each other and to
the clock that what lies between them are spans. -/
structure Presents {σ : Type} (s : Service) (store : Store σ) (st : σ) (now : Instant)
    (token : String) (claims : Claims) : Prop where
  verified : s.codec.verify now token = .ok claims
  stored : (store.get (s.sessionKey claims.uid) st).outcome = .ok (some token)
  lifetime_fits :
    (Span.ofSeconds (claims.expiry.toInt - claims.issuedAt.toInt)).isRepresentable = true
  remaining_fits : (Span.ofSeconds (claims.expiry.toInt - now.seconds)).isRepresentable = true

/-- The ways in which the stored token can be redeemed. -/
inductive Renewal (s : Service) (now : Instant) (draws : Draws) (token : String)
    (claims : Claims) : List Call → Outcome Answer → Prop
  /-- A token that is needed cannot be minted. -/
  | unminted {f : Failure} :
      (s.codec.mint now claims.uid s.settings.accessLifetime draws.access = .error f ∨
        s.codec.mint now claims.uid s.settings.refreshLifetime draws.refresh = .error f) →
      Renewal s now draws token claims [.get (s.sessionKey claims.uid) (.ok (some token))]
        (.error f)
  | kept {access : String} :
      ¬claims.IsDue now →
      Renewal s now draws token claims [.get (s.sessionKey claims.uid) (.ok (some token))]
        (.ok (.refreshed
          ⟨.ofTokens access token s.settings.accessLifetime
            (.ofSeconds (claims.expiry.toInt - now.seconds)), claims.uid, false⟩))
  | unwritten {refresh : String} (f : Failure) :
      claims.IsDue now →
      s.codec.mint now claims.uid s.settings.refreshLifetime draws.refresh = .ok refresh →
      Renewal s now draws token claims
        [.get (s.sessionKey claims.uid) (.ok (some token)),
          .set (s.sessionKey claims.uid) refresh s.settings.refreshLifetime (.error f)]
        (.error (reported f))
  | rotated {access refresh : String} :
      claims.IsDue now →
      s.codec.mint now claims.uid s.settings.refreshLifetime draws.refresh = .ok refresh →
      Renewal s now draws token claims
        [.get (s.sessionKey claims.uid) (.ok (some token)),
          .set (s.sessionKey claims.uid) refresh s.settings.refreshLifetime (.ok ())]
        (.ok (.refreshed
          ⟨.ofTokens access refresh s.settings.accessLifetime s.settings.refreshLifetime,
            claims.uid, true⟩))

/-- The decision in whole numbers, at every instant that is near enough to the expiry. -/
theorem rotationDue_eq_of_fits {claims : Claims} {now : Instant}
    (ordered : claims.issuedAt.toInt < claims.expiry.toInt)
    (lifetime_fits :
      (Span.ofSeconds (claims.expiry.toInt - claims.issuedAt.toInt)).isRepresentable = true)
    (remaining_fits :
      (Span.ofSeconds (claims.expiry.toInt - now.seconds)).isRepresentable = true) :
    rotationDue claims now =
      .ok (.ofSeconds (claims.expiry.toInt - now.seconds), decide (claims.IsDue now)) := by
  obtain ⟨_, short⟩ := Span.isRepresentable_ofSeconds_iff.mp lifetime_fits
  obtain ⟨low, high⟩ := Span.isRepresentable_ofSeconds_iff.mp remaining_fits
  exact rotationDue_eq ordered.le short low high

section

variable {σ : Type} {s : Service} {store : Store σ} {st : σ} {now : Instant} {token : String}
  {claims : Claims} (presents : Presents s store st now token claims) (draws : Draws)

include presents

theorem Presents.rotationDue_eq : rotationDue claims now =
    .ok (.ofSeconds (claims.expiry.toInt - now.seconds), decide (claims.IsDue now)) :=
  rotationDue_eq_of_fits (Codec.issuedAt_lt_of_verify presents.verified) presents.lifetime_fits
    presents.remaining_fits

/-- Over every store, the token that it answers with is redeemed in one of the given ways. -/
theorem renewal :
    Renewal s now draws token claims ((s.script now draws (.refresh token)).calls store st)
      ((s.script now draws (.refresh token)).run store st).outcome := by
  have decided := presents.rotationDue_eq
  have course := s.course now draws store st (.refresh token)
  generalize made : (s.script now draws (.refresh token)).calls store st = calls at course ⊢
  generalize ((s.script now draws (.refresh token)).run store st).outcome = outcome at course ⊢
  -- The first call is answered in the state `st`, hence with the presented token.
  have answer_eq {claims' : Claims} {answer : Outcome (Option String)} {rest : List Call}
      (verified : s.codec.verify now token = .ok claims')
      (first : calls = .get (s.sessionKey claims'.uid) answer :: rest) :
      claims' = claims ∧ answer = .ok (some token) := by
    obtain rfl := Except.ok.inj (verified.symm.trans presents.verified)
    have answered := Script.answeredBy_of_calls_eq_cons (made.trans first)
    exact ⟨rfl, answered.symm.trans presents.stored⟩
  cases course with
  | early before => exact absurd (Codec.running_of_verify presents.verified) (by omega)
  | refused fails =>
      rw [refreshClaims_eq_ok_iff.mpr presents.verified] at fails
      cases fails
  | unread f verified => cases (answer_eq verified rfl).2
  | revoked verified other => exact absurd (Except.ok.inj (answer_eq verified rfl).2) other
  | unredeemed verified fails =>
      obtain ⟨rfl, _⟩ := answer_eq verified rfl
      rw [decided] at fails
      rcases fails with no_access | undecided | no_refresh
      · exact .unminted (.inl no_access)
      · cases undecided
      · exact .unminted (.inr no_refresh)
  | kept verified minted kept =>
      obtain ⟨rfl, _⟩ := answer_eq verified rfl
      obtain ⟨rfl, undue⟩ := Prod.mk.inj (Except.ok.inj (decided.symm.trans kept))
      exact .kept (of_decide_eq_false undue)
  | unrotated f verified minted rotates minted_refresh =>
      obtain ⟨rfl, _⟩ := answer_eq verified rfl
      obtain ⟨_, due⟩ := Prod.mk.inj (Except.ok.inj (decided.symm.trans rotates))
      exact .unwritten f (of_decide_eq_true due) minted_refresh
  | rotated verified minted rotates minted_refresh =>
      obtain ⟨rfl, _⟩ := answer_eq verified rfl
      obtain ⟨_, due⟩ := Prod.mk.inj (Except.ok.inj (decided.symm.trans rotates))
      exact .rotated (of_decide_eq_true due) minted_refresh

end

namespace Renewal

variable {s : Service} {now : Instant} {draws : Draws} {token : String} {claims : Claims}
  {calls : List Call} {outcome : Outcome Answer} {redeemed : Refreshed}

theorem rotated_iff (renewal : Renewal s now draws token claims calls outcome)
    (succeeds : outcome = .ok (.refreshed redeemed)) :
    redeemed.rotated = true ↔ claims.IsDue now := by
  cases renewal with
  | unminted | unwritten => cases succeeds
  | kept undue =>
      cases succeeds
      simp [undue]
  | rotated due =>
      cases succeeds
      simp [due]

theorem isDue_of_set (renewal : Renewal s now draws token claims calls outcome)
    {key value : String} {ttl : Span} {answer : Outcome Unit}
    (made : .set key value ttl answer ∈ calls) : claims.IsDue now := by
  cases renewal with
  | unminted | kept => simp at made
  | unwritten _ due | rotated due => exact due

/-- A token that is not due is given back, with what is left of it. -/
theorem kept_of_not_isDue (renewal : Renewal s now draws token claims calls outcome)
    (ordered : claims.issuedAt.toInt < claims.expiry.toInt)
    (fits : (Span.ofSeconds (claims.expiry.toInt - now.seconds)).isRepresentable = true)
    (succeeds : outcome = .ok (.refreshed redeemed)) (undue : ¬claims.IsDue now) :
    redeemed.tokens.refreshToken = token ∧
      redeemed.tokens.refreshExpiresIn.toInt = claims.expiry.toInt - now.seconds ∧
      0 < claims.expiry.toInt - now.seconds := by
  cases renewal with
  | unminted | unwritten => cases succeeds
  | kept =>
      cases succeeds
      have positive := Claims.IsDue.remaining_pos_of_not ordered undue
      have short := (Span.isRepresentable_ofSeconds_iff.mp fits).2
      have whole := Span.wholeSeconds_ofSeconds (claims.expiry.toInt - now.seconds)
      refine ⟨rfl, ?_, positive⟩
      rw [TokenPair.refreshExpiresIn_ofTokens _ _ _ (by omega) (by omega), whole]
  | rotated due => exact absurd due undue

/-- When both tokens can be minted, a token that is not due is kept without a further call, and one
that is due is replaced unless the store fails to write its successor. -/
theorem of_mints (renewal : Renewal s now draws token claims calls outcome)
    (mints : s.Mints now draws) (uid_ne : claims.uid ≠ 0) :
    (¬claims.IsDue now → calls = [.get (s.sessionKey claims.uid) (.ok (some token))] ∧
      ∃ redeemed, outcome = .ok (.refreshed redeemed)) ∧
    (claims.IsDue now → ∃ refresh written,
      s.codec.mint now claims.uid s.settings.refreshLifetime draws.refresh = .ok refresh ∧
        calls = [.get (s.sessionKey claims.uid) (.ok (some token)),
          .set (s.sessionKey claims.uid) refresh s.settings.refreshLifetime written] ∧
        (written = .ok () → ∃ redeemed, outcome = .ok (.refreshed redeemed) ∧
          redeemed.tokens.refreshToken = refresh) ∧
        ∀ f, written = .error f → outcome = .error (reported f)) := by
  cases renewal with
  | unminted fails =>
      rcases fails with no_access | no_refresh
      · exact absurd (mints.access no_access).1 uid_ne
      · exact absurd (mints.refresh no_refresh).1 uid_ne
  | kept undue => exact ⟨fun _ => ⟨rfl, _, rfl⟩, fun due => absurd due undue⟩
  | unwritten f due minted =>
      refine ⟨fun undue => absurd due undue, fun _ => ⟨_, .error f, minted, rfl, nofun, ?_⟩⟩
      rintro f' ⟨⟩
      rfl
  | rotated due minted =>
      exact ⟨fun undue => absurd due undue,
        fun _ => ⟨_, .ok (), minted, rfl, fun _ => ⟨_, rfl, rfl⟩, nofun⟩⟩

end Renewal

/-- Redeeming the token that a store answers with gives a new refresh token exactly when less than a
third of the old one's lifetime is left in whole seconds, and offers none to the store before. So
the settings, the store and the fraction of a second do not count: any two services agree about
tokens with the same times in the same second, once a token is due it stays due, and none is due
when it is issued. What is reported of a token that is kept is what is left of it, which is
positive. When both tokens can be minted, only the store can keep the redemption from its end. -/
theorem rotates_iff_isDue {σ : Type} {s : Service} {store : Store σ} {st : σ} {now : Instant}
    {token : String} {claims : Claims} (presents : Presents s store st now token claims)
    (draws : Draws) :
    let calls := (s.script now draws (.refresh token)).calls store st
    let outcome := ((s.script now draws (.refresh token)).run store st).outcome
    (∀ instant : Instant,
      (Span.ofSeconds (claims.expiry.toInt - instant.seconds)).isRepresentable = true →
        rotationDue claims instant =
          .ok (.ofSeconds (claims.expiry.toInt - instant.seconds),
            decide (3 * (claims.expiry.toInt - instant.seconds) <
              claims.expiry.toInt - claims.issuedAt.toInt))) ∧
    (∀ redeemed, outcome = .ok (.refreshed redeemed) →
      (redeemed.rotated = true ↔
        3 * (claims.expiry.toInt - now.seconds) < claims.expiry.toInt - claims.issuedAt.toInt) ∧
      (now.seconds ≤ claims.issuedAt.toInt → redeemed.rotated = false) ∧
      (redeemed.rotated = false →
        redeemed.tokens.refreshToken = token ∧
          redeemed.tokens.refreshExpiresIn.toInt = claims.expiry.toInt - now.seconds ∧
          0 < claims.expiry.toInt - now.seconds)) ∧
    (∀ key value ttl written, .set key value ttl written ∈ calls → claims.IsDue now) ∧
    (∀ {σ' : Type} (s' : Service) (store' : Store σ') (st' : σ') (later : Instant)
        (draws' : Draws) (token' : String) (claims' : Claims) (redeemed redeemed' : Refreshed),
      Presents s' store' st' later token' claims' →
      claims'.issuedAt = claims.issuedAt → claims'.expiry = claims.expiry →
      outcome = .ok (.refreshed redeemed) →
      ((s'.script later draws' (.refresh token')).run store' st').outcome =
        .ok (.refreshed redeemed') →
      (later.seconds = now.seconds → redeemed'.rotated = redeemed.rotated) ∧
        (now ≤ later → redeemed.rotated = true → redeemed'.rotated = true)) ∧
    (s.Mints now draws →
      (¬claims.IsDue now → calls = [.get (s.sessionKey claims.uid) (.ok (some token))] ∧
        ∃ redeemed, outcome = .ok (.refreshed redeemed)) ∧
      (claims.IsDue now → ∃ refresh written,
        s.codec.mint now claims.uid s.settings.refreshLifetime draws.refresh = .ok refresh ∧
          calls = [.get (s.sessionKey claims.uid) (.ok (some token)),
            .set (s.sessionKey claims.uid) refresh s.settings.refreshLifetime written] ∧
          (written = .ok () → ∃ redeemed, outcome = .ok (.refreshed redeemed) ∧
            redeemed.tokens.refreshToken = refresh) ∧
          ∀ f, written = .error f → outcome = .error (reported f))) := by
  intro calls outcome
  have ordered := Codec.issuedAt_lt_of_verify presents.verified
  have renews : Renewal s now draws token claims calls outcome := renewal presents draws
  refine ⟨fun instant fits => rotationDue_eq_of_fits ordered presents.lifetime_fits fits, ?_,
    fun key value ttl written made => renews.isDue_of_set made, ?_,
    fun mints => renews.of_mints mints (Codec.uid_ne_of_verify presents.verified)⟩
  · intro redeemed succeeds
    have decision := renews.rotated_iff succeeds
    refine ⟨decision, fun early => ?_, fun kept => ?_⟩
    · exact Bool.eq_false_iff.mpr fun rotated =>
        Claims.IsDue.not_of_issue ordered early (decision.mp rotated)
    · have undue : ¬claims.IsDue now := fun due => by simp [kept, due] at decision
      exact renews.kept_of_not_isDue ordered presents.remaining_fits succeeds undue
  · intro σ' s' store' st' later draws' token' claims' redeemed redeemed' presents' same_issue
      same_expiry succeeds succeeds'
    have decision := renews.rotated_iff succeeds
    have decision' := (renewal presents' draws').rotated_iff succeeds'
    refine ⟨fun same_second => ?_, fun forward rotated => ?_⟩
    · rw [Bool.eq_iff_iff, decision, decision']
      exact ⟨fun due => due.mono same_issue.symm same_expiry.symm same_second.le,
        fun due => due.mono same_issue same_expiry same_second.ge⟩
    · have forward : now.seconds ≤ later.seconds := Int.ediv_le_ediv (by decide) forward
      exact decision'.mpr ((decision.mp rotated).mono same_issue same_expiry forward)

/-- Of a lifetime of ten seconds, which three does not divide, four seconds are left until the last
nanosecond of the sixth; then the token is kept. A nanosecond later it is to be replaced. -/
theorem rotates_iff_isDue_of_ten_seconds :
    let s : Service := ⟨⟨.digest, none, 0⟩, ⟨.ofSeconds 5, .ofSeconds 10, "session"⟩⟩
    let draws : Draws := ⟨⟨"b", []⟩, ⟨"c", []⟩⟩
    let before : Instant := ⟨6999999999⟩
    let after : Instant := ⟨7000000000⟩
    ∃ token claims, Presents s (readOnly token) () before token claims ∧
      Presents s (readOnly token) () after token claims ∧
      (∃ redeemed,
        ((s.script before draws (.refresh token)).run (readOnly token) ()).outcome =
            .ok (.refreshed redeemed) ∧
          redeemed.tokens.refreshExpiresIn.toInt = 4) ∧
      ∃ refresh written,
        (s.script after draws (.refresh token)).calls (readOnly token) () =
          [.get (s.sessionKey 7) (.ok (some token)),
            .set (s.sessionKey 7) refresh s.settings.refreshLifetime written] := by
  intro s draws before after
  have signs (now : Instant) (uid : Int64) : s.Signs now uid draws := ⟨⟨_, rfl⟩, _, rfl⟩
  have mints (now : Instant) : s.Mints now draws := mints_of_signs rfl (signs now)
  let issued : Claims := .issue 7 (.ofSeconds 0) s.settings.refreshLifetime "a" none
  obtain ⟨token, minted⟩ : ∃ token,
      s.codec.mint (.ofSeconds 0) 7 s.settings.refreshLifetime ⟨"a", []⟩ = .ok token :=
    ⟨_, Codec.mint_eq_ok_iff.mpr ⟨by decide, by decide, _, rfl, rfl⟩⟩
  have verified (now : Instant) (running : 0 ≤ now.seconds) (current : now.seconds ≤ 10) :
      s.codec.verify now token = .ok issued := by
    have checked := Codec.verify_of_mint s.codec s.codec KeyPair.sound_digest rfl (by decide)
      (by decide) running minted
    have unexpired : ¬issued.expiry.toInt + s.codec.leeway.toNat < now.seconds := by
      have expires : issued.expiry.toInt + s.codec.leeway.toNat = 10 := by decide
      omega
    rw [checked, Codec.verdict_eq_of_issuer (by decide) rfl, if_neg unexpired]
  have presents : Presents s (readOnly token) () before token issued :=
    ⟨verified before (by decide) (by decide), rfl, by decide, by decide⟩
  have presents' : Presents s (readOnly token) () after token issued :=
    ⟨verified after (by decide) (by decide), rfl, by decide, by decide⟩
  obtain ⟨_, reports, _, _, keeps⟩ := rotates_iff_isDue presents draws
  obtain ⟨_, _, _, _, replaces⟩ := rotates_iff_isDue presents' draws
  have undue : ¬issued.IsDue before := by decide
  have due : issued.IsDue after := by decide
  obtain ⟨_, redeemed, succeeds⟩ := (keeps (mints before)).1 undue
  obtain ⟨refresh, written, _, calls, _⟩ := (replaces (mints after)).2 due
  obtain ⟨decision, _, kept⟩ := reports redeemed succeeds
  have unrotated : redeemed.rotated = false := Bool.eq_false_iff.mpr fun rotated =>
    undue (decision.mp rotated)
  exact ⟨token, issued, presents, presents', ⟨redeemed, succeeds, (kept unrotated).2.1⟩, refresh,
    written, calls⟩

end Service

end TokenLifecycle
