import Mathlib.Tactic
import TokenLifecycle.Proofs.Service.Course
import TokenLifecycle.Proofs.Service.Opening

/-!
# Services that can be set up

A configured lifetime has to be that of a span, to last a second at least, to be one that a store
can count, and to make tokens that expire behind their issue. The first two of these conditions
imply the others. The main statement `setUp_iff_usable` says which configurations meet them, and
that a service that has been set up finds nothing more in its settings to refuse tokens for.
-/

namespace TokenLifecycle.Service

open Session (Script Store)

/-- Both lifetimes have a second at least and no more than a span, and session keys begin with
something. -/
structure Usable (jwt : Config.Jwt) (session : Config.Session) : Prop where
  access : 1 ≤ jwt.accessTokenExpiry.toInt ∧ jwt.accessTokenExpiry.toInt ≤ 9223372036854775
  refresh : 1 ≤ jwt.refreshTokenExpiry.toInt ∧ jwt.refreshTokenExpiry.toInt ≤ 9223372036854775
  named : session.keyPrefix ≠ ""

namespace Usable

variable {jwt : Config.Jwt} {session : Config.Session}

theorem access_bounded (usable : Usable jwt session) :
    (Span.ofSeconds jwt.accessTokenExpiry.toInt).isRepresentable = true := by
  have range := usable.access
  exact Span.isRepresentable_ofSeconds_iff.mpr ⟨by omega, range.2⟩

theorem refresh_bounded (usable : Usable jwt session) :
    (Span.ofSeconds jwt.refreshTokenExpiry.toInt).isRepresentable = true := by
  have range := usable.refresh
  exact Span.isRepresentable_ofSeconds_iff.mpr ⟨by omega, range.2⟩

end Usable

section

variable {jwt : Config.Jwt} {session : Config.Session}

theorem ofConfig_of_usable (usable : Usable jwt session) :
    Settings.ofConfig jwt session = .ok (.asConfigured jwt session) := by
  rw [Settings.ofConfig_eq, if_pos usable.access_bounded, if_pos usable.refresh_bounded]

theorem validate_asConfigured_of_usable (usable : Usable jwt session) :
    (Settings.asConfigured jwt session).validate = .ok () := by
  refine Settings.validate_eq_ok_iff.mpr ⟨?_, ?_, usable.named⟩
  · rw [Settings.asConfigured, Span.wholeSeconds_ofSeconds]
    exact usable.access.1
  · rw [Settings.asConfigured, Span.wholeSeconds_ofSeconds]
    exact usable.refresh.1

theorem setUp_of_usable (codec : Codec) (usable : Usable jwt session) :
    (Settings.ofConfig jwt session).bind (ofSettings codec) =
      .ok ⟨codec, .asConfigured jwt session⟩ := by
  rw [ofConfig_of_usable usable]
  exact ofSettings_of_validate codec (validate_asConfigured_of_usable usable)

/-- What cannot be used is refused with a reason, by one check or the other. -/
theorem setUp_of_not_usable (codec : Codec) (unusable : ¬Usable jwt session) :
    ∃ message, (Settings.ofConfig jwt session).bind (ofSettings codec) =
      refuse (.validation message) := by
  rw [Settings.ofConfig_eq]
  split_ifs with access refresh
  · have invalid : (Settings.asConfigured jwt session).validate ≠ .ok () := by
      intro usable
      obtain ⟨access_pos, refresh_pos, named⟩ := Settings.validate_eq_ok_iff.mp usable
      rw [Settings.asConfigured, Span.wholeSeconds_ofSeconds] at access_pos refresh_pos
      exact unusable
        ⟨⟨access_pos, (Span.isRepresentable_ofSeconds_iff.mp access).2⟩,
          ⟨refresh_pos, (Span.isRepresentable_ofSeconds_iff.mp refresh).2⟩, named⟩
    obtain ⟨message, refused⟩ := Settings.exists_validate_eq_refuse invalid
    exact ⟨message, by simp only [Except.bind, ofSettings, refused, refuse]⟩
  · exact ⟨_, rfl⟩
  · exact ⟨_, rfl⟩

end

/-! ### No pair of tokens is refused -/

section

variable {s : Service} {now : Instant} {draws : Draws} {uid : Int64} {σ : Type} {store : Store σ}
  {st : σ}

theorem generate_of_mint (running : 0 ≤ now.seconds) {access refresh : String}
    (minted : s.codec.mint now uid s.settings.accessLifetime draws.access = .ok access)
    (minted_refresh : s.codec.mint now uid s.settings.refreshLifetime draws.refresh = .ok refresh)
    (written : (store.set (s.sessionKey uid) refresh s.settings.refreshLifetime st).outcome =
      .ok ()) :
    ((s.generate now draws uid).run store st).outcome =
      .ok (.ofTokens access refresh s.settings.accessLifetime s.settings.refreshLifetime) := by
  simp only [generate, s.codec.mintNow_of_running running, minted, minted_refresh,
    proceedWithToken_ok, Script.run, Script.withLogs, written, proceedWithAnswer]

/-- Without one of the two signatures there are no tokens. -/
theorem generate_of_not_signs (running : 0 ≤ now.seconds) (usable : s.settings.validate = .ok ())
    (uid_ne : uid ≠ 0) (unsigned : ¬s.Signs now uid draws) :
    ((s.generate now draws uid).run store st).outcome = refuse .tokenGenerationFailed := by
  obtain ⟨access_positive, refresh_positive⟩ := lifetimes_pos_of_validate usable
  simp only [generate, s.codec.mintNow_of_running running]
  cases access : s.codec.keys.sign draws.access.entropy
      (s.codec.mintedMessage now uid s.settings.accessLifetime draws.access) with
  | none =>
      rw [Codec.mint_of_unsigned uid_ne access_positive access]
      exact (endsAt_proceedWithToken uid _ _).outcome_eq store st
  | some signature =>
      have minted := Codec.mint_eq_ok_iff.mpr ⟨uid_ne, access_positive, signature, access, rfl⟩
      rw [minted, proceedWithToken_ok]
      cases refresh : s.codec.keys.sign draws.refresh.entropy
          (s.codec.mintedMessage now uid s.settings.refreshLifetime draws.refresh) with
      | none =>
          rw [Codec.mint_of_unsigned uid_ne refresh_positive refresh]
          exact (endsAt_proceedWithToken uid _ _).outcome_eq store st
      | some signature' => exact absurd ⟨⟨_, access⟩, _, refresh⟩ unsigned

end

/-- A token says that it was issued to a principal at an instant, for a number of seconds. -/
def IssuedFor (seconds : Int64) (now : Instant) (uid : Int64) (token : String) : Prop :=
  ∃ claims, Codec.claims? token = some claims ∧ claims.uid = uid ∧
    claims.issuedAt.toInt = now.seconds ∧ claims.expiry.toInt = now.seconds + seconds.toInt

theorem issuedFor_of_mint {codec : Codec} {now : Instant} {uid seconds : Int64} {draw : Draw}
    {token : String} (inside : Instant.inCalendar now.seconds = true)
    (bounded : (Span.ofSeconds seconds.toInt).isRepresentable = true)
    (minted : codec.mint now uid (.ofSeconds seconds.toInt) draw = .ok token) :
    IssuedFor seconds now uid token := by
  obtain ⟨_, positive, _⟩ := Codec.mint_eq_ok_iff.mp minted
  have expiry := Claims.expiry_issue uid draw.jti codec.issuer inside bounded positive
  rw [Span.wholeSeconds_ofSeconds] at expiry
  exact ⟨_, Codec.claims?_of_mint minted, rfl, Claims.issuedAt_issue _ _ _ inside _, expiry⟩

/-- A pair of tokens of a principal, issued at an instant for the configured numbers of seconds,
which the pair reports. -/
structure Grants (jwt : Config.Jwt) (now : Instant) (uid : Int64) (pair : TokenPair) : Prop where
  access : IssuedFor jwt.accessTokenExpiry now uid pair.accessToken
  refresh : IssuedFor jwt.refreshTokenExpiry now uid pair.refreshToken
  accessExpiresIn : pair.accessExpiresIn = jwt.accessTokenExpiry
  refreshExpiresIn : pair.refreshExpiresIn = jwt.refreshTokenExpiry

theorem grants_of_mint {jwt : Config.Jwt} {session : Config.Session} (usable : Usable jwt session)
    {codec : Codec} {now : Instant} (inside : Instant.inCalendar now.seconds = true) {uid : Int64}
    {draws : Draws} {access refresh : String}
    (minted : codec.mint now uid (.ofSeconds jwt.accessTokenExpiry.toInt) draws.access = .ok access)
    (minted_refresh :
      codec.mint now uid (.ofSeconds jwt.refreshTokenExpiry.toInt) draws.refresh = .ok refresh) :
    Grants jwt now uid
      (.ofTokens access refresh (.ofSeconds jwt.accessTokenExpiry.toInt)
        (.ofSeconds jwt.refreshTokenExpiry.toInt)) where
  access := issuedFor_of_mint inside usable.access_bounded minted
  refresh := issuedFor_of_mint inside usable.refresh_bounded minted_refresh
  accessExpiresIn := by
    rw [TokenPair.ofTokens, Span.wholeSeconds_ofSeconds, Int64.ofInt_toInt]
  refreshExpiresIn := by
    have forward : 0 ≤ jwt.refreshTokenExpiry.toInt := by
      have range := usable.refresh
      omega
    simp only [TokenPair.ofTokens, Span.wholeSeconds_ofSeconds, max_eq_right forward,
      Int64.ofInt_toInt]

/-- A store counts a configured lifetime without loss. -/
theorem exists_duration?_of_usable {jwt : Config.Jwt} {session : Config.Session}
    (usable : Usable jwt session) :
    ∃ ttl, (Span.ofSeconds jwt.refreshTokenExpiry.toInt).duration? = some ttl ∧
      ttl.span = .ofSeconds jwt.refreshTokenExpiry.toInt := by
  have valid := validate_asConfigured_of_usable usable
  obtain ⟨ttl, counted⟩ := Span.exists_duration?_eq
    (Span.nanoseconds_nonneg (lifetimes_pos_of_validate valid).2)
  exact ⟨ttl, counted, Duration.span_eq counted usable.refresh_bounded⟩

/-- Over a store that keeps the session, all that can fail is a signature. -/
theorem generate_of_usable {codec : Codec} {jwt : Config.Jwt} {session : Config.Session}
    (usable : Usable jwt session) {s : Service}
    (configured : s = ⟨codec, .asConfigured jwt session⟩)
    {σ : Type} {store : Store σ} {st : σ} {now : Instant} {uid : Int64} {draws : Draws}
    (uid_ne : uid ≠ 0) (running : 0 ≤ now.seconds) (inside : Instant.inCalendar now.seconds = true)
    (works : ∀ token,
      (store.set (s.sessionKey uid) token s.settings.refreshLifetime st).outcome = .ok ()) :
    (∃ pair, ((s.generate now draws uid).run store st).outcome = .ok pair ∧
      Grants jwt now uid pair) ∨
    ¬s.Signs now uid draws ∧
      ((s.generate now draws uid).run store st).outcome = refuse .tokenGenerationFailed := by
  have valid : s.settings.validate = .ok () := by
    rw [configured]
    exact validate_asConfigured_of_usable usable
  by_cases signs : s.Signs now uid draws
  · obtain ⟨⟨access, minted⟩, refresh, minted_refresh⟩ := signs.exists_mint valid uid_ne
    refine .inl ⟨_, generate_of_mint running minted minted_refresh (works refresh), ?_⟩
    subst configured
    exact grants_of_mint usable inside minted minted_refresh
  · exact .inr ⟨signs, generate_of_not_signs running valid uid_ne signs⟩

/-- A service can be set up for the configurations that can be used, and every other one is refused
with a reason. It has the configured lifetimes, its store can count the one for sessions without
loss, and it issues tokens to every principal but zero at every instant of the calendar from 1970
on, as long as the private key signs and the store keeps the session. -/
theorem setUp_iff_usable (codec : Codec) (jwt : Config.Jwt) (session : Config.Session) :
    let setUp := (Settings.ofConfig jwt session).bind (ofSettings codec)
    ((∃ s, setUp = .ok s) ↔ Usable jwt session) ∧
      (¬Usable jwt session ↔ ∃ message, setUp = refuse (.validation message)) ∧
      ∀ s, setUp = .ok s →
        s = ⟨codec, .asConfigured jwt session⟩ ∧
          s.settings.accessLifetime.wholeSeconds = jwt.accessTokenExpiry.toInt ∧
          s.settings.refreshLifetime.wholeSeconds = jwt.refreshTokenExpiry.toInt ∧
          (∃ ttl, s.settings.refreshLifetime.duration? = some ttl ∧
            ttl.span = s.settings.refreshLifetime) ∧
          ∀ {σ : Type} (store : Store σ) (st : σ) (now : Instant) (uid : Int64) (draws : Draws),
            uid ≠ 0 → 0 ≤ now.seconds → Instant.inCalendar now.seconds = true →
            (∀ token, (store.set (s.sessionKey uid) token s.settings.refreshLifetime st).outcome =
              .ok ()) →
            (∃ pair, ((s.generate now draws uid).run store st).outcome = .ok pair ∧
              Grants jwt now uid pair) ∨
            ¬s.Signs now uid draws ∧
              ((s.generate now draws uid).run store st).outcome =
                refuse .tokenGenerationFailed := by
  intro setUp
  by_cases usable : Usable jwt session
  · have made : setUp = .ok ⟨codec, .asConfigured jwt session⟩ := setUp_of_usable codec usable
    refine ⟨iff_of_true ⟨_, made⟩ usable, iff_of_false (not_not_intro usable) ?_, ?_⟩
    · rintro ⟨message, refused⟩
      cases made.symm.trans refused
    · intro s found
      have configured : s = ⟨codec, .asConfigured jwt session⟩ :=
        Except.ok.inj (found.symm.trans made)
      refine ⟨configured, ?_, ?_, ?_,
        fun store st now uid draws => generate_of_usable usable configured⟩
      · rw [configured, Settings.asConfigured, Span.wholeSeconds_ofSeconds]
      · rw [configured, Settings.asConfigured, Span.wholeSeconds_ofSeconds]
      · rw [configured]
        exact exists_duration?_of_usable usable
  · obtain ⟨message, refused⟩ := setUp_of_not_usable codec usable
    have unmade (s : Service) : setUp ≠ .ok s := by
      intro found
      cases refused.symm.trans found
    refine ⟨iff_of_false ?_ usable, iff_of_true usable ⟨message, refused⟩,
      fun s found => absurd found (unmade s)⟩
    rintro ⟨s, found⟩
    exact unmade s found

/-- The empty store in memory keeps whatever ends before the last instant of its clock. -/
theorem set_in_memory {ttl : Span}
    (early : ((Instant.ofSeconds 0).add ttl).seconds < 9223372036854775808) (key token : String) :
    ((Session.Memory.store (.ofSeconds 0)).set key token ttl .empty).outcome = .ok () := by
  have counted := Session.Memory.deadline?_eq_some_iff.mpr ⟨early, rfl⟩
  exact congrArg Session.Reply.outcome
    (Session.Memory.set_of_deadline (m := .empty) rfl counted key token)

/-- Tokens for a second, and sessions as long as spans can be, in the last second of the
calendar. -/
theorem setUp_iff_usable_at_bounds :
    let jwt : Config.Jwt :=
      { Config.Jwt.default with accessTokenExpiry := 1, refreshTokenExpiry := 9223372036854775 }
    let now : Instant := .ofSeconds 8210266876799
    let draws : Draws := ⟨⟨"a", []⟩, ⟨"b", []⟩⟩
    ∃ s, (Settings.ofConfig jwt .default).bind (ofSettings ⟨.digest, none, 0⟩) = .ok s ∧
      ∃ pair,
        ((s.generate now draws (-7)).run (Session.Memory.store (.ofSeconds 0)) .empty).outcome =
          .ok pair ∧ Grants jwt now (-7) pair := by
  intro jwt now draws
  have usable : Usable jwt .default := ⟨by decide, by decide, by decide⟩
  obtain ⟨made, _, holds⟩ := setUp_iff_usable ⟨.digest, none, 0⟩ jwt .default
  obtain ⟨s, found⟩ := made.mpr usable
  obtain ⟨same, _, _, _, issues⟩ := holds s found
  have signs : s.Signs now (-7) draws := by
    rw [same]
    exact ⟨⟨_, rfl⟩, _, rfl⟩
  have early : ((Instant.ofSeconds 0).add s.settings.refreshLifetime).seconds <
      9223372036854775808 := by
    rw [same]
    decide
  have issued := issues (Session.Memory.store (.ofSeconds 0)) .empty now (-7) draws (by decide)
    (by decide) (by decide) (set_in_memory early _)
  exact ⟨s, found, issued.resolve_right fun failed => failed.1 signs⟩

/-- In the last second before 1970 a service that has been set up issues no tokens, although the
private key signs and the store is empty and works: the clock cannot be read. -/
theorem generate_overflows_before_epoch :
    let jwt : Config.Jwt := .default
    let now : Instant := .ofSeconds (-1)
    let draws : Draws := ⟨⟨"a", []⟩, ⟨"b", []⟩⟩
    Usable jwt .default ∧ Instant.inCalendar now.seconds = true ∧
      ∃ s, (Settings.ofConfig jwt .default).bind (ofSettings ⟨.digest, none, 0⟩) = .ok s ∧
        s.Signs now 7 draws ∧
        (∀ token, ((Session.Memory.store (.ofSeconds 0)).set (s.sessionKey 7) token
          s.settings.refreshLifetime .empty).outcome = .ok ()) ∧
        ((s.generate now draws 7).run (Session.Memory.store (.ofSeconds 0)) .empty).outcome =
          .error .overflow := by
  intro jwt now draws
  have usable : Usable jwt .default := ⟨by decide, by decide, by decide⟩
  refine ⟨usable, by decide, _, setUp_of_usable _ usable, ⟨⟨_, rfl⟩, _, rfl⟩,
    set_in_memory (by decide) _, ?_⟩
  rw [generate_before_epoch _ (by decide), Script.run]

end TokenLifecycle.Service
