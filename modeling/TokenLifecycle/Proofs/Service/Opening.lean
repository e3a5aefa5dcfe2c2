import Mathlib.Tactic
import TokenLifecycle.Proofs.Service.Settings
import TokenLifecycle.Proofs.Session.Memory
import TokenLifecycle.Proofs.Token.Minting
import TokenLifecycle.Service.Operations

/-!
# The life of a session

A session is opened when a refresh token is minted and stored. The token expires by the wall clock
and in whole seconds, the entry dies by the steady clock and to the nanosecond. While both clocks
move together, the entry dies one lifetime after the opening: not before the token expires, and less
than two seconds after it.
-/

namespace TokenLifecycle.Service

open Session (Memory)

/-! ### When tokens can be minted -/

theorem lifetimes_pos_of_validate {settings : Settings} (usable : settings.validate = .ok ()) :
    0 < settings.accessLifetime.wholeSeconds ∧ 0 < settings.refreshLifetime.wholeSeconds := by
  obtain ⟨access, refresh, _⟩ := Settings.validate_eq_ok_iff.mp usable
  exact ⟨access, refresh⟩

/-- Settings that pass the check are never refused for the store. -/
theorem ofSettings_of_validate (codec : Codec) {settings : Settings}
    (usable : settings.validate = .ok ()) : ofSettings codec settings = .ok ⟨codec, settings⟩ := by
  have forward := Span.nanoseconds_nonneg (lifetimes_pos_of_validate usable).2
  obtain ⟨d, counted⟩ := Span.exists_duration?_eq forward
  simp only [ofSettings, usable, counted]

theorem ofSettings_eq_ok_iff {codec : Codec} {settings : Settings} {s : Service} :
    ofSettings codec settings = .ok s ↔
      settings.validate = .ok () ∧ s = ⟨codec, settings⟩ := by
  constructor
  · intro constructed
    cases usable : settings.validate with
    | error f => simp [ofSettings, usable] at constructed
    | ok =>
      rw [ofSettings_of_validate codec usable] at constructed
      exact ⟨rfl, (Except.ok.inj constructed).symm⟩
  · rintro ⟨usable, rfl⟩
    exact ofSettings_of_validate codec usable

/-- The private key gives a signature for the tokens that a step mints for a principal. -/
def Signs (s : Service) (now : Instant) (uid : Int64) (draws : Draws) : Prop :=
  (∃ signature, s.codec.keys.sign draws.access.entropy
      (s.codec.mintedMessage now uid s.settings.accessLifetime draws.access) = some signature) ∧
    ∃ signature, s.codec.keys.sign draws.refresh.entropy
      (s.codec.mintedMessage now uid s.settings.refreshLifetime draws.refresh) = some signature

theorem Signs.exists_mint {s : Service} {now : Instant} {uid : Int64} {draws : Draws}
    (signs : s.Signs now uid draws) (usable : s.settings.validate = .ok ()) (uid_ne : uid ≠ 0) :
    (∃ access, s.codec.mint now uid s.settings.accessLifetime draws.access = .ok access) ∧
      ∃ refresh, s.codec.mint now uid s.settings.refreshLifetime draws.refresh = .ok refresh := by
  obtain ⟨⟨signature, signed⟩, signature', signed'⟩ := signs
  obtain ⟨access_positive, refresh_positive⟩ := lifetimes_pos_of_validate usable
  have minted := Codec.mint_eq_ok_iff.mpr ⟨uid_ne, access_positive, signature, signed, rfl⟩
  have minted' := Codec.mint_eq_ok_iff.mpr ⟨uid_ne, refresh_positive, signature', signed', rfl⟩
  exact ⟨⟨_, minted⟩, _, minted'⟩

/-! ### What was minted and stored -/

/-- The entry holds a refresh token of a principal that was minted and stored at an earlier reading
of both clocks. -/
structure OpenedAt (s : Service) (opened clock : Clock) (uid : Int64) (e : Session.Entry) :
    Prop where
  runs : opened.RunsTo clock
  minted : ∃ draw, s.codec.mint opened.wall uid s.settings.refreshLifetime draw = .ok e.value
  deadline : Memory.deadline? opened.steady s.settings.refreshLifetime = some e.deadline

/-- What the refresh token of a session says that was opened at an instant. -/
structure Names (s : Service) (opened : Instant) (uid : Int64) (token : String)
    (claims : Claims) : Prop where
  signed : s.codec.Signed claims token
  uid_ne : uid ≠ 0
  principal : claims.uid = uid
  issuedAt : claims.issuedAt.toInt = opened.seconds
  expiry : claims.expiry.toInt = opened.seconds + s.settings.refreshLifetime.wholeSeconds
  issuer : claims.issuer = s.codec.issuer
  positive : 0 < s.settings.refreshLifetime.wholeSeconds
  bounded : s.settings.refreshLifetime.wholeSeconds ≤ 9223372036854775

namespace Names

variable {s : Service} {opened now : Instant} {uid : Int64} {token : String} {claims : Claims}

theorem of_mint {draw : Draw}
    (minted : s.codec.mint opened uid s.settings.refreshLifetime draw = .ok token)
    (bounded : s.settings.refreshLifetime.isRepresentable = true)
    (inside : Instant.inCalendar opened.seconds = true) :
    s.Names opened uid token (.issue uid opened s.settings.refreshLifetime draw.jti
      s.codec.issuer) := by
  obtain ⟨uid_ne, positive, _⟩ := Codec.mint_eq_ok_iff.mp minted
  exact ⟨Codec.signed_of_mint minted, uid_ne, rfl, Claims.issuedAt_issue _ _ _ inside _,
    Claims.expiry_issue _ _ _ inside bounded positive, rfl, positive,
    Span.wholeSeconds_le_of_isRepresentable bounded⟩

theorem claims?_eq (names : s.Names opened uid token claims) :
    Codec.claims? token = some claims :=
  names.signed.claims?_eq

/-- All that counts of a token of the service itself is its expiry. -/
theorem verify_eq (names : s.Names opened uid token claims) (sound : s.codec.keys.Sound)
    (forward : 0 ≤ claims.expiry.toInt)
    (running : (s.codec.leeway.toNat : Int) ≤ now.seconds) :
    s.codec.verify now token =
      if claims.expiry.toInt + s.codec.leeway.toNat < now.seconds then refuse .tokenExpired
      else .ok claims := by
  have positive := names.positive
  have uid_ne : claims.uid ≠ 0 := names.principal ▸ names.uid_ne
  have ordered : claims.issuedAt.toInt < claims.expiry.toInt := by
    rw [names.issuedAt, names.expiry]
    omega
  rw [names.signed.verify_eq sound rfl running uid_ne ordered]
  exact Codec.verdict_eq_of_issuer forward names.issuer

/-- The session is over in less than two seconds behind the expiry of its token, and not before. -/
theorem expiry_bounds (names : s.Names opened uid token claims) :
    .ofSeconds claims.expiry.toInt ≤ opened.add s.settings.refreshLifetime ∧
      opened.add s.settings.refreshLifetime < .ofSeconds (claims.expiry.toInt + 2) := by
  rw [names.expiry]
  exact opened.add_bounds names.positive

end Names

namespace OpenedAt

variable {s : Service} {opened clock later : Clock} {uid : Int64} {e : Session.Entry}

theorem run (session : s.OpenedAt opened clock uid e) (runs : clock.RunsTo later) :
    s.OpenedAt opened later uid e :=
  ⟨session.runs.trans runs, session.minted, session.deadline⟩

theorem exists_names (session : s.OpenedAt opened clock uid e)
    (bounded : s.settings.refreshLifetime.isRepresentable = true)
    (inside : Instant.inCalendar opened.wall.seconds = true) :
    ∃ claims, s.Names opened.wall uid e.value claims := by
  obtain ⟨draw, minted⟩ := session.minted
  exact ⟨_, .of_mint minted bounded inside⟩

/-- On the wall clock an entry dies one lifetime after the opening. -/
theorem onWall_deadline (session : s.OpenedAt opened clock uid e) :
    clock.onWall e.deadline = opened.wall.add s.settings.refreshLifetime := by
  rw [session.runs.onWall_eq, ← (Memory.deadline?_eq_some_iff.mp session.deadline).2,
    Clock.onWall_add]

/-- A session is over within one lifetime from now. -/
theorem onWall_deadline_le (session : s.OpenedAt opened clock uid e) :
    clock.onWall e.deadline ≤ clock.wall.add s.settings.refreshLifetime := by
  have issued := session.runs.wall_le
  rw [session.onWall_deadline]
  simp only [Instant.le_iff, Instant.add] at issued ⊢
  omega

/-- An entry is live until its session is over. -/
theorem lt_deadline_iff (session : s.OpenedAt opened clock uid e) :
    clock.steady < e.deadline ↔ clock.wall < opened.wall.add s.settings.refreshLifetime := by
  rw [← session.onWall_deadline, Clock.lt_onWall_iff]

end OpenedAt

end TokenLifecycle.Service
