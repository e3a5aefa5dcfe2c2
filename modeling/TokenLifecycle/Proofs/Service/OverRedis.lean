import Mathlib.Tactic
import TokenLifecycle.Proofs.Redis.Exchanges
import TokenLifecycle.Proofs.Service.Causes
import TokenLifecycle.Proofs.Service.Overflow

/-!
# A service over Redis

The operations of a service over a client, whatever the server answers to the commands. The record
of the connection is read off the calls of the operation's course: a token is redeemed only when the
server spells it, and a failure of the server is never blamed on a credential. The main statement is
`Service.safe_over_redis`.
-/

namespace TokenLifecycle.Service

open Redis (Client Exchanged Reply)
open Redis.SessionStore (Carries Failed Fits Sends ofClient secondsUp)
open Session (Call Script)

variable {σ : Type} {s : Service} {now : Instant} {draws : Draws}

/-! ### What a course comes to -/

namespace Course

variable {op : Operation} {calls : List Call} {outcome : Outcome Answer} {token : String}
  {e : Error}

/-- A failed call is what the operation fails with. -/
theorem eq_error_of_failure? (course : Course s now draws op calls outcome) {call : Call}
    {f : Failure} (made : call ∈ calls) (failed : call.failure? = some f) :
    outcome = .error (reported f) := by
  cases course with
  | unminted | early | refused | parsed => cases made
  | unwritten | unread | uncleaned =>
      obtain rfl := List.mem_singleton.mp made
      obtain rfl := Option.some.inj failed
      rfl
  | generated | revoked | unredeemed | kept | cleaned =>
      obtain rfl := List.mem_singleton.mp made
      cases failed
  | unrotated =>
      rcases List.mem_pair.mp made with rfl | rfl
      · cases failed
      · obtain rfl := Option.some.inj failed
        rfl
  | rotated => rcases List.mem_pair.mp made with rfl | rfl <;> cases failed

/-- A token is redeemed behind the reading of that very token. -/
theorem refresh_ok {answer : Answer}
    (course : Course s now draws (.refresh token) calls (.ok answer)) :
    ∃ claims rest, s.codec.verify now token = .ok claims ∧
      calls = .get (s.sessionKey claims.uid) (.ok (some token)) :: rest ∧
      (rest = [] ∨ ∃ refresh,
        rest = [.set (s.sessionKey claims.uid) refresh s.settings.refreshLifetime (.ok ())]) := by
  generalize succeeds : Except.ok answer = outcome at course
  cases course with
  | early | refused | unread | revoked | unredeemed | unrotated => cases succeeds
  | kept verified => exact ⟨_, [], verified, rfl, .inl rfl⟩
  | rotated verified => exact ⟨_, _, verified, rfl, .inr ⟨_, rfl⟩⟩

/-- A credential is blamed when the token is not verified, without a call, or when another token or
none is read. -/
theorem refresh_blames (course : Course s now draws (.refresh token) calls (refuse e))
    (blames : e.isAuthenticationFailure = true) :
    (calls = [] ∧ s.refreshClaims now token = refuse e) ∨
      e = .tokenRevoked ∧ ∃ claims stored, s.codec.verify now token = .ok claims ∧
        calls = [.get (s.sessionKey claims.uid) (.ok stored)] ∧ stored ≠ some token := by
  have spares : ∀ {f}, reported f ≠ .rejected e := by
    intro f rejected
    obtain ⟨cause, _, rfl⟩ := reported_eq_rejected_iff.mp rejected
    rw [(storeError_kind cause).2] at blames
    cases blames
  generalize fails : (refuse e : Outcome Answer) = outcome at course
  cases course with
  | refused refusal =>
      obtain rfl := Except.error.inj fails
      exact .inl ⟨rfl, refusal⟩
  | unread | unrotated => exact absurd (Except.error.inj fails).symm spares
  | revoked verified other => exact .inr ⟨refuse_inj.mp fails, _, _, verified, rfl, other⟩
  | unredeemed verified causes =>
      obtain rfl := Except.error.inj fails
      rcases causes with unminted | undecided | unminted
      · rw [Codec.isAuthenticationFailure_of_mint unminted] at blames
        cases blames
      · exact nomatch overflow_of_rotationDue undecided
      · rw [Codec.isAuthenticationFailure_of_mint unminted] at blames
        cases blames
  | early | kept | rotated => cases fails

end Course

/-! ### What is sent for an operation -/

/-- Redis can count the seconds of a span that is longer than one. -/
theorem fits_of_positive {ttl : Span} (positive : 0 < ttl.wholeSeconds)
    (bounded : ttl.isRepresentable = true) : Fits ttl := by
  obtain ⟨_, upper⟩ := Span.wholeSeconds_bounds positive
  have short := Span.wholeSeconds_le_of_isRepresentable bounded
  have limit : Nat.pow 2 64 = 18446744073709551616 := rfl
  refine ⟨Span.nanoseconds_nonneg positive, ?_⟩
  rw [secondsUp, limit]
  omega

/-- An operation over a client, with a record of what is sent and answered. -/
def served (s : Service) (now : Instant) (draws : Draws) (c : Client σ) (st : σ) (op : Operation) :
    Session.Reply (σ × List Exchanged) Answer :=
  (s.script now draws op).run (ofClient c.recorded) (st, [])

theorem exists_course (fits : Fits s.settings.refreshLifetime) (now : Instant) (draws : Draws)
    (c : Client σ) (st : σ) (op : Operation) :
    ∃ calls, Course s now draws op calls (s.served now draws c st op).outcome ∧
      List.Forall₂ (Carries c.settings) calls (s.served now draws c st op).state.2 := by
  have course := s.course now draws (ofClient c.recorded) (st, []) op
  obtain ⟨record, sent, carries⟩ := Redis.SessionStore.exists_record c (s.script now draws op)
    (st, []) fun key value ttl outcome made => (course.ttl_eq made).symm ▸ fits
  rw [served, sent]
  exact ⟨_, course, carries⟩

/-- The record shows that a token was redeemed: the server spells this token under the key of its
session, and replies when a new token is written there, if one is. -/
def RedeemedBy (s : Service) (now : Instant) (settings : Config.Cache) (token : String)
    (record : List Exchanged) : Prop :=
  ∃ claims reply rest, s.codec.verify now token = .ok claims ∧
    record = ⟨["GET", settings.makeKey (s.sessionKey claims.uid)], .reply reply⟩ :: rest ∧
    reply.Spells token ∧
    (rest = [] ∨ ∃ refresh written,
      rest = [⟨["SET", settings.makeKey (s.sessionKey claims.uid), refresh, "EX",
        Numeral.ofNat (secondsUp s.settings.refreshLifetime)], .reply written⟩])

/-- The record shows why a credential was refused: nothing was sent, since the token is not
verified, or the server finds no token under the key of its session, or another one. -/
def BlamedBy (s : Service) (now : Instant) (settings : Config.Cache) (token : String) (e : Error)
    (record : List Exchanged) : Prop :=
  (record = [] ∧ s.refreshClaims now token = refuse e) ∨
    e = .tokenRevoked ∧ ∃ claims reply found, s.codec.verify now token = .ok claims ∧
      record = [⟨["GET", settings.makeKey (s.sessionKey claims.uid)], .reply reply⟩] ∧
      reply.Finds found ∧ found ≠ some token

section Record

variable {calls : List Call} {record : List Exchanged} {settings : Config.Cache} {token : String}

theorem redeemedBy_of_course {answer : Answer}
    (course : Course s now draws (.refresh token) calls (.ok answer))
    (carries : List.Forall₂ (Carries settings) calls record) :
    s.RedeemedBy now settings token record := by
  obtain ⟨claims, rest, verified, rfl, written⟩ := course.refresh_ok
  cases carries with
  | cons first later =>
    obtain ⟨reply, rfl, finds⟩ := first.exists_found
    cases finds with
    | text spells =>
      refine ⟨claims, reply, _, verified, rfl, spells, ?_⟩
      rcases written with rfl | ⟨refresh, rfl⟩
      · cases later
        exact .inl rfl
      · cases later with
        | cons second none =>
          cases none
          obtain ⟨reply', rfl⟩ := second.exists_written
          exact .inr ⟨refresh, reply', rfl⟩

theorem blamedBy_of_course {e : Error}
    (course : Course s now draws (.refresh token) calls (refuse e))
    (blames : e.isAuthenticationFailure = true)
    (carries : List.Forall₂ (Carries settings) calls record) :
    s.BlamedBy now settings token e record := by
  rcases course.refresh_blames blames with
    ⟨rfl, refused⟩ | ⟨revoked, claims, stored, verified, rfl, other⟩
  · cases carries
    exact .inl ⟨rfl, refused⟩
  · cases carries with
    | cons first none =>
      cases none
      obtain ⟨reply, rfl, finds⟩ := first.exists_found
      exact .inr ⟨revoked, claims, reply, stored, verified, rfl, finds, other⟩

theorem unavailable_of_course {op : Operation} {outcome : Outcome Answer}
    (course : Course s now draws op calls outcome)
    (carries : List.Forall₂ (Carries settings) calls record) {exchanged : Exchanged}
    (sent : exchanged ∈ record) (failed : Failed exchanged) :
    ∃ message, outcome = refuse (.sessionStoreUnavailable message) := by
  obtain ⟨call, made, message, unavailable⟩ :=
    Redis.SessionStore.exists_failure?_of_mem carries sent failed
  exact ⟨message, course.eq_error_of_failure? made unavailable⟩

end Record

/-- Whatever a server answers, each use of the session store sends one command, finds under a key
what the reply says, and fails for an unavailable store alone. So, over a service that has been set
up, a token is redeemed only when the server spells it and replies to every command; a credential is
blamed only for its own faults, or for a reply that says another token or none; and when the server
fails, so does the operation, for an unavailable store. -/
theorem safe_over_redis {codec : Codec} {settings : Settings}
    (constructed : ofSettings codec settings = .ok s)
    (bounded : settings.refreshLifetime.isRepresentable = true) (now : Instant) (draws : Draws)
    (c : Client σ) :
    (∀ key value ttl st, Fits ttl →
      Sends c ["SET", c.settings.makeKey key, value, "EX", Numeral.ofNat (secondsUp ttl)]
        (fun _ _ => True) st ((ofClient c.recorded).set key value ttl st)) ∧
    (∀ key st,
      Sends c ["GET", c.settings.makeKey key] Reply.Finds st ((ofClient c.recorded).get key st)) ∧
    (∀ key st,
      Sends c ["DEL", c.settings.makeKey key] (fun reply _ => ∃ n, reply.count = .ok n) st
        ((ofClient c.recorded).delete key st)) ∧
    (∀ st token answer,
      (s.served now draws c st (.refresh token)).outcome = .ok answer →
      s.RedeemedBy now c.settings token (s.served now draws c st (.refresh token)).state.2) ∧
    (∀ st token e,
      (s.served now draws c st (.refresh token)).outcome = refuse e →
      e.isAuthenticationFailure = true →
      s.BlamedBy now c.settings token e (s.served now draws c st (.refresh token)).state.2) ∧
    ∀ st op, (∃ exchanged ∈ (s.served now draws c st op).state.2, Failed exchanged) →
      ∃ message, (s.served now draws c st op).outcome =
        refuse (.sessionStoreUnavailable message) := by
  have fits : Fits s.settings.refreshLifetime := by
    obtain ⟨usable, rfl⟩ := ofSettings_eq_ok_iff.mp constructed
    exact fits_of_positive (lifetimes_pos_of_validate usable).2 bounded
  refine ⟨fun key value ttl st short => Redis.SessionStore.sends_set c key value st short,
    fun key st => Redis.SessionStore.sends_get c key st,
    fun key st => Redis.SessionStore.sends_delete c key st, ?_, ?_, ?_⟩
  · intro st token answer redeemed
    obtain ⟨calls, course, carries⟩ := exists_course fits now draws c st (.refresh token)
    rw [redeemed] at course
    exact redeemedBy_of_course course carries
  · intro st token e refused blames
    obtain ⟨calls, course, carries⟩ := exists_course fits now draws c st (.refresh token)
    rw [refused] at course
    exact blamedBy_of_course course blames carries
  · rintro st op ⟨exchanged, sent, failed⟩
    obtain ⟨calls, course, carries⟩ := exists_course fits now draws c st op
    exact unavailable_of_course course carries sent failed

/-- A server that gives the listed answers, and no others. -/
def scripted (_ : List String) : List Redis.Answer → Redis.Answer × List Redis.Answer
  | [] => (.silence, [])
  | answer :: rest => (answer, rest)

/-- A token in the last third of its lifetime is spelled by the server, which then does not take the
new one: it is not redeemed, and nothing is said against it. -/
theorem safe_over_redis_of_refused_write :
    let s : Service := ⟨⟨.digest, none, 0⟩, .default⟩
    let now : Instant := .ofSeconds 2500000
    let draws : Draws := ⟨⟨"b", []⟩, ⟨"c", []⟩⟩
    let c : Client (List Redis.Answer) := ⟨.default, scripted⟩
    ∃ token message,
      (s.served now draws c [.reply (.data (Text.bytes token)), .refusal "READONLY replica"]
        (.refresh token)).outcome = refuse (.sessionStoreUnavailable message) := by
  intro s now draws c
  let issued : Claims := .issue 7 (.ofSeconds 0) s.settings.refreshLifetime "a" none
  obtain ⟨token, minted⟩ : ∃ token,
      s.codec.mint (.ofSeconds 0) 7 s.settings.refreshLifetime ⟨"a", []⟩ = .ok token :=
    ⟨_, Codec.mint_eq_ok_iff.mpr ⟨by decide, by decide, _, rfl, rfl⟩⟩
  have running : (s.codec.leeway.toNat : Int) ≤ now.seconds := by decide
  have checked := Codec.verify_of_mint s.codec s.codec KeyPair.sound_digest rfl (by decide)
    (by decide) running minted
  have verified : s.codec.verify now token = .ok issued := by
    rw [checked, Codec.verdict_eq_of_issuer (by decide) rfl, if_neg (by decide)]
  obtain ⟨access, minted_access⟩ : ∃ access,
      s.codec.mint now 7 s.settings.accessLifetime draws.access = .ok access :=
    ⟨_, Codec.mint_eq_ok_iff.mpr ⟨by decide, by decide, _, rfl, rfl⟩⟩
  obtain ⟨rotated, minted_refresh⟩ : ∃ rotated,
      s.codec.mint now 7 s.settings.refreshLifetime draws.refresh = .ok rotated :=
    ⟨_, Codec.mint_eq_ok_iff.mpr ⟨by decide, by decide, _, rfl, rfl⟩⟩
  have due : rotationDue issued now = .ok (.ofSeconds 92000, true) := by decide
  have constructed : ofSettings s.codec s.settings = .ok s :=
    ofSettings_eq_ok_iff.mpr ⟨by decide, rfl⟩
  obtain ⟨_, _, _, _, _, unavailable⟩ := safe_over_redis constructed (by decide) now draws c
  have fits : Fits s.settings.refreshLifetime := fits_of_positive (by decide) (by decide)
  let spelled : Redis.Answer := .reply (.data (Text.bytes token))
  let refusal : Redis.Answer := .refusal "READONLY replica"
  have get := Redis.SessionStore.sends_get c (s.sessionKey 7) ([spelled, refusal], [])
  have read := (get.understood.ok_iff (some token)).mpr ⟨_, rfl, .text (.data token)⟩
  have after_read : ((ofClient c.recorded).get (s.sessionKey 7) ([spelled, refusal], [])).state =
      ([refusal], [⟨["GET", s.sessionKey 7], spelled⟩]) := get.state
  have set := Redis.SessionStore.sends_set c (s.sessionKey 7) rotated
    ([refusal], [⟨["GET", s.sessionKey 7], spelled⟩]) fits
  obtain ⟨_, unwritten⟩ := set.understood.exists_unavailable nofun
  refine ⟨token, unavailable _ (.refresh token)
    ⟨⟨["SET", s.sessionKey 7, rotated, "EX", "2592000"], refusal⟩, ?_, trivial⟩⟩
  have seconds : Numeral.ofNat (secondsUp s.settings.refreshLifetime) = "2592000" := by
    decide +kernel
  have presented := refreshClaims_eq_ok_iff.mpr verified
  have principal : issued.uid = 7 := rfl
  have sent : (s.served now draws c [spelled, refusal] (.refresh token)).state.2 =
      [⟨["GET", s.sessionKey 7], spelled⟩,
        ⟨["SET", s.sessionKey 7, rotated, "EX", "2592000"], refusal⟩] := by
    simp only [served, script, s.refresh_of_verify verified, refreshAt, presented, proceed,
      Script.map, Script.run, principal, read, proceedWithAnswer, proceedIfLive_self, minted_access,
      proceedWithToken_ok, due, minted_refresh, Script.withLogs, after_read, if_true, unwritten,
      refuse]
    rw [set.record, seconds]
    rfl
  rw [sent]
  exact List.mem_pair.mpr (.inr rfl)

end TokenLifecycle.Service
