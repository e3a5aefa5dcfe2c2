import Mathlib.Tactic
import TokenLifecycle.Proofs.Service.Course
import TokenLifecycle.Proofs.Service.Opening
import TokenLifecycle.Proofs.Token.Refusals

/-!
# What an operation is refused for

The errors of verification, of minting and of the store are told apart in the error that a caller
gets. A service whose settings have been checked, and whose private key signs, mints for every
principal but zero, as soon as the clock can be read; so what is left is a rejected token, a session
that is not there, and a failure of the store. The main statement `refuse_iff` gives each error with
its cause, over every store.
-/

namespace TokenLifecycle.Service

open Codec (zeroPrincipal)
open Session (Call Script Store)

variable {s : Service} {now : Instant} {draws : Draws}

/-- What a token is refused for when it is presented for a refresh. -/
theorem refreshClaims_eq_refuse_iff {token : String} {e : Error} :
    s.refreshClaims now token = refuse e ↔
      s.codec.verify now token = refuse .tokenExpired ∧ e = .refreshTokenExpired ∨
        ∃ cause, s.codec.verify now token = refuse cause ∧ cause ≠ .tokenExpired ∧
          e = .invalidRefreshToken := by
  have rejects := s.codec.onlyRejects_verify now token
  unfold refreshClaims
  split
  · rename_i verified
    simp [verified, refuse]
  · rename_i expired
    simp [expired, refuse, eq_comm]
  · rename_i cause other failed
    have different : cause ≠ .tokenExpired := other
    rw [if_pos (rejects cause failed)]
    simp [failed, refuse, different, eq_comm]
  · rename_i overflowed
    simp [overflowed, refuse]

theorem refreshClaims_eq_overflow_iff {token : String} :
    s.refreshClaims now token = .error .overflow ↔
      s.codec.verify now token = .error .overflow := by
  unfold refreshClaims
  split
  · rename_i verified
    simp [verified]
  · rename_i expired
    simp [expired, refuse]
  · rename_i failed
    split_ifs <;> simp [failed, refuse]
  · rename_i overflowed
    simp [overflowed]

/-! ### What a store's failure becomes -/

theorem reported_eq_rejected_iff {f : Failure} {e : Error} :
    reported f = .rejected e ↔ ∃ cause, f = .rejected cause ∧ e = storeError cause := by
  cases f <;> simp [reported, eq_comm]

theorem reported_eq_overflow_iff {f : Failure} : reported f = .overflow ↔ f = .overflow := by
  cases f <;> simp [reported]

/-- A failure of the store may clear up, and says nothing about a credential. -/
theorem storeError_kind (cause : Error) :
    (storeError cause).isTransient = true ∧ (storeError cause).isAuthenticationFailure = false := by
  cases cause <;> exact ⟨rfl, rfl⟩

/-- The message of an unavailable store is kept; every other error gives its wording. -/
theorem exists_storeError_eq (cause : Error) :
    ∃ m, storeError cause = .sessionStoreUnavailable m ∧
      (cause = .sessionStoreUnavailable m ∨ cause.isTransient = false ∧ m = cause.message) := by
  cases cause with
  | sessionStoreUnavailable m => exact ⟨m, rfl, .inl rfl⟩
  | _ => exact ⟨_, rfl, .inr ⟨rfl, rfl⟩⟩

/-! ### Minting does not fail -/

theorem validate_of_ofSettings {codec : Codec} {settings : Settings}
    (constructed : ofSettings codec settings = .ok s) : s.settings.validate = .ok () := by
  obtain ⟨usable, rfl⟩ := ofSettings_eq_ok_iff.mp constructed
  exact usable

/-- Both tokens can be minted for every principal but zero. -/
structure Mints (s : Service) (now : Instant) (draws : Draws) : Prop where
  access {uid : Int64} {f : Failure} :
    s.codec.mint now uid s.settings.accessLifetime draws.access = .error f →
      uid = 0 ∧ f = .rejected zeroPrincipal
  refresh {uid : Int64} {f : Failure} :
    s.codec.mint now uid s.settings.refreshLifetime draws.refresh = .error f →
      uid = 0 ∧ f = .rejected zeroPrincipal

theorem mints_of_signs (usable : s.settings.validate = .ok ())
    (signs : ∀ uid, s.Signs now uid draws) : s.Mints now draws := by
  obtain ⟨access_positive, refresh_positive⟩ := lifetimes_pos_of_validate usable
  exact ⟨Codec.zero_of_mint_error access_positive (signs _).1,
    Codec.zero_of_mint_error refresh_positive (signs _).2⟩

/-- What is minted now fails for the principal zero only, or before 1970. -/
theorem Mints.mintNow_error (mints : s.Mints now draws) {uid : Int64} {f : Failure}
    (fails : s.codec.mintNow now uid s.settings.accessLifetime draws.access = .error f ∨
      s.codec.mintNow now uid s.settings.refreshLifetime draws.refresh = .error f) :
    now.seconds < 0 ∧ f = .overflow ∨ 0 ≤ now.seconds ∧ uid = 0 ∧ f = .rejected zeroPrincipal := by
  simp only [Codec.mintNow_eq_error_iff] at fails
  rcases fails with (early | ⟨running, failed⟩) | early | ⟨running, failed⟩
  · exact .inl early
  · exact .inr ⟨running, mints.access failed⟩
  · exact .inl early
  · exact .inr ⟨running, mints.refresh failed⟩

theorem overflow_of_rotationDue {claims : Claims} {f : Failure}
    (failed : rotationDue claims now = .error f) : f = .overflow := by
  unfold rotationDue at failed
  split at failed
  · rename_i left
    obtain rfl := Except.error.inj failed
    exact Claims.overflow_of_spanBetween left
  · split at failed
    · rename_i whole
      obtain rfl := Except.error.inj failed
      exact Claims.overflow_of_spanBetween whole
    · cases failed

/-- When a verified token is the stored one, only arithmetic is left to fail. -/
theorem Mints.overflow_of_unredeemed (mints : s.Mints now draws) {token : String} {claims : Claims}
    {f : Failure} (verified : s.codec.verify now token = .ok claims)
    (fails : s.codec.mint now claims.uid s.settings.accessLifetime draws.access = .error f ∨
      rotationDue claims now = .error f ∨
      s.codec.mint now claims.uid s.settings.refreshLifetime draws.refresh = .error f) :
    rotationDue claims now = .error f ∧ f = .overflow := by
  rcases fails with unminted | undecided | unminted
  · exact absurd (mints.access unminted).1 (Codec.uid_ne_of_verify verified)
  · exact ⟨undecided, overflow_of_rotationDue undecided⟩
  · exact absurd (mints.refresh unminted).1 (Codec.uid_ne_of_verify verified)

theorem uid_ne_of_mintNow {uid : Int64} {lifetime : Span} {draw : Draw} {token : String}
    (minted : s.codec.mintNow now uid lifetime draw = .ok token) : uid ≠ 0 :=
  (Codec.mint_eq_ok_iff.mp (Codec.mintNow_eq_ok_iff.mp minted).2).1

/-! ### The causes, course by course -/

/-- One of the calls was refused for a cause. -/
def RefusedFor (calls : List Call) (cause : Error) : Prop :=
  ∃ call ∈ calls, call.failure? = some (.rejected cause)

namespace Course

variable {op : Operation} {calls : List Call} {outcome : Outcome Answer} {uid : Int64}
  {token : String} {e : Error}

theorem generate_refuse_iff (course : Course s now draws (.generate uid) calls outcome)
    (mints : s.Mints now draws) :
    outcome = refuse e ↔
      0 ≤ now.seconds ∧ uid = 0 ∧ e = zeroPrincipal ∨
        ∃ cause, RefusedFor calls cause ∧ e = storeError cause := by
  cases course with
  | unminted fails =>
      rcases mints.mintNow_error fails with ⟨early, rfl⟩ | ⟨running, rfl, rfl⟩
      · simp [RefusedFor, refuse, Int.not_le.mpr early]
      · simp [RefusedFor, refuse, running, eq_comm]
  | unwritten f minted =>
      have uid_ne := uid_ne_of_mintNow minted
      simp [RefusedFor, refuse, uid_ne, Call.failure?, reported_eq_rejected_iff]
  | generated minted =>
      have uid_ne := uid_ne_of_mintNow minted
      simp [RefusedFor, refuse, uid_ne, Call.failure?]

theorem refresh_refuse_iff (course : Course s now draws (.refresh token) calls outcome)
    (mints : s.Mints now draws) :
    outcome = refuse e ↔
      s.codec.verify now token = refuse .tokenExpired ∧ e = .refreshTokenExpired ∨
      (0 ≤ now.seconds ∧ ∃ cause, s.codec.verify now token = refuse cause ∧
        cause ≠ .tokenExpired ∧ e = .invalidRefreshToken) ∨
      (∃ key stored, .get key (.ok stored) ∈ calls ∧ stored ≠ some token ∧ e = .tokenRevoked) ∨
      ∃ cause, RefusedFor calls cause ∧ e = storeError cause := by
  cases course with
  | early before =>
      have unexpired : s.codec.verify now token ≠ .error (.rejected .tokenExpired) :=
        fun expired => absurd (s.codec.running_of_expired now expired) (Int.not_le.mpr before)
      simp [RefusedFor, refuse, Int.not_le.mpr before, unexpired]
  | refused fails running =>
      rw [and_iff_right running, ← or_assoc, ← refreshClaims_eq_refuse_iff, fails]
      simp [RefusedFor, refuse]
  | unread f verified =>
      simp [verified, RefusedFor, refuse, Call.failure?, reported_eq_rejected_iff]
  | revoked verified other =>
      simp [verified, RefusedFor, refuse, Call.failure?, other, eq_comm]
  | unredeemed verified fails =>
      obtain ⟨_, rfl⟩ := mints.overflow_of_unredeemed verified fails
      simp [verified, RefusedFor, refuse, Call.failure?]
  | kept verified => simp [verified, RefusedFor, refuse, Call.failure?]
  | unrotated f verified =>
      simp [verified, RefusedFor, refuse, Call.failure?, reported_eq_rejected_iff]
  | rotated verified => simp [verified, RefusedFor, refuse, Call.failure?]

theorem clean_refuse_iff (course : Course s now draws (.clean uid) calls outcome) :
    outcome = refuse e ↔ ∃ cause, RefusedFor calls cause ∧ e = storeError cause := by
  cases course with
  | uncleaned f => simp [RefusedFor, refuse, Call.failure?, reported_eq_rejected_iff]
  | cleaned => simp [RefusedFor, refuse, Call.failure?]

/-- What is not refused has its cause in the store's numbers, in those of a token, or in a clock
that cannot be read. -/
theorem overflow_cases (course : Course s now draws op calls (.error .overflow))
    (mints : s.Mints now draws) :
    now.seconds < 0 ∧ op.NeedsDate ∨ (∃ call ∈ calls, call.failure? = some .overflow) ∨
      ∃ token, (op = .refresh token ∨ op = .parse token) ∧
        (s.codec.verify now token = .error .overflow ∨
          ∃ claims, s.codec.verify now token = .ok claims ∧
            rotationDue claims now = .error .overflow) := by
  -- Overflow is no outcome of its own in most courses, so it is an equation in each of them.
  generalize failed : Except.error Failure.overflow = outcome at course
  cases course with
  | unminted fails =>
      obtain rfl := Except.error.inj failed
      rcases mints.mintNow_error fails with ⟨early, _⟩ | ⟨_, _, impossible⟩
      · exact .inl ⟨early, trivial⟩
      · cases impossible
  | early before => exact .inl ⟨before, trivial⟩
  | unwritten f | unread f | unrotated f | uncleaned f =>
      have overflowed := reported_eq_overflow_iff.mp (Except.error.inj failed).symm
      exact .inr (.inl (by simp [overflowed, Call.failure?]))
  | refused fails =>
      rw [← Except.error.inj failed, refreshClaims_eq_overflow_iff] at fails
      exact .inr (.inr ⟨_, .inl rfl, .inl fails⟩)
  | unredeemed verified fails =>
      obtain ⟨undecided, rfl⟩ := mints.overflow_of_unredeemed verified fails
      exact .inr (.inr ⟨_, .inl rfl, .inr ⟨_, verified, undecided⟩⟩)
  | parsed token =>
      cases verified : s.codec.verify now token with
      | error f =>
          rw [claims, verified] at failed
          obtain rfl := Except.error.inj failed
          exact .inr (.inr ⟨_, .inr rfl, .inl verified⟩)
      | ok claims =>
          rw [Service.claims, verified] at failed
          cases failed
  | generated | revoked | kept | rotated | cleaned => cases failed

/-- A refused call is what the operation is refused for. -/
theorem refuse_of_refusedFor (course : Course s now draws op calls outcome)
    (mints : s.Mints now draws) {cause : Error} (refused : RefusedFor calls cause) :
    outcome = refuse (storeError cause) := by
  cases op with
  | generate uid => exact (course.generate_refuse_iff mints).mpr (.inr ⟨cause, refused, rfl⟩)
  | refresh token =>
      exact (course.refresh_refuse_iff mints).mpr (.inr (.inr (.inr ⟨cause, refused, rfl⟩)))
  | parse token =>
      cases course
      simp [RefusedFor] at refused
  | clean uid => exact course.clean_refuse_iff.mpr ⟨cause, refused, rfl⟩

/-- Apart from the principal zero, an operation is refused because a call was, or a credential
is rejected. -/
theorem refuse_cases (course : Course s now draws op calls (refuse e)) (mints : s.Mints now draws)
    (other : e ≠ zeroPrincipal) :
    (∃ cause, RefusedFor calls cause ∧ e = storeError cause) ∨
      e.isAuthenticationFailure = true := by
  cases op with
  | generate uid =>
      rcases (course.generate_refuse_iff mints).mp rfl with ⟨_, _, zero⟩ | refused
      · exact absurd zero other
      · exact .inl refused
  | refresh token =>
      rcases (course.refresh_refuse_iff mints).mp rfl with
        ⟨_, rfl⟩ | ⟨_, _, _, _, rfl⟩ | ⟨_, _, _, _, rfl⟩ | refused
      · exact .inr rfl
      · exact .inr rfl
      · exact .inr rfl
      · exact .inl refused
  | parse token =>
      generalize failed : (refuse e : Outcome Answer) = outcome at course
      cases course
      cases verified : s.codec.verify now token with
      | error f =>
          rw [claims, verified] at failed
          obtain rfl := Except.error.inj failed
          exact .inr (s.codec.onlyRejects_verify now token e verified)
      | ok claims =>
          rw [Service.claims, verified] at failed
          cases failed
  | clean uid => exact .inl (course.clean_refuse_iff.mp rfl)

/-- Whether a refusal may clear up tells a failure of the store from a rejected credential. -/
theorem isTransient_iff (course : Course s now draws op calls (refuse e))
    (mints : s.Mints now draws) (other : e ≠ zeroPrincipal) :
    (e.isTransient = true ↔ ∃ cause, RefusedFor calls cause) ∧
      e.isAuthenticationFailure = !e.isTransient := by
  rcases course.refuse_cases mints other with ⟨cause, refused, rfl⟩ | rejects
  · obtain ⟨transient, no_credential⟩ := storeError_kind cause
    exact ⟨iff_of_true transient ⟨cause, refused⟩, by rw [transient, no_credential]; rfl⟩
  · have lasting : e.isTransient = false := by cases e <;> first | rfl | cases rejects
    refine ⟨iff_of_false (by rw [lasting]; decide) ?_, by rw [lasting, rejects]; rfl⟩
    rintro ⟨cause, refused⟩
    obtain rfl := refuse_inj.mp (course.refuse_of_refusedFor mints refused)
    rw [(storeError_kind cause).1] at lasting
    cases lasting

end Course

/-- However a store answers, a service whose private key signs refuses an operation for these causes
alone. Issuing tokens is refused for the principal zero, or because the store is unavailable;
redeeming one is refused because the token has expired, is not valid, or is not the stored one, or
because the store is unavailable; dropping a session only for the last of these. A refused call
makes the operation fail with the store's own message, or with the wording of another error.
Whether an error may clear up tells failures of the store from rejected credentials. All other
failures are no refusals but arithmetic: the store's, that of verified claims, or a clock that shows
a time before 1970, at which tokens are neither issued nor redeemed. -/
theorem refuse_iff {codec : Codec} {settings : Settings}
    (constructed : ofSettings codec settings = .ok s) (signs : ∀ uid, s.Signs now uid draws)
    {σ : Type} (store : Store σ) (st : σ) :
    let calls (op : Operation) := (s.script now draws op).calls store st
    let outcome (op : Operation) := ((s.script now draws op).run store st).outcome
    (∀ uid e, outcome (.generate uid) = refuse e ↔
      0 ≤ now.seconds ∧ uid = 0 ∧ e = zeroPrincipal ∨
        ∃ cause, RefusedFor (calls (.generate uid)) cause ∧ e = storeError cause) ∧
    (∀ token e, outcome (.refresh token) = refuse e ↔
      s.codec.verify now token = refuse .tokenExpired ∧ e = .refreshTokenExpired ∨
      (0 ≤ now.seconds ∧ ∃ cause, s.codec.verify now token = refuse cause ∧
        cause ≠ .tokenExpired ∧ e = .invalidRefreshToken) ∨
      (∃ key stored, .get key (.ok stored) ∈ calls (.refresh token) ∧ stored ≠ some token ∧
        e = .tokenRevoked) ∨
      ∃ cause, RefusedFor (calls (.refresh token)) cause ∧ e = storeError cause) ∧
    (∀ uid e, outcome (.clean uid) = refuse e ↔
      ∃ cause, RefusedFor (calls (.clean uid)) cause ∧ e = storeError cause) ∧
    (∀ op cause, RefusedFor (calls op) cause →
      ∃ m, outcome op = refuse (.sessionStoreUnavailable m) ∧
        (cause = .sessionStoreUnavailable m ∨ cause.isTransient = false ∧ m = cause.message)) ∧
    (∀ op e, outcome op = refuse e → e ≠ zeroPrincipal →
      (e.isTransient = true ↔ ∃ cause, RefusedFor (calls op) cause) ∧
        e.isAuthenticationFailure = !e.isTransient) ∧
    ∀ op, outcome op = .error .overflow →
      now.seconds < 0 ∧ op.NeedsDate ∨ (∃ call ∈ calls op, call.failure? = some .overflow) ∨
        ∃ token, (op = .refresh token ∨ op = .parse token) ∧
          (s.codec.verify now token = .error .overflow ∨
            ∃ claims, s.codec.verify now token = .ok claims ∧
              rotationDue claims now = .error .overflow) := by
  intro calls outcome
  have mints := mints_of_signs (validate_of_ofSettings constructed) signs
  have course (op : Operation) : Course s now draws op (calls op) (outcome op) :=
    s.course now draws store st op
  refine ⟨fun uid e => (course _).generate_refuse_iff mints,
    fun token e => (course _).refresh_refuse_iff mints,
    fun uid e => (course _).clean_refuse_iff, ?_, ?_, ?_⟩
  · intro op cause refused
    obtain ⟨m, reported, kept⟩ := exists_storeError_eq cause
    exact ⟨m, reported ▸ (course op).refuse_of_refusedFor mints refused, kept⟩
  · intro op e failed other
    have taken := course op
    rw [failed] at taken
    exact taken.isTransient_iff mints other
  · intro op failed
    have taken := course op
    rw [failed] at taken
    exact taken.overflow_cases mints

/-- A store that fails to read because of an expired token is reported as unavailable, and not as an
expired token. -/
theorem refuse_iff_of_expired_read :
    let s : Service := ⟨⟨.digest, none, 0⟩, .default⟩
    let now : Instant := .ofSeconds 60
    let draws : Draws := ⟨⟨"b", []⟩, ⟨"c", []⟩⟩
    let store := (Session.Memory.store now).behind { get := some .tokenExpired }
    ofSettings s.codec s.settings = .ok s ∧ (∀ uid, s.Signs now uid draws) ∧
      ∃ token claims, s.codec.verify now token = .ok claims ∧
        ((s.script now draws (.refresh token)).run store .empty).outcome =
          refuse (.sessionStoreUnavailable "Token expired") := by
  intro s now draws store
  have constructed : ofSettings s.codec s.settings = .ok s := rfl
  have signs (uid : Int64) : s.Signs now uid draws := ⟨⟨_, rfl⟩, _, rfl⟩
  let issued : Claims := .issue 7 (.ofSeconds 0) s.settings.refreshLifetime "a" none
  obtain ⟨token, minted⟩ : ∃ token,
      s.codec.mint (.ofSeconds 0) 7 s.settings.refreshLifetime ⟨"a", []⟩ = .ok token :=
    ⟨_, Codec.mint_eq_ok_iff.mpr ⟨by decide, by decide, _, rfl, rfl⟩⟩
  have running : (s.codec.leeway.toNat : Int) ≤ now.seconds := by decide
  have checked := Codec.verify_of_mint s.codec s.codec KeyPair.sound_digest rfl (by decide)
    (by decide) running minted
  have verified : s.codec.verify now token = .ok issued := by
    rw [checked, Codec.verdict_eq_of_issuer (by decide) rfl, if_neg (by decide)]
  have presented := refreshClaims_eq_ok_iff.mpr verified
  have refused : RefusedFor ((s.script now draws (.refresh token)).calls store .empty)
      .tokenExpired := by
    simp only [script, Script.calls_map, s.refresh_of_verify verified, refreshAt, presented,
      proceed, Script.calls]
    exact ⟨_, List.mem_cons_self, rfl⟩
  obtain ⟨_, redeems, _⟩ := refuse_iff constructed signs store .empty
  exact ⟨constructed, signs, token, issued, verified,
    (redeems token _).mpr (.inr (.inr (.inr ⟨.tokenExpired, refused, rfl⟩)))⟩

end TokenLifecycle.Service
