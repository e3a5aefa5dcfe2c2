import Mathlib.Tactic
import TokenLifecycle.Proofs.Service.Course
import TokenLifecycle.Proofs.Token.Minting

/-!
# What a service asks of its store

The store is called once to issue or to drop a session, and at most twice to redeem a token. A value
is written only for a token that has been compared with the stored one, nothing is called after a
failed call, and tokens are handed out only when no call has failed. The main statement
`store_discipline` says so for every store, however it answers.
-/

namespace TokenLifecycle.Service

open Session (Call Script Store)

/-- What may follow the reading of a session: nothing, or the writing of a new refresh token when
the presented token is the stored one and due to be replaced. -/
def MayWrite (s : Service) (now : Instant) (token : String) (claims : Claims)
    (stored : Outcome (Option String)) (rest : List Call) : Prop :=
  rest = [] ∨
    stored = .ok (some token) ∧
      ∃ remaining refresh written, rotationDue claims now = .ok (remaining, true) ∧
        rest = [.set (s.sessionKey claims.uid) refresh s.settings.refreshLifetime written]

/-- What a redeemed token leaves behind the reading of its session: nothing when it is kept, and the
new refresh token when it is replaced. -/
def Redeems (s : Service) (token : String) (claims : Claims) (stored : Outcome (Option String))
    (rest : List Call) (redeemed : Refreshed) : Prop :=
  stored = .ok (some token) ∧
    (redeemed.rotated = false ∧ redeemed.tokens.refreshToken = token ∧ rest = [] ∨
      redeemed.rotated = true ∧
        rest = [.set (s.sessionKey claims.uid) redeemed.tokens.refreshToken
          s.settings.refreshLifetime (.ok ())])

namespace Course

variable {s : Service} {now : Instant} {draws : Draws} {op : Operation} {calls : List Call}
  {outcome : Outcome Answer} {uid : Int64} {token access refresh : String} {claims : Claims}

/-- A failed call is the last one. -/
theorem pairwise (course : Course s now draws op calls outcome) :
    calls.Pairwise fun earlier _ => earlier.failure? = none := by
  cases course <;> simp [Call.failure?]

/-- An operation that made a call in vain fails. -/
theorem failure?_eq_none {answer : Answer} (course : Course s now draws op calls (.ok answer)) :
    ∀ call ∈ calls, call.failure? = none := by
  generalize succeeds : Except.ok answer = outcome at course
  cases course with
  | unminted | unwritten | early | refused | unread | revoked | unredeemed | unrotated
  | uncleaned => cases succeeds
  | generated | kept | rotated | parsed | cleaned => simp [Call.failure?]

theorem generate_of_unminted (course : Course s now draws (.generate uid) calls outcome)
    (unminted :
      (∀ access, s.codec.mintNow now uid s.settings.accessLifetime draws.access ≠ .ok access) ∨
        ∀ refresh, s.codec.mintNow now uid s.settings.refreshLifetime draws.refresh ≠ .ok refresh) :
    calls = [] ∧ ∃ f, outcome = .error f := by
  cases course with
  | unminted => exact ⟨rfl, _, rfl⟩
  | unwritten _ minted minted_refresh | generated minted minted_refresh =>
      rcases unminted with no_access | no_refresh
      · exact absurd minted (no_access _)
      · exact absurd minted_refresh (no_refresh _)

theorem generate_of_minted (course : Course s now draws (.generate uid) calls outcome)
    (minted : s.codec.mintNow now uid s.settings.accessLifetime draws.access = .ok access)
    (minted_refresh :
      s.codec.mintNow now uid s.settings.refreshLifetime draws.refresh = .ok refresh) :
    ∃ answer, calls = [.set (s.sessionKey uid) refresh s.settings.refreshLifetime answer] ∧
      ∀ issued, outcome = .ok issued ↔
        answer = .ok () ∧
          issued = .generated
            (.ofTokens access refresh s.settings.accessLifetime s.settings.refreshLifetime) := by
  cases course with
  | unminted fails =>
      rw [minted, minted_refresh] at fails
      simp at fails
  | unwritten f minted' minted_refresh' =>
      obtain rfl := Except.ok.inj (minted_refresh.symm.trans minted_refresh')
      exact ⟨.error f, rfl, by simp⟩
  | generated minted' minted_refresh' =>
      obtain rfl := Except.ok.inj (minted.symm.trans minted')
      obtain rfl := Except.ok.inj (minted_refresh.symm.trans minted_refresh')
      exact ⟨.ok (), rfl, by simp [eq_comm]⟩

theorem refresh_of_unverified (course : Course s now draws (.refresh token) calls outcome)
    (unverified : ∀ claims, s.codec.verify now token ≠ .ok claims) :
    calls = [] ∧ ∃ f, outcome = .error f := by
  cases course with
  | early | refused => exact ⟨rfl, _, rfl⟩
  | unread _ verified | revoked verified | unredeemed verified | kept verified
  | unrotated _ verified | rotated verified => exact absurd verified (unverified _)

theorem refresh_of_verified (course : Course s now draws (.refresh token) calls outcome)
    (verified : s.codec.verify now token = .ok claims) :
    ∃ stored rest, calls = .get (s.sessionKey claims.uid) stored :: rest ∧
      s.MayWrite now token claims stored rest ∧
      ∀ answer, outcome = .ok answer →
        ∃ redeemed, answer = .refreshed redeemed ∧ s.Redeems token claims stored rest redeemed := by
  cases course with
  | early before => exact absurd before (Int.not_lt.mpr (Codec.running_of_verify verified))
  | refused fails =>
      rw [refreshClaims_eq_ok_iff.mpr verified] at fails
      cases fails
  | unread f verified' =>
      obtain rfl := Except.ok.inj (verified.symm.trans verified')
      exact ⟨.error f, [], rfl, .inl rfl, nofun⟩
  | @revoked _ _ stored verified' =>
      obtain rfl := Except.ok.inj (verified.symm.trans verified')
      exact ⟨.ok stored, [], rfl, .inl rfl, nofun⟩
  | unredeemed verified' =>
      obtain rfl := Except.ok.inj (verified.symm.trans verified')
      exact ⟨.ok (some token), [], rfl, .inl rfl, nofun⟩
  | kept verified' =>
      obtain rfl := Except.ok.inj (verified.symm.trans verified')
      refine ⟨.ok (some token), [], rfl, .inl rfl, ?_⟩
      rintro _ ⟨⟩
      exact ⟨_, rfl, rfl, .inl ⟨rfl, rfl, rfl⟩⟩
  | unrotated f verified' _ decided =>
      obtain rfl := Except.ok.inj (verified.symm.trans verified')
      exact ⟨.ok (some token), _, rfl, .inr ⟨rfl, _, _, _, decided, rfl⟩, nofun⟩
  | rotated verified' _ decided =>
      obtain rfl := Except.ok.inj (verified.symm.trans verified')
      refine ⟨.ok (some token), _, rfl, .inr ⟨rfl, _, _, _, decided, rfl⟩, ?_⟩
      rintro _ ⟨⟩
      exact ⟨_, rfl, rfl, .inr ⟨rfl, rfl⟩⟩

theorem clean_calls (course : Course s now draws (.clean uid) calls outcome) :
    ∃ answer, calls = [.delete (s.sessionKey uid) answer] ∧
      (outcome = .ok .nothing ↔ answer = .ok ()) := by
  cases course with
  | uncleaned f => exact ⟨.error f, rfl, by simp⟩
  | cleaned => exact ⟨.ok (), rfl, by simp⟩

end Course

/-- However a store answers: issuing tokens calls it only when both tokens have been minted, and
then writes the refresh token that is handed out, once, with the whole lifetime; redeeming a token
calls it only when the token is verified, reads the session of its principal once, and writes only
when the presented token is the stored one and due to be replaced; verifying a token does not call
it, and dropping a session calls it once. No call follows a failed one, and an operation succeeds
only when none of its calls has failed. -/
theorem store_discipline (s : Service) (now : Instant) (draws : Draws) {σ : Type} (store : Store σ)
    (st : σ) :
    let calls (op : Operation) := (s.script now draws op).calls store st
    let outcome (op : Operation) := ((s.script now draws op).run store st).outcome
    (∀ uid,
      (∀ access, s.codec.mintNow now uid s.settings.accessLifetime draws.access ≠ .ok access) ∨
        (∀ refresh,
          s.codec.mintNow now uid s.settings.refreshLifetime draws.refresh ≠ .ok refresh) →
      calls (.generate uid) = [] ∧ ∃ f, outcome (.generate uid) = .error f) ∧
    (∀ uid access refresh,
      s.codec.mintNow now uid s.settings.accessLifetime draws.access = .ok access →
      s.codec.mintNow now uid s.settings.refreshLifetime draws.refresh = .ok refresh →
      ∃ answer,
        calls (.generate uid) =
            [.set (s.sessionKey uid) refresh s.settings.refreshLifetime answer] ∧
          ∀ issued, outcome (.generate uid) = .ok issued ↔
            answer = .ok () ∧
              issued = .generated
                (.ofTokens access refresh s.settings.accessLifetime s.settings.refreshLifetime)) ∧
    (∀ token, (∀ claims, s.codec.verify now token ≠ .ok claims) →
      calls (.refresh token) = [] ∧ ∃ f, outcome (.refresh token) = .error f) ∧
    (∀ token claims, s.codec.verify now token = .ok claims →
      ∃ stored rest, calls (.refresh token) = .get (s.sessionKey claims.uid) stored :: rest ∧
        s.MayWrite now token claims stored rest ∧
        ∀ answer, outcome (.refresh token) = .ok answer →
          ∃ redeemed, answer = .refreshed redeemed ∧
            s.Redeems token claims stored rest redeemed) ∧
    (∀ token, calls (.parse token) = []) ∧
    (∀ uid, ∃ answer, calls (.clean uid) = [.delete (s.sessionKey uid) answer] ∧
      (outcome (.clean uid) = .ok .nothing ↔ answer = .ok ())) ∧
    (∀ op, (calls op).Pairwise fun earlier _ => earlier.failure? = none) ∧
    ∀ op answer, outcome op = .ok answer → ∀ call ∈ calls op, call.failure? = none := by
  intro calls outcome
  have course (op : Operation) : Course s now draws op (calls op) (outcome op) :=
    s.course now draws store st op
  refine ⟨?_, ?_, ?_, ?_, fun token => rfl, fun uid => (course _).clean_calls,
    fun op => (course op).pairwise, ?_⟩
  · exact fun uid unminted => (course _).generate_of_unminted unminted
  · exact fun uid access refresh minted minted_refresh =>
      (course _).generate_of_minted minted minted_refresh
  · exact fun token unverified => (course _).refresh_of_unverified unverified
  · exact fun token claims verified => (course _).refresh_of_verified verified
  · intro op answer succeeded
    have taken := course op
    rw [succeeded] at taken
    exact taken.failure?_eq_none

/-- A store that answers every read with the same text, and refuses every write. -/
def readOnly (text : String) : Store Unit where
  set _ _ _ s := ⟨refuse (.internal "read only"), [], s⟩
  get _ s := ⟨.ok (some text), [], s⟩
  delete _ s := ⟨refuse (.internal "read only"), [], s⟩

/-- A token in the last third of its lifetime is compared with the stored one before a new one is
offered to the store, and is not redeemed when the store refuses to take it. -/
theorem store_discipline_of_readOnly :
    let s : Service := ⟨⟨.digest, none, 0⟩, .default⟩
    let now : Instant := .ofSeconds 2500000
    let draws : Draws := ⟨⟨"b", []⟩, ⟨"c", []⟩⟩
    ∃ token claims rest, s.codec.verify now token = .ok claims ∧
      (s.script now draws (.refresh token)).calls (readOnly token) () =
        .get (s.sessionKey 7) (.ok (some token)) :: rest ∧
      s.MayWrite now token claims (.ok (some token)) rest := by
  intro s now draws
  let issued : Claims := .issue 7 (.ofSeconds 0) s.settings.refreshLifetime "a" none
  obtain ⟨token, minted⟩ : ∃ token,
      s.codec.mint (.ofSeconds 0) 7 s.settings.refreshLifetime ⟨"a", []⟩ = .ok token :=
    ⟨_, Codec.mint_eq_ok_iff.mpr ⟨by decide, by decide, _, rfl, rfl⟩⟩
  have running : (s.codec.leeway.toNat : Int) ≤ now.seconds := by decide
  have checked := Codec.verify_of_mint s.codec s.codec KeyPair.sound_digest rfl (by decide)
    (by decide) running minted
  have verified : s.codec.verify now token = .ok issued := by
    rw [checked, Codec.verdict_eq_of_issuer (by decide) rfl, if_neg (by decide)]
  obtain ⟨_, _, _, redeems, _⟩ := store_discipline s now draws (readOnly token) ()
  obtain ⟨stored, rest, calls, may_write, _⟩ := redeems token issued verified
  have presented := refreshClaims_eq_ok_iff.mpr verified
  simp only [script, Script.calls_map, s.refresh_of_verify verified, refreshAt, presented, proceed,
    Script.calls, readOnly, List.cons.injEq, Call.get.injEq, true_and] at calls
  obtain ⟨rfl, rest_eq⟩ := calls
  refine ⟨token, issued, rest, verified, ?_, may_write⟩
  simp only [script, Script.calls_map, s.refresh_of_verify verified, refreshAt, presented, proceed,
    Script.calls, readOnly, rest_eq]
  rfl

end TokenLifecycle.Service
