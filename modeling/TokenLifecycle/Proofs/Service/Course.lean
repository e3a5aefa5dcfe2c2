import Mathlib.Tactic
import TokenLifecycle.Proofs.Service.Run
import TokenLifecycle.Proofs.Session.Calls

/-!
# Operations over any store

A store may answer its calls in any way. `course` says once how an operation can go over it: which
calls it makes, with which answers, and what it comes to.
-/

namespace TokenLifecycle.Service

open Session (Call Script Store)

/-- What callers ask of a service. -/
inductive Operation
  | generate (uid : Int64)
  | refresh (token : String)
  | parse (token : String)
  | clean (uid : Int64)

/-- The operation asks the clock for the date. -/
def Operation.NeedsDate : Operation → Prop
  | .generate _ | .refresh _ => True
  | .parse _ | .clean _ => False

/-- The script of an operation. -/
def script (s : Service) (now : Instant) (draws : Draws) : Operation → Script Answer
  | .generate uid => (s.generate now draws uid).map .generated
  | .refresh token => (s.refresh now draws token).map .refreshed
  | .parse token => .done ((s.claims now token).map .parsed)
  | .clean uid => (s.clean uid).map fun _ => .nothing

/-- What a failure of the store is reported as. -/
def reported : Failure → Failure
  | .rejected e => .rejected (storeError e)
  | .overflow => .overflow

/-- The ways in which an operation can go: the calls of the store, each with its answer, and the
outcome. -/
inductive Course (s : Service) (now : Instant) (draws : Draws) :
    Operation → List Call → Outcome Answer → Prop
  | unminted {uid : Int64} {f : Failure} :
      s.codec.mintNow now uid s.settings.accessLifetime draws.access = .error f ∨
        s.codec.mintNow now uid s.settings.refreshLifetime draws.refresh = .error f →
      Course s now draws (.generate uid) [] (.error f)
  | unwritten {uid : Int64} {access refresh : String} (f : Failure) :
      s.codec.mintNow now uid s.settings.accessLifetime draws.access = .ok access →
      s.codec.mintNow now uid s.settings.refreshLifetime draws.refresh = .ok refresh →
      Course s now draws (.generate uid)
        [.set (s.sessionKey uid) refresh s.settings.refreshLifetime (.error f)]
        (.error (reported f))
  | generated {uid : Int64} {access refresh : String} :
      s.codec.mintNow now uid s.settings.accessLifetime draws.access = .ok access →
      s.codec.mintNow now uid s.settings.refreshLifetime draws.refresh = .ok refresh →
      Course s now draws (.generate uid)
        [.set (s.sessionKey uid) refresh s.settings.refreshLifetime (.ok ())]
        (.ok (.generated
          (.ofTokens access refresh s.settings.accessLifetime s.settings.refreshLifetime)))
  /-- A refresh before 1970 comes to nothing, whatever is presented. -/
  | early {token : String} :
      now.seconds < 0 →
      Course s now draws (.refresh token) [] (.error .overflow)
  | refused {token : String} {f : Failure} :
      s.refreshClaims now token = .error f →
      0 ≤ now.seconds →
      Course s now draws (.refresh token) [] (.error f)
  | unread {token : String} {claims : Claims} (f : Failure) :
      s.codec.verify now token = .ok claims →
      Course s now draws (.refresh token) [.get (s.sessionKey claims.uid) (.error f)]
        (.error (reported f))
  | revoked {token : String} {claims : Claims} {stored : Option String} :
      s.codec.verify now token = .ok claims →
      stored ≠ some token →
      Course s now draws (.refresh token) [.get (s.sessionKey claims.uid) (.ok stored)]
        (refuse .tokenRevoked)
  /-- The token is the stored one, but no tokens can be made for it. -/
  | unredeemed {token : String} {claims : Claims} {f : Failure} :
      s.codec.verify now token = .ok claims →
      (s.codec.mint now claims.uid s.settings.accessLifetime draws.access = .error f ∨
        rotationDue claims now = .error f ∨
        s.codec.mint now claims.uid s.settings.refreshLifetime draws.refresh = .error f) →
      Course s now draws (.refresh token) [.get (s.sessionKey claims.uid) (.ok (some token))]
        (.error f)
  | kept {token access : String} {claims : Claims} {remaining : Span} :
      s.codec.verify now token = .ok claims →
      s.codec.mint now claims.uid s.settings.accessLifetime draws.access = .ok access →
      rotationDue claims now = .ok (remaining, false) →
      Course s now draws (.refresh token) [.get (s.sessionKey claims.uid) (.ok (some token))]
        (.ok (.refreshed
          ⟨.ofTokens access token s.settings.accessLifetime remaining, claims.uid, false⟩))
  | unrotated {token access refresh : String} {claims : Claims} {remaining : Span} (f : Failure) :
      s.codec.verify now token = .ok claims →
      s.codec.mint now claims.uid s.settings.accessLifetime draws.access = .ok access →
      rotationDue claims now = .ok (remaining, true) →
      s.codec.mint now claims.uid s.settings.refreshLifetime draws.refresh = .ok refresh →
      Course s now draws (.refresh token)
        [.get (s.sessionKey claims.uid) (.ok (some token)),
          .set (s.sessionKey claims.uid) refresh s.settings.refreshLifetime (.error f)]
        (.error (reported f))
  | rotated {token access refresh : String} {claims : Claims} {remaining : Span} :
      s.codec.verify now token = .ok claims →
      s.codec.mint now claims.uid s.settings.accessLifetime draws.access = .ok access →
      rotationDue claims now = .ok (remaining, true) →
      s.codec.mint now claims.uid s.settings.refreshLifetime draws.refresh = .ok refresh →
      Course s now draws (.refresh token)
        [.get (s.sessionKey claims.uid) (.ok (some token)),
          .set (s.sessionKey claims.uid) refresh s.settings.refreshLifetime (.ok ())]
        (.ok (.refreshed
          ⟨.ofTokens access refresh s.settings.accessLifetime s.settings.refreshLifetime,
            claims.uid, true⟩))
  | parsed (token : String) :
      Course s now draws (.parse token) [] ((s.claims now token).map .parsed)
  | uncleaned {uid : Int64} (f : Failure) :
      Course s now draws (.clean uid) [.delete (s.sessionKey uid) (.error f)] (.error (reported f))
  | cleaned {uid : Int64} :
      Course s now draws (.clean uid) [.delete (s.sessionKey uid) (.ok ())] (.ok .nothing)

/-! ### How a script goes on -/

/-- Over every store the rest of a script, behind some calls, goes as the operation can go. -/
structure Continues {α : Type} (s : Service) (now : Instant) (draws : Draws) (op : Operation)
    (answer : α → Answer) (front : List Call) (script : Script α) : Prop where
  course : ∀ {σ : Type} (store : Store σ) (st : σ),
    Course s now draws op (front ++ script.calls store st)
      ((script.run store st).outcome.map answer)

namespace Continues

variable {α : Type} {s : Service} {now : Instant} {draws : Draws} {op : Operation}
  {answer : α → Answer} {front : List Call}

theorem of_endsAt {outcome : Outcome α} {script : Script α} (ends : script.EndsAt outcome)
    (course : Course s now draws op front (outcome.map answer)) :
    Continues s now draws op answer front script := by
  refine ⟨fun store st => ?_⟩
  rw [ends.calls_eq, ends.outcome_eq, List.append_nil]
  exact course

theorem set {key value : String} {ttl : Span} {next : Outcome Unit → Script α}
    (continues : ∀ reply,
      Continues s now draws op answer (front ++ [.set key value ttl reply]) (next reply)) :
    Continues s now draws op answer front (.set key value ttl next) := by
  refine ⟨fun store st => ?_⟩
  rw [Script.calls, List.append_cons]
  exact (continues _).course store _

theorem get {key : String} {next : Outcome (Option String) → Script α}
    (continues : ∀ reply,
      Continues s now draws op answer (front ++ [.get key reply]) (next reply)) :
    Continues s now draws op answer front (.get key next) := by
  refine ⟨fun store st => ?_⟩
  rw [Script.calls, List.append_cons]
  exact (continues _).course store _

theorem delete {key : String} {next : Outcome Unit → Script α}
    (continues : ∀ reply,
      Continues s now draws op answer (front ++ [.delete key reply]) (next reply)) :
    Continues s now draws op answer front (.delete key next) := by
  refine ⟨fun store st => ?_⟩
  rw [Script.calls, List.append_cons]
  exact (continues _).course store _

end Continues

section Scripts

variable {α β : Type} (uid : Int64)

theorem proceedWithToken_ok (token : String) (next : String → Script β) :
    proceedWithToken uid (.ok token) next = next token :=
  rfl

theorem endsAt_proceedWithToken (f : Failure) (next : String → Script β) :
    (proceedWithToken uid (.error f) next).EndsAt (.error f) := by
  unfold proceedWithToken
  split
  · rename_i minted
    cases minted
  · rename_i minted
    obtain rfl := Except.error.inj minted
    exact .log _
  · rename_i minted
    obtain rfl := Except.error.inj minted
    exact .done

theorem endsAt_proceedWithAnswer (operation : String) (f : Failure) (next : α → Script β) :
    (proceedWithAnswer operation (.error f) next).EndsAt (.error (reported f)) := by
  cases f with
  | rejected e => exact .log _
  | overflow => exact .done

theorem proceedIfLive_self (token : String) (next : Script β) :
    proceedIfLive uid (some token) token next = next :=
  if_pos rfl

theorem endsAt_proceedIfLive {stored : Option String} {token : String}
    (other : stored ≠ some token) (next : Script β) :
    (proceedIfLive uid stored token next).EndsAt (refuse .tokenRevoked) := by
  unfold proceedIfLive
  split
  · rename_i current
    have different : current ≠ token := fun same => other (congrArg some same)
    rw [if_neg different]
    exact .log _
  · exact .log _

end Scripts

/-! ### Every operation takes its course -/

section Operations

variable (s : Service) (now : Instant) (draws : Draws)

theorem continues_generate (uid : Int64) :
    Continues s now draws (.generate uid) .generated [] (s.generate now draws uid) := by
  unfold generate
  cases access : s.codec.mintNow now uid s.settings.accessLifetime draws.access with
  | error f => exact .of_endsAt (endsAt_proceedWithToken uid f _) (.unminted (.inl access))
  | ok accessToken =>
      rw [proceedWithToken_ok]
      cases refresh : s.codec.mintNow now uid s.settings.refreshLifetime draws.refresh with
      | error f => exact .of_endsAt (endsAt_proceedWithToken uid f _) (.unminted (.inr refresh))
      | ok refreshToken =>
          refine .set fun reply => ?_
          cases reply with
          | error f =>
              exact .of_endsAt (endsAt_proceedWithAnswer _ f _) (.unwritten f access refresh)
          | ok _ => exact .of_endsAt (.log _) (.generated access refresh)

theorem continues_refresh (token : String) :
    Continues s now draws (.refresh token) .refreshed [] (s.refresh now draws token) := by
  rcases Int.lt_or_le now.seconds 0 with before | running
  · rw [s.refresh_before_epoch before]
    exact .of_endsAt .done (.early before)
  rw [s.refresh_of_running running, refreshAt]
  cases presented : s.refreshClaims now token with
  | error f => exact .of_endsAt .done (.refused presented running)
  | ok claims =>
      have verified := refreshClaims_eq_ok_iff.mp presented
      refine .get fun reply => ?_
      cases reply with
      | error f => exact .of_endsAt (endsAt_proceedWithAnswer _ f _) (.unread f verified)
      | ok stored =>
          by_cases current : stored = some token
          · subst current
            simp only [proceedWithAnswer, proceedIfLive_self]
            cases access : s.codec.mint now claims.uid s.settings.accessLifetime draws.access with
            | error f =>
                exact .of_endsAt (endsAt_proceedWithToken _ f _)
                  (.unredeemed verified (.inl access))
            | ok accessToken =>
                rw [proceedWithToken_ok]
                cases decided : rotationDue claims now with
                | error f =>
                    exact .of_endsAt .done (.unredeemed verified (.inr (.inl decided)))
                | ok decision =>
                    obtain ⟨remaining, due⟩ := decision
                    cases due with
                    | false => exact .of_endsAt .done (.kept verified access decided)
                    | true =>
                        simp only [proceed, ↓reduceIte]
                        cases refresh : s.codec.mint now claims.uid s.settings.refreshLifetime
                            draws.refresh with
                        | error f =>
                            exact .of_endsAt (endsAt_proceedWithToken _ f _)
                              (.unredeemed verified (.inr (.inr refresh)))
                        | ok refreshToken =>
                            refine .set fun reply => ?_
                            cases reply with
                            | error f =>
                                exact .of_endsAt (endsAt_proceedWithAnswer _ f _)
                                  (.unrotated f verified access decided refresh)
                            | ok _ =>
                                exact .of_endsAt (.log _)
                                  (.rotated verified access decided refresh)
          · exact .of_endsAt (endsAt_proceedIfLive _ current _) (.revoked verified current)

theorem continues_clean (uid : Int64) :
    Continues s now draws (.clean uid) (fun _ => .nothing) [] (s.clean uid) := by
  refine .delete fun reply => ?_
  cases reply with
  | error f => exact .of_endsAt (endsAt_proceedWithAnswer _ f _) (.uncleaned f)
  | ok _ => exact .of_endsAt (.log _) .cleaned

/-- Over every store an operation goes in one of the given ways. -/
theorem course {σ : Type} (store : Store σ) (st : σ) (op : Operation) :
    Course s now draws op ((s.script now draws op).calls store st)
      ((s.script now draws op).run store st).outcome := by
  cases op with
  | generate uid =>
      rw [script, Script.calls_map, Script.outcome_run_map]
      exact (continues_generate s now draws uid).course store st
  | refresh token =>
      rw [script, Script.calls_map, Script.outcome_run_map]
      exact (continues_refresh s now draws token).course store st
  | parse token => exact .parsed token
  | clean uid =>
      rw [script, Script.calls_map, Script.outcome_run_map]
      exact (continues_clean s now draws uid).course store st

end Operations

/-! ### Before 1970 -/

/-- An operation that asks for the date before 1970 calls no store and comes to nothing. -/
theorem Course.of_early {s : Service} {now : Instant} {draws : Draws} {op : Operation}
    {calls : List Call} {outcome : Outcome Answer} (course : Course s now draws op calls outcome)
    (early : now.seconds < 0) (asks : op.NeedsDate) : calls = [] ∧ outcome = .error .overflow := by
  have unminted (uid : Int64) (lifetime : Span) (draw : Draw) :=
    s.codec.mintNow_before_epoch early uid lifetime draw
  have unverified {token : String} {claims : Claims}
      (verified : s.codec.verify now token = .ok claims) : False :=
    absurd (Codec.running_of_verify verified) (Int.not_le.mpr early)
  cases course with
  | unminted fails =>
      rw [unminted, unminted, or_self] at fails
      exact ⟨rfl, congrArg Except.error (Except.error.inj fails).symm⟩
  | unwritten _ minted | generated minted => cases (unminted _ _ _).symm.trans minted
  | early => exact ⟨rfl, rfl⟩
  | refused _ running => exact absurd running (Int.not_le.mpr early)
  | unread _ verified | revoked verified | unredeemed verified | kept verified
  | unrotated _ verified | rotated verified => exact (unverified verified).elim
  | parsed | uncleaned | cleaned => exact asks.elim

end TokenLifecycle.Service
