import Mathlib.Tactic
import TokenLifecycle.Proofs.Numeral.Decimal
import TokenLifecycle.Proofs.Service.Causes
import TokenLifecycle.Proofs.Service.History
import TokenLifecycle.Proofs.Token.Twins

/-!
# The audit trail

An operation logs one line when it has changed the record of a principal, and one when it fails for
a session that is not there, for the store or for the private key; otherwise it logs nothing. The
lines name the principal, so `step_audited` can read the changes of the store off them.
-/

namespace TokenLifecycle

namespace Service

open Session (Memory Script)

/-- What becomes of the record of a principal. -/
inductive Change
  | written (uid : Int64)
  | removed (uid : Int64)
  deriving DecidableEq, Repr

/-- What a message about a principal says has become of the record. -/
def Change.ofMessage? (message : String) (uid : Int64) : Option Change :=
  if message = "Issued token pair" ∨ message = "Rotated refresh token" then some (.written uid)
  else if message = "Session cleaned" then some (.removed uid)
  else none

/-- What a line says has become of a record. -/
def Change.ofLine? (line : LogLine) : Option Change :=
  ((line.fields.lookup "principal_id").bind Numeral.int64?).bind (Change.ofMessage? line.message)

/-- The levels of the lines for a failure. -/
def failureLevels : Failure → List LogLevel
  | .rejected .tokenRevoked => [.warn]
  | .rejected (.sessionStoreUnavailable _) => [.error]
  | .rejected .tokenGenerationFailed => [.error]
  | _ => []

/-- The levels of the lines for an event. -/
def levels (event : Event) : List LogLevel :=
  match event.2 with
  | .error f => failureLevels f
  | .ok answer =>
    match event.1, answer with
    | .generate _ _, _ => [.info]
    | .refresh _ _, .refreshed r => if r.rotated then [.info] else []
    | .clean _, _ => [.info]
    | _, _ => []

/-- What an event makes of the records. -/
def changes (event : Event) : List Change :=
  match event.2 with
  | .error _ => []
  | .ok answer =>
    match event.1, answer with
    | .generate uid _, _ => [.written uid]
    | .refresh _ _, .refreshed r => if r.rotated then [.written r.uid] else []
    | .clean uid, _ => [.removed uid]
    | _, _ => []

/-- The lines have the levels for an event, and tell what it makes of the records. -/
structure Audited (event : Event) (lines : List LogLine) : Prop where
  levels : lines.map (·.level) = levels event
  changes : lines.filterMap Change.ofLine? = changes event

/-! ### The lines of an operation -/

@[simp] theorem ofLine?_principalField (level : LogLevel) (message : String) (uid : Int64)
    (fields : List (String × String)) :
    Change.ofLine? ⟨level, message, principalField uid :: fields⟩ =
      Change.ofMessage? message uid := by
  rw [Change.ofLine?, principalField, List.lookup_cons, beq_self_eq_true]
  simp only [Option.bind_some, Numeral.int64?_ofInt]

section Scripts

variable {α β : Type} {s : Service} {now : Instant} {draws : Draws} {action : Action}
  {answer : β → Answer}

/-- The lines and the outcome are those of a step. -/
def Audits (action : Action) (answer : β → Answer) (lines : List LogLine)
    (outcome : Outcome β) : Prop :=
  Audited (action, outcome.map answer) lines

theorem audits_error {f : Failure} {lines : List LogLine}
    (same_levels : lines.map (·.level) = failureLevels f)
    (no_changes : lines.filterMap Change.ofLine? = []) :
    Audits action answer lines (.error f) :=
  ⟨same_levels, no_changes⟩

theorem leaves_proceed {outcome : Outcome α} {next : α → Script β}
    (silent : ∀ f, outcome = .error f → failureLevels f = [])
    (goes_on : ∀ a, outcome = .ok a → (next a).Leaves (Audits action answer)) :
    (proceed outcome next).Leaves (Audits action answer) := by
  cases outcome with
  | ok a => exact goes_on a rfl
  | error f => exact audits_error (silent f rfl).symm rfl

theorem leaves_proceedWithToken {uid other : Int64} {lifetime : Span} {draw : Draw}
    {next : String → Script β} (goes_on : ∀ token, (next token).Leaves (Audits action answer)) :
    (proceedWithToken other (s.codec.mint now uid lifetime draw) next).Leaves
      (Audits action answer) := by
  rcases s.codec.mint_cases now uid lifetime draw draw with
    ⟨message, refused, _⟩ | unsigned | ⟨token, _, minted, _⟩
  · rw [refused]
    exact audits_error rfl rfl
  · rw [or_self] at unsigned
    rw [unsigned]
    exact audits_error rfl (by simp [Change.ofMessage?])
  · rw [minted]
    exact goes_on token

theorem leaves_proceedWithAnswer (operation : String) {reply : Outcome α} {next : α → Script β}
    (goes_on : ∀ a, (next a).Leaves (Audits action answer)) :
    (proceedWithAnswer operation reply next).Leaves (Audits action answer) := by
  cases reply with
  | ok a => exact goes_on a
  | error f =>
      cases f with
      | overflow => exact audits_error rfl rfl
      | rejected e =>
          obtain ⟨m, reported, _⟩ := exists_storeError_eq e
          simp only [proceedWithAnswer, reported]
          exact audits_error rfl rfl

theorem leaves_proceedIfLive (uid : Int64) (stored : Option String) (token : String)
    {next : Script β} (goes_on : next.Leaves (Audits action answer)) :
    (proceedIfLive uid stored token next).Leaves (Audits action answer) := by
  unfold proceedIfLive
  split
  · split_ifs
    · exact goes_on
    · exact audits_error rfl (by simp [Change.ofMessage?])
  · exact audits_error rfl (by simp [Change.ofMessage?])

end Scripts

section Operations

variable (s : Service) (now : Instant) (draws : Draws)

theorem leaves_generate (uid : Int64) :
    (s.generate now draws uid).Leaves (Audits (.generate uid draws) .generated) := by
  rcases Int.lt_or_le now.seconds 0 with early | running
  · rw [s.generate_before_epoch early]
    exact audits_error rfl rfl
  simp only [generate, s.codec.mintNow_of_running running]
  refine leaves_proceedWithToken fun access => ?_
  refine leaves_proceedWithToken fun refresh answer => ?_
  refine leaves_proceedWithAnswer _ fun _ => ?_
  exact ⟨rfl, by simp [Change.ofMessage?, changes]; rfl⟩

theorem failureLevels_of_verify {token : String} {f : Failure}
    (failed : s.codec.verify now token = .error f) : failureLevels f = [] := by
  cases f with
  | overflow => rfl
  | rejected e =>
      have silent : ∀ e ∈ Codec.verificationErrors, failureLevels (.rejected e) = [] := by decide
      exact silent e (Codec.refusedOnlyFor_verify s.codec now token e failed)

theorem failureLevels_of_refreshClaims {token : String} {f : Failure}
    (failed : s.refreshClaims now token = .error f) : failureLevels f = [] := by
  cases f with
  | overflow => rfl
  | rejected e =>
      rcases refreshClaims_eq_refuse_iff.mp failed with ⟨_, rfl⟩ | ⟨_, _, _, rfl⟩
      · rfl
      · rfl

theorem leaves_refresh (token : String) :
    (s.refresh now draws token).Leaves (Audits (.refresh token draws) .refreshed) := by
  rcases Int.lt_or_le now.seconds 0 with early | running
  · rw [s.refresh_before_epoch early]
    exact audits_error rfl rfl
  rw [s.refresh_of_running running]
  refine leaves_proceed (fun f => failureLevels_of_refreshClaims s now) fun claims _ answer => ?_
  refine leaves_proceedWithAnswer _ fun stored => ?_
  refine leaves_proceedIfLive _ _ _ ?_
  refine leaves_proceedWithToken fun access => ?_
  refine leaves_proceed (fun f undecided => ?_) ?_
  · rw [overflow_of_rotationDue undecided]
    rfl
  · rintro ⟨remaining, due⟩ _
    cases due with
    | false => exact ⟨rfl, rfl⟩
    | true =>
        refine leaves_proceedWithToken fun refresh answer => ?_
        refine leaves_proceedWithAnswer _ fun _ => ?_
        exact ⟨rfl, by simp [Change.ofMessage?, changes]; rfl⟩

theorem leaves_clean (uid : Int64) :
    (s.clean uid).Leaves (Audits (.clean uid) fun _ => .nothing) := by
  intro answer
  refine leaves_proceedWithAnswer _ fun _ => ?_
  exact ⟨rfl, by simp [Change.ofMessage?, changes]; rfl⟩

end Operations

/-- The lines of every step have the levels for what it comes to, and tell what becomes of the
records. -/
theorem step_audited (s : Service) (st : State) (action : Action) :
    Audited (action, (s.step st action).outcome) (s.step st action).logs := by
  cases action with
  | generate uid draws => exact (leaves_generate s _ draws uid).run _ _
  | refresh token draws => exact (leaves_refresh s _ draws token).run _ _
  | clean uid => exact (leaves_clean s uid).run _ _
  | parse token =>
      cases verified : s.codec.verify st.clock.wall token with
      | ok claims =>
          simp only [step, Service.claims, verified]
          exact ⟨rfl, rfl⟩
      | error f =>
          have silent := failureLevels_of_verify s _ verified
          simp only [step, Service.claims, verified]
          exact ⟨silent.symm, rfl⟩
  | advance | failReads | failWrites => exact ⟨rfl, rfl⟩

/-! ### The records in the store -/

/-- What becomes of the store in a step in which records change as told. A record that is dropped
when it is dead does not count: it was over before. -/
structure Recounts (s : Service) (st next : State) (event : Event) (told : List Change) : Prop where
  written : ∀ uid, .written uid ∈ told →
    ∃ e, next.memory.find? (s.sessionKey uid) = some e ∧ refreshTokens event = [e.value] ∧
      Memory.deadline? st.clock.steady s.settings.refreshLifetime = some e.deadline
  removed : ∀ uid, .removed uid ∈ told → next.memory.find? (s.sessionKey uid) = none
  kept : ∀ uid, .written uid ∉ told → .removed uid ∉ told → ∀ later, st.clock.steady ≤ later →
    next.memory.live? later (s.sessionKey uid) = st.memory.live? later (s.sessionKey uid)

/-- Nothing becomes of the records where nothing changes in the store's answers. -/
theorem Recounts.of_live?_eq {s : Service} {st next : State} {event : Event}
    (same : ∀ key later, st.clock.steady ≤ later →
      next.memory.live? later key = st.memory.live? later key) :
    Recounts s st next event [] :=
  ⟨nofun, nofun, fun _ _ _ later ahead => same _ later ahead⟩

theorem recounts_insert {s : Service} {st : State} {event : Event} {uid : Int64} {token : String}
    {deadline : Instant} (given : refreshTokens event = [token])
    (found : Memory.deadline? st.clock.steady s.settings.refreshLifetime = some deadline) :
    Recounts s st { st with memory := st.memory.insert (s.sessionKey uid) ⟨token, deadline⟩ } event
      [.written uid] := by
  refine ⟨fun other told => ?_, fun other told => ?_, fun other apart _ later _ => ?_⟩
  · obtain rfl := Change.written.inj (List.mem_singleton.mp told)
    exact ⟨⟨token, deadline⟩, by simp, given, found⟩
  · simp at told
  · have different : ¬s.sessionKey other = s.sessionKey uid := by
      rw [sessionKey_inj]
      rintro rfl
      exact apart List.mem_cons_self
    rw [Memory.live?_insert, if_neg different]

theorem recounts_erase {s : Service} {st : State} {event : Event} {uid : Int64} :
    Recounts s st { st with memory := st.memory.erase (s.sessionKey uid) } event
      [.removed uid] := by
  refine ⟨fun other told => ?_, fun other told => ?_, fun other _ apart later _ => ?_⟩
  · simp at told
  · obtain rfl := Change.removed.inj (List.mem_singleton.mp told)
    simp
  · have different : ¬s.sessionKey other = s.sessionKey uid := by
      rw [sessionKey_inj]
      rintro rfl
      exact apart List.mem_cons_self
    rw [Memory.live?_erase, if_neg different]

/-- What becomes of the records in a step is what its event says. -/
theorem recounts_step (s : Service) (st : State) (action : Action) :
    Recounts s st (s.step st action).state (action, (s.step st action).outcome)
      (changes (action, (s.step st action).outcome)) := by
  have ends := step_ends s st action
  generalize (s.step st action).outcome = outcome at ends ⊢
  generalize (s.step st action).state = next at ends ⊢
  cases ends with
  | failed => exact .of_live?_eq fun _ _ _ => rfl
  | dropped _ _ _ present dead =>
      exact .of_live?_eq fun key later ahead =>
        (Memory.Alike.erase_dead present dead).live? later ahead key
  | generated _ _ _ found => exact recounts_insert rfl found
  | kept => exact .of_live?_eq fun _ _ _ => rfl
  | rotated _ _ _ _ _ _ _ found => exact recounts_insert rfl found
  | parsed => exact .of_live?_eq fun _ _ _ => rfl
  | cleaned => exact recounts_erase
  | advanced | failedReads | failedWrites => exact .of_live?_eq fun _ _ _ => rfl

end Service

end TokenLifecycle
