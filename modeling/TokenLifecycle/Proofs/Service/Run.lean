import Mathlib.Tactic
import TokenLifecycle.Proofs.Session.Memory
import TokenLifecycle.Proofs.Token.Minting
import TokenLifecycle.Proofs.Token.Verification
import TokenLifecycle.Service.Operations

/-!
# Runs of the service

A run goes through operations of the service over a store in memory, movements of the clocks and
failures of the store, in any order. `step_ends` says once what a single step can do.
-/

namespace TokenLifecycle

open Session (Memory Reply Script)

namespace Service

/-- What a run goes on from. -/
structure State where
  clock : Clock
  memory : Memory
  deriving DecidableEq, Repr

/-- A step of a run. -/
inductive Action
  | generate (uid : Int64) (draws : Draws)
  | refresh (token : String) (draws : Draws)
  | parse (token : String)
  | clean (uid : Int64)
  /-- The clocks move, each on its own. -/
  | advance (wall steady : Span)
  | failReads (failing : Bool)
  | failWrites (failing : Bool)

/-- What a step gives. -/
inductive Answer
  | generated (pair : TokenPair)
  | refreshed (refreshed : Refreshed)
  | parsed (claims : Claims)
  | nothing
  deriving DecidableEq, Repr

/-- Runs a script over the store of a state. -/
def State.perform {α : Type} (st : State) (script : Script α) (answer : α → Answer) :
    Reply State Answer :=
  let r := script.run (Memory.store st.clock.steady) st.memory
  ⟨r.outcome.map answer, r.logs, { st with memory := r.state }⟩

/-- Takes a step. -/
def step (s : Service) (st : State) : Action → Reply State Answer
  | .generate uid draws => st.perform (s.generate st.clock.wall draws uid) .generated
  | .refresh token draws => st.perform (s.refresh st.clock.wall draws token) .refreshed
  | .parse token => ⟨(s.claims st.clock.wall token).map .parsed, [], st⟩
  | .clean uid => st.perform (s.clean uid) fun _ => .nothing
  | .advance wall steady =>
    ⟨.ok .nothing, [], { st with clock := ⟨st.clock.wall.add wall, st.clock.steady.add steady⟩ }⟩
  | .failReads failing => ⟨.ok .nothing, [], { st with memory.readsFail := failing }⟩
  | .failWrites failing => ⟨.ok .nothing, [], { st with memory.writesFail := failing }⟩

/-- The state after some steps. -/
def run (s : Service) (st : State) (actions : List Action) : State :=
  actions.foldl (fun st action => (s.step st action).state) st

/-- A step that was taken, with what it came to. -/
abbrev Event := Action × Outcome Answer

/-- What happens in some steps. -/
def history (s : Service) : State → List Action → List Event
  | _, [] => []
  | st, action :: rest =>
    (action, (s.step st action).outcome) :: s.history (s.step st action).state rest

theorem run_append (s : Service) (st : State) (before after : List Action) :
    s.run st (before ++ after) = s.run (s.run st before) after :=
  List.foldl_append

theorem history_append (s : Service) (st : State) (before after : List Action) :
    s.history st (before ++ after) = s.history st before ++ s.history (s.run st before) after := by
  induction before generalizing st with
  | nil => rfl
  | cons action before ih =>
      rw [List.cons_append, history, ih, history, List.cons_append]
      rfl

/-! ### What a step can do -/

/-- The ways in which a step can end. -/
inductive Ends (s : Service) (st : State) : Action → Outcome Answer → State → Prop
  /-- The step fails and leaves everything as it is. -/
  | failed {action : Action} (f : Failure) : Ends s st action (.error f) st
  /-- A refresh fails because it finds a dead entry, which is dropped. -/
  | dropped {token : String} {draws : Draws} {claims : Claims} {e : Session.Entry} (f : Failure) :
      s.codec.verify st.clock.wall token = .ok claims →
      st.memory.readsFail = false →
      st.memory.find? (s.sessionKey claims.uid) = some e →
      e.deadline ≤ st.clock.steady →
      Ends s st (.refresh token draws) (.error f)
        { st with memory := st.memory.erase (s.sessionKey claims.uid) }
  | generated {uid : Int64} {draws : Draws} {access refresh : String} {deadline : Instant} :
      s.codec.mint st.clock.wall uid s.settings.accessLifetime draws.access = .ok access →
      s.codec.mint st.clock.wall uid s.settings.refreshLifetime draws.refresh = .ok refresh →
      st.memory.writesFail = false →
      Memory.deadline? st.clock.steady s.settings.refreshLifetime = some deadline →
      0 ≤ st.clock.wall.seconds →
      Ends s st (.generate uid draws)
        (.ok (.generated
          (.ofTokens access refresh s.settings.accessLifetime s.settings.refreshLifetime)))
        { st with memory := st.memory.insert (s.sessionKey uid) ⟨refresh, deadline⟩ }
  /-- A refresh gives a new access token only. -/
  | kept {token access : String} {draws : Draws} {claims : Claims} {deadline : Instant}
      {remaining : Span} :
      s.codec.verify st.clock.wall token = .ok claims →
      st.memory.readsFail = false →
      st.memory.live? st.clock.steady (s.sessionKey claims.uid) = some ⟨token, deadline⟩ →
      s.codec.mint st.clock.wall claims.uid s.settings.accessLifetime draws.access = .ok access →
      rotationDue claims st.clock.wall = .ok (remaining, false) →
      Ends s st (.refresh token draws)
        (.ok (.refreshed
          ⟨.ofTokens access token s.settings.accessLifetime remaining, claims.uid, false⟩)) st
  | rotated {token access refresh : String} {draws : Draws} {claims : Claims}
      {deadline next : Instant} {remaining : Span} :
      s.codec.verify st.clock.wall token = .ok claims →
      st.memory.readsFail = false →
      st.memory.live? st.clock.steady (s.sessionKey claims.uid) = some ⟨token, deadline⟩ →
      s.codec.mint st.clock.wall claims.uid s.settings.accessLifetime draws.access = .ok access →
      rotationDue claims st.clock.wall = .ok (remaining, true) →
      s.codec.mint st.clock.wall claims.uid s.settings.refreshLifetime draws.refresh =
        .ok refresh →
      st.memory.writesFail = false →
      Memory.deadline? st.clock.steady s.settings.refreshLifetime = some next →
      Ends s st (.refresh token draws)
        (.ok (.refreshed
          ⟨.ofTokens access refresh s.settings.accessLifetime s.settings.refreshLifetime,
            claims.uid, true⟩))
        { st with memory := st.memory.insert (s.sessionKey claims.uid) ⟨refresh, next⟩ }
  | parsed {token : String} {claims : Claims} :
      s.codec.verify st.clock.wall token = .ok claims →
      Ends s st (.parse token) (.ok (.parsed claims)) st
  | cleaned {uid : Int64} :
      st.memory.writesFail = false →
      Ends s st (.clean uid) (.ok .nothing)
        { st with memory := st.memory.erase (s.sessionKey uid) }
  | advanced (wall steady : Span) :
      Ends s st (.advance wall steady) (.ok .nothing)
        { st with clock := ⟨st.clock.wall.add wall, st.clock.steady.add steady⟩ }
  | failedReads (failing : Bool) :
      Ends s st (.failReads failing) (.ok .nothing) { st with memory.readsFail := failing }
  | failedWrites (failing : Bool) :
      Ends s st (.failWrites failing) (.ok .nothing) { st with memory.writesFail := failing }

section Continuations

variable {α β : Type} {uid : Int64}

/-- A script that fails without a call of the store, perhaps with a line in the log. -/
inductive Fails : Script β → Prop
  | done (f : Failure) : Fails (.done (.error f))
  | log (line : LogLine) (f : Failure) : Fails (.log line (.done (.error f)))

variable {Q : Script β → Prop}

theorem proceed_cases {outcome : Outcome α} {next : α → Script β}
    (fails : ∀ script, Fails script → Q script) (goes_on : ∀ a, outcome = .ok a → Q (next a)) :
    Q (proceed outcome next) := by
  cases outcome with
  | ok a => exact goes_on a rfl
  | error f => exact fails _ (.done f)

theorem proceedWithToken_cases {minted : Outcome String} {next : String → Script β}
    (fails : ∀ script, Fails script → Q script)
    (goes_on : ∀ token, minted = .ok token → Q (next token)) :
    Q (proceedWithToken uid minted next) := by
  unfold proceedWithToken
  split
  · exact goes_on _ rfl
  · exact fails _ (.log _ _)
  · exact fails _ (.done _)

theorem proceedWithAnswer_cases {operation : String} {answer : Outcome α} {next : α → Script β}
    (fails : ∀ script, Fails script → Q script) (goes_on : ∀ a, answer = .ok a → Q (next a)) :
    Q (proceedWithAnswer operation answer next) := by
  unfold proceedWithAnswer
  split
  · exact goes_on _ rfl
  · exact fails _ (.log _ _)
  · exact fails _ (.done _)

theorem proceedIfLive_cases {stored : Option String} {token : String} {next : Script β}
    (fails : ∀ script, Fails script → Q script) (goes_on : stored = some token → Q next) :
    Q (proceedIfLive uid stored token next) := by
  unfold proceedIfLive
  split
  · rename_i current
    split_ifs with same
    · exact goes_on (congrArg some same)
    · exact fails _ (.log _ _)
  · exact fails _ (.log _ _)

end Continuations

/-! ### Reading the clock -/

theorem refresh_of_running (s : Service) {now : Instant} (running : 0 ≤ now.seconds)
    (draws : Draws) (token : String) : s.refresh now draws token = s.refreshAt now draws token := by
  rw [refresh, Instant.read_of_running running, proceed]

theorem refresh_of_verify (s : Service) {now : Instant} {token : String} {claims : Claims}
    (verified : s.codec.verify now token = .ok claims) (draws : Draws) :
    s.refresh now draws token = s.refreshAt now draws token :=
  s.refresh_of_running (Codec.running_of_verify verified) draws token

theorem refresh_before_epoch (s : Service) {now : Instant} (early : now.seconds < 0)
    (draws : Draws) (token : String) :
    s.refresh now draws token = .done (.error .overflow) := by
  rw [refresh, Instant.read_before_epoch early, proceed]

theorem refresh_cases {s : Service} {now : Instant} {draws : Draws} {token : String}
    {Q : Script Refreshed → Prop} (fails : ∀ script, Fails script → Q script)
    (goes_on : 0 ≤ now.seconds → Q (s.refreshAt now draws token)) :
    Q (s.refresh now draws token) := by
  rcases Int.lt_or_le now.seconds 0 with early | running
  · rw [s.refresh_before_epoch early]
    exact fails _ (.done _)
  · rw [s.refresh_of_running running]
    exact goes_on running

theorem generate_before_epoch (s : Service) {now : Instant} (early : now.seconds < 0)
    (draws : Draws) (uid : Int64) : s.generate now draws uid = .done (.error .overflow) := by
  rw [generate, s.codec.mintNow_before_epoch early]
  rfl

theorem generate_ends (s : Service) (st : State) (uid : Int64) (draws : Draws) :
    Ends s st (.generate uid draws) (s.step st (.generate uid draws)).outcome
      (s.step st (.generate uid draws)).state := by
  let Q (script : Script TokenPair) : Prop :=
    Ends s st (.generate uid draws) (st.perform script .generated).outcome
      (st.perform script .generated).state
  have fails (script : Script TokenPair) (failing : Fails script) : Q script := by
    cases failing <;> exact .failed _
  change Q (s.generate st.clock.wall draws uid)
  refine proceedWithToken_cases fails fun access minted_now => ?_
  obtain ⟨running, minted_access⟩ := Codec.mintNow_eq_ok_iff.mp minted_now
  rw [s.codec.mintNow_of_running running]
  refine proceedWithToken_cases fails fun refresh minted_refresh => ?_
  rcases Memory.set_cases st.memory st.clock.steady (s.sessionKey uid) refresh
      s.settings.refreshLifetime with ⟨f, _, written⟩ | ⟨deadline, working, found, written⟩
  · simp only [Q, State.perform, Script.run, Memory.store, written]
    exact proceedWithAnswer_cases (Q := Q) fails fun _ done => by cases done
  · simp only [Q, State.perform, Script.run, Memory.store, written]
    exact .generated minted_access minted_refresh working found running

theorem refreshClaims_eq_ok_iff {s : Service} {now : Instant} {token : String} {c : Claims} :
    s.refreshClaims now token = .ok c ↔ s.codec.verify now token = .ok c := by
  unfold refreshClaims
  split
  · rename_i verified
    rw [verified]
  · rename_i refused
    simp [refused, refuse]
  · rename_i refused
    split_ifs <;> simp [refused, refuse]
  · rename_i refused
    simp [refused]

theorem refresh_ends (s : Service) (st : State) (token : String) (draws : Draws) :
    Ends s st (.refresh token draws) (s.step st (.refresh token draws)).outcome
      (s.step st (.refresh token draws)).state := by
  let Q (m : Memory) (script : Script Refreshed) : Prop :=
    Ends s st (.refresh token draws)
      ((script.run (Memory.store st.clock.steady) m).outcome.map .refreshed)
      { st with memory := (script.run (Memory.store st.clock.steady) m).state }
  have fails (script : Script Refreshed) (failing : Fails script) : Q st.memory script := by
    cases failing <;> exact .failed _
  change Q st.memory (s.refresh st.clock.wall draws token)
  refine refresh_cases fails fun _ => ?_
  refine proceed_cases fails fun claims verified => ?_
  rw [refreshClaims_eq_ok_iff] at verified
  rcases Memory.get_cases st.memory st.clock.steady (s.sessionKey claims.uid) with
    ⟨_, read⟩ | ⟨working, read | ⟨e, present, dead, read⟩⟩
  · simp only [Q, Script.run, Memory.store, read]
    exact proceedWithAnswer_cases (Q := Q st.memory) fails fun _ found => by cases found
  · simp only [Q, Script.run, Memory.store, read]
    refine proceedWithAnswer_cases (Q := Q st.memory) fails fun stored found => ?_
    obtain rfl := Except.ok.inj found
    refine proceedIfLive_cases fails fun current => ?_
    obtain ⟨⟨value, deadline⟩, live, rfl⟩ := Option.map_eq_some_iff.mp current
    refine proceedWithToken_cases fails fun access minted_access => ?_
    refine proceed_cases fails ?_
    rintro ⟨remaining, due⟩ decided
    cases due with
    | false => exact .kept verified working live minted_access decided
    | true =>
        refine proceedWithToken_cases fails fun refresh minted_refresh => ?_
        rcases Memory.set_cases st.memory st.clock.steady (s.sessionKey claims.uid) refresh
            s.settings.refreshLifetime with ⟨f, _, written⟩ | ⟨next, writing, found, written⟩
        · simp only [Q, Script.run, Memory.store, written]
          exact proceedWithAnswer_cases (Q := Q st.memory) fails fun _ done => by cases done
        · simp only [Q, Script.run, Memory.store, written]
          exact .rotated verified working live minted_access decided minted_refresh writing found
  · -- Behind the dropped entry there is nothing left to find, so the refresh can only fail.
    have drops (script : Script Refreshed) (failing : Fails script) :
        Q (st.memory.erase (s.sessionKey claims.uid)) script := by
      cases failing <;> exact .dropped _ verified working present dead
    simp only [Q, Script.run, Memory.store, read]
    refine proceedWithAnswer_cases (Q := Q (st.memory.erase _)) drops fun stored found => ?_
    obtain rfl := Except.ok.inj found
    exact proceedIfLive_cases drops fun current => by cases current

theorem clean_ends (s : Service) (st : State) (uid : Int64) :
    Ends s st (.clean uid) (s.step st (.clean uid)).outcome (s.step st (.clean uid)).state := by
  let Q (script : Script Unit) : Prop :=
    Ends s st (.clean uid) (st.perform script fun _ => .nothing).outcome
      (st.perform script fun _ => .nothing).state
  have fails (script : Script Unit) (failing : Fails script) : Q script := by
    cases failing <;> exact .failed _
  change Q (s.clean uid)
  rcases Memory.delete_cases st.memory (s.sessionKey uid) with ⟨_, deleted⟩ | ⟨working, deleted⟩
  · simp only [Q, State.perform, clean, Script.run, Memory.store, deleted]
    exact fails _ (.log _ _)
  · simp only [Q, State.perform, clean, Script.run, Memory.store, deleted]
    exact .cleaned working

/-- Every step ends in one of the given ways. -/
theorem step_ends (s : Service) (st : State) (action : Action) :
    Ends s st action (s.step st action).outcome (s.step st action).state := by
  cases action with
  | generate uid draws => exact generate_ends s st uid draws
  | refresh token draws => exact refresh_ends s st token draws
  | parse token =>
      cases verified : s.codec.verify st.clock.wall token with
      | error f =>
          simp only [step, claims, verified]
          exact .failed f
      | ok c =>
          simp only [step, claims, verified]
          exact .parsed verified
  | clean uid => exact clean_ends s st uid
  | advance wall steady => exact .advanced wall steady
  | failReads failing => exact .failedReads failing
  | failWrites failing => exact .failedWrites failing

/-! ### When a step succeeds -/

section Success

variable {s : Service} {st : State} {uid : Int64} {token access refresh : String} {draws : Draws}
  {claims : Claims} {deadline next : Instant} {remaining : Span}

theorem step_generated (running : 0 ≤ st.clock.wall.seconds)
    (minted : s.codec.mint st.clock.wall uid s.settings.accessLifetime draws.access = .ok access)
    (minted_refresh :
      s.codec.mint st.clock.wall uid s.settings.refreshLifetime draws.refresh = .ok refresh)
    (writing : st.memory.writesFail = false)
    (found : Memory.deadline? st.clock.steady s.settings.refreshLifetime = some deadline) :
    (s.step st (.generate uid draws)).outcome =
        .ok (.generated
          (.ofTokens access refresh s.settings.accessLifetime s.settings.refreshLifetime)) ∧
      (s.step st (.generate uid draws)).state =
        { st with memory := st.memory.insert (s.sessionKey uid) ⟨refresh, deadline⟩ } := by
  have written := Memory.set_of_deadline writing found (s.sessionKey uid) refresh
  simp only [step, State.perform, generate, s.codec.mintNow_of_running running, minted,
    minted_refresh, proceedWithToken, Script.run, Memory.store, written, proceedWithAnswer]
  exact ⟨rfl, rfl⟩

theorem step_kept (verified : s.codec.verify st.clock.wall token = .ok claims)
    (working : st.memory.readsFail = false)
    (live : st.memory.live? st.clock.steady (s.sessionKey claims.uid) = some ⟨token, deadline⟩)
    (minted : s.codec.mint st.clock.wall claims.uid s.settings.accessLifetime draws.access =
      .ok access)
    (decided : rotationDue claims st.clock.wall = .ok (remaining, false)) :
    (s.step st (.refresh token draws)).outcome =
      .ok (.refreshed
        ⟨.ofTokens access token s.settings.accessLifetime remaining, claims.uid, false⟩) := by
  have presented := refreshClaims_eq_ok_iff.mpr verified
  have read := Memory.get_of_live working live
  simp only [step, State.perform, s.refresh_of_verify verified, refreshAt, presented, proceed,
    Script.run, Memory.store, read, proceedWithAnswer, proceedIfLive, ↓reduceIte, minted,
    proceedWithToken, decided, Bool.false_eq_true]
  rfl

theorem step_rotated (verified : s.codec.verify st.clock.wall token = .ok claims)
    (working : st.memory.readsFail = false)
    (live : st.memory.live? st.clock.steady (s.sessionKey claims.uid) = some ⟨token, deadline⟩)
    (minted : s.codec.mint st.clock.wall claims.uid s.settings.accessLifetime draws.access =
      .ok access)
    (decided : rotationDue claims st.clock.wall = .ok (remaining, true))
    (minted_refresh :
      s.codec.mint st.clock.wall claims.uid s.settings.refreshLifetime draws.refresh =
        .ok refresh)
    (writing : st.memory.writesFail = false)
    (found : Memory.deadline? st.clock.steady s.settings.refreshLifetime = some next) :
    (s.step st (.refresh token draws)).outcome =
      .ok (.refreshed
        ⟨.ofTokens access refresh s.settings.accessLifetime s.settings.refreshLifetime,
          claims.uid, true⟩) := by
  have presented := refreshClaims_eq_ok_iff.mpr verified
  have read := Memory.get_of_live working live
  have written := Memory.set_of_deadline writing found (s.sessionKey claims.uid) refresh
  simp only [step, State.perform, s.refresh_of_verify verified, refreshAt, presented, proceed,
    Script.run, Memory.store, read, proceedWithAnswer, proceedIfLive, ↓reduceIte, minted,
    proceedWithToken, decided, minted_refresh, written]
  rfl

end Success

end Service

end TokenLifecycle
