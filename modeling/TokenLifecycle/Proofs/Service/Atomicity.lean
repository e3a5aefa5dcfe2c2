import Mathlib.Tactic
import TokenLifecycle.Proofs.Service.Run
import TokenLifecycle.Proofs.Token.Minting

/-!
# Failed steps leave no trace

A step that fails changes nothing that shows later. At most it drops a dead entry from the store.
The main statement `step_failed` says so for the live entries and for all that can come next, and
tells what becomes of a session when the store fails to write.
-/

namespace TokenLifecycle.Service

open Session (Memory)

/-- The steady clock is not set back. -/
def Action.RunsOn : Action → Prop
  | .advance _ steady => 0 ≤ steady.nanoseconds
  | _ => True

/-- Two states that no step to come tells apart. -/
structure State.Alike (st st' : State) : Prop where
  clock : st.clock = st'.clock
  memory : Memory.Alike st.clock.steady st.memory st'.memory

/-- States that cannot be told apart give a script the same answers. -/
theorem State.Alike.perform {α : Type} {st st' : State} (alike : st.Alike st')
    (script : Session.Script α) (answer : α → Answer) :
    (st.perform script answer).outcome = (st'.perform script answer).outcome ∧
      (st.perform script answer).state.Alike (st'.perform script answer).state := by
  obtain ⟨clock, memory⟩ := st
  obtain ⟨clock', memory'⟩ := st'
  obtain ⟨rfl, same⟩ := alike
  have replies := Memory.run_alike script same
  exact ⟨congrArg (Except.map answer) replies.outcome, rfl, replies.state⟩

/-- A step gives the same from states that cannot be told apart, and leaves such. -/
theorem step_alike (s : Service) {st st' : State} (alike : st.Alike st') {action : Action}
    (forward : action.RunsOn) :
    (s.step st action).outcome = (s.step st' action).outcome ∧
      (s.step st action).state.Alike (s.step st' action).state := by
  have wall := congrArg Clock.wall alike.clock
  have steady := congrArg Clock.steady alike.clock
  cases action with
  | generate uid draws =>
      rw [step, step, ← wall]
      exact alike.perform _ _
  | refresh token draws =>
      rw [step, step, ← wall]
      exact alike.perform _ _
  | parse token =>
      rw [step, step, ← wall]
      exact ⟨rfl, alike⟩
  | clean uid => exact alike.perform _ _
  | advance wallSpan steadySpan =>
      refine ⟨rfl, ?_, alike.memory.later ?_⟩
      · simp only [step, wall, steady]
      · have ahead : 0 ≤ steadySpan.nanoseconds := forward
        simp only [step, Instant.le_iff, Instant.add]
        omega
  | failReads failing =>
      exact ⟨rfl, alike.clock, rfl, alike.memory.writesFail, alike.memory.live?⟩
  | failWrites failing =>
      exact ⟨rfl, alike.clock, alike.memory.readsFail, rfl, alike.memory.live?⟩

/-- States that cannot be told apart have the same history before them. -/
theorem history_alike (s : Service) {st st' : State} (alike : st.Alike st') {actions : List Action}
    (forward : ∀ action ∈ actions, action.RunsOn) :
    s.history st actions = s.history st' actions := by
  induction actions generalizing st st' with
  | nil => rfl
  | cons action rest ih =>
      obtain ⟨same, alike_next⟩ := step_alike s alike (forward action List.mem_cons_self)
      rw [history, history, same,
        ih alike_next fun later member => forward later (List.mem_cons_of_mem action member)]

/-- A failed step leaves a state that cannot be told from the one before. -/
theorem alike_of_failed {s : Service} {st : State} {action : Action} {f : Failure}
    (failed : (s.step st action).outcome = .error f) : (s.step st action).state.Alike st := by
  have ends := step_ends s st action
  rw [failed] at ends
  generalize (s.step st action).state = next at ends
  cases ends with
  | failed => exact ⟨rfl, Memory.Alike.refl _ _⟩
  | dropped _ verified working present dead => exact ⟨rfl, Memory.Alike.erase_dead present dead⟩

/-- Only a refresh that fails can drop an entry. -/
theorem state_eq_of_failed {s : Service} {st : State} {action : Action} {f : Failure}
    (failed : (s.step st action).outcome = .error f)
    (other : ∀ token draws, action ≠ .refresh token draws) : (s.step st action).state = st := by
  have ends := step_ends s st action
  rw [failed] at ends
  generalize (s.step st action).state = next at ends
  cases ends with
  | failed => rfl
  | dropped => exact absurd rfl (other _ _)

/-- A state whose store works. -/
def State.serving (st : State) : State :=
  { st with memory := { st.memory with readsFail := false, writesFail := false } }

/-- A refresh that fails only because the store does not write is one that rotates, and it leaves
the session as it is. -/
theorem rotated_of_failed_write {s : Service} {st : State} {token : String} {draws : Draws}
    {f : Failure} (failed : (s.step st (.refresh token draws)).outcome = .error f)
    (reading : st.memory.readsFail = false) {r : Refreshed}
    (served : (s.step st.serving (.refresh token draws)).outcome = .ok (.refreshed r)) :
    r.rotated = true ∧ (s.step st (.refresh token draws)).state = st := by
  have ends := step_ends s st.serving (.refresh token draws)
  rw [served] at ends
  generalize (s.step st.serving (.refresh token draws)).state = next at ends
  cases ends with
  | kept verified _ live minted decided =>
      have kept : (s.step st (.refresh token draws)).outcome = .ok _ :=
        step_kept verified reading live minted decided
      rw [kept] at failed
      cases failed
  | rotated verified _ live minted decided minted_refresh _ found =>
      refine ⟨rfl, ?_⟩
      have ends' := step_ends s st (.refresh token draws)
      rw [failed] at ends'
      generalize (s.step st (.refresh token draws)).state = next' at ends'
      cases ends' with
      | failed => rfl
      | dropped _ verified' _ present dead =>
          obtain rfl := Except.ok.inj (verified.symm.trans verified')
          have gone := Memory.live?_eq_none_of_dead present dead
          have alive : st.memory.live? st.clock.steady _ = some _ := live
          cases alive.symm.trans gone

/-- A step that fails leaves the clocks, the failures and the live entries of the store as they are,
now and at all later times, and no run that goes on from it differs from one that goes on as if it
had not been taken. Issuing and dropping sessions leaves the state alone altogether when it fails;
so does a refresh that fails only because the store does not write, which then rotates as soon as
the store works. -/
theorem step_failed {s : Service} {st : State} {action : Action} {f : Failure}
    (failed : (s.step st action).outcome = .error f) :
    let next := (s.step st action).state
    next.clock = st.clock ∧
      next.memory.readsFail = st.memory.readsFail ∧
      next.memory.writesFail = st.memory.writesFail ∧
      (∀ later, st.clock.steady ≤ later → ∀ key,
        next.memory.live? later key = st.memory.live? later key) ∧
      (∀ (other : Service) (rest : List Action), (∀ action ∈ rest, action.RunsOn) →
        other.history next rest = other.history st rest) ∧
      ((∀ token draws, action ≠ .refresh token draws) → next = st) ∧
      (∀ token draws r, action = .refresh token draws → st.memory.readsFail = false →
        (s.step st.serving (.refresh token draws)).outcome = .ok (.refreshed r) →
          r.rotated = true ∧ next = st ∧
            (s.step next.serving (.refresh token draws)).outcome = .ok (.refreshed r)) := by
  intro next
  have alike : next.Alike st := alike_of_failed failed
  refine ⟨alike.clock, alike.memory.readsFail, alike.memory.writesFail, ?_,
    fun other rest forward => history_alike other alike forward,
    fun other => state_eq_of_failed failed other, ?_⟩
  · intro later ahead key
    exact alike.memory.live? later (alike.clock ▸ ahead) key
  · rintro token draws r rfl reading served
    obtain ⟨rotated, unchanged⟩ := rotated_of_failed_write failed reading served
    refine ⟨rotated, unchanged, ?_⟩
    rw [show next = st from unchanged, served]

/-- A pair that cannot be stored is not issued, and the earlier session stays. -/
theorem step_failed_write :
    let s : Service := ⟨⟨.digest, none, 0⟩, .default⟩
    let earlier : Memory := ⟨[("refresh_token:7", ⟨"earlier", .ofSeconds 60⟩)], false, true⟩
    let action : Action := .generate 7 ⟨⟨"a", []⟩, ⟨"b", []⟩⟩
    (s.step ⟨⟨.ofSeconds 0, .ofSeconds 0⟩, earlier⟩ action).outcome =
        .error (Memory.unavailable "writes") ∧
      (s.step ⟨⟨.ofSeconds 0, .ofSeconds 0⟩, earlier⟩ action).state.memory = earlier := by
  intro s earlier action
  have failed : (s.step ⟨⟨.ofSeconds 0, .ofSeconds 0⟩, earlier⟩ action).outcome =
      .error (Memory.unavailable "writes") := rfl
  obtain ⟨_, _, _, _, _, unchanged, _⟩ := step_failed failed
  exact ⟨failed, congrArg State.memory (unchanged fun _ _ => nofun)⟩

end TokenLifecycle.Service
