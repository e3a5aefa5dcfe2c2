import TokenLifecycle.Session.Script

/-!
# The calls of a script

What a script asks of a store, call by call, with the answers that it gets. A store is any function
of its state, so a fact about the calls over every store is a fact about every way to answer them.
-/

namespace TokenLifecycle.Session

variable {σ α β : Type}

/-- A call of a store, with what the store answered. -/
inductive Call
  | set (key value : String) (ttl : Span) (answer : Outcome Unit)
  | get (key : String) (answer : Outcome (Option String))
  | delete (key : String) (answer : Outcome Unit)

/-- The answer of a call is the one that the store gives in a state. -/
def Call.AnsweredBy (store : Store σ) (s : σ) : Call → Prop
  | set key value ttl answer => (store.set key value ttl s).outcome = answer
  | get key answer => (store.get key s).outcome = answer
  | delete key answer => (store.delete key s).outcome = answer

/-- The failure that a call was answered with. -/
def Call.failure? : Call → Option Failure
  | set _ _ _ (.error f) => some f
  | get _ (.error f) => some f
  | delete _ (.error f) => some f
  | _ => none

namespace Script

/-- The calls that a script makes over a store, in order. -/
def calls (store : Store σ) : Script α → σ → List Call
  | done _, _ => []
  | log _ rest, s => rest.calls store s
  | set key value ttl next, s =>
    let r := store.set key value ttl s
    .set key value ttl r.outcome :: (next r.outcome).calls store r.state
  | get key next, s =>
    let r := store.get key s
    .get key r.outcome :: (next r.outcome).calls store r.state
  | delete key next, s =>
    let r := store.delete key s
    .delete key r.outcome :: (next r.outcome).calls store r.state

/-- The first call is answered in the state that the script starts from. -/
theorem answeredBy_of_calls_eq_cons {store : Store σ} {script : Script α} {s : σ} {call : Call}
    {rest : List Call} (first : script.calls store s = call :: rest) :
    call.AnsweredBy store s := by
  induction script with
  | done outcome => cases first
  | log line script ih => exact ih first
  | set key value ttl next | get key next | delete key next =>
      obtain ⟨rfl, _⟩ := List.cons.inj first
      exact rfl

/-- Every call is answered in some state. -/
theorem exists_answeredBy_of_mem_calls {store : Store σ} {script : Script α} {s : σ} {call : Call}
    (made : call ∈ script.calls store s) : ∃ s', call.AnsweredBy store s' := by
  induction script generalizing s with
  | done outcome => cases made
  | log line script ih => exact ih made
  | set key value ttl next ih | get key next ih | delete key next ih =>
      rcases List.mem_cons.mp made with rfl | later
      · exact ⟨s, rfl⟩
      · exact ih _ later

/-- The script that goes on to apply a function to its value. -/
def map (f : α → β) : Script α → Script β
  | done outcome => .done (outcome.map f)
  | log line rest => .log line (rest.map f)
  | set key value ttl next => .set key value ttl fun answer => (next answer).map f
  | get key next => .get key fun answer => (next answer).map f
  | delete key next => .delete key fun answer => (next answer).map f

theorem calls_map (f : α → β) (store : Store σ) (script : Script α) (s : σ) :
    (script.map f).calls store s = script.calls store s := by
  induction script generalizing s with
  | done outcome => rfl
  | log line rest ih => exact ih s
  | set key value ttl next ih => exact congrArg (Call.set key value ttl _ :: ·) (ih _ _)
  | get key next ih => exact congrArg (Call.get key _ :: ·) (ih _ _)
  | delete key next ih => exact congrArg (Call.delete key _ :: ·) (ih _ _)

theorem outcome_run_map (f : α → β) (store : Store σ) (script : Script α) (s : σ) :
    ((script.map f).run store s).outcome = (script.run store s).outcome.map f := by
  induction script generalizing s with
  | done outcome => rfl
  | log line rest ih => exact ih s
  | set key value ttl next ih => exact ih _ _
  | get key next ih => exact ih _ _
  | delete key next ih => exact ih _ _

/-! ### Scripts that end without a call -/

/-- The script calls nothing more and comes to an outcome, perhaps with a line in the log. -/
inductive EndsAt (outcome : Outcome α) : Script α → Prop
  | done : EndsAt outcome (.done outcome)
  | log (line : LogLine) : EndsAt outcome (.log line (.done outcome))

namespace EndsAt

variable {outcome : Outcome α} {script : Script α}

theorem calls_eq (ends : script.EndsAt outcome) (store : Store σ) (s : σ) :
    script.calls store s = [] := by
  cases ends <;> rfl

theorem outcome_eq (ends : script.EndsAt outcome) (store : Store σ) (s : σ) :
    (script.run store s).outcome = outcome := by
  cases ends <;> rfl

end EndsAt

end Script

end TokenLifecycle.Session
