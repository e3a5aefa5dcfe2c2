import Mathlib.Data.Set.Basic
import TokenLifecycle.Session.Script

/-!
# What a script does to its store

A script sees a store through the answers to its calls alone. So what single calls keep, a whole
script keeps: `run_related` says so for a relation between two stores, and `run_keeps` for a
property of one. Both ask only about the keys that the script calls.
-/

namespace TokenLifecycle.Session

variable {σ σ' α : Type} {keys : Set String}

/-- All calls that a script makes are about some keys. -/
def Script.Within {α : Type} (keys : Set String) : Script α → Prop
  | .done _ => True
  | .log _ rest => rest.Within keys
  | .set key _ _ next => key ∈ keys ∧ ∀ answer, (next answer).Within keys
  | .get key next => key ∈ keys ∧ ∀ answer, (next answer).Within keys
  | .delete key next => key ∈ keys ∧ ∀ answer, (next answer).Within keys

theorem Script.within_univ (script : Script α) : script.Within Set.univ := by
  induction script with
  | done outcome => trivial
  | log line rest ih => exact ih
  | set key value ttl next ih => exact ⟨Set.mem_univ key, ih⟩
  | get key next ih => exact ⟨Set.mem_univ key, ih⟩
  | delete key next ih => exact ⟨Set.mem_univ key, ih⟩

theorem Script.Within.mono {keys' : Set String} (subset : keys ⊆ keys') {script : Script α}
    (within : script.Within keys) : script.Within keys' := by
  induction script with
  | done outcome => trivial
  | log line rest ih => exact ih within
  | set key value ttl next ih =>
      exact ⟨subset within.1, fun answer => ih answer (within.2 answer)⟩
  | get key next ih => exact ⟨subset within.1, fun answer => ih answer (within.2 answer)⟩
  | delete key next ih => exact ⟨subset within.1, fun answer => ih answer (within.2 answer)⟩

/-! ### Two stores -/

/-- Replies with the same answer and the same lines, and with related states behind them. -/
structure Reply.Related (R : σ → σ' → Prop) (r : Reply σ α) (r' : Reply σ' α) : Prop where
  outcome : r.outcome = r'.outcome
  logs : r.logs = r'.logs
  state : R r.state r'.state

theorem Reply.Related.withLogs {R : σ → σ' → Prop} {r : Reply σ α} {r' : Reply σ' α}
    (related : Reply.Related R r r') (lines : List LogLine) :
    Reply.Related R (Script.withLogs lines r) (Script.withLogs lines r') :=
  ⟨related.outcome, congrArg (lines ++ ·) related.logs, related.state⟩

/-- Calls about some keys get the same answers from related states, and leave related states. -/
structure Store.Matches (keys : Set String) (R : σ → σ' → Prop) (store : Store σ)
    (store' : Store σ') : Prop where
  set : ∀ key ∈ keys, ∀ value ttl s s', R s s' →
    Reply.Related R (store.set key value ttl s) (store'.set key value ttl s')
  get : ∀ key ∈ keys, ∀ s s', R s s' → Reply.Related R (store.get key s) (store'.get key s')
  delete : ∀ key ∈ keys, ∀ s s', R s s' →
    Reply.Related R (store.delete key s) (store'.delete key s')

/-- A script gets the same answers from related states, and leaves related states. -/
theorem Script.run_related {R : σ → σ' → Prop} {store : Store σ} {store' : Store σ'}
    (same : store.Matches keys R store') {script : Script α} (within : script.Within keys) {s : σ}
    {s' : σ'} (related : R s s') : Reply.Related R (script.run store s) (script.run store' s') := by
  induction script generalizing s s' with
  | done outcome => exact ⟨rfl, rfl, related⟩
  | log line rest ih => exact (ih within related).withLogs [line]
  | set key value ttl next ih =>
      have call := same.set key within.1 value ttl s s' related
      have rest := ih (store.set key value ttl s).outcome (within.2 _) call.state
      simp only [Script.run, ← call.outcome, ← call.logs]
      exact rest.withLogs _
  | get key next ih =>
      have call := same.get key within.1 s s' related
      have rest := ih (store.get key s).outcome (within.2 _) call.state
      simp only [Script.run, ← call.outcome, ← call.logs]
      exact rest.withLogs _
  | delete key next ih =>
      have call := same.delete key within.1 s s' related
      have rest := ih (store.delete key s).outcome (within.2 _) call.state
      simp only [Script.run, ← call.outcome, ← call.logs]
      exact rest.withLogs _

/-! ### One store -/

/-- Calls about some keys keep a property of the state. -/
structure Store.Keeps (keys : Set String) (P : σ → Prop) (store : Store σ) : Prop where
  set : ∀ key ∈ keys, ∀ value ttl s, P s → P (store.set key value ttl s).state
  get : ∀ key ∈ keys, ∀ s, P s → P (store.get key s).state
  delete : ∀ key ∈ keys, ∀ s, P s → P (store.delete key s).state

/-- A script keeps what its calls keep. -/
theorem Script.run_keeps {P : σ → Prop} {store : Store σ} (keeps : store.Keeps keys P)
    {script : Script α} (within : script.Within keys) {s : σ} (before : P s) :
    P (script.run store s).state := by
  induction script generalizing s with
  | done outcome => exact before
  | log line rest ih => exact ih within before
  | set key value ttl next ih =>
      exact ih _ (within.2 _) (keeps.set key within.1 value ttl s before)
  | get key next ih => exact ih _ (within.2 _) (keeps.get key within.1 s before)
  | delete key next ih => exact ih _ (within.2 _) (keeps.delete key within.1 s before)

end TokenLifecycle.Session
