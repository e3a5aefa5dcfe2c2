import TokenLifecycle.Error
import TokenLifecycle.Log.Line
import TokenLifecycle.Time.Instant

/-!
# Talking to a session store

A session store keeps texts under keys for a time. An operation on sessions is written as a script:
a tree of store calls, with a continuation for every answer, and of log lines. The same script runs
over any store.
-/

namespace TokenLifecycle.Session

/-- What a call comes to: its outcome, the lines it logged, and the state behind it. -/
structure Reply (σ α : Type) where
  outcome : Outcome α
  logs : List LogLine
  state : σ

/-- A store with states of type `σ`. -/
structure Store (σ : Type) where
  /-- Keeps a value under a key for a span. -/
  set : String → String → Span → σ → Reply σ Unit
  /-- The value under a key. -/
  get : String → σ → Reply σ (Option String)
  /-- Drops a key. -/
  delete : String → σ → Reply σ Unit

/-- A script that ends with a value of type `α`. -/
inductive Script (α : Type)
  | done (outcome : Outcome α)
  | log (line : LogLine) (rest : Script α)
  | set (key value : String) (ttl : Span) (next : Outcome Unit → Script α)
  | get (key : String) (next : Outcome (Option String) → Script α)
  | delete (key : String) (next : Outcome Unit → Script α)

namespace Script

/-- Puts lines before those of a reply. -/
def withLogs {σ α : Type} (lines : List LogLine) (r : Reply σ α) : Reply σ α :=
  { r with logs := lines ++ r.logs }

/-- Runs a script over a store. -/
def run {σ α : Type} (store : Store σ) : Script α → σ → Reply σ α
  | done outcome, s => ⟨outcome, [], s⟩
  | log line rest, s => withLogs [line] (rest.run store s)
  | set key value ttl next, s =>
    let r := store.set key value ttl s
    withLogs r.logs ((next r.outcome).run store r.state)
  | get key next, s =>
    let r := store.get key s
    withLogs r.logs ((next r.outcome).run store r.state)
  | delete key next, s =>
    let r := store.delete key s
    withLogs r.logs ((next r.outcome).run store r.state)

end Script

/-- Calls of a store that are to be refused before they reach it. -/
structure Refusals where
  set : Option Error := none
  get : Option Error := none
  delete : Option Error := none

/-- The store behind refusals. -/
def Store.behind {σ : Type} (refusals : Refusals) (store : Store σ) : Store σ where
  set key value ttl s :=
    match refusals.set with
    | some e => ⟨refuse e, [], s⟩
    | none => store.set key value ttl s
  get key s :=
    match refusals.get with
    | some e => ⟨refuse e, [], s⟩
    | none => store.get key s
  delete key s :=
    match refusals.delete with
    | some e => ⟨refuse e, [], s⟩
    | none => store.delete key s

end TokenLifecycle.Session
