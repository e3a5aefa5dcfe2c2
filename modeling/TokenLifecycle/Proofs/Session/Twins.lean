import Mathlib.Tactic
import TokenLifecycle.Proofs.Session.Calls
import TokenLifecycle.Proofs.Session.Memory

/-!
# Twin scripts over twin stores

Two runs that differ only in the values they keep: the stores hold related values under the same
keys, and the scripts make the same calls and log the same lines as long as what they find is
related. The main statement `Script.Twins.run` carries the relation through a whole script.
-/

namespace TokenLifecycle

variable {α : Type}

/-- The same failure, or related values. -/
inductive Outcome.Twins (R : α → α → Prop) : Outcome α → Outcome α → Prop
  | ok {a a' : α} : R a a' → Twins R (.ok a) (.ok a')
  | error (f : Failure) : Twins R (.error f) (.error f)

theorem Outcome.Twins.refl {R : α → α → Prop} (reflexive : ∀ a, R a a) (outcome : Outcome α) :
    outcome.Twins R outcome := by
  cases outcome with
  | ok a => exact .ok (reflexive a)
  | error f => exact .error f

namespace Session

/-! ### Stores -/

/-- Entries with related values and one deadline. -/
structure Entry.Twins (R : String → String → Prop) (e e' : Entry) : Prop where
  value : R e.value e'.value
  deadline : e.deadline = e'.deadline

/-- Stores that fail alike and hold related values under the same keys. -/
structure Memory.Twins (R : String → String → Prop) (m m' : Memory) : Prop where
  readsFail : m.readsFail = m'.readsFail
  writesFail : m.writesFail = m'.writesFail
  find? : ∀ key, Option.Rel (Entry.Twins R) (m.find? key) (m'.find? key)

namespace Memory.Twins

variable {R S : String → String → Prop} {m m' : Memory}

theorem empty (R : String → String → Prop) : Twins R .empty .empty :=
  ⟨rfl, rfl, fun _ => .none⟩

/-- Values that are held in both stores may be related in a further way. -/
theorem imp (twins : Twins R m m')
    (related : ∀ key e e', m.find? key = some e → m'.find? key = some e' → R e.value e'.value →
      S e.value e'.value) : Twins S m m' := by
  refine ⟨twins.readsFail, twins.writesFail, fun key => ?_⟩
  have found := twins.find? key
  generalize present : m.find? key = e at found ⊢
  generalize present' : m'.find? key = e' at found ⊢
  cases found with
  | none => exact .none
  | some entries => exact .some ⟨related key _ _ present present' entries.value, entries.deadline⟩

theorem mono (twins : Twins R m m') (weaker : ∀ v v', R v v' → S v v') : Twins S m m' :=
  twins.imp fun _ _ _ _ _ => weaker _ _

theorem erase (twins : Twins R m m') (key : String) : Twins R (m.erase key) (m'.erase key) := by
  refine ⟨twins.readsFail, twins.writesFail, fun other => ?_⟩
  rw [find?_erase, find?_erase]
  split_ifs
  · exact .none
  · exact twins.find? other

theorem insert (twins : Twins R m m') (key : String) {e e' : Entry} (entries : e.Twins R e') :
    Twins R (m.insert key e) (m'.insert key e') := by
  refine ⟨twins.readsFail, twins.writesFail, fun other => ?_⟩
  rw [find?_insert, find?_insert]
  split_ifs
  · exact .some entries
  · exact twins.find? other

end Memory.Twins

/-- Replies with related values and the same lines, and with twin stores behind them. -/
structure Reply.Twins (A : α → α → Prop) (R : String → String → Prop) (r r' : Reply Memory α) :
    Prop where
  outcome : r.outcome.Twins A r'.outcome
  logs : r.logs = r'.logs
  state : Memory.Twins R r.state r'.state

theorem Reply.Twins.withLogs {A : α → α → Prop} {R : String → String → Prop}
    {r r' : Reply Memory α} (twins : Reply.Twins A R r r') (lines : List LogLine) :
    Reply.Twins A R (Script.withLogs lines r) (Script.withLogs lines r') :=
  ⟨twins.outcome, congrArg (lines ++ ·) twins.logs, twins.state⟩

namespace Memory.Twins

variable {R : String → String → Prop} {m m' : Memory}

theorem set (twins : Twins R m m') (now : Instant) (key : String) {value value' : String}
    (related : R value value') (ttl : Span) :
    (m.set now key value ttl).outcome = (m'.set now key value' ttl).outcome ∧
      (m.set now key value ttl).logs = (m'.set now key value' ttl).logs ∧
      Twins R (m.set now key value ttl).state (m'.set now key value' ttl).state := by
  rw [Memory.set, Memory.set, twins.writesFail]
  split_ifs
  · exact ⟨rfl, rfl, twins⟩
  · split
    · exact ⟨rfl, rfl, twins.insert key ⟨related, rfl⟩⟩
    · exact ⟨rfl, rfl, twins⟩

theorem get (twins : Twins R m m') (now : Instant) (key : String) :
    Reply.Twins (Option.Rel R) R (m.get now key) (m'.get now key) := by
  have found := twins.find? key
  rw [Memory.get, Memory.get, twins.readsFail]
  split_ifs
  · exact ⟨.error _, rfl, twins⟩
  · generalize m.find? key = e at found ⊢
    generalize m'.find? key = e' at found ⊢
    cases found with
    | none => exact ⟨.ok .none, rfl, twins⟩
    | some entries =>
        simp only [entries.deadline]
        split_ifs
        · exact ⟨.ok (.some entries.value), rfl, twins⟩
        · exact ⟨.ok .none, rfl, twins.erase key⟩

theorem delete (twins : Twins R m m') (key : String) :
    (m.delete key).outcome = (m'.delete key).outcome ∧
      (m.delete key).logs = (m'.delete key).logs ∧
      Twins R (m.delete key).state (m'.delete key).state := by
  rw [Memory.delete, Memory.delete, twins.writesFail]
  split_ifs
  · exact ⟨rfl, rfl, twins⟩
  · exact ⟨rfl, rfl, twins.erase key⟩

end Memory.Twins

/-! ### Scripts -/

/-- Scripts with the same calls and lines. The values that they set are related by `kept`, and they
go on as twins from all values that are related by `found`; once they have set a value, what they
find may be that value. Scripts that come to the barred failure are not compared. -/
inductive Script.Twins (barred : Failure) (A : α → α → Prop) (kept : String → String → Prop) :
    (String → String → Prop) → Script α → Script α → Prop
  | done {found} {outcome outcome' : Outcome α} :
      outcome.Twins A outcome' → Twins barred A kept found (.done outcome) (.done outcome')
  | log {found} (line : LogLine) {rest rest' : Script α} :
      Twins barred A kept found rest rest' →
      Twins barred A kept found (.log line rest) (.log line rest')
  | set {found} (key : String) {value value' : String} (ttl : Span)
      {next next' : Outcome Unit → Script α} :
      kept value value' →
      (∀ answer, Twins barred A kept kept (next answer) (next' answer)) →
      Twins barred A kept found (.set key value ttl next) (.set key value' ttl next')
  | get {found} (key : String) {next next' : Outcome (Option String) → Script α} :
      (∀ answer answer', answer.Twins (Option.Rel found) answer' →
        Twins barred A kept found (next answer) (next' answer')) →
      Twins barred A kept found (.get key next) (.get key next')
  | delete {found} (key : String) {next next' : Outcome Unit → Script α} :
      (∀ answer, Twins barred A kept found (next answer) (next' answer)) →
      Twins barred A kept found (.delete key next) (.delete key next')
  | barred {found} {script script' : Script α} :
      script.EndsAt (.error barred) ∨ script'.EndsAt (.error barred) →
      Twins barred A kept found script script'

/-- Twin scripts get twin answers from twin stores, and leave such. -/
theorem Script.Twins.run {barred : Failure} {A : α → α → Prop}
    {kept found : String → String → Prop} {script script' : Script α}
    (twins : Script.Twins barred A kept found script script')
    (weaker : ∀ v v', found v v' → kept v v') (now : Instant) {m m' : Memory}
    (memory : Memory.Twins found m m')
    (allowed : (script.run (Memory.store now) m).outcome ≠ .error barred)
    (allowed' : (script'.run (Memory.store now) m').outcome ≠ .error barred) :
    Reply.Twins A kept (script.run (Memory.store now) m) (script'.run (Memory.store now) m') := by
  induction twins generalizing m m' with
  | done outcomes => exact ⟨outcomes, rfl, memory.mono weaker⟩
  | log line _ ih => exact (ih weaker memory allowed allowed').withLogs [line]
  | set key ttl related _ ih =>
      obtain ⟨answer, lines, state⟩ := (memory.mono weaker).set now key related ttl
      simp only [Script.run, Memory.store, answer, lines] at allowed ⊢
      exact (ih _ (fun _ _ => id) state allowed allowed').withLogs _
  | get key _ ih =>
      obtain ⟨answers, lines, state⟩ := memory.get now key
      simp only [Script.run, Memory.store, lines] at allowed ⊢
      exact (ih _ _ answers weaker state allowed allowed').withLogs _
  | delete key _ ih =>
      obtain ⟨answer, lines, state⟩ := memory.delete key
      simp only [Script.run, Memory.store, answer, lines] at allowed ⊢
      exact (ih _ weaker state allowed allowed').withLogs _
  | barred ends =>
      rcases ends with ends | ends
      · exact absurd (ends.outcome_eq _ _) allowed
      · exact absurd (ends.outcome_eq _ _) allowed'

end Session

end TokenLifecycle
