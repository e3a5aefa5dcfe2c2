import Mathlib.Tactic
import TokenLifecycle.Proofs.Association
import TokenLifecycle.Proofs.Session.Script
import TokenLifecycle.Proofs.Time.Instant
import TokenLifecycle.Session.Memory

/-!
# Stores that cannot be told apart

What a store in memory does from an instant on depends on its live entries alone: whether a dead
entry has been dropped or not never shows. `run_alike` carries this over to all scripts. As such a
store logs nothing of its own, `Script.Leaves.run` reads the lines off the script.
-/

namespace TokenLifecycle

namespace Session.Memory

variable {m m' : Memory} {now : Instant} {key other : String} {e : Entry}

/-! ### Entries after a change -/

@[simp] theorem find?_erase (m : Memory) (key other : String) :
    (m.erase key).find? other = if other = key then none else m.find? other :=
  Association.lookup_filter_ne m.entries key other

@[simp] theorem find?_insert (m : Memory) (key other : String) (e : Entry) :
    (m.insert key e).find? other = if other = key then some e else m.find? other := by
  rw [find?, insert, Association.lookup_cons_eq]
  by_cases same : other = key
  · rw [if_pos same, if_pos same]
  · have erased := find?_erase m key other
    rw [if_neg same] at erased
    rw [if_neg same, if_neg same]
    exact erased

theorem live?_eq_some_iff :
    m.live? now key = some e ↔ m.find? key = some e ∧ now < e.deadline := by
  simp [live?, Option.filter_eq_some_iff]

theorem live?_erase (m : Memory) (now : Instant) (key other : String) :
    (m.erase key).live? now other = if other = key then none else m.live? now other := by
  rw [live?, find?_erase]
  split_ifs <;> rfl

theorem live?_insert (m : Memory) (now : Instant) (key other : String) (e : Entry) :
    (m.insert key e).live? now other =
      if other = key then (some e).filter fun e => now < e.deadline else m.live? now other := by
  rw [live?, find?_insert]
  split_ifs <;> rfl

/-- An entry stays dead. -/
theorem live?_eq_none_of_dead (present : m.find? key = some e) (dead : e.deadline ≤ now) :
    m.live? now key = none := by
  rw [live?, present, Option.filter_some, if_neg]
  simpa [Instant.not_lt] using dead

theorem deadline?_eq_some_iff {ttl : Span} {deadline : Instant} :
    deadline? now ttl = some deadline ↔
      (now.add ttl).seconds < 9223372036854775808 ∧ now.add ttl = deadline := by
  simp only [deadline?, Option.ite_none_right_eq_some, Option.some.injEq]

/-- What can be kept from an instant on could be kept earlier. -/
theorem exists_deadline?_of_le {later deadline : Instant} {ttl : Span} (ahead : now ≤ later)
    (found : deadline? later ttl = some deadline) :
    ∃ earlier, deadline? now ttl = some earlier := by
  obtain ⟨shown, _⟩ := deadline?_eq_some_iff.mp found
  refine ⟨_, deadline?_eq_some_iff.mpr ⟨Int.lt_of_le_of_lt ?_ shown, rfl⟩⟩
  exact Int.ediv_le_ediv (by decide) (Int.add_le_add_right ahead _)

/-! ### The list of entries -/

/-- No key occurs twice. -/
def Distinct (m : Memory) : Prop :=
  (m.entries.map Prod.fst).Nodup

theorem distinct_empty : empty.Distinct :=
  List.nodup_nil

theorem Distinct.erase (distinct : m.Distinct) (key : String) : (m.erase key).Distinct :=
  distinct.sublist (List.filter_sublist.map Prod.fst)

theorem Distinct.insert (distinct : m.Distinct) (key : String) (e : Entry) :
    (m.insert key e).Distinct := by
  refine List.nodup_cons.mpr ⟨fun member => ?_, distinct.erase key⟩
  obtain ⟨⟨other, _⟩, kept, rfl⟩ := List.mem_map.mp member
  simp [Memory.erase] at kept

theorem mem_entries_of_erase (kept : (key, e) ∈ (m.erase other).entries) : (key, e) ∈ m.entries :=
  List.mem_of_mem_filter kept

theorem Distinct.find?_eq (distinct : m.Distinct) (member : (key, e) ∈ m.entries) :
    m.find? key = some e := by
  obtain ⟨before, after, entries⟩ := List.append_of_mem member
  rw [Distinct, entries, List.map_append, List.map_cons, List.nodup_middle] at distinct
  refine List.lookup_eq_some_iff.mpr ⟨before, after, entries, fun entry earlier => ?_⟩
  have apart : key ∉ before.map Prod.fst := fun twice =>
    (List.nodup_cons.mp distinct).1 (List.mem_append_left _ twice)
  exact bne_iff_ne.mpr fun same => apart (same ▸ List.mem_map_of_mem earlier)

/-! ### Answers of the store -/

theorem set_cases (m : Memory) (now : Instant) (key value : String) (ttl : Span) :
    (∃ f, (m.writesFail = true ∨ deadline? now ttl = none) ∧
        m.set now key value ttl = ⟨.error f, [], m⟩) ∨
      ∃ deadline, m.writesFail = false ∧ deadline? now ttl = some deadline ∧
        m.set now key value ttl = ⟨.ok (), [], m.insert key ⟨value, deadline⟩⟩ := by
  rw [set]
  split_ifs with failing
  · exact .inl ⟨_, .inl failing, rfl⟩
  · split
    · rename_i deadline found
      exact .inr ⟨deadline, by simpa using failing, found, rfl⟩
    · rename_i missing
      exact .inl ⟨_, .inr missing, rfl⟩

/-- A read fails, or finds what is live, or drops what is dead. -/
theorem get_cases (m : Memory) (now : Instant) (key : String) :
    (m.readsFail = true ∧ m.get now key = ⟨.error (unavailable "reads"), [], m⟩) ∨
      m.readsFail = false ∧
        (m.get now key = ⟨.ok ((m.live? now key).map (·.value)), [], m⟩ ∨
          ∃ e, m.find? key = some e ∧ e.deadline ≤ now ∧
            m.get now key = ⟨.ok none, [], m.erase key⟩) := by
  rw [get]
  split_ifs with failing
  · exact .inl ⟨failing, rfl⟩
  · refine .inr ⟨by simpa using failing, ?_⟩
    cases present : m.find? key with
    | none => exact .inl (by simp [live?, present])
    | some e =>
        by_cases alive : now < e.deadline
        · exact .inl (by simp [live?, present, alive])
        · exact .inr ⟨e, rfl, Instant.not_lt.mp alive, by simp [alive]⟩

theorem delete_cases (m : Memory) (key : String) :
    (m.writesFail = true ∧ m.delete key = ⟨.error (unavailable "writes"), [], m⟩) ∨
      m.writesFail = false ∧ m.delete key = ⟨.ok (), [], m.erase key⟩ := by
  rw [delete]
  split_ifs with failing
  · exact .inl ⟨failing, rfl⟩
  · exact .inr ⟨by simpa using failing, rfl⟩

theorem get_of_live (working : m.readsFail = false) (live : m.live? now key = some e) :
    m.get now key = ⟨.ok (some e.value), [], m⟩ := by
  obtain ⟨present, alive⟩ := live?_eq_some_iff.mp live
  simp [get, working, present, alive]

theorem set_of_deadline {ttl : Span} {deadline : Instant} (working : m.writesFail = false)
    (found : deadline? now ttl = some deadline) (key value : String) :
    m.set now key value ttl = ⟨.ok (), [], m.insert key ⟨value, deadline⟩⟩ := by
  simp [set, working, found]

/-- What a read finds is the value of a live entry. -/
theorem outcome_get (m : Memory) (now : Instant) (key : String) :
    (m.get now key).outcome =
      if m.readsFail then .error (unavailable "reads")
      else .ok ((m.live? now key).map (·.value)) := by
  rcases get_cases m now key with ⟨failing, read⟩ | ⟨working, read | ⟨e, present, dead, read⟩⟩
  · rw [read, if_pos failing]
  · rw [read, if_neg (by simp [working])]
  · rw [read, if_neg (by simp [working]), live?_eq_none_of_dead present dead]
    rfl

theorem outcome_set (m : Memory) (now : Instant) (key value : String) (ttl : Span) :
    (m.set now key value ttl).outcome =
      if m.writesFail then .error (unavailable "writes")
      else if (now.add ttl).seconds < 9223372036854775808 then .ok () else .error .overflow := by
  unfold set deadline?
  split_ifs with failing shown
  · rfl
  · simp only [if_pos shown]
  · simp only [if_neg shown]

theorem outcome_delete (m : Memory) (key : String) :
    (m.delete key).outcome = if m.writesFail then .error (unavailable "writes") else .ok () := by
  unfold delete
  split_ifs <;> rfl

theorem logs_get (m : Memory) (now : Instant) (key : String) : (m.get now key).logs = [] := by
  rcases get_cases m now key with ⟨_, read⟩ | ⟨_, read | ⟨_, _, _, read⟩⟩ <;> rw [read]

theorem logs_set (m : Memory) (now : Instant) (key value : String) (ttl : Span) :
    (m.set now key value ttl).logs = [] := by
  rcases set_cases m now key value ttl with ⟨_, _, reply⟩ | ⟨_, _, _, reply⟩ <;> rw [reply]

theorem logs_delete (m : Memory) (key : String) : (m.delete key).logs = [] := by
  rcases delete_cases m key with ⟨_, reply⟩ | ⟨_, reply⟩ <;> rw [reply]

/-- Two stores that no call from an instant on tells apart. -/
structure Alike (now : Instant) (m m' : Memory) : Prop where
  readsFail : m.readsFail = m'.readsFail
  writesFail : m.writesFail = m'.writesFail
  live? : ∀ later, now ≤ later → ∀ key, m.live? later key = m'.live? later key

namespace Alike

theorem refl (now : Instant) (m : Memory) : Alike now m m :=
  ⟨rfl, rfl, fun _ _ _ => rfl⟩

theorem symm (alike : Alike now m m') : Alike now m' m :=
  ⟨alike.readsFail.symm, alike.writesFail.symm,
    fun later ahead key => (alike.live? later ahead key).symm⟩

theorem trans {m'' : Memory} (alike : Alike now m m') (alike' : Alike now m' m'') :
    Alike now m m'' :=
  ⟨alike.readsFail.trans alike'.readsFail, alike.writesFail.trans alike'.writesFail,
    fun later ahead key => (alike.live? later ahead key).trans (alike'.live? later ahead key)⟩

theorem later {next : Instant} (alike : Alike now m m') (ahead : now ≤ next) :
    Alike next m m' := by
  refine ⟨alike.readsFail, alike.writesFail, fun later further key => ?_⟩
  rw [Instant.le_iff] at ahead further
  exact alike.live? later (by rw [Instant.le_iff]; omega) key

theorem erase (alike : Alike now m m') (key : String) :
    Alike now (m.erase key) (m'.erase key) := by
  refine ⟨alike.readsFail, alike.writesFail, fun later ahead other => ?_⟩
  rw [live?_erase, live?_erase, alike.live? later ahead other]

theorem insert (alike : Alike now m m') (key : String) (e : Entry) :
    Alike now (m.insert key e) (m'.insert key e) := by
  refine ⟨alike.readsFail, alike.writesFail, fun later ahead other => ?_⟩
  rw [live?_insert, live?_insert, alike.live? later ahead other]

/-- Dropping a dead entry does not show. -/
theorem erase_dead (present : m.find? key = some e) (dead : e.deadline ≤ now) :
    Alike now (m.erase key) m := by
  refine ⟨rfl, rfl, fun later ahead other => ?_⟩
  rw [live?_erase]
  split_ifs with same
  · rw [Instant.le_iff] at dead ahead
    rw [same, live?_eq_none_of_dead present (by rw [Instant.le_iff]; omega)]
  · rfl

/-- Reading does not show. -/
theorem get (now : Instant) (key : String) (m : Memory) : Alike now (m.get now key).state m := by
  rcases get_cases m now key with ⟨_, read⟩ | ⟨_, read | ⟨e, present, dead, read⟩⟩
  · rw [read]
    exact refl now m
  · rw [read]
    exact refl now m
  · rw [read]
    exact erase_dead present dead

end Alike

/-- Replies with the same answer that leave stores which cannot be told apart. -/
structure AlikeReplies {α : Type} (now : Instant) (r r' : Reply Memory α) : Prop where
  outcome : r.outcome = r'.outcome
  logs : r.logs = r'.logs
  state : Alike now r.state r'.state

theorem alikeReplies_set (alike : Alike now m m') (key value : String) (ttl : Span) :
    AlikeReplies now (m.set now key value ttl) (m'.set now key value ttl) := by
  rw [set, set, alike.writesFail]
  split_ifs with failing
  · exact ⟨rfl, rfl, alike⟩
  · split
    · exact ⟨rfl, rfl, alike.insert key _⟩
    · exact ⟨rfl, rfl, alike⟩

theorem alikeReplies_get (alike : Alike now m m') (key : String) :
    AlikeReplies now (m.get now key) (m'.get now key) where
  outcome := by
    rw [outcome_get, outcome_get, alike.readsFail, alike.live? now (Int.le_refl _) key]
  logs := by rw [logs_get, logs_get]
  state := ((Alike.get now key m).trans alike).trans (Alike.get now key m').symm

theorem alikeReplies_delete (alike : Alike now m m') (key : String) :
    AlikeReplies now (m.delete key) (m'.delete key) := by
  rw [delete, delete, alike.writesFail]
  split_ifs with failing
  · exact ⟨rfl, rfl, alike⟩
  · exact ⟨rfl, rfl, alike.erase key⟩

/-- Stores that cannot be told apart answer all calls alike. -/
theorem matches_alike (now : Instant) :
    (store now).Matches Set.univ (Alike now) (store now) where
  set key _ value ttl m m' alike := by
    obtain ⟨outcome, logs, state⟩ := alikeReplies_set alike key value ttl
    exact ⟨outcome, logs, state⟩
  get key _ m m' alike := by
    obtain ⟨outcome, logs, state⟩ := alikeReplies_get alike key
    exact ⟨outcome, logs, state⟩
  delete key _ m m' alike := by
    obtain ⟨outcome, logs, state⟩ := alikeReplies_delete alike key
    exact ⟨outcome, logs, state⟩

/-- A script gets the same answers from stores that cannot be told apart, and leaves such. -/
theorem run_alike {α : Type} (script : Script α) (alike : Alike now m m') :
    AlikeReplies now (script.run (store now) m) (script.run (store now) m') := by
  obtain ⟨outcome, logs, state⟩ := script.run_related (matches_alike now) script.within_univ alike
  exact ⟨outcome, logs, state⟩

end Session.Memory

/-! ### The lines of a script -/

namespace Session.Script

variable {α : Type}

/-- However its calls are answered, the lines of a script and its outcome have a property. -/
def Leaves : (List LogLine → Outcome α → Prop) → Script α → Prop
  | P, .done outcome => P [] outcome
  | P, .log line rest => rest.Leaves fun lines => P (line :: lines)
  | P, .set _ _ _ next => ∀ answer, (next answer).Leaves P
  | P, .get _ next => ∀ answer, (next answer).Leaves P
  | P, .delete _ next => ∀ answer, (next answer).Leaves P

/-- A store in memory logs nothing of its own, so a script leaves over it what it says. -/
theorem Leaves.run {P : List LogLine → Outcome α → Prop} {script : Script α}
    (leaves : script.Leaves P) (now : Instant) (m : Memory) :
    P (script.run (Memory.store now) m).logs (script.run (Memory.store now) m).outcome := by
  induction script generalizing P m with
  | done outcome => exact leaves
  | log line rest ih => exact ih leaves m
  | set key value ttl next ih =>
      have later := ih _ (leaves (m.set now key value ttl).outcome)
        (m.set now key value ttl).state
      simpa only [Script.run, withLogs, Memory.store, Memory.logs_set, List.nil_append] using later
  | get key next ih =>
      have later := ih _ (leaves (m.get now key).outcome) (m.get now key).state
      simpa only [Script.run, withLogs, Memory.store, Memory.logs_get, List.nil_append] using later
  | delete key next ih =>
      have later := ih _ (leaves (m.delete key).outcome) (m.delete key).state
      simpa only [Script.run, withLogs, Memory.store, Memory.logs_delete, List.nil_append]
        using later

end Session.Script

end TokenLifecycle
