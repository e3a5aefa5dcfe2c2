import Mathlib.Tactic
import TokenLifecycle.Proofs.Session.Memory

/-!
# What a script leaves alone

Seen from some keys, two stores in memory agree when they hold the same entries there. A script that
calls only these keys gets the same answers from both, and one that calls only other keys does not
show.
-/

namespace TokenLifecycle.Session.Memory

variable {α : Type} {keys : Set String} {m m' m'' : Memory} {key : String}

/-- Two stores that fail alike and hold the same entries under some keys, dead entries included. -/
structure Agree (keys : Set String) (m m' : Memory) : Prop where
  readsFail : m.readsFail = m'.readsFail
  writesFail : m.writesFail = m'.writesFail
  find? : ∀ key ∈ keys, m.find? key = m'.find? key

namespace Agree

theorem refl (keys : Set String) (m : Memory) : Agree keys m m :=
  ⟨rfl, rfl, fun _ _ => rfl⟩

theorem trans (agree : Agree keys m m') (agree' : Agree keys m' m'') : Agree keys m m'' :=
  ⟨agree.readsFail.trans agree'.readsFail, agree.writesFail.trans agree'.writesFail,
    fun key inside => (agree.find? key inside).trans (agree'.find? key inside)⟩

theorem erase (agree : Agree keys m m') (key : String) :
    Agree keys (m.erase key) (m'.erase key) := by
  refine ⟨agree.readsFail, agree.writesFail, fun other inside => ?_⟩
  rw [find?_erase, find?_erase, agree.find? other inside]

theorem insert (agree : Agree keys m m') (key : String) (e : Entry) :
    Agree keys (m.insert key e) (m'.insert key e) := by
  refine ⟨agree.readsFail, agree.writesFail, fun other inside => ?_⟩
  rw [find?_insert, find?_insert, agree.find? other inside]

/-- Dropping a key does not show from other keys. -/
theorem erase_self (outside : key ∉ keys) (m : Memory) : Agree keys (m.erase key) m := by
  refine ⟨rfl, rfl, fun other inside => ?_⟩
  have apart : other ≠ key := ne_of_mem_of_not_mem inside outside
  rw [find?_erase, if_neg apart]

/-- Keeping a value does not show from other keys. -/
theorem insert_self (outside : key ∉ keys) (m : Memory) (e : Entry) :
    Agree keys (m.insert key e) m := by
  refine ⟨rfl, rfl, fun other inside => ?_⟩
  have apart : other ≠ key := ne_of_mem_of_not_mem inside outside
  rw [find?_insert, if_neg apart]

end Agree

/-- Stores that agree on some keys answer calls about them alike. -/
theorem matches_agree (now : Instant) (keys : Set String) :
    (store now).Matches keys (Agree keys) (store now) where
  set key _ value ttl m m' agree := by
    simp only [store, set, agree.writesFail]
    split_ifs
    · exact ⟨rfl, rfl, agree⟩
    · split
      · exact ⟨rfl, rfl, agree.insert key _⟩
      · exact ⟨rfl, rfl, agree⟩
  get key inside m m' agree := by
    simp only [store, get, agree.readsFail, agree.find? key inside]
    split_ifs
    · exact ⟨rfl, rfl, agree⟩
    · split
      · exact ⟨rfl, rfl, agree⟩
      · split_ifs
        · exact ⟨rfl, rfl, agree⟩
        · exact ⟨rfl, rfl, agree.erase key⟩
  delete key _ m m' agree := by
    simp only [store, delete, agree.writesFail]
    split_ifs
    · exact ⟨rfl, rfl, agree⟩
    · exact ⟨rfl, rfl, agree.erase key⟩

/-- Calls about some keys do not show from the others. -/
theorem keeps_agree (now : Instant) (keys : Set String) (m₀ : Memory) :
    (store now).Keeps keys (Agree keysᶜ · m₀) where
  set key inside value ttl m agree := by
    have outside : key ∉ keysᶜ := not_not_intro inside
    rcases set_cases m now key value ttl with ⟨_, _, reply⟩ | ⟨_, _, _, reply⟩
    · simpa only [store, reply] using agree
    · simpa only [store, reply] using (Agree.insert_self outside m _).trans agree
  get key inside m agree := by
    have outside : key ∉ keysᶜ := not_not_intro inside
    rcases get_cases m now key with ⟨_, reply⟩ | ⟨_, reply | ⟨_, _, _, reply⟩⟩
    · simpa only [store, reply] using agree
    · simpa only [store, reply] using agree
    · simpa only [store, reply] using (Agree.erase_self outside m).trans agree
  delete key inside m agree := by
    have outside : key ∉ keysᶜ := not_not_intro inside
    rcases delete_cases m key with ⟨_, reply⟩ | ⟨_, reply⟩
    · simpa only [store, reply] using agree
    · simpa only [store, reply] using (Agree.erase_self outside m).trans agree

/-- A script does not show from the keys that it does not call. -/
theorem agree_run {script : Script α} (within : script.Within keys) (now : Instant) (m : Memory) :
    Agree keysᶜ (script.run (store now) m).state m :=
  script.run_keeps (keeps_agree now keys m) within (Agree.refl _ m)

end TokenLifecycle.Session.Memory
