import Mathlib.Tactic

/-!
# Values by name

What a list of names and values gives for a name when an entry is put in front, when the entry of a
name is replaced, when the entries of one name are dropped, and when only the entries of some names
are kept. Where no name is given twice, that is the value of the one entry with the name.
-/

namespace TokenLifecycle.Association

variable {α : Type}

theorem lookup_cons_eq (key : String) (a : α) (entries : List (String × α)) (name : String) :
    ((key, a) :: entries).lookup name = if name = key then some a else entries.lookup name := by
  rw [List.lookup_cons]
  by_cases same : name = key
  · simp [same]
  · rw [beq_eq_false_iff_ne.mpr same, if_neg same]

theorem lookup_filter (keep : String → Bool) (entries : List (String × α)) (name : String) :
    (entries.filter fun (k, _) => keep k).lookup name =
      if keep name then entries.lookup name else none := by
  induction entries with
  | nil => simp
  | cons entry entries ih =>
      obtain ⟨k, a⟩ := entry
      rw [lookup_cons_eq]
      by_cases kept : keep k = true
      · rw [List.filter_cons_of_pos (by simpa using kept), lookup_cons_eq, ih]
        by_cases same : name = k
        · simp [same, kept]
        · simp [same]
      · rw [List.filter_cons_of_neg (by simpa using kept), ih]
        by_cases same : name = k
        · simp [same, kept]
        · simp [same]

/-- The entries without those of one name. -/
theorem lookup_filter_ne (entries : List (String × α)) (key name : String) :
    (entries.filter fun (k, _) => k ≠ key).lookup name =
      if name = key then none else entries.lookup name := by
  rw [lookup_filter (fun k => decide (k ≠ key))]
  by_cases same : name = key <;> simp [same]

/-- The entries of some names alone give the same for each of them. -/
theorem lookup_filter_contains {names : List String} {name : String} (known : name ∈ names)
    (entries : List (String × α)) :
    (entries.filter fun (k, _) => names.contains k).lookup name = entries.lookup name := by
  rw [lookup_filter names.contains, if_pos (List.contains_iff_mem.mpr known)]

/-- Where no name is given twice, a name gives the value of every entry with it. -/
theorem lookup_eq_some_iff {entries : List (String × α)} (distinct : (entries.map (·.1)).Nodup)
    {name : String} {a : α} : entries.lookup name = some a ↔ (name, a) ∈ entries := by
  induction entries with
  | nil => simp
  | cons entry entries ih =>
      obtain ⟨k, b⟩ := entry
      obtain ⟨new, distinct⟩ := List.nodup_cons.mp distinct
      rw [lookup_cons_eq, List.mem_cons, Prod.mk.injEq]
      split_ifs with same
      · subst same
        have absent : (name, a) ∉ entries := fun member =>
          new (List.mem_map.mpr ⟨_, member, rfl⟩)
        simp only [Option.some.injEq, true_and, absent, or_false]
        exact eq_comm
      · simp only [same, false_and, false_or]
        exact ih distinct

/-! ### Replacing entries -/

/-- The entries with one of them replaced, or added at the end. -/
def put (key : String) (a : α) : List (String × α) → List (String × α)
  | [] => [(key, a)]
  | (k, b) :: rest => if k = key then (k, a) :: rest else (k, b) :: put key a rest

theorem lookup_put (key : String) (a : α) (entries : List (String × α)) (name : String) :
    (put key a entries).lookup name = if name = key then some a else entries.lookup name := by
  induction entries with
  | nil => exact lookup_cons_eq key a [] name
  | cons entry rest ih =>
      obtain ⟨k, b⟩ := entry
      by_cases here : k = key
      · subst here
        rw [put, if_pos rfl, lookup_cons_eq, lookup_cons_eq]
        split <;> rfl
      · rw [put, if_neg here, lookup_cons_eq, lookup_cons_eq, ih]
        by_cases same : name = k
        · simp [same, here]
        · simp [same]

theorem mem_map_put {key : String} {a : α} {entries : List (String × α)} {name : String} :
    name ∈ (put key a entries).map (·.1) ↔ name = key ∨ name ∈ entries.map (·.1) := by
  induction entries with
  | nil => simp [put]
  | cons entry rest ih =>
      obtain ⟨k, b⟩ := entry
      by_cases here : k = key
      · simp [put, here]
      · rw [put, if_neg here, List.map_cons, List.mem_cons, ih, List.map_cons, List.mem_cons]
        exact or_left_comm

/-- Names that are given once are still given once. -/
theorem nodup_map_put (key : String) (a : α) {entries : List (String × α)}
    (distinct : (entries.map (·.1)).Nodup) : ((put key a entries).map (·.1)).Nodup := by
  induction entries with
  | nil => simp [put]
  | cons entry rest ih =>
      obtain ⟨k, b⟩ := entry
      obtain ⟨new, distinct⟩ := List.nodup_cons.mp distinct
      by_cases here : k = key
      · rw [put, if_pos here]
        exact List.nodup_cons.mpr ⟨new, distinct⟩
      · rw [put, if_neg here]
        refine List.nodup_cons.mpr ⟨?_, ih distinct⟩
        rw [mem_map_put]
        exact not_or.mpr ⟨here, new⟩

end TokenLifecycle.Association
