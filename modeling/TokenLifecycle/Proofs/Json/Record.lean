import Mathlib.Tactic
import TokenLifecycle.Json.Record
import TokenLifecycle.Proofs.Association
import TokenLifecycle.Proofs.Json.Doc

/-!
# Records in objects

An object is a record when every name is a text and no field is given twice (`Fields`), and what it
gives for a field is the value of the member with its name (`Named`). This depends neither on the
other fields that a reader asks for, nor on the order of the members, nor on members that no field
has the name of.
-/

namespace TokenLifecycle.Json.Doc

theorem named?_map_ofText (members : List (String × Doc)) :
    named? (members.map fun (k, d) => (Body.ofText k, d)) = some members := by
  induction members with
  | nil => rfl
  | cons member members ih => simp [named?, ih]

/-- The record that an object with the given members is. -/
theorem record?_ofMembers {members : List (String × Doc)}
    (distinct : (members.map (·.1)).Nodup) (names : List String) :
    record? names (ofMembers members) =
      some ⟨members.filter fun (k, _) => names.contains k, false⟩ := by
  have kept : ((members.filter fun (k, _) => names.contains k).map (·.1)).Nodup :=
    distinct.sublist (List.filter_sublist.map _)
  simp only [ofMembers, record?, named?_map_ofText, Option.bind_eq_bind, Option.bind_some]
  rw [if_pos kept]

/-- The member of an object by its name. -/
theorem member?_ofMembers (members : List (String × Doc)) (name : String) :
    (ofMembers members).member? name = members.lookup name := by
  simp only [ofMembers, member?]
  induction members with
  | nil => rfl
  | cons member rest ih =>
      obtain ⟨k, d⟩ := member
      rw [List.map_cons, List.find?_cons, Association.lookup_cons_eq]
      by_cases same : name = k
      · simp [same]
      · have other : (some k == some name) = false := by simpa using fun given => same given.symm
        rw [Body.text?_ofText, other, if_neg same]
        exact ih

/-- The fields of an object have names. -/
theorem positional_of_record? {names : List String} {members : List (Bytes × Doc)}
    {f : Record Doc} (read : record? names (.object members) = some f) : f.positional = false := by
  simp only [record?, Option.bind_eq_bind, Option.bind_eq_some_iff,
    Option.ite_none_right_eq_some] at read
  obtain ⟨_, _, _, same⟩ := read
  obtain rfl := Option.some.inj same
  rfl

/-! ### Fields as members -/

/-- The object has a member with the name and the value. -/
def Named (members : List (Bytes × Doc)) (name : String) (d : Doc) : Prop :=
  ∃ k, (k, d) ∈ members ∧ Body.text? k = some name

/-- Every name is a text, and each of the fields is given once at most. -/
structure Fields (names : List String) (members : List (Bytes × Doc)) : Prop where
  texts : ∀ member ∈ members, ∃ name, Body.text? member.1 = some name
  once : ∀ name ∈ names, (members.map fun (k, _) => Body.text? k).count (some name) ≤ 1

/-- A reader of other fields gets each of them once at most as well, if the object does not have the
fields that only that reader knows. -/
theorem Fields.of_absent {names others : List String} {members : List (Bytes × Doc)}
    (fields : Fields names members)
    (absent : ∀ name ∈ others, name ∈ names ∨ ∀ d, ¬Named members name d) :
    Fields others members where
  texts := fields.texts
  once name other := by
    rcases absent name other with known | absent
    · exact fields.once name known
    · have none_named : some name ∉ members.map fun (k, _) => Body.text? k := by
        intro member
        obtain ⟨⟨k, d⟩, inside, text⟩ := List.mem_map.mp member
        exact absent d ⟨k, inside, text⟩
      rw [List.count_eq_zero.mpr none_named]
      exact Nat.zero_le 1

theorem exists_named?_iff {members : List (Bytes × Doc)} :
    (∃ named, named? members = some named) ↔
      ∀ member ∈ members, ∃ name, Body.text? member.1 = some name := by
  induction members with
  | nil => exact ⟨fun _ => nofun, fun _ => ⟨[], rfl⟩⟩
  | cons member rest ih =>
      obtain ⟨k, d⟩ := member
      rw [List.forall_mem_cons, ← ih]
      simp only [named?, Option.bind_eq_bind, Option.bind_eq_some_iff, Option.pure_def,
        Option.some.injEq]
      constructor
      · rintro ⟨_, name, text, named, given, _⟩
        exact ⟨⟨name, text⟩, named, given⟩
      · rintro ⟨⟨name, text⟩, named, given⟩
        exact ⟨_, name, text, named, given, rfl⟩

/-- The names and values are those of the members, in order. -/
theorem map_of_named? {members : List (Bytes × Doc)} {named : List (String × Doc)}
    (read : named? members = some named) :
    (members.map fun (k, d) => (Body.text? k, d)) = named.map fun (name, d) => (some name, d) := by
  induction members generalizing named with
  | nil =>
      obtain rfl := Option.some.inj read
      rfl
  | cons member rest ih =>
      obtain ⟨k, d⟩ := member
      simp only [named?, Option.bind_eq_bind, Option.bind_eq_some_iff, Option.pure_def,
        Option.some.injEq] at read
      obtain ⟨name, text, later, given, rfl⟩ := read
      simp only [List.map_cons, text, ih given]

theorem mem_of_named? {members : List (Bytes × Doc)} {named : List (String × Doc)}
    (read : named? members = some named) {name : String} {d : Doc} :
    (name, d) ∈ named ↔ Named members name d := by
  have mem_iff : (some name, d) ∈ (members.map fun (k, d) => (Body.text? k, d)) ↔
      (some name, d) ∈ (named.map fun (name, d) => (some name, d)) := by
    rw [map_of_named? read]
  simpa [Named] using mem_iff.symm

theorem count_of_named? {members : List (Bytes × Doc)} {named : List (String × Doc)}
    (read : named? members = some named) (name : String) :
    (named.map (·.1)).count name =
      (members.map fun (k, _) => Body.text? k).count (some name) := by
  have names := congrArg (List.map Prod.fst) (map_of_named? read)
  rw [List.map_map, List.map_map] at names
  calc (named.map (·.1)).count name
      = ((named.map (·.1)).map some).count (some name) :=
        (List.count_map_of_injective _ _ (Option.some_injective _) _).symm
    _ = (members.map fun (k, _) => Body.text? k).count (some name) := by
        rw [List.map_map]
        exact congrArg _ names.symm

/-- The known ones of names and values have different names when each known name occurs once at
most. -/
theorem nodup_filter_contains_iff {names : List String} {named : List (String × Doc)} :
    ((named.filter fun (k, _) => names.contains k).map (·.1)).Nodup ↔
      ∀ name ∈ names, (named.map (·.1)).count name ≤ 1 := by
  have keys : (named.filter fun (k, _) => names.contains k).map (·.1) =
      (named.map (·.1)).filter names.contains := by
    rw [List.filter_map]
    rfl
  rw [keys, List.nodup_iff_count_le_one]
  constructor
  · intro once name known
    rw [← List.count_filter (List.contains_iff_mem.mpr known)]
    exact once name
  · intro once name
    by_cases known : name ∈ names
    · rw [List.count_filter (List.contains_iff_mem.mpr known)]
      exact once name known
    · rw [List.count_eq_zero.mpr fun member =>
        known (List.contains_iff_mem.mp (List.mem_filter.mp member).2)]
      exact Nat.zero_le 1

/-- An object is a record when it gives each field once at most. -/
theorem exists_record?_iff {names : List String} {members : List (Bytes × Doc)} :
    (∃ f, record? names (.object members) = some f) ↔ Fields names members := by
  constructor
  · rintro ⟨f, read⟩
    simp only [record?, Option.bind_eq_bind, Option.bind_eq_some_iff,
      Option.ite_none_right_eq_some] at read
    obtain ⟨named, given, distinct, _⟩ := read
    refine ⟨exists_named?_iff.mp ⟨named, given⟩, fun name known => ?_⟩
    rw [← count_of_named? given]
    exact nodup_filter_contains_iff.mp distinct name known
  · rintro ⟨texts, once⟩
    obtain ⟨named, given⟩ := exists_named?_iff.mpr texts
    have distinct := nodup_filter_contains_iff.mpr fun name known =>
      (count_of_named? given name).trans_le (once name known)
    refine ⟨⟨named.filter fun (k, _) => names.contains k, false⟩, ?_⟩
    simp only [record?, given, Option.bind_eq_bind, Option.bind_some]
    exact if_pos distinct

/-- What an object gives for a field is the value of the member with its name. -/
theorem get?_eq_some_iff {names : List String} {members : List (Bytes × Doc)} {f : Record Doc}
    (read : record? names (.object members) = some f) {name : String} (known : name ∈ names)
    {d : Doc} : f.get? name = some d ↔ Named members name d := by
  simp only [record?, Option.bind_eq_bind, Option.bind_eq_some_iff,
    Option.ite_none_right_eq_some] at read
  obtain ⟨named, given, distinct, same⟩ := read
  obtain rfl := Option.some.inj same
  rw [Record.get?, Association.lookup_eq_some_iff distinct, List.mem_filter, mem_of_named? given]
  exact and_iff_left (List.contains_iff_mem.mpr known)

theorem get?_eq_none_iff {names : List String} {members : List (Bytes × Doc)} {f : Record Doc}
    (read : record? names (.object members) = some f) {name : String} (known : name ∈ names) :
    f.get? name = none ↔ ∀ d, ¬Named members name d := by
  simp only [Option.eq_none_iff_forall_ne_some, ne_eq, get?_eq_some_iff read known]

/-- Reading a field that has to be given reads the value of a member. -/
theorem required?_eq_some_iff {names : List String} {members : List (Bytes × Doc)} {f : Record Doc}
    (read : record? names (.object members) = some f) {name : String} (known : name ∈ names)
    {α : Type} {reader : Doc → Option α} {a : α} :
    f.required? name reader = some a ↔ ∃ d, Named members name d ∧ reader d = some a := by
  simp only [Record.required?, Option.bind_eq_some_iff, get?_eq_some_iff read known]

/-- Reading a field that may be missing reads the value of a member, if there is one. -/
theorem withDefault?_eq_some_iff {names : List String} {members : List (Bytes × Doc)}
    {f : Record Doc} (read : record? names (.object members) = some f) {name : String}
    (known : name ∈ names) {α : Type} {reader : Doc → Option α} {absent a : α} :
    f.withDefault? name reader absent = some a ↔
      (∃ d, Named members name d ∧ reader d = some a) ∨
        ((∀ d, ¬Named members name d) ∧ absent = a) := by
  simp only [← get?_eq_some_iff read known, Record.withDefault?]
  cases f.get? name <;> simp

/-! ### The order of members -/

/-- Members that no field has the name of. -/
def Foreign (names : List String) (extra : List (Bytes × Doc)) : Prop :=
  ∀ member ∈ extra, ∃ name, Body.text? member.1 = some name ∧ name ∉ names

section Order

variable {names : List String} {members : List (String × Doc)} {given extra : List (Bytes × Doc)}
  (foreign : Foreign names extra)
  (perm : given.Perm (members.map (fun (k, d) => (Body.ofText k, d)) ++ extra))

include foreign perm

theorem named_iff_of_perm {name : String} (known : name ∈ names) {d : Doc} :
    Named given name d ↔ (name, d) ∈ members := by
  rw [mem_of_named? (named?_map_ofText members)]
  constructor
  · rintro ⟨k, inside, text⟩
    rcases List.mem_append.mp (perm.mem_iff.mp inside) with own | other
    · exact ⟨k, own, text⟩
    · obtain ⟨name', text', unknown⟩ := foreign _ other
      obtain rfl := Option.some.inj (text.symm.trans text')
      exact absurd known unknown
  · rintro ⟨k, own, text⟩
    exact ⟨k, perm.mem_iff.mpr (List.mem_append_left _ own), text⟩

theorem fields_of_perm (distinct : (members.map (·.1)).Nodup) : Fields names given where
  texts := by
    intro member inside
    rcases List.mem_append.mp (perm.mem_iff.mp inside) with own | other
    · obtain ⟨⟨name, d⟩, _, rfl⟩ := List.mem_map.mp own
      exact ⟨name, Body.text?_ofText name⟩
    · obtain ⟨name, text, _⟩ := foreign _ other
      exact ⟨name, text⟩
  once name known := by
    have others : some name ∉ extra.map fun (k, _) => Body.text? k := by
      intro member
      obtain ⟨other, inside, text⟩ := List.mem_map.mp member
      obtain ⟨name', text', unknown⟩ := foreign _ inside
      obtain rfl := Option.some.inj (text.symm.trans text')
      exact unknown known
    rw [(perm.map _).count_eq, List.map_append, List.count_append, List.count_eq_zero.mpr others,
      ← count_of_named? (named?_map_ofText members)]
    exact List.nodup_iff_count_le_one.mp distinct name

/-- Neither the order of the members nor members that are no fields count for a record: it gives the
same for every field. -/
theorem exists_record?_of_perm (distinct : (members.map (·.1)).Nodup) :
    ∃ f, record? names (.object given) = some f ∧ f.positional = false ∧
      ∀ name ∈ names, f.get? name = members.lookup name := by
  obtain ⟨f, record⟩ := exists_record?_iff.mpr (fields_of_perm foreign perm distinct)
  refine ⟨f, record, positional_of_record? record, fun name known => Option.ext fun d => ?_⟩
  rw [get?_eq_some_iff record known, Association.lookup_eq_some_iff distinct]
  exact named_iff_of_perm foreign perm known

end Order

@[simp] theorem variantName?_text (s : String) : variantName? (text s) = some s :=
  Body.text?_ofText s

end TokenLifecycle.Json.Doc
