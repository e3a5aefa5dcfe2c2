import TokenLifecycle.Proofs.Config.Merging

/-!
# Overriding variables

The layer of the overriding variables holds plain values, each at the key that its variable names;
of several variables for one key the last one counts. Setting the key of a leaf changes that leaf
and no other (`Leaf.exists_set?`), so a layer of such keys overrides leaf by leaf
(`Leaf.exists_withLayer?`). Other keys leave a leaf as it is as long as they lead past it and its
section (`Leaf.of?_withLayer?`).
-/

namespace TokenLifecycle.Config

/-! ### Keys of leaves -/

namespace Leaf

/-- The path of a leaf. -/
def path (leaf : Leaf) : Path :=
  match leaf.place with
  | (none, name) => ⟨name, []⟩
  | (some part, name) => ⟨part, [.child name]⟩

theorem ofKey_key (leaf : Leaf) : Path.ofKey leaf.key = leaf.path := by
  cases leaf <;> decide

/-- All leaves. -/
def all : List Leaf :=
  [environment, algorithm, privateKeyPath, publicKeyPath, accessTokenExpiry, refreshTokenExpiry,
    issuer, leeway, sessionPrefix, url, connectionTimeout, responseTimeout, connectAttempts,
    cachePrefix, database, level, format, sourceLocation]

theorem find?_place (leaf : Leaf) :
    all.find? (fun other => other.place = leaf.place) = some leaf := by
  cases leaf <;> rfl

theorem place_injective : Function.Injective place := by
  intro leaf other same
  have found := find?_place leaf
  rw [same, find?_place other] at found
  exact (Option.some.inj found).symm

theorem key_injective : Function.Injective key := by
  intro leaf other same
  have paths : leaf.path = other.path := by rw [← ofKey_key, ← ofKey_key, same]
  apply place_injective
  simp only [path] at paths
  split at paths <;> split at paths <;> simp_all

/-- The key of a leaf leads into its section. -/
theorem sectioned (leaf : Leaf) (n : Node) : Sectioned leaf.key n := by
  rw [Sectioned, ofKey_key]
  cases leaf <;> simp [path, place, sections]

theorem eq_iff_of_place {leaf other : Leaf} {part other_part : Option String}
    {name other_name : String} (here : leaf.place = (part, name))
    (there : other.place = (other_part, other_name)) :
    other = leaf ↔ other_part = part ∧ other_name = name := by
  rw [← place_injective.eq_iff, here, there, Prod.mk.injEq]

/-- Setting the key of a leaf to a plain value changes that leaf alone. -/
theorem exists_set? (leaf : Leaf) {n : Node} (plain : n.Plain) (root : Node) :
    ∃ root', (Path.ofKey leaf.key).set? n root = some root' ∧
      ∀ other : Leaf, other.of? root' = if other = leaf then some n else other.of? root := by
  rw [ofKey_key, path, Path.set?_eq]
  rcases here : leaf.place with ⟨_ | part, name⟩
  · refine ⟨_, rfl, ?_⟩
    intro other
    rcases there : other.place with ⟨_ | other_part, other_name⟩
    · simp only [of?, there, Node.members_table, Node.lookup_setMember, plain.overlay,
        eq_iff_of_place here there, true_and]
    · have apart : other_part ≠ name := by
        rintro rfl
        exact leaf.notMem_sections here (other.mem_sections there)
      simp only [of?, there, Node.members_table, Node.lookup_setMember, if_neg apart,
        eq_iff_of_place here there, reduceCtorEq, false_and, if_false]
  · have set := Path.place?_child n name [] (root.members.lookup part)
    refine ⟨_, Option.map_eq_some_iff.mpr ⟨_, set, rfl⟩, ?_⟩
    intro other
    rcases there : other.place with ⟨_ | other_part, other_name⟩
    · have apart : other_name ≠ part := by
        rintro rfl
        exact other.notMem_sections there (leaf.mem_sections here)
      simp only [of?, there, Node.members_table, Node.lookup_setMember, if_neg apart,
        eq_iff_of_place here there, reduceCtorEq, false_and, if_false]
    · have before : ((root.members.lookup part).getD .absent).members.lookup other_name =
          (root.members.lookup part).bind fun m => m.members.lookup other_name := by
        cases root.members.lookup part <;> rfl
      simp only [of?, there, Node.members_table, Node.lookup_setMember, plain.overlay,
        eq_iff_of_place here there, Option.some.injEq]
      by_cases same : other_part = part
      · subst same
        simp only [if_true, Option.bind_some, Node.members_table, Node.lookup_setMember, before,
          true_and]
      · simp only [same, false_and, if_false]

/-- A key that leads neither to a leaf, nor to anything in it, nor to the section around it. -/
def Apart (leaf : Leaf) (key : String) : Prop :=
  match leaf.place with
  | (none, name) => (Path.ofKey key).head ≠ name
  | (some part, name) => (Path.ofKey key).head = part →
      ∃ other rest, (Path.ofKey key).steps = .child other :: rest ∧ other ≠ name

/-- Setting what is apart from a leaf leaves the leaf as it is. -/
theorem of?_of_apart {leaf : Leaf} {key : String} (apart : leaf.Apart key) {n root root' : Node}
    (set : (Path.ofKey key).set? n root = some root') : leaf.of? root' = leaf.of? root := by
  rw [Path.set?_eq] at set
  obtain ⟨below, placed, rfl⟩ := Option.map_eq_some_iff.mp set
  rcases here : leaf.place with ⟨_ | part, name⟩
  · have other : name ≠ (Path.ofKey key).head := by
      simp only [Apart, here] at apart
      exact fun same => apart same.symm
    simp only [of?, here, Node.members_table, Node.lookup_setMember, if_neg other]
  · simp only [Apart, here] at apart
    simp only [of?, here, Node.members_table, Node.lookup_setMember]
    by_cases same : part = (Path.ofKey key).head
    -- In the section of the leaf another member is set.
    · obtain ⟨other, rest, steps, different⟩ := apart same.symm
      rw [steps, Path.place?_child] at placed
      obtain ⟨inner, -, rfl⟩ := Option.map_eq_some_iff.mp placed
      rw [if_pos same, Option.bind_some, Node.members_table, Node.lookup_setMember,
        if_neg different.symm, ← same]
      cases root.members.lookup part <;> rfl
    · rw [if_neg same]

end Leaf

/-! ### Values of overriding variables -/

theorem plain_overrideValue (s : String) : (overrideValue s).Plain := by
  rw [overrideValue]
  split
  · trivial
  · split
    · trivial
    · split <;> trivial

/-- The text of the last variable that sets the key of a leaf. -/
def Leaf.overriding? (leaf : Leaf) (vars : Variables) : Option String :=
  (vars.reverse.find? fun (name, _) => overrideKey? name = some leaf.key).map fun (_, value) =>
    value

/-- The value that the variables give a leaf: the last one for its key counts. -/
def Leaf.override? (leaf : Leaf) (vars : Variables) : Option Node :=
  (vars.reverse.find? fun (name, _) => overrideKey? name = some leaf.key).map fun (_, value) =>
    overrideValue value

theorem Leaf.override?_eq_map (leaf : Leaf) (vars : Variables) :
    leaf.override? vars = (leaf.overriding? vars).map overrideValue := by
  rw [override?, overriding?, Option.map_map]
  rfl

theorem Leaf.override?_append (leaf : Leaf) (vars : Variables) (name value : String) :
    leaf.override? (vars ++ [(name, value)]) =
      if overrideKey? name = some leaf.key then some (overrideValue value)
      else leaf.override? vars := by
  rw [override?, List.reverse_append, List.reverse_singleton, List.singleton_append,
    List.find?_cons]
  by_cases set : overrideKey? name = some leaf.key
  · simp [set]
  · simp [set, override?]

/-- The overriding variables set leaves only. -/
def OverridesLeaves (vars : Variables) : Prop :=
  ∀ v ∈ vars, ∀ key, overrideKey? v.1 = some key → ∃ leaf : Leaf, leaf.key = key

theorem overrideLayer_append (vars : Variables) (name value : String) :
    overrideLayer (vars ++ [(name, value)]) =
      match overrideKey? name with
      | some key => withEntry (overrideLayer vars) key (overrideValue value)
      | none => overrideLayer vars := by
  rw [overrideLayer, List.foldl_append]
  rfl

theorem reverse_withEntry (entries : List (String × Node)) (key : String) (n : Node) :
    (withEntry entries key n).reverse =
      (key, n) :: entries.reverse.filter fun (k, _) => k ≠ key := by
  rw [withEntry, List.reverse_append, List.filter_reverse]
  rfl

/-- What the layer of the overriding variables holds at the key of a leaf. -/
theorem Leaf.lookup_overrideLayer (leaf : Leaf) (vars : Variables) :
    (overrideLayer vars).reverse.lookup leaf.key = leaf.override? vars := by
  induction vars using List.reverseRecOn with
  | nil => rfl
  | append_singleton vars last ih =>
      obtain ⟨name, value⟩ := last
      rw [overrideLayer_append, leaf.override?_append]
      cases set : overrideKey? name with
      | none => simpa using ih
      | some key =>
          rw [reverse_withEntry, Association.lookup_cons_eq, Association.lookup_filter_ne, ih]
          by_cases same : leaf.key = key
          · simp [same]
          · have other : ¬key = leaf.key := fun given => same given.symm
            simp [same, other]

/-- Every entry of the layer comes from an overriding variable. -/
theorem exists_of_mem_overrideLayer {vars : Variables} {entry : String × Node}
    (member : entry ∈ overrideLayer vars) :
    ∃ v ∈ vars, overrideKey? v.1 = some entry.1 ∧ entry.2 = overrideValue v.2 := by
  induction vars using List.reverseRecOn with
  | nil => cases member
  | append_singleton vars last ih =>
      have earlier (member : entry ∈ overrideLayer vars) : ∃ v ∈ vars ++ [last],
          overrideKey? v.1 = some entry.1 ∧ entry.2 = overrideValue v.2 := by
        obtain ⟨v, given, rest⟩ := ih member
        exact ⟨v, List.mem_append_left _ given, rest⟩
      obtain ⟨name, value⟩ := last
      rw [overrideLayer_append] at member
      cases key : overrideKey? name with
      | none =>
          rw [key] at member
          exact earlier member
      | some key' =>
          rw [key] at member
          rcases List.mem_append.mp member with kept | new
          · exact earlier (List.mem_filter.mp kept).1
          · obtain rfl := List.mem_singleton.mp new
            exact ⟨(name, value), by simp, key, rfl⟩

theorem plain_of_mem_overrideLayer {vars : Variables} :
    ∀ entry ∈ overrideLayer vars, entry.2.Plain := by
  intro entry member
  obtain ⟨v, -, -, value⟩ := exists_of_mem_overrideLayer member
  rw [value]
  exact plain_overrideValue v.2

namespace OverridesLeaves

variable {vars : Variables} (overrides : OverridesLeaves vars)

include overrides

theorem exists_leaf : ∀ entry ∈ overrideLayer vars, ∃ leaf : Leaf, leaf.key = entry.1 := by
  intro entry member
  obtain ⟨v, given, key, -⟩ := exists_of_mem_overrideLayer member
  exact overrides v given entry.1 key

theorem sectioned : ∀ entry ∈ overrideLayer vars, Sectioned entry.1 entry.2 := by
  intro entry member
  obtain ⟨leaf, key⟩ := overrides.exists_leaf entry member
  rw [← key]
  exact leaf.sectioned entry.2

end OverridesLeaves

/-- A layer of plain values for leaves changes each leaf that it has an entry for. -/
theorem Leaf.exists_withLayer? {entries : List (String × Node)}
    (leaves : ∀ entry ∈ entries, ∃ leaf : Leaf, leaf.key = entry.1)
    (plain : ∀ entry ∈ entries, entry.2.Plain) (root : Node) :
    ∃ root', root.withLayer? entries = some root' ∧
      ∀ leaf : Leaf, leaf.of? root' = (entries.reverse.lookup leaf.key).or (leaf.of? root) := by
  -- By induction from the end, as the last entry for a key counts.
  induction entries using List.reverseRecOn with
  | nil => exact ⟨root, rfl, fun _ => rfl⟩
  | append_singleton entries last ih =>
      obtain ⟨middle, before, held⟩ :=
        ih (fun entry member => leaves entry (List.mem_append_left _ member))
          fun entry member => plain entry (List.mem_append_left _ member)
      have here : last ∈ entries ++ [last] := by simp
      obtain ⟨leaf, key⟩ := leaves last here
      obtain ⟨root', set, changed⟩ := leaf.exists_set? (plain last here) middle
      refine ⟨root', ?_, ?_⟩
      · rw [Node.withLayer?_append, before, Option.bind_some, Node.withLayer?_singleton, ← key,
          set]
      · intro other
        rw [changed, List.reverse_append, List.reverse_singleton, List.singleton_append,
          Association.lookup_cons_eq, ← key, held]
        by_cases same : other = leaf
        · simp [same]
        · have apart : other.key ≠ leaf.key := fun keys => same (key_injective keys)
          rw [if_neg same, if_neg apart]

/-- A layer of plain values gives a leaf its last entry for it, if all other entries are apart from
the leaf. -/
theorem Leaf.of?_withLayer? {leaf : Leaf} {entries : List (String × Node)}
    (plain : ∀ entry ∈ entries, entry.2.Plain)
    (beside : ∀ entry ∈ entries, entry.1 = leaf.key ∨ leaf.Apart entry.1) {root root' : Node}
    (laid : root.withLayer? entries = some root') :
    leaf.of? root' = (entries.reverse.lookup leaf.key).or (leaf.of? root) := by
  induction entries using List.reverseRecOn generalizing root' with
  | nil =>
      obtain rfl := Option.some.inj laid
      rfl
  | append_singleton entries last ih =>
      obtain ⟨key, n⟩ := last
      have here : (key, n) ∈ entries ++ [(key, n)] := by simp
      rw [Node.withLayer?_append] at laid
      obtain ⟨middle, before, set⟩ := Option.bind_eq_some_iff.mp laid
      rw [Node.withLayer?_singleton] at set
      rw [List.reverse_append, List.reverse_singleton, List.singleton_append,
        Association.lookup_cons_eq]
      by_cases own : leaf.key = key
      · subst own
        obtain ⟨root'', set', changed⟩ := leaf.exists_set? (plain _ here) middle
        obtain rfl := Option.some.inj (set'.symm.trans set)
        rw [changed, if_pos rfl, if_pos rfl, Option.some_or]
      · have apart : leaf.Apart key := (beside _ here).resolve_left fun same => own same.symm
        rw [if_neg own, Leaf.of?_of_apart apart set]
        exact ih (fun entry member => plain entry (List.mem_append_left _ member))
          (fun entry member => beside entry (List.mem_append_left _ member)) before

/-- Every overriding variable sets a leaf as a whole or leaves it as it is. -/
def Leaf.Undisturbed (leaf : Leaf) (vars : Variables) : Prop :=
  ∀ v ∈ vars, ∀ key, overrideKey? v.1 = some key → key = leaf.key ∨ leaf.Apart key

/-- Overriding variables give a leaf what the last one for it holds, whatever is below. -/
theorem Leaf.Undisturbed.of?_eq {leaf : Leaf} {vars : Variables}
    (undisturbed : leaf.Undisturbed vars) {root root' : Node}
    (laid : root.withLayer? (overrideLayer vars) = some root') :
    leaf.of? root' = (leaf.override? vars).or (leaf.of? root) := by
  rw [← leaf.lookup_overrideLayer]
  refine leaf.of?_withLayer? plain_of_mem_overrideLayer ?_ laid
  intro entry member
  obtain ⟨v, given, key, -⟩ := exists_of_mem_overrideLayer member
  exact undisturbed v given entry.1 key

end TokenLifecycle.Config
