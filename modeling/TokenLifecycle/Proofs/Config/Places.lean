import Mathlib.Tactic
import TokenLifecycle.Config.Path
import TokenLifecycle.Proofs.Association

/-!
# Values at a place

Setting a value at a path changes one member of a table, and of that member only what the rest of
the path leads to. What is set at a place depends on the value there through its members and items
alone, so a plain value under a layer makes no difference to what the layer puts over it.
-/

namespace TokenLifecycle.Config

open Node

/-! ### Members of tables -/

namespace Node

@[simp] theorem members_table (ms : List (String × Node)) : (table ms).members = ms := rfl

/-- Only a table has members. -/
theorem eq_table_of_lookup {n m : Node} {name : String} (held : n.members.lookup name = some m) :
    n = table n.members := by
  cases n with
  | table ms => rfl
  | _ => cases held

theorem setMember_eq_put (k : String) (n : Node) (ms : List (String × Node)) :
    setMember k n ms = Association.put k n ms := by
  induction ms with
  | nil => rfl
  | cons entry rest ih => rw [setMember, Association.put, ih]

/-- The value of a member that has been set. -/
theorem lookup_setMember (k : String) (n : Node) (ms : List (String × Node)) (name : String) :
    (setMember k n ms).lookup name = if name = k then some n else ms.lookup name := by
  rw [setMember_eq_put, Association.lookup_put]

/-- A value that holds no further ones, or none at all. -/
def Plain : Node → Prop
  | array _ | table _ => False
  | _ => True

theorem Plain.members {n : Node} (plain : n.Plain) : n.members = [] := by
  cases n <;> first | rfl | exact plain.elim

theorem Plain.items {n : Node} (plain : n.Plain) : n.items = [] := by
  cases n <;> first | rfl | exact plain.elim

/-- A plain value replaces everything. -/
theorem Plain.overlay {upper : Node} (plain : upper.Plain) (lower : Node) :
    lower.overlay upper = upper := by
  cases upper <;> first | exact plain.elim | simp [Node.overlay]

/-- An empty table leaves everything as it is. -/
theorem overlay_empty (lower : Node) : lower.overlay (table []) = lower := by
  simp [overlay]

/-- A table is put over another one member by member. -/
theorem overlay_table (ms upper : List (String × Node)) :
    (table ms).overlay (table upper) = table (overlayMembers ms upper) := by
  cases upper <;> simp [overlay, overlayMembers]

/-- Only the members below matter to a layer, unless it is an empty table. -/
theorem overlay_congr {upper m n : Node} (given : upper ≠ table [])
    (same : m.members = n.members) : m.overlay upper = n.overlay upper := by
  match upper with
  | table [] => exact absurd rfl given
  | table (first :: rest) => simp [overlay, same]
  | absent | bool _ | integer _ | real _ | text _ | array _ => simp [overlay]

end Node

/-! ### Steps -/

namespace Path

/-- What is at a place, if anything is, once `upper` is put over what the steps from there lead
to. -/
def place? (upper : Node) (steps : List Step) (n : Option Node) : Option Node :=
  match steps with
  | [] => some ((n.getD (.table [])).overlay upper)
  | steps => setBelow? upper steps (n.getD .absent)

theorem place?_nil (upper : Node) (n : Option Node) :
    place? upper [] n = some ((n.getD (.table [])).overlay upper) :=
  rfl

/-- Setting below a member changes that member alone. -/
theorem setBelow?_child (upper : Node) (k : String) (rest : List Step) (n : Node) :
    setBelow? upper (.child k :: rest) n =
      (place? upper rest (n.members.lookup k)).map fun below =>
        .table (setMember k below n.members) := by
  cases rest <;> simp [setBelow?, place?]

/-- A value is set at the top through the first name of its path. -/
theorem set?_eq (p : Path) (upper root : Node) :
    p.set? upper root =
      (place? upper p.steps (root.members.lookup p.head)).map fun below =>
        .table (setMember p.head below root.members) :=
  setBelow?_child upper p.head p.steps root

theorem place?_child (upper : Node) (k : String) (rest : List Step) (n : Option Node) :
    place? upper (.child k :: rest) n =
      (place? upper rest ((n.getD .absent).members.lookup k)).map fun below =>
        .table (setMember k below (n.getD .absent).members) :=
  setBelow?_child upper k rest _

/-- Below a place only the members and the items there matter. -/
theorem setBelow?_congr (upper : Node) (step : Step) (rest : List Step) {m n : Node}
    (members : m.members = n.members) (items : m.items = n.items) :
    setBelow? upper (step :: rest) m = setBelow? upper (step :: rest) n := by
  cases step with
  | child k => rw [setBelow?_child, setBelow?_child, members]
  | item i => cases rest <;> simp only [setBelow?, items]

/-- An empty table at a place is as good as nothing there. -/
theorem place?_empty (upper : Node) (steps : List Step) :
    place? upper steps (some (.table [])) = place? upper steps none := by
  cases steps with
  | nil => rfl
  | cons step rest => exact setBelow?_congr upper step rest rfl rfl

/-- A plain value at a place is as good as nothing there, but for an empty table that is put over
it. -/
theorem place?_plain {n : Node} (plain : n.Plain) (upper : Node) (steps : List Step) :
    place? upper steps (some n) = place? upper steps none ∨
      place? upper steps (some n) = some n ∧ place? upper steps none = some (.table []) := by
  cases steps with
  | cons step rest => exact .inl (setBelow?_congr upper step rest plain.members plain.items)
  | nil =>
      by_cases empty : upper = table []
      · subst empty
        exact .inr ⟨congrArg some (overlay_empty n), congrArg some (overlay_empty _)⟩
      · exact .inl (congrArg some (overlay_congr empty plain.members))

end Path

/-! ### Layers -/

theorem Node.withLayer?_cons (root : Node) (key : String) (n : Node)
    (rest : List (String × Node)) :
    root.withLayer? ((key, n) :: rest) =
      ((Path.ofKey key).set? n root).bind fun root => root.withLayer? rest := by
  simp [withLayer?]

theorem Node.withLayer?_append (root : Node) (first second : List (String × Node)) :
    root.withLayer? (first ++ second) =
      (root.withLayer? first).bind fun root => root.withLayer? second :=
  List.foldlM_append

theorem Node.withLayer?_singleton (root : Node) (key : String) (n : Node) :
    root.withLayer? [(key, n)] = (Path.ofKey key).set? n root := by
  simp [withLayer?]

end TokenLifecycle.Config
