import TokenLifecycle.Proofs.Config.BaseLayer

/-!
# Layers put over settings

A layer that is put over settings keeps what it does not set itself and replaces what it sets.
`RootOver` says so of the merged layers, of the layer alone and of the settings below; every entry
that leaves the sections tables keeps it (`RootOver.set?`), and so does a whole layer
(`RootOver.withLayer?`).
-/

namespace TokenLifecycle.Config

/-! ### Fields -/

/-- The merged layers hold what a layer gives at a place, and what is below it where the layer gives
nothing or only a table without members. -/
def Over (base merged : Option Node) : Option Node → Prop
  | none => merged = base
  | some n => merged = some n ∨ n = .table [] ∧ merged = base

namespace Over

variable {base merged given : Option Node}

/-- What is set in the layer and in the merged layers alike. -/
theorem place? (laid : Over base merged given) (plain : ∀ n, base = some n → n.Plain)
    {upper given' : Node} {steps : List Step} (set : Path.place? upper steps given = some given') :
    ∃ merged', Path.place? upper steps merged = some merged' ∧
      Over base (some merged') (some given') := by
  have alike (same : merged = given) : ∃ merged', Path.place? upper steps merged = some merged' ∧
      Over base (some merged') (some given') := ⟨given', by rw [same, set], .inl rfl⟩
  -- A layer that gives nothing yet sets the same as one that gives an empty table.
  have kept (same : merged = base) (set : Path.place? upper steps none = some given') :
      ∃ merged', Path.place? upper steps merged = some merged' ∧
        Over base (some merged') (some given') := by
    cases base with
    | none => exact ⟨given', by rw [same, set], .inl rfl⟩
    | some b =>
        rcases Path.place?_plain (plain b rfl) upper steps with replaced | ⟨stays, empty⟩
        · exact ⟨given', by rw [same, replaced, set], .inl rfl⟩
        · obtain rfl := Option.some.inj (empty.symm.trans set)
          exact ⟨b, by rw [same, stays], .inr ⟨rfl, rfl⟩⟩
  cases given with
  | none => exact kept laid set
  | some n =>
      rcases laid with same | ⟨rfl, same⟩
      · exact alike same
      · exact kept same (Path.place?_empty upper steps ▸ set)

end Over

/-! ### Sections -/

/-- Each field of merged layers is over the field below. -/
def FieldsOver (base merged given : List (String × Node)) : Prop :=
  ∀ name, Over (base.lookup name) (merged.lookup name) (given.lookup name)

namespace FieldsOver

variable {base merged given : List (String × Node)}

theorem setMember (laid : FieldsOver base merged given) {name : String} {m n : Node}
    (here : Over (base.lookup name) (some m) (some n)) :
    FieldsOver base (Node.setMember name m merged) (Node.setMember name n given) := by
  intro other
  rw [Node.lookup_setMember, Node.lookup_setMember]
  split
  · rename_i same
    rw [same]
    exact here
  · exact laid other

/-- A table that is put over the fields. -/
theorem overlayMembers (plain : PlainFields base) (upper : List (String × Node))
    (laid : FieldsOver base merged given) :
    FieldsOver base (Node.overlayMembers merged upper) (Node.overlayMembers given upper) := by
  induction upper generalizing merged given with
  | nil => simpa [Node.overlayMembers] using laid
  | cons entry rest ih =>
      obtain ⟨name, n⟩ := entry
      obtain ⟨m, set, here⟩ := (laid name).place? (plain name) (Path.place?_nil n _)
      obtain rfl := Option.some.inj set
      rw [Node.overlayMembers, Node.overlayMembers]
      exact ih (laid.setMember here)

end FieldsOver

/-- The merged layers hold a section as a table, with each field over the one below. -/
def SectionOver (base : List (String × Node)) (merged given : Option Node) : Prop :=
  ∃ ms gs, merged = some (.table ms) ∧ given.getD (.table []) = .table gs ∧ FieldsOver base ms gs

namespace SectionOver

variable {base : List (String × Node)} {merged given : Option Node}

theorem place?_table (laid : SectionOver base merged given) (plain : PlainFields base)
    (upper : List (String × Node)) {given' : Node}
    (set : Path.place? (.table upper) [] given = some given') :
    ∃ merged', Path.place? (.table upper) [] merged = some merged' ∧
      SectionOver base (some merged') (some given') := by
  obtain ⟨ms, gs, rfl, given_eq, fields⟩ := laid
  refine ⟨_, rfl, Node.overlayMembers ms upper, Node.overlayMembers gs upper, ?_, ?_,
    fields.overlayMembers plain upper⟩
  · simp [Node.overlay_table]
  · obtain rfl := Option.some.inj set
    simp [given_eq, Node.overlay_table]

theorem place?_child (laid : SectionOver base merged given) (plain : PlainFields base)
    {upper given' : Node} {name : String} {rest : List Step}
    (set : Path.place? upper (.child name :: rest) given = some given') :
    ∃ merged', Path.place? upper (.child name :: rest) merged = some merged' ∧
      SectionOver base (some merged') (some given') := by
  obtain ⟨ms, gs, rfl, given_eq, fields⟩ := laid
  have members : (given.getD .absent).members = gs := by
    cases given with
    | none => exact congrArg Node.members given_eq
    | some n => exact congrArg Node.members given_eq
  rw [Path.place?_child, members] at set
  obtain ⟨below, below_set, rfl⟩ := Option.map_eq_some_iff.mp set
  obtain ⟨m, merged_set, here⟩ := (fields name).place? (plain name) below_set
  refine ⟨.table (Node.setMember name m ms), ?_, _, _, rfl, rfl, fields.setMember here⟩
  rw [Path.place?_child]
  exact Option.map_eq_some_iff.mpr ⟨m, merged_set, rfl⟩

end SectionOver

/-! ### Whole layers -/

/-- An entry of a layer that leaves each section a table. -/
def Sectioned (key : String) (n : Node) : Prop :=
  (Path.ofKey key).head ∈ sections →
    match (Path.ofKey key).steps with
    | [] => ∃ fields, n = .table fields
    | .child _ :: _ => True
    | .item _ :: _ => False

/-- The merged layers, `merged`, are settings below, `base`, with a layer over them that alone makes
up `given`. -/
structure RootOver (base : List (String × Node)) (merged given : Node) : Prop where
  merged_eq : merged = .table merged.members
  tables : ∀ part ∈ sections, ∀ fields, base.lookup part = some (.table fields) →
    SectionOver fields (merged.members.lookup part) (given.members.lookup part)
  others : ∀ name ∉ sections,
    Over (base.lookup name) (merged.members.lookup name) (given.members.lookup name)

namespace RootOver

variable {base : List (String × Node)} {merged given : Node}

/-- Below a layer that gives nothing are the settings themselves. -/
theorem start (base : List (String × Node)) : RootOver base (.table base) (.table []) where
  merged_eq := rfl
  tables := fun _ _ fields table => ⟨fields, [], table, rfl, fun _ => rfl⟩
  others := fun _ _ => rfl

/-- A member that is set in the layer and in the merged layers. -/
theorem setMember (laid : RootOver base merged given) {name : String} {m n : Node}
    (table : name ∈ sections → ∀ fields, base.lookup name = some (.table fields) →
      SectionOver fields (some m) (some n))
    (other : name ∉ sections → Over (base.lookup name) (some m) (some n)) :
    RootOver base (.table (Node.setMember name m merged.members))
      (.table (Node.setMember name n given.members)) where
  merged_eq := rfl
  tables := by
    intro part known fields below
    simp only [Node.members_table, Node.lookup_setMember]
    split
    · rename_i same
      subst same
      exact table known fields below
    · exact laid.tables part known fields below
  others := by
    intro key unknown
    simp only [Node.members_table, Node.lookup_setMember]
    split
    · rename_i same
      subst same
      exact other unknown
    · exact laid.others key unknown

/-- One entry of a layer. -/
theorem set? (laid : RootOver base merged given) (settled : Settled base) {key : String}
    {n given' : Node} (sectioned : Sectioned key n)
    (set : (Path.ofKey key).set? n given = some given') :
    ∃ merged', (Path.ofKey key).set? n merged = some merged' ∧ RootOver base merged' given' := by
  rw [Path.set?_eq] at set ⊢
  obtain ⟨below, below_set, rfl⟩ := Option.map_eq_some_iff.mp set
  by_cases known : (Path.ofKey key).head ∈ sections
  -- Below a section the fields decide, and the entry leaves the section a table.
  · obtain ⟨fields, table, plain⟩ := settled.tables _ known
    have section_laid := laid.tables _ known fields table
    have placed : ∃ m, Path.place? n (Path.ofKey key).steps
        (merged.members.lookup (Path.ofKey key).head) = some m ∧
          SectionOver fields (some m) (some below) := by
      have shape := sectioned known
      cases steps : (Path.ofKey key).steps with
      | nil =>
          rw [steps] at shape below_set
          obtain ⟨upper, rfl⟩ := shape
          exact section_laid.place?_table plain upper below_set
      | cons step rest =>
          rw [steps] at shape below_set
          cases step with
          | child name => exact section_laid.place?_child plain below_set
          | item i => exact shape.elim
    obtain ⟨m, merged_set, here⟩ := placed
    refine ⟨_, Option.map_eq_some_iff.mpr ⟨m, merged_set, rfl⟩, laid.setMember ?_ ?_⟩
    · intro _ fields' table'
      obtain rfl : fields = fields' := by simpa using table.symm.trans table'
      exact here
    · exact fun unknown => absurd known unknown
  · obtain ⟨m, merged_set, here⟩ :=
      (laid.others _ known).place? (settled.others _ known) below_set
    exact ⟨_, Option.map_eq_some_iff.mpr ⟨m, merged_set, rfl⟩,
      laid.setMember (fun inside => absurd inside known) fun _ => here⟩

/-- A layer can be put over settings if it can be made up alone. -/
theorem withLayer? (laid : RootOver base merged given) (settled : Settled base)
    {entries : List (String × Node)} (sectioned : ∀ entry ∈ entries, Sectioned entry.1 entry.2)
    {given' : Node} (alone : given.withLayer? entries = some given') :
    ∃ merged', merged.withLayer? entries = some merged' ∧ RootOver base merged' given' := by
  induction entries generalizing merged given with
  | nil =>
      obtain rfl := Option.some.inj alone
      exact ⟨merged, rfl, laid⟩
  | cons entry rest ih =>
      obtain ⟨key, n⟩ := entry
      rw [Node.withLayer?_cons] at alone ⊢
      obtain ⟨next, set, alone⟩ := Option.bind_eq_some_iff.mp alone
      obtain ⟨m, merged_set, next_laid⟩ :=
        laid.set? settled (sectioned _ List.mem_cons_self) set
      obtain ⟨merged', rest_set, rest_laid⟩ :=
        ih next_laid (fun entry member => sectioned entry (List.mem_cons_of_mem _ member)) alone
      exact ⟨merged', Option.bind_eq_some_iff.mpr ⟨m, merged_set, rest_set⟩, rest_laid⟩

/-- The sections of merged layers are tables. -/
theorem tables_of_settled (laid : RootOver base merged given) (settled : Settled base) :
    ∀ part ∈ sections, ∃ fields, merged.members.lookup part = some (.table fields) := by
  intro part known
  obtain ⟨fields, table, -⟩ := settled.tables part known
  obtain ⟨ms, -, found, -⟩ := laid.tables part known fields table
  exact ⟨ms, found⟩

/-- Each leaf of merged layers is over the leaf below. -/
theorem leaf (laid : RootOver base merged given) (settled : Settled base) (leaf : Leaf) :
    Over (leaf.of? (.table base)) (leaf.of? merged) (leaf.of? given) := by
  cases place : leaf.place with
  | mk part name =>
      cases part with
      | none =>
          have unknown : name ∉ sections := leaf.notMem_sections place
          simp only [Leaf.of?, place]
          exact laid.others name unknown
      | some part =>
          have known : part ∈ sections := leaf.mem_sections place
          obtain ⟨fields, table, -⟩ := settled.tables part known
          obtain ⟨ms, gs, found, given_eq, fields_laid⟩ := laid.tables part known fields table
          have given_name : ((given.members.lookup part).bind fun n => n.members.lookup name) =
              gs.lookup name := by
            -- A section that the layer does not give has no fields there.
            cases below : given.members.lookup part with
            | none =>
                rw [below] at given_eq
                obtain rfl : [] = gs := by simpa using given_eq
                rfl
            | some n =>
                rw [below] at given_eq
                obtain rfl : n = .table gs := given_eq
                rfl
          simp only [Leaf.of?, place]
          rw [given_name, found]
          simp only [Node.members_table, table, Option.bind_some]
          exact fields_laid name

end RootOver

end TokenLifecycle.Config
