import TokenLifecycle.Proofs.Config.Overrides
import TokenLifecycle.Proofs.Config.Reading
import TokenLifecycle.Proofs.Config.Surroundings

/-!
# Loading settings

What the settings of a program are, leaf by leaf: what an overriding variable gives, else what the
file for the environment gives, else what is looked up in the variables (`load_layers`).
`leaf_of_load` says the same of all settings that were loaded, with numbers cut to their width.
-/

namespace TokenLifecycle.Config

/-! ### Settings from leaves -/

/-- The settings with the given leaves. -/
def App.ofLeaves (value : (leaf : Leaf) → leaf.Value) : App where
  environment := value .environment
  jwt :=
    { algorithm := value .algorithm
      privateKeyPath := value .privateKeyPath
      publicKeyPath := value .publicKeyPath
      accessTokenExpiry := value .accessTokenExpiry
      refreshTokenExpiry := value .refreshTokenExpiry
      issuer := value .issuer
      leeway := value .leeway }
  session := { keyPrefix := value .sessionPrefix }
  cache :=
    { url := value .url
      connectionTimeout := value .connectionTimeout
      responseTimeout := value .responseTimeout
      connectAttempts := value .connectAttempts
      keyPrefix := value .cachePrefix
      database := value .database }
  logging :=
    { level := value .level
      format := value .format
      sourceLocation := value .sourceLocation }

theorem Leaf.get_ofLeaves (value : (leaf : Leaf) → leaf.Value) (leaf : Leaf) :
    leaf.get (App.ofLeaves value) = value leaf := by
  cases leaf <;> rfl

/-- The value of a leaf is what is given for it, or that of the settings below if nothing is. -/
def Leaf.Prevails (leaf : Leaf) (given : Option Node) (base : App) (v : leaf.Value) : Prop :=
  match given with
  | some n => leaf.read? Node.fitting n = some v
  | none => v = leaf.get base

theorem Leaf.Prevails.unique {leaf : Leaf} {given : Option Node} {base : App} {v w : leaf.Value}
    (here : leaf.Prevails given base v) (there : leaf.Prevails given base w) : v = w := by
  cases given with
  | none => exact Eq.trans here (Eq.symm there)
  | some n => exact Option.some.inj (Eq.trans (Eq.symm here) there)

/-- Merged layers are read leaf by leaf: from the layer if it gives the leaf, else from the settings
below. -/
theorem RootOver.exists_read? {base : App} {lower : List (String × Node)}
    (layer : base.layer? = some lower) (settled : Settled lower) {merged given : Node}
    (laid : RootOver lower merged given)
    (fits : ∀ (leaf : Leaf) (n : Node), leaf.of? given = some n →
      (leaf.read? Node.fitting n).isSome) :
    ∃ app, App.read? Node.source merged = some app ∧
      ∀ leaf : Leaf, leaf.Prevails (leaf.of? given) base (leaf.get app) := by
  have value (leaf : Leaf) : ∃ v : leaf.Value,
      (leaf.of? merged).bind (leaf.read? Node.source) = some v ∧
        leaf.Prevails (leaf.of? given) base v := by
    have over_base := laid.leaf settled leaf
    obtain ⟨b, below, read⟩ := App.exists_leaf_of_layer? layer leaf
    cases top : leaf.of? given with
    | none =>
        rw [top] at over_base
        refine ⟨leaf.get base, ?_, rfl⟩
        rw [show leaf.of? merged = leaf.of? (.table lower) from over_base, below,
          Option.bind_some]
        exact Leaf.read?_source_of_fitting read
    | some n =>
        obtain ⟨v, fit⟩ := Option.isSome_iff_exists.mp (fits leaf n top)
        rw [top] at over_base
        rcases over_base with same | ⟨rfl, -⟩
        · refine ⟨v, ?_, fit⟩
          rw [same, Option.bind_some]
          exact Leaf.read?_source_of_fitting fit
        -- An empty table would leave the value below, but it fits no leaf.
        · rw [leaf.read?_empty] at fit
          cases fit
  choose v read top using value
  refine ⟨App.ofLeaves v, ?_, ?_⟩
  · rw [laid.merged_eq]
    apply App.read?_of_leaves
    · intro leaf
      rw [← laid.merged_eq, read, Leaf.get_ofLeaves]
    · exact laid.tables_of_settled settled
  · intro leaf
    rw [Leaf.get_ofLeaves]
    exact top leaf

/-! ### Loading -/

/-- What is given for a leaf above the settings that are looked up: by an overriding variable, or
else by the file, which alone makes up `own`. -/
def Leaf.given? (leaf : Leaf) (vars : Variables) (own : Node) : Option Node :=
  (leaf.override? vars).or (leaf.of? own)

/-- The layers above the settings that are looked up in the variables `vars`: a file that alone
makes up `own` and keeps the sections tables, and overriding variables for leaves. -/
structure Layered (vars : Variables) (files : Files) (own : Node) : Prop where
  storable : vars.settings.Storable
  file : ∃ entries, fileLayer files vars.settings.environment.configFile = .ok entries ∧
    (∀ entry ∈ entries, Sectioned entry.1 entry.2) ∧ (Node.table []).withLayer? entries = some own
  overrides : OverridesLeaves vars

/-- The topmost value that is given for each leaf fits it. -/
def Fits (vars : Variables) (own : Node) : Prop :=
  ∀ (leaf : Leaf) (n : Node), leaf.given? vars own = some n → (leaf.read? Node.fitting n).isSome

/-- The layers above the settings that are looked up in the variables `vars`: the file and the
overriding variables keep the sections tables and together make up `given`. -/
def Stacked (vars : Variables) (files : Files) (given : Node) : Prop :=
  ∃ entries, fileLayer files vars.settings.environment.configFile = .ok entries ∧
    (∀ entry ∈ entries ++ overrideLayer vars, Sectioned entry.1 entry.2) ∧
    (Node.table []).withLayer? (entries ++ overrideLayer vars) = some given

theorem LoadFault.orElse_eq_ok_iff {α : Type} {f : LoadFault} {value : Option α} {a : α} :
    f.orElse value = .ok a ↔ value = some a := by
  cases value <;> simp [orElse]

theorem exists_of_bind_eq_ok {ε α β : Type} {first : Except ε α} {next : α → Except ε β} {b : β}
    (done : first >>= next = .ok b) : ∃ a, first = .ok a ∧ next a = .ok b := by
  cases first with
  | error _ => cases done
  | ok a => exact ⟨a, rfl, done⟩

/-- Overriding variables for leaves are put over the file. -/
theorem Layered.exists_stacked {vars : Variables} {files : Files} {own : Node}
    (layered : Layered vars files own) :
    ∃ given, Stacked vars files given ∧ ∀ leaf : Leaf, leaf.of? given = leaf.given? vars own := by
  obtain ⟨entries, file, sectioned, alone⟩ := layered.file
  obtain ⟨given, overridden, held⟩ :=
    Leaf.exists_withLayer? layered.overrides.exists_leaf plain_of_mem_overrideLayer own
  refine ⟨given, ⟨entries, file, ?_, ?_⟩, ?_⟩
  · intro entry member
    rcases List.mem_append.mp member with inside | override
    · exact sectioned entry inside
    · exact layered.overrides.sectioned entry override
  · rw [Node.withLayer?_append, alone, Option.bind_some, overridden]
  · intro leaf
    rw [held, leaf.lookup_overrideLayer, Leaf.given?]

section Load

variable {vars vars' : Variables} {files : Files} {own : Node}
  (filled : variablesWithFile? vars files = some vars')

include filled

theorem load_eq : load vars files = (do
    let lower ← LoadFault.unreadable.orElse vars'.settings.layer?
    let middle ← fileLayer files vars'.settings.environment.configFile
    let root ← LoadFault.misplaced.orElse do
      let root ← (Node.table []).withLayer? lower
      let root ← root.withLayer? middle
      root.withLayer? (overrideLayer vars')
    LoadFault.unreadable.orElse (App.read? Node.source root)) := by
  have known : LoadFault.misplaced.orElse (variablesWithFile? vars files) = .ok vars' := by
    rw [filled]
    rfl
  rw [load, known]
  exact pure_bind (m := Except LoadFault) vars' _

/-- Numbers that no layer has room for are refused. -/
theorem load_of_not_storable (large : ¬vars'.settings.Storable) :
    load vars files = .error .unreadable := by
  have none_stored : vars'.settings.layer? = none := by
    rw [← Option.not_isSome_iff_eq_none, App.layer?_isSome_iff]
    exact large
  rw [load_eq filled, none_stored]
  rfl

/-- All layers can be put over the settings that are looked up, and are read together. -/
theorem exists_merged {given : Node} (storable : vars'.settings.Storable)
    (stacked : Stacked vars' files given) :
    ∃ lower merged, vars'.settings.layer? = some lower ∧ RootOver lower merged given ∧
      load vars files = LoadFault.unreadable.orElse (App.read? Node.source merged) := by
  obtain ⟨lower, layer⟩ := Option.isSome_iff_exists.mp
    ((App.layer?_isSome_iff _).mpr storable)
  obtain ⟨entries, file, sectioned, alone⟩ := stacked
  have settled := App.settled_of_layer? layer
  have start := App.withLayer?_of_layer? layer
  obtain ⟨merged, all_merged, laid⟩ := (RootOver.start lower).withLayer? settled sectioned alone
  refine ⟨lower, merged, layer, laid, ?_⟩
  rw [Node.withLayer?_append] at all_merged
  rw [load_eq filled, layer, file]
  simp only [LoadFault.orElse, bind, Except.bind, start, Option.bind_some, all_merged]

/-- Settings are loaded leaf by leaf. -/
theorem exists_load (layered : Layered vars' files own) (fits : Fits vars' own) :
    ∃ app, load vars files = .ok app ∧
      ∀ leaf : Leaf, leaf.Prevails (leaf.given? vars' own) vars'.settings (leaf.get app) := by
  obtain ⟨given, stacked, held⟩ := layered.exists_stacked
  obtain ⟨lower, merged, layer, laid, loaded⟩ := exists_merged filled layered.storable stacked
  have settled := App.settled_of_layer? layer
  have given_fits (leaf : Leaf) (n : Node) (top : leaf.of? given = some n) :
      (leaf.read? Node.fitting n).isSome := fits leaf n (held leaf ▸ top)
  obtain ⟨app, read, prevails⟩ := laid.exists_read? layer settled given_fits
  refine ⟨app, ?_, ?_⟩
  · rw [loaded, read]
    rfl
  · intro leaf
    rw [← held leaf]
    exact prevails leaf

/-- A leaf of loaded settings is read from the layers that give it, or is looked up if they give
nothing or only a table without members. -/
theorem leaf_of_load {given : Node} {app : App} (stacked : Stacked vars' files given)
    (loaded : load vars files = .ok app) (leaf : Leaf) :
    (∃ n, leaf.of? given = some n ∧ leaf.read? Node.source n = some (leaf.get app)) ∨
      (leaf.of? given = none ∨ leaf.of? given = some (.table [])) ∧
        leaf.get app = leaf.get vars'.settings := by
  have storable : vars'.settings.Storable := by
    by_contra large
    rw [load_of_not_storable filled large] at loaded
    cases loaded
  obtain ⟨lower, merged, layer, laid, load_read⟩ := exists_merged filled storable stacked
  have settled := App.settled_of_layer? layer
  have read : App.read? Node.source merged = some app :=
    LoadFault.orElse_eq_ok_iff.mp (load_read.symm.trans loaded)
  have held (n : Node) (found : leaf.of? merged = some n) :
      leaf.read? Node.source n = some (leaf.get app) := App.leaf_of_read? read leaf found
  have looked_up (same : leaf.of? merged = leaf.of? (.table lower)) :
      leaf.get app = leaf.get vars'.settings := by
    obtain ⟨b, below, fits⟩ := App.exists_leaf_of_layer? layer leaf
    have value := held b (same.trans below)
    exact Option.some.inj (value.symm.trans (Leaf.read?_source_of_fitting fits))
  have here := laid.leaf settled leaf
  cases top : leaf.of? given with
  | none =>
      rw [top] at here
      exact .inr ⟨.inl rfl, looked_up here⟩
  | some n =>
      rw [top] at here
      rcases here with same | ⟨rfl, same⟩
      · exact .inl ⟨n, rfl, held n same⟩
      · exact .inr ⟨.inr rfl, looked_up same⟩

/-- Loaded settings are read from what the overriding variables are put over. -/
theorem exists_root_of_load {app : App} (loaded : load vars files = .ok app) :
    ∃ below root, Node.withLayer? below (overrideLayer vars') = some root ∧
      App.read? Node.source root = some app := by
  rw [load_eq filled] at loaded
  obtain ⟨_, -, loaded⟩ := exists_of_bind_eq_ok loaded
  obtain ⟨_, -, loaded⟩ := exists_of_bind_eq_ok loaded
  obtain ⟨root, merged, loaded⟩ := exists_of_bind_eq_ok loaded
  obtain ⟨_, -, merged⟩ := Option.bind_eq_some_iff.mp (LoadFault.orElse_eq_ok_iff.mp merged)
  obtain ⟨below, -, overridden⟩ := Option.bind_eq_some_iff.mp merged
  exact ⟨below, root, overridden, LoadFault.orElse_eq_ok_iff.mp loaded⟩

/-- A leaf that an overriding variable sets is read from that variable, whatever else is given
beside the leaf. -/
theorem read?_of_override {app : App} (loaded : load vars files = .ok app) {leaf : Leaf}
    (undisturbed : leaf.Undisturbed vars') {n : Node} (given : leaf.override? vars' = some n) :
    leaf.read? Node.source n = some (leaf.get app) := by
  obtain ⟨below, root, overridden, read⟩ := exists_root_of_load filled loaded
  have held : leaf.of? root = some n := by
    rw [undisturbed.of?_eq overridden, given, Option.some_or]
  exact App.leaf_of_read? read leaf held

end Load

end TokenLifecycle.Config
