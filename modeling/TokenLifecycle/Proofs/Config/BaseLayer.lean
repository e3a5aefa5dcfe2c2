import TokenLifecycle.Proofs.Config.Leaf

/-!
# Settings as a layer

Settings with numbers that 63 bits hold make a layer, which holds plain values in tables, one for
each section, and gives each leaf back (`App.exists_leaf_of_layer?`).
-/

namespace TokenLifecycle.Config

/-! ### Names and numbers in a layer -/

theorem Environment.ofName?_name (e : Environment) : ofName? e.name = some e := by
  cases e <;> decide

theorem LogFormat.ofName?_name (f : LogFormat) : ofName? f.name = some f := by
  cases f <;> decide

namespace Node

theorem ofNat?_eq_some_iff {n : Nat} {node : Node} :
    ofNat? n = some node ↔ n ≤ 9223372036854775807 ∧ node = .integer (Int64.ofInt n) := by
  rw [ofNat?, Numeral.toInt64?]
  by_cases small : n ≤ 9223372036854775807
  · rw [if_pos (by omega), Option.map_some, Option.some.injEq]
    exact ⟨fun same => ⟨small, same.symm⟩, fun given => given.2.symm⟩
  · rw [if_neg (by omega)]
    simp [small]

/-- A number in a layer is the number that was put there. -/
theorem nat?_of_ofNat? {n : Nat} {node : Node} (stored : ofNat? n = some node) :
    node.nat? = some n := by
  obtain ⟨small, rfl⟩ := ofNat?_eq_some_iff.mp stored
  have whole : (Int64.ofInt n).toInt = n :=
    Int64.toInt_ofInt_of_le (by omega) (by omega)
  rw [nat?, whole, if_pos (by omega), Int.toNat_natCast]

theorem plain_of_ofNat? {n : Nat} {node : Node} (stored : ofNat? n = some node) : node.Plain := by
  obtain ⟨-, rfl⟩ := ofNat?_eq_some_iff.mp stored
  trivial

theorem plain_ofOption (s : Option String) : (ofOption s).Plain := by
  cases s <;> trivial

theorem option?_ofOption (s : Option String) :
    fitting.option? fitting.text? (ofOption s) = some s := by
  cases s <;> rfl

end Node

/-! ### The layer of settings -/

/-- The numbers of the settings that a layer may not have room for are small enough. -/
structure App.Storable (c : App) : Prop where
  leeway : c.jwt.leeway.toNat ≤ 9223372036854775807
  connectionTimeout : c.cache.connectionTimeout.toNat ≤ 9223372036854775807
  responseTimeout : c.cache.responseTimeout.toNat ≤ 9223372036854775807

/-- Settings make a layer if their numbers are small enough. -/
theorem App.layer?_isSome_iff (c : App) : c.layer?.isSome ↔ c.Storable := by
  simp only [App.layer?, Option.bind_eq_bind, Option.isSome_iff_exists, Option.bind_eq_some_iff,
    Option.pure_def, Node.ofNat?_eq_some_iff]
  constructor
  · rintro ⟨lower, -, ⟨leeway, -⟩, -, ⟨connection, -⟩, -, ⟨response, -⟩, -⟩
    exact ⟨leeway, connection, response⟩
  · rintro ⟨leeway, connection, response⟩
    have attempts := c.cache.connectAttempts.toNat_lt
    have database := c.cache.database.toNat_lt
    exact ⟨_, _, ⟨leeway, rfl⟩, _, ⟨connection, rfl⟩, _, ⟨response, rfl⟩, _, ⟨by omega, rfl⟩,
      _, ⟨by omega, rfl⟩, rfl⟩

/-- The values of fields that are plain. -/
def PlainFields (fields : List (String × Node)) : Prop :=
  ∀ name n, fields.lookup name = some n → n.Plain

/-- Settings as a layer: each section is a table of plain values, everything else is plain. -/
structure Settled (base : List (String × Node)) : Prop where
  tables : ∀ part ∈ sections, ∃ fields, base.lookup part = some (.table fields) ∧ PlainFields fields
  others : ∀ name ∉ sections, ∀ n, base.lookup name = some n → n.Plain

theorem plainFields_of_mem {fields : List (String × Node)}
    (plain : ∀ entry ∈ fields, entry.2.Plain) : PlainFields fields := by
  intro name n found
  obtain ⟨front, back, rfl, -⟩ := List.lookup_eq_some_iff.mp found
  exact plain (name, n) (by simp)

section Layer

variable {c : App} {lower : List (String × Node)} (layer : c.layer? = some lower)

include layer

/-- The layer of settings gives each leaf back. -/
theorem App.exists_leaf_of_layer? (leaf : Leaf) :
    ∃ n, leaf.of? (.table lower) = some n ∧ leaf.read? Node.fitting n = some (leaf.get c) := by
  simp only [App.layer?, Option.bind_eq_bind, Option.bind_eq_some_iff, Option.pure_def,
    Option.some.injEq] at layer
  obtain ⟨leeway, leeway_stored, connection, connection_stored, response, response_stored,
    attempts, attempts_stored, database, database_stored, rfl⟩ := layer
  have number {n : Nat} {node : Node} {α : Type} {narrow : Nat → Option α} {a : α}
      (stored : Node.ofNat? n = some node) (whole : narrow n = some a) :
      node.nat?.bind narrow = some a := by
    rw [Node.nat?_of_ofNat? stored, Option.bind_some, whole]
  cases leaf with
  | environment => exact ⟨_, rfl, Environment.ofName?_name _⟩
  | algorithm | privateKeyPath | publicKeyPath | sessionPrefix | url | level | sourceLocation =>
      exact ⟨_, rfl, rfl⟩
  | accessTokenExpiry | refreshTokenExpiry => exact ⟨_, rfl, Numeral.toInt64?_toInt _⟩
  | issuer | cachePrefix => exact ⟨_, rfl, Node.option?_ofOption _⟩
  | leeway => exact ⟨leeway, rfl, number leeway_stored (Numeral.toUInt64?_toNat _)⟩
  | connectionTimeout =>
      exact ⟨connection, rfl, number connection_stored (Numeral.toUInt64?_toNat _)⟩
  | responseTimeout => exact ⟨response, rfl, number response_stored (Numeral.toUInt64?_toNat _)⟩
  | connectAttempts => exact ⟨attempts, rfl, number attempts_stored (Numeral.toUInt32?_toNat _)⟩
  | database => exact ⟨database, rfl, number database_stored (Numeral.toUInt8?_toNat _)⟩
  | format => exact ⟨_, rfl, LogFormat.ofName?_name _⟩

/-- The layer of settings, put over nothing, is itself. -/
theorem App.withLayer?_of_layer? : (Node.table []).withLayer? lower = some (.table lower) := by
  simp only [App.layer?, Option.bind_eq_bind, Option.bind_eq_some_iff, Option.pure_def,
    Option.some.injEq] at layer
  obtain ⟨leeway, leeway_stored, connection, connection_stored, response, response_stored,
    attempts, attempts_stored, database, database_stored, rfl⟩ := layer
  have environment_key : Path.ofKey "environment" = ⟨"environment", []⟩ := by decide
  have jwt_key : Path.ofKey "jwt" = ⟨"jwt", []⟩ := by decide
  have session_key : Path.ofKey "session" = ⟨"session", []⟩ := by decide
  have cache_key : Path.ofKey "cache" = ⟨"cache", []⟩ := by decide
  have logging_key : Path.ofKey "logging" = ⟨"logging", []⟩ := by decide
  have number {n : Nat} {node : Node} (stored : Node.ofNat? n = some node) :=
    (Node.plain_of_ofNat? stored).overlay (.table [])
  have option (s : Option String) := (Node.plain_ofOption s).overlay (.table [])
  simp [Node.withLayer?, environment_key, jwt_key, session_key, cache_key, logging_key,
    Path.set?_eq, Path.place?, Node.members, Node.overlay, Node.overlayMembers, Node.setMember,
    List.lookup_cons, option, number leeway_stored, number connection_stored,
    number response_stored, number attempts_stored, number database_stored]

/-- The layer of settings has sections of plain values. -/
theorem App.settled_of_layer? : Settled lower := by
  simp only [App.layer?, Option.bind_eq_bind, Option.bind_eq_some_iff, Option.pure_def,
    Option.some.injEq] at layer
  obtain ⟨leeway, leeway_stored, connection, connection_stored, response, response_stored,
    attempts, attempts_stored, database, database_stored, rfl⟩ := layer
  have number {n : Nat} {node : Node} (stored : Node.ofNat? n = some node) :=
    Node.plain_of_ofNat? stored
  constructor
  · intro part known
    simp only [sections, List.mem_cons, List.not_mem_nil, or_false] at known
    rcases known with rfl | rfl | rfl | rfl <;> refine ⟨_, rfl, plainFields_of_mem ?_⟩ <;>
      simp only [List.forall_mem_cons]
    · exact ⟨trivial, trivial, trivial, trivial, trivial, Node.plain_ofOption _,
        number leeway_stored, by simp⟩
    · exact ⟨trivial, by simp⟩
    · exact ⟨trivial, number connection_stored, number response_stored, number attempts_stored,
        Node.plain_ofOption _, number database_stored, by simp⟩
    · exact ⟨trivial, trivial, trivial, by simp⟩
  · intro name unknown n found
    simp only [sections, List.mem_cons, List.not_mem_nil, or_false, not_or] at unknown
    simp only [Association.lookup_cons_eq, unknown, if_false, List.lookup_nil,
      Option.ite_none_right_eq_some, Option.some.injEq] at found
    obtain ⟨-, rfl⟩ := found
    trivial

end Layer

end TokenLifecycle.Config
