import TokenLifecycle.Proofs.Config.Leaf

/-!
# Reading settings

Settings are read from merged layers leaf by leaf: if each leaf can be read, so can the settings
(`App.read?_of_leaves`), and settings that were read have each leaf that the layers hold
(`App.leaf_of_read?`).
-/

namespace TokenLifecycle.Config

/-! ### Reading leaf by leaf -/

theorem bind_of_some {α β : Type} {read : Option α} {next : α → Option β} {a : α} {b : β}
    (given : read = some a) (rest : next a = some b) : read.bind next = some b := by
  rw [given, Option.bind_some, rest]

/-- A field with a value that can be read does not take its default. -/
theorem withDefault?_of_given {δ α : Type} {r : Record δ} {name : String} {read : δ → Option α}
    {a absent : α} (given : (r.get? name).bind read = some a) :
    r.withDefault? name read absent = some a := by
  obtain ⟨d, found, value⟩ := Option.bind_eq_some_iff.mp given
  rw [Record.withDefault?, found]
  exact value

/-- The record of a table's members with some names. -/
def tableRecord (names : List String) (fields : List (String × Node)) : Record Node :=
  ⟨fields.filter fun (k, _) => names.contains k, false⟩

section Reading

variable {ms fields : List (String × Node)} {part : String} {names : List String} {c : App}

/-- A leaf that can be read in merged layers can be read in the record of its section. -/
theorem Leaf.get?_tableRecord (table : ms.lookup part = some (.table fields)) (leaf : Leaf)
    (inside : leaf.place = (some part, leaf.place.2)) (known : leaf.place.2 ∈ names)
    (read : (leaf.of? (.table ms)).bind (leaf.read? Node.source) = some (leaf.get c)) :
    ((tableRecord names fields).get? leaf.place.2).bind (leaf.read? Node.source) =
      some (leaf.get c) := by
  have found : (tableRecord names fields).get? leaf.place.2 = fields.lookup leaf.place.2 :=
    Association.lookup_filter_contains known fields
  have here : leaf.of? (.table ms) = fields.lookup leaf.place.2 := by
    rw [Leaf.of?, inside]
    simp only [Node.members_table, table, Option.bind_some]
  rw [found, ← here, read]

variable (leaves : ∀ leaf : Leaf,
  (leaf.of? (.table ms)).bind (leaf.read? Node.source) = some (leaf.get c))

include leaves

theorem Jwt.read?_of_leaves (table : ms.lookup "jwt" = some (.table fields)) :
    Jwt.read? Node.source (.table fields) = some c.jwt := by
  have given (leaf : Leaf) (inside) (known : _ ∈ Jwt.fieldNames) :=
    leaf.get?_tableRecord table inside known (leaves leaf)
  simp only [Jwt.read?, Option.bind_eq_bind]
  apply bind_of_some (a := tableRecord Jwt.fieldNames fields) rfl
  apply bind_of_some (withDefault?_of_given (given .algorithm rfl (by decide)))
  apply bind_of_some (given .privateKeyPath rfl (by decide))
  apply bind_of_some (given .publicKeyPath rfl (by decide))
  apply bind_of_some (withDefault?_of_given (given .accessTokenExpiry rfl (by decide)))
  apply bind_of_some (withDefault?_of_given (given .refreshTokenExpiry rfl (by decide)))
  apply bind_of_some (withDefault?_of_given (given .issuer rfl (by decide)))
  apply bind_of_some (withDefault?_of_given (given .leeway rfl (by decide)))
  rfl

theorem Session.read?_of_leaves (table : ms.lookup "session" = some (.table fields)) :
    Session.read? Node.source (.table fields) = some c.session := by
  have given (leaf : Leaf) (inside) (known : _ ∈ ["key_prefix"]) :=
    leaf.get?_tableRecord table inside known (leaves leaf)
  simp only [Session.read?, Option.bind_eq_bind]
  apply bind_of_some (a := tableRecord ["key_prefix"] fields) rfl
  apply bind_of_some (withDefault?_of_given (given .sessionPrefix rfl (by decide)))
  rfl

theorem Cache.read?_of_leaves (table : ms.lookup "cache" = some (.table fields)) :
    Cache.read? Node.source (.table fields) = some c.cache := by
  have given (leaf : Leaf) (inside) (known : _ ∈ Cache.fieldNames) :=
    leaf.get?_tableRecord table inside known (leaves leaf)
  simp only [Cache.read?, Option.bind_eq_bind]
  apply bind_of_some (a := tableRecord Cache.fieldNames fields) rfl
  apply bind_of_some (given .url rfl (by decide))
  apply bind_of_some (withDefault?_of_given (given .connectionTimeout rfl (by decide)))
  apply bind_of_some (withDefault?_of_given (given .responseTimeout rfl (by decide)))
  apply bind_of_some (withDefault?_of_given (given .connectAttempts rfl (by decide)))
  apply bind_of_some (withDefault?_of_given (given .cachePrefix rfl (by decide)))
  apply bind_of_some (withDefault?_of_given (given .database rfl (by decide)))
  rfl

theorem Logging.read?_of_leaves (table : ms.lookup "logging" = some (.table fields)) :
    Logging.read? Node.source (.table fields) = some c.logging := by
  have given (leaf : Leaf) (inside) (known : _ ∈ Logging.fieldNames) :=
    leaf.get?_tableRecord table inside known (leaves leaf)
  simp only [Logging.read?, Option.bind_eq_bind]
  apply bind_of_some (a := tableRecord Logging.fieldNames fields) rfl
  apply bind_of_some (given .level rfl (by decide))
  apply bind_of_some (withDefault?_of_given (given .format rfl (by decide)))
  apply bind_of_some (withDefault?_of_given (given .sourceLocation rfl (by decide)))
  rfl

/-- Settings are read from merged layers in which each leaf can be read. -/
theorem App.read?_of_leaves
    (tables : ∀ part ∈ sections, ∃ fields, ms.lookup part = some (.table fields)) :
    App.read? Node.source (.table ms) = some c := by
  obtain ⟨jwt, jwt_table⟩ := tables "jwt" (by decide)
  obtain ⟨session, session_table⟩ := tables "session" (by decide)
  obtain ⟨cache, cache_table⟩ := tables "cache" (by decide)
  obtain ⟨logging, logging_table⟩ := tables "logging" (by decide)
  have found {α : Type} {name : String} {n : Node} {read : Node → Option α} {a : α}
      (known : name ∈ App.fieldNames) (given : ms.lookup name = some n) (value : read n = some a) :
      ((tableRecord App.fieldNames ms).get? name).bind read = some a := by
    have same : (tableRecord App.fieldNames ms).get? name = ms.lookup name :=
      Association.lookup_filter_contains known ms
    rw [same, given, Option.bind_some, value]
  obtain ⟨_, environment_given, environment_read⟩ :=
    Option.bind_eq_some_iff.mp (leaves .environment)
  have jwt_read := Jwt.read?_of_leaves leaves jwt_table
  have session_read := Session.read?_of_leaves leaves session_table
  have cache_read := Cache.read?_of_leaves leaves cache_table
  have logging_read := Logging.read?_of_leaves leaves logging_table
  simp only [App.read?, Option.bind_eq_bind]
  apply bind_of_some (a := tableRecord App.fieldNames ms) rfl
  apply bind_of_some (found (by decide) environment_given environment_read)
  apply bind_of_some (found (by decide) jwt_table jwt_read)
  apply bind_of_some (withDefault?_of_given (found (by decide) session_table session_read))
  apply bind_of_some (found (by decide) cache_table cache_read)
  apply bind_of_some (withDefault?_of_given (found (by decide) logging_table logging_read))
  rfl

end Reading

/-! ### Leaves of what was read -/

section Given

variable {δ α : Type} {r : Record δ} {name : String} {read : δ → Option α} {d : δ} {a absent : α}

theorem read_of_withDefault? (given : r.get? name = some d)
    (value : r.withDefault? name read absent = some a) : read d = some a := by
  rwa [Record.withDefault?, given] at value

theorem read_of_required? (given : r.get? name = some d)
    (value : r.required? name read = some a) : read d = some a := by
  rwa [Record.required?, given] at value

end Given

section Inversion

variable {fields : List (String × Node)} {c : App} {leaf : Leaf} {name : String} {n : Node}
  (held : fields.lookup name = some n)

include held

theorem get?_tableRecord_of_lookup {names : List String} (known : name ∈ names) :
    (tableRecord names fields).get? name = some n :=
  (Association.lookup_filter_contains known fields).trans held

theorem Jwt.leaf_of_read? (read : Jwt.read? Node.source (.table fields) = some c.jwt)
    (inside : leaf.place = (some "jwt", name)) :
    leaf.read? Node.source n = some (leaf.get c) := by
  have given (known : name ∈ Jwt.fieldNames) := get?_tableRecord_of_lookup held known
  obtain ⟨environment, jwt, session, cache, logging⟩ := c
  simp only [Jwt.read?, Option.bind_eq_bind, Option.bind_eq_some_iff] at read
  obtain ⟨_, record, _, algorithm, _, private_key, _, public_key, _, access, _, refresh, _,
    issuer, _, leeway, whole⟩ := read
  obtain rfl := Option.some.inj record
  obtain rfl := Option.some.inj whole
  cases leaf with
  | algorithm =>
      cases inside
      exact read_of_withDefault? (given (by decide)) algorithm
  | privateKeyPath =>
      cases inside
      exact read_of_required? (given (by decide)) private_key
  | publicKeyPath =>
      cases inside
      exact read_of_required? (given (by decide)) public_key
  | accessTokenExpiry =>
      cases inside
      exact read_of_withDefault? (given (by decide)) access
  | refreshTokenExpiry =>
      cases inside
      exact read_of_withDefault? (given (by decide)) refresh
  | issuer =>
      cases inside
      exact read_of_withDefault? (given (by decide)) issuer
  | leeway =>
      cases inside
      exact read_of_withDefault? (given (by decide)) leeway
  | _ => simp [Leaf.place] at inside

theorem Session.leaf_of_read? (read : Session.read? Node.source (.table fields) = some c.session)
    (inside : leaf.place = (some "session", name)) :
    leaf.read? Node.source n = some (leaf.get c) := by
  have given (known : name ∈ ["key_prefix"]) := get?_tableRecord_of_lookup held known
  obtain ⟨environment, jwt, session, cache, logging⟩ := c
  simp only [Session.read?, Option.bind_eq_bind, Option.bind_eq_some_iff] at read
  obtain ⟨_, record, _, session_key, whole⟩ := read
  obtain rfl := Option.some.inj record
  obtain rfl := Option.some.inj whole
  cases leaf with
  | sessionPrefix =>
      cases inside
      exact read_of_withDefault? (given (by decide)) session_key
  | _ => simp [Leaf.place] at inside

theorem Cache.leaf_of_read? (read : Cache.read? Node.source (.table fields) = some c.cache)
    (inside : leaf.place = (some "cache", name)) :
    leaf.read? Node.source n = some (leaf.get c) := by
  have given (known : name ∈ Cache.fieldNames) := get?_tableRecord_of_lookup held known
  obtain ⟨environment, jwt, session, cache, logging⟩ := c
  simp only [Cache.read?, Option.bind_eq_bind, Option.bind_eq_some_iff] at read
  obtain ⟨_, record, _, url, _, connection, _, response, _, attempts, _, cache_key, _,
    database, whole⟩ := read
  obtain rfl := Option.some.inj record
  obtain rfl := Option.some.inj whole
  cases leaf with
  | url =>
      cases inside
      exact read_of_required? (given (by decide)) url
  | connectionTimeout =>
      cases inside
      exact read_of_withDefault? (given (by decide)) connection
  | responseTimeout =>
      cases inside
      exact read_of_withDefault? (given (by decide)) response
  | connectAttempts =>
      cases inside
      exact read_of_withDefault? (given (by decide)) attempts
  | cachePrefix =>
      cases inside
      exact read_of_withDefault? (given (by decide)) cache_key
  | database =>
      cases inside
      exact read_of_withDefault? (given (by decide)) database
  | _ => simp [Leaf.place] at inside

theorem Logging.leaf_of_read? (read : Logging.read? Node.source (.table fields) = some c.logging)
    (inside : leaf.place = (some "logging", name)) :
    leaf.read? Node.source n = some (leaf.get c) := by
  have given (known : name ∈ Logging.fieldNames) := get?_tableRecord_of_lookup held known
  obtain ⟨environment, jwt, session, cache, logging⟩ := c
  simp only [Logging.read?, Option.bind_eq_bind, Option.bind_eq_some_iff] at read
  obtain ⟨_, record, _, level, _, format, _, source_location, whole⟩ := read
  obtain rfl := Option.some.inj record
  obtain rfl := Option.some.inj whole
  cases leaf with
  | level =>
      cases inside
      exact read_of_required? (given (by decide)) level
  | format =>
      cases inside
      exact read_of_withDefault? (given (by decide)) format
  | sourceLocation =>
      cases inside
      exact read_of_withDefault? (given (by decide)) source_location
  | _ => simp [Leaf.place] at inside

end Inversion

/-- Settings that were read from merged layers have each leaf that the layers hold. -/
theorem App.leaf_of_read? {root : Node} {c : App} (read : App.read? Node.source root = some c)
    (leaf : Leaf) {n : Node} (held : leaf.of? root = some n) :
    leaf.read? Node.source n = some (leaf.get c) := by
  rcases place : leaf.place with ⟨_ | part, name⟩
  · have held : root.members.lookup name = some n := by simpa only [Leaf.of?, place] using held
    rw [Node.eq_table_of_lookup held] at read
    simp only [App.read?, Option.bind_eq_bind, Option.bind_eq_some_iff] at read
    obtain ⟨_, record, _, environment_read, _, -, _, -, _, -, _, -, whole⟩ := read
    obtain rfl := Option.some.inj record
    obtain rfl := Option.some.inj whole
    cases leaf with
    | environment =>
        cases place
        exact read_of_required? (get?_tableRecord_of_lookup held (by decide)) environment_read
    | _ => simp [Leaf.place] at place
  · simp only [Leaf.of?, place] at held
    obtain ⟨m, table, inside⟩ := Option.bind_eq_some_iff.mp held
    obtain ⟨fields, rfl⟩ : ∃ fields, m = .table fields := ⟨_, Node.eq_table_of_lookup inside⟩
    rw [Node.eq_table_of_lookup table] at read
    simp only [App.read?, Option.bind_eq_bind, Option.bind_eq_some_iff] at read
    obtain ⟨_, record, _, -, _, jwt_read, _, session_read, _, cache_read, _, logging_read,
      whole⟩ := read
    obtain rfl := Option.some.inj record
    obtain rfl := Option.some.inj whole
    have given (known : part ∈ App.fieldNames) := get?_tableRecord_of_lookup table known
    have known := leaf.mem_sections place
    simp only [sections, List.mem_cons, List.not_mem_nil, or_false] at known
    rcases known with rfl | rfl | rfl | rfl
    · exact Jwt.leaf_of_read? inside (read_of_required? (given (by decide)) jwt_read) place
    · exact Session.leaf_of_read? inside
        (read_of_withDefault? (given (by decide)) session_read) place
    · exact Cache.leaf_of_read? inside (read_of_required? (given (by decide)) cache_read) place
    · exact Logging.leaf_of_read? inside
        (read_of_withDefault? (given (by decide)) logging_read) place

end TokenLifecycle.Config
