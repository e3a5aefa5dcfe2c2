import TokenLifecycle.Proofs.Config.Loading

/-!
# Settings in normal form

Settings that are looked up have a database up to fifteen, and neither an issuer nor a prefix that
is there but empty. A file and overriding variables go past the clamp and the filters, and their
numbers are cut to a byte; a variable with a larger number counts as not given. So loaded settings
are in normal form exactly if what the layers give is (`normal_iff_of_load`).
-/

namespace TokenLifecycle.Config

/-! ### Settings that are looked up -/

theorem Cache.toNat_clamp (n : UInt8) : (clamp n).toNat = min n.toNat 15 := by
  rw [clamp]
  split
  · rename_i small
    have bound : n.toNat ≤ 15 := UInt8.le_iff_toNat_le.mp small
    omega
  · rename_i large
    have bound : ¬n.toNat ≤ 15 := fun small => large (UInt8.le_iff_toNat_le.mpr small)
    have last : (15 : UInt8).toNat = 15 := rfl
    omega

theorem Lookup.nonempty?_ne (lookup : Lookup) (name : String) :
    lookup.nonempty? name ≠ some "" := by
  intro empty
  have kept := Option.filter_eq_some_iff.mp empty
  simp at kept

theorem Session.keyPrefix_ofLookup_ne (lookup : Lookup) :
    (Session.ofLookup lookup).keyPrefix ≠ "" := by
  rw [Session.ofLookup]
  cases found : lookup.nonempty? "SESSION_KEY_PREFIX" with
  | none => decide
  | some s =>
      rintro rfl
      exact lookup.nonempty?_ne _ found

/-- The number that a setting spells. -/
def Lookup.numeral? (lookup : Lookup) (name : String) : Option Nat :=
  (lookup name).bind fun s => Numeral.unsigned? (Text.trim s)

/-- A number beyond a byte counts as not given. -/
theorem Cache.toNat_database_ofLookup {lookup : Lookup} {m : Nat}
    (given : lookup.numeral? "REDIS_DATABASE" = some m) :
    (Cache.ofLookup lookup).database.toNat = if m < 256 then min m 15 else 0 := by
  obtain ⟨s, found, numeral⟩ := Option.bind_eq_some_iff.mp given
  have parsed : lookup.parseOr "REDIS_DATABASE" Numeral.uint8? default.database =
      (Numeral.toUInt8? m).getD 0 := by
    rw [Lookup.parseOr, found, Option.bind_some, Numeral.uint8?, numeral, Option.bind_some]
    rfl
  change (clamp (lookup.parseOr "REDIS_DATABASE" Numeral.uint8? default.database)).toNat = _
  rw [parsed, toNat_clamp, Numeral.toUInt8?]
  by_cases small : m < 256
  · rw [if_pos (by omega), if_pos small, Option.getD_some, Int.toNat_natCast,
      UInt8.toNat_ofNat_of_lt' small]
  · rw [if_neg (by omega), if_neg small]
    rfl

theorem Cache.database_ofLookup_le (lookup : Lookup) : (Cache.ofLookup lookup).database ≤ 15 := by
  rw [UInt8.le_iff_toNat_le]
  change (clamp _).toNat ≤ 15
  rw [toNat_clamp]
  omega

/-! ### Normal form -/

/-- The number that the layers above give for the database, as it is read. -/
def upperDatabase? (given : Node) : Option Nat :=
  (Leaf.database.of? given).bind Node.nat?

/-- The number that the topmost layer gives for the database: a layer above, or else a variable. -/
def databaseNumber? (vars : Variables) (given : Node) : Option Nat :=
  (upperDatabase? given).or (Lookup.numeral? vars.get? "REDIS_DATABASE")

/-- The settings are in normal form, where the topmost layer that gives a database gives
`number`. -/
structure App.Normal (c : App) (number : Option Nat) : Prop where
  database_le : c.cache.database ≤ 15
  database_eq : ∀ m, number = some m → c.cache.database.toNat = min m 15
  issuer : c.jwt.issuer ≠ some ""
  cachePrefix : c.cache.keyPrefix ≠ some ""
  sessionPrefix : c.session.keyPrefix ≠ ""

/-- The layers give no empty text where there must not be one, and no number that is cut or that a
clamp would change. -/
structure NormalLayers (vars : Variables) (given : Node) : Prop where
  upper : ∀ m, upperDatabase? given = some m → m ≤ 15 ∨ m % 256 = 15
  looked_up : upperDatabase? given = none →
    ∀ m, Lookup.numeral? vars.get? "REDIS_DATABASE" = some m → m < 256
  issuer : (Leaf.issuer.of? given).bind Node.text? ≠ some ""
  cachePrefix : (Leaf.cachePrefix.of? given).bind Node.text? ≠ some ""
  sessionPrefix : (Leaf.sessionPrefix.of? given).bind Node.text? ≠ some ""

/-- A text that may be missing is there but empty exactly if it is given as an empty one. -/
theorem option_eq_empty_iff {o base : Option String} {held : Option Node} (kept : base ≠ some "")
    (value : (∃ n, held = some n ∧ Node.source.option? Node.source.text? n = some o) ∨
      (held = none ∨ held = some (.table [])) ∧ o = base) :
    o = some "" ↔ held.bind Node.text? = some "" := by
  rcases value with ⟨n, rfl, read⟩ | ⟨missing, rfl⟩
  · rw [Option.bind_some, Node.text?_of_option? read]
  · rcases missing with rfl | rfl <;> simp [kept, Node.text?]

section Load

variable {vars vars' : Variables} {files : Files} {given : Node} {app : App}
  (filled : variablesWithFile? vars files = some vars') (stacked : Stacked vars' files given)
  (loaded : load vars files = .ok app)

include filled stacked loaded

/-- A number from the layers above is cut to a byte. -/
theorem toNat_database_of_load {m : Nat} (gives : upperDatabase? given = some m) :
    app.cache.database.toNat = m % 256 := by
  obtain ⟨n, top, number⟩ := Option.bind_eq_some_iff.mp gives
  rcases leaf_of_load filled stacked loaded .database with ⟨n', top', read⟩ | ⟨missing, -⟩
  · obtain rfl : n = n' := Option.some.inj (top.symm.trans top')
    have value : (n.nat?).map UInt8.ofNat = some app.cache.database := read
    rw [number] at value
    rw [← Option.some.inj value, UInt8.toNat_ofNat']
  · rcases missing with missing | missing
    · rw [missing] at top
      cases top
    · obtain rfl := Option.some.inj (missing.symm.trans top)
      cases number

/-- Without a number from the layers above the database is looked up. -/
theorem database_of_load (gives : upperDatabase? given = none) :
    app.cache.database = (Cache.ofLookup vars'.get?).database := by
  rcases leaf_of_load filled stacked loaded .database with ⟨n, top, read⟩ | ⟨-, same⟩
  · have number : n.nat? = none := by
      rw [upperDatabase?, top] at gives
      exact gives
    have value : (n.nat?).map UInt8.ofNat = some app.cache.database := read
    rw [number] at value
    cases value
  · exact same

/-- The session prefix is empty exactly if the layers above give an empty one. -/
theorem sessionPrefix_of_load :
    app.session.keyPrefix = "" ↔ (Leaf.sessionPrefix.of? given).bind Node.text? = some "" := by
  rcases leaf_of_load filled stacked loaded .sessionPrefix with ⟨n, top, read⟩ | ⟨missing, same⟩
  · have value : n.text? = some app.session.keyPrefix := read
    rw [top, Option.bind_some, value, Option.some.injEq]
  · have base : app.session.keyPrefix = (Session.ofLookup vars'.get?).keyPrefix := same
    have kept : app.session.keyPrefix ≠ "" := base ▸ Session.keyPrefix_ofLookup_ne _
    rcases missing with missing | missing <;> rw [missing] <;> simp [kept, Node.text?]

/-- Loaded settings are in normal form exactly if what the layers give is. -/
theorem normal_iff_of_load :
    (app.Normal (databaseNumber? vars' given) ↔ NormalLayers vars' given) ∧
      ∀ m, upperDatabase? given = some m → app.cache.database.toNat = m % 256 := by
  have upper (m : Nat) (gives : upperDatabase? given = some m) :=
    toNat_database_of_load filled stacked loaded gives
  have looked_up := database_of_load filled stacked loaded
  have issuer := option_eq_empty_iff (Lookup.nonempty?_ne vars'.get? "JWT_ISSUER")
    (leaf_of_load filled stacked loaded .issuer)
  have cache_key := option_eq_empty_iff (Lookup.nonempty?_ne vars'.get? "REDIS_KEY_PREFIX")
    (leaf_of_load filled stacked loaded .cachePrefix)
  have session_key := sessionPrefix_of_load filled stacked loaded
  refine ⟨⟨?_, ?_⟩, upper⟩
  · intro normal
    constructor
    · intro m gives
      have clamped := normal.database_eq m (by rw [databaseNumber?, gives]; rfl)
      rw [upper m gives] at clamped
      omega
    · intro none_given m numeral
      have clamped := normal.database_eq m (by rw [databaseNumber?, none_given, numeral]; rfl)
      rw [looked_up none_given, Cache.toNat_database_ofLookup numeral] at clamped
      by_contra large
      rw [if_neg large] at clamped
      omega
    · exact fun empty => normal.issuer (issuer.mpr empty)
    · exact fun empty => normal.cachePrefix (cache_key.mpr empty)
    · exact fun empty => normal.sessionPrefix (session_key.mpr empty)
  · intro layers
    constructor
    · cases gives : upperDatabase? given with
      | none =>
          rw [looked_up gives]
          exact Cache.database_ofLookup_le _
      | some m =>
          have cut := upper m gives
          have kept := layers.upper m gives
          rw [UInt8.le_iff_toNat_le]
          change app.cache.database.toNat ≤ 15
          omega
    · intro m number
      cases gives : upperDatabase? given with
      | none =>
          rw [databaseNumber?, gives, Option.none_or] at number
          rw [looked_up gives, Cache.toNat_database_ofLookup number,
            if_pos (layers.looked_up gives m number)]
      | some k =>
          rw [databaseNumber?, gives] at number
          obtain rfl := Option.some.inj number
          have cut := upper k gives
          have kept := layers.upper k gives
          omega
    · exact fun empty => layers.issuer (issuer.mp empty)
    · exact fun empty => layers.cachePrefix (cache_key.mp empty)
    · exact fun empty => layers.sessionPrefix (session_key.mp empty)

end Load

/-- An overriding variable gives a database up to fifteen, whatever the variable below gives. -/
theorem normal_iff_of_load_of_override :
    ∃ app, load [("REDIS_DATABASE", "300"), ("TESSERA__CACHE__DATABASE", "7")]
        (Files.ofList []) = .ok app ∧
      app.Normal (some 7) ∧ app.cache.database = 7 := by
  have filled : variablesWithFile? [("REDIS_DATABASE", "300"), ("TESSERA__CACHE__DATABASE", "7")]
      (Files.ofList []) =
        some [("REDIS_DATABASE", "300"), ("TESSERA__CACHE__DATABASE", "7")] := by
    decide +kernel
  have loaded : load [("REDIS_DATABASE", "300"), ("TESSERA__CACHE__DATABASE", "7")]
      (Files.ofList []) =
        .ok { App.default with cache := { Cache.default with database := 7 } } := by
    decide +kernel
  have stacked : Stacked [("REDIS_DATABASE", "300"), ("TESSERA__CACHE__DATABASE", "7")]
      (Files.ofList []) (.table [("cache", .table [("database", .integer 7)])]) := by
    have missing : fileLayer (Files.ofList []) "config.development.toml" = .ok [] :=
      fileLayer_of_missing fun _ _ => Files.read_ofList_nil _
    have overridden :
        overrideLayer [("REDIS_DATABASE", "300"), ("TESSERA__CACHE__DATABASE", "7")] =
          [(Leaf.database.key, .integer 7)] := rfl
    refine ⟨[], missing, ?_, ?_⟩
    · rw [overridden]
      intro entry member
      obtain rfl := List.mem_singleton.mp member
      exact Leaf.database.sectioned _
    · rw [overridden, List.nil_append, Node.withLayer?_singleton, Leaf.ofKey_key, Path.set?_eq]
      rfl
  have normal := (normal_iff_of_load filled stacked loaded).1.mpr
    { upper := by
        intro m gives
        obtain rfl : 7 = m := Option.some.inj gives
        decide
      looked_up := by
        intro gives
        cases gives
      issuer := by decide
      cachePrefix := by decide
      sessionPrefix := by decide }
  exact ⟨_, loaded, normal, rfl⟩

/-- Layers above are neither clamped nor filtered, and a number beyond a byte is not clamped either:
an overriding variable gives database 42, a variable for database 300 gives database 0, and an
overriding variable gives an empty issuer. -/
theorem not_normal_of_load :
    (∃ app, load [("TESSERA__CACHE__DATABASE", "42")] (Files.ofList []) = .ok app ∧
      ¬app.cache.database ≤ 15) ∧
    (∃ app, load [("REDIS_DATABASE", "300")] (Files.ofList []) = .ok app ∧
      app.cache.database.toNat ≠ min 300 15) ∧
    ∃ app, load [("TESSERA__JWT__ISSUER", "")] (Files.ofList []) = .ok app ∧
      app.jwt.issuer = some "" := by
  refine ⟨⟨{ App.default with cache := { Cache.default with database := 42 } }, ?_, ?_⟩,
    ⟨App.default, ?_, ?_⟩,
    ⟨{ App.default with jwt := { Jwt.default with issuer := some "" } }, ?_, rfl⟩⟩
  · decide +kernel
  · decide
  · decide +kernel
  · decide
  · decide +kernel

end TokenLifecycle.Config
