import TokenLifecycle.Proofs.Config.Loading
import TokenLifecycle.Proofs.Text.LetterCase

/-!
# Overriding texts

The text of an overriding variable is taken for a truth value or a number where it spells one, and a
setting that holds a text gets that value written out. So the text arrives as it is exactly if the
value is written the way it was spelt (`reread?_eq_iff_verbatim`), whatever else is given beside the
setting. The main statement is `text_of_override`.
-/

namespace TokenLifecycle.Config

/-! ### Texts that are written back -/

/-- What a setting of texts takes an overriding variable with the text `s` for. -/
def reread? (s : String) : Option String :=
  (overrideValue s).text?

/-- A text that is written as the value is that it spells: a truth value in small letters, an
integer of 64 bits without a plus sign and superfluous zeros, and any other number the way settings
show it. A text that spells none of these is verbatim. -/
structure Verbatim (s : String) : Prop where
  truthValue : ∀ word ∈ ["true", "false"], Text.lowercase s = word → s = word
  integer : ∀ n, Numeral.int64? s = some n → Numeral.Canonical s
  real : ∀ x, Numeral.int64? s = none → Numeral.Binary64.ofText? s = some x → x.positional = s

/-- A truth value is not a number. -/
theorem not_number_of_truthValue {s word : String} (known : word ∈ ["true", "false"])
    (lower : Text.lowercase s = word) :
    Numeral.int64? s = none ∧ Numeral.Binary64.ofText? s = none := by
  have spelt : s.toList.map Text.lowerChar = word.toList := by
    rw [← lower, Text.lowercase, String.toList_ofList]
  have words : ∀ word ∈ ["true", "false"], 'k' ∉ word.toList ∧
      ∀ cs ∈ Text.spellings word.toList, Numeral.int64? (String.ofList cs) = none ∧
        Numeral.Binary64.ofText? (String.ofList cs) = none := by
    decide +kernel
  obtain ⟨other, no_number⟩ := words word known
  have here := no_number _ (Text.mem_spellings other spelt)
  rwa [String.ofList_toList] at here

/-- A truth value is written in small letters. -/
theorem reread?_of_truthValue {s word : String} (known : word ∈ ["true", "false"])
    (lower : Text.lowercase s = word) : reread? s = some word := by
  simp only [List.mem_cons, List.not_mem_nil, or_false] at known
  rcases known with rfl | rfl <;> simp [reread?, overrideValue, lower, Node.text?]

theorem verbatim_iff_of_truthValue {s word : String} (known : word ∈ ["true", "false"])
    (lower : Text.lowercase s = word) : Verbatim s ↔ word = s := by
  obtain ⟨no_integer, no_real⟩ := not_number_of_truthValue known lower
  constructor
  · exact fun verbatim => (verbatim.truthValue word known lower).symm
  · rintro rfl
    exact
      { truthValue := fun _ _ same => lower.symm.trans same
        integer := fun _ read => by simp [no_integer] at read
        real := fun _ _ read => by simp [no_real] at read }

theorem isSome_reread? (s : String) : (reread? s).isSome := by
  rw [reread?, overrideValue]
  split
  · rfl
  · split
    · rfl
    · split <;> rfl

section Numbers

variable {s : String} (no_truth : ∀ word ∈ ["true", "false"], Text.lowercase s ≠ word)

include no_truth

theorem overrideValue_of_no_truth :
    overrideValue s =
      match Numeral.int64? s, Numeral.Binary64.ofText? s with
      | some n, _ => .integer n
      | none, some x => .real x
      | none, none => .text s :=
  (if_neg (no_truth "true" (by decide))).trans (if_neg (no_truth "false" (by decide)))

theorem verbatim_of_no_truth (integer : ∀ n, Numeral.int64? s = some n → Numeral.Canonical s)
    (real : ∀ x, Numeral.int64? s = none → Numeral.Binary64.ofText? s = some x →
      x.positional = s) : Verbatim s where
  truthValue word known lower := absurd lower (no_truth word known)
  integer := integer
  real := real

theorem reread?_eq_iff_verbatim_of_integer {n : Int64} (read : Numeral.int64? s = some n) :
    reread? s = some s ↔ Verbatim s := by
  have shown : reread? s = some (Numeral.ofInt n.toInt) := by
    rw [reread?, overrideValue_of_no_truth no_truth, read]
    rfl
  rw [shown, Option.some.injEq, Numeral.ofInt_toInt_eq_iff_canonical read]
  constructor
  · intro canonical
    exact verbatim_of_no_truth no_truth (fun _ _ => canonical)
      fun _ no_integer => by simp [read] at no_integer
  · exact fun verbatim => verbatim.integer n read

theorem reread?_eq_iff_verbatim_of_real {x : Numeral.Binary64}
    (no_integer : Numeral.int64? s = none) (read : Numeral.Binary64.ofText? s = some x) :
    reread? s = some s ↔ Verbatim s := by
  have shown : reread? s = some x.positional := by
    rw [reread?, overrideValue_of_no_truth no_truth, no_integer, read]
    rfl
  rw [shown, Option.some.injEq]
  constructor
  · intro same
    refine verbatim_of_no_truth no_truth (fun _ integer => by simp [no_integer] at integer)
      fun y _ again => ?_
    obtain rfl := Option.some.inj (read.symm.trans again)
    exact same
  · exact fun verbatim => verbatim.real x no_integer read

theorem reread?_eq_iff_verbatim_of_text (no_integer : Numeral.int64? s = none)
    (no_real : Numeral.Binary64.ofText? s = none) : reread? s = some s ↔ Verbatim s := by
  have shown : reread? s = some s := by
    rw [reread?, overrideValue_of_no_truth no_truth, no_integer, no_real]
    rfl
  refine iff_of_true shown (verbatim_of_no_truth no_truth ?_ ?_)
  · exact fun _ integer => by simp [no_integer] at integer
  · exact fun _ _ real => by simp [no_real] at real

end Numbers

/-- A text is written back as it is exactly if it is verbatim. -/
theorem reread?_eq_iff_verbatim (s : String) : reread? s = some s ↔ Verbatim s := by
  by_cases truth : ∃ word ∈ ["true", "false"], Text.lowercase s = word
  · obtain ⟨word, known, lower⟩ := truth
    rw [reread?_of_truthValue known lower, Option.some.injEq,
      verbatim_iff_of_truthValue known lower]
  · have no_truth : ∀ word ∈ ["true", "false"], Text.lowercase s ≠ word :=
      fun word known lower => truth ⟨word, known, lower⟩
    cases integer : Numeral.int64? s with
    | some n => exact reread?_eq_iff_verbatim_of_integer no_truth integer
    | none =>
        cases real : Numeral.Binary64.ofText? s with
        | some x => exact reread?_eq_iff_verbatim_of_real no_truth integer real
        | none => exact reread?_eq_iff_verbatim_of_text no_truth integer real

/-! ### Settings of texts -/

/-- A setting that holds a text. -/
inductive TextLeaf
  | algorithm | privateKeyPath | publicKeyPath | issuer | sessionPrefix | url | cachePrefix | level
  deriving DecidableEq, Repr

namespace TextLeaf

/-- The setting among all settings. -/
def leaf : TextLeaf → Leaf
  | algorithm => .algorithm
  | privateKeyPath => .privateKeyPath
  | publicKeyPath => .publicKeyPath
  | issuer => .issuer
  | sessionPrefix => .sessionPrefix
  | url => .url
  | cachePrefix => .cachePrefix
  | level => .level

/-- The text that settings hold, if they hold one. -/
def text? (c : App) : TextLeaf → Option String
  | algorithm => some c.jwt.algorithm
  | privateKeyPath => some c.jwt.privateKeyPath
  | publicKeyPath => some c.jwt.publicKeyPath
  | issuer => c.jwt.issuer
  | sessionPrefix => some c.session.keyPrefix
  | url => some c.cache.url
  | cachePrefix => c.cache.keyPrefix
  | level => some c.logging.level

/-- The variable that overrides the setting. -/
def overridingName : TextLeaf → String
  | algorithm => "TESSERA__JWT__ALGORITHM"
  | privateKeyPath => "TESSERA__JWT__PRIVATE_KEY_PATH"
  | publicKeyPath => "TESSERA__JWT__PUBLIC_KEY_PATH"
  | issuer => "TESSERA__JWT__ISSUER"
  | sessionPrefix => "TESSERA__SESSION__KEY_PREFIX"
  | url => "TESSERA__CACHE__URL"
  | cachePrefix => "TESSERA__CACHE__KEY_PREFIX"
  | level => "TESSERA__LOGGING__LEVEL"

/-- The variable that the setting is looked up in. -/
def plainName : TextLeaf → String
  | algorithm => "JWT_SIGN_ALGO"
  | privateKeyPath => "JWT_SECRET_KEY"
  | publicKeyPath => "JWT_PUBLIC_KEY"
  | issuer => "JWT_ISSUER"
  | sessionPrefix => "SESSION_KEY_PREFIX"
  | url => "REDIS_URL"
  | cachePrefix => "REDIS_KEY_PREFIX"
  | level => "RUST_LOG"

theorem overrideKey?_overridingName (field : TextLeaf) :
    overrideKey? field.overridingName = some field.leaf.key := by
  cases field <;> decide

/-- A text that is looked up is taken as it is, unless it is empty. -/
theorem text?_ofLookup (field : TextLeaf) {lookup : Lookup} {s : String}
    (given : lookup field.plainName = some s) (nonempty : s ≠ "") :
    field.text? (App.ofLookup lookup) = some s := by
  cases field <;> simp only [plainName] at given <;>
    simp [text?, App.ofLookup, Jwt.ofLookup, Session.ofLookup, Cache.ofLookup, Logging.ofLookup,
      Lookup.nonempty?, Option.filter, given, nonempty]

/-- The text of a setting is the text that was read for it. -/
theorem text?_of_read? {field : TextLeaf} {n : Node} {app : App}
    (read : field.leaf.read? Node.source n = some (field.leaf.get app)) :
    field.text? app = n.text? := by
  cases field with
  | issuer | cachePrefix => exact (Node.text?_of_option? read).symm
  | _ => exact read.symm

/-- Whatever overrides a text fits. -/
theorem isSome_read?_overrideValue (field : TextLeaf) (s : String) :
    (field.leaf.read? Node.fitting (overrideValue s)).isSome := by
  have text : (Node.text? (overrideValue s)).isSome := isSome_reread? s
  have option : (Node.fitting.option? Node.text? (overrideValue s)).isSome := by
    rw [Source.option?]
    split
    · rfl
    · rwa [Option.isSome_map]
  cases field with
  | issuer | cachePrefix => exact option
  | _ => exact text

end TextLeaf

/-! ### Loading -/

/-- What is given for all leaves but one fits them. -/
def FitsBeside (leaf : Leaf) (vars : Variables) (own : Node) : Prop :=
  ∀ other : Leaf, other ≠ leaf → ∀ n, other.given? vars own = some n →
    (other.read? Node.fitting n).isSome

section Load

variable {vars vars' : Variables} {files : Files}
  (filled : variablesWithFile? vars files = some vars')
  {field : TextLeaf} {s : String} (set : field.leaf.overriding? vars' = some s)

include filled set

/-- Overriding a text never keeps settings from being loaded. -/
theorem exists_load_of_override {own : Node} (layered : Layered vars' files own)
    (beside : FitsBeside field.leaf vars' own) :
    ∃ app, load vars files = .ok app ∧ field.text? app = reread? s := by
  have given : field.leaf.given? vars' own = some (overrideValue s) := by
    rw [Leaf.given?, Leaf.override?_eq_map, set, Option.map_some, Option.some_or]
  have fits : Fits vars' own := by
    intro leaf n top
    by_cases same : leaf = field.leaf
    · subst same
      obtain rfl := Option.some.inj (given.symm.trans top)
      exact field.isSome_read?_overrideValue s
    · exact beside leaf same n top
  obtain ⟨app, loaded, prevails⟩ := exists_load filled layered fits
  have read := prevails field.leaf
  rw [given] at read
  exact ⟨app, loaded, TextLeaf.text?_of_read? (Leaf.read?_source_of_fitting read)⟩

/-- An overridden text is the text of its variable, read and written back. -/
theorem text?_of_load {app : App} (loaded : load vars files = .ok app)
    (undisturbed : field.leaf.Undisturbed vars') : field.text? app = reread? s := by
  have given : field.leaf.override? vars' = some (overrideValue s) := by
    rw [Leaf.override?_eq_map, set, Option.map_some]
  exact TextLeaf.text?_of_read? (read?_of_override filled loaded undisturbed given)

end Load

/-- A setting that holds a text can be overridden by its variable. If everything else fits, loading
succeeds, and no other variable or file makes a difference to the text that is loaded unless it sets
the section as a whole or something within the setting. A plain variable gives its text as it is,
but an overriding variable gives the text `s` exactly if `s` is verbatim. -/
theorem text_of_override {vars vars' : Variables} {files : Files}
    (filled : variablesWithFile? vars files = some vars') {field : TextLeaf} {s : String}
    (set : field.leaf.overriding? vars' = some s) :
    overrideKey? field.overridingName = some field.leaf.key ∧
    (∀ lookup : Lookup, ∀ t ≠ "", lookup field.plainName = some t →
      field.text? (App.ofLookup lookup) = some t) ∧
    (∀ own, Layered vars' files own → FitsBeside field.leaf vars' own →
      ∃ app, load vars files = .ok app ∧ field.text? app = reread? s) ∧
    (∀ app, load vars files = .ok app → field.leaf.Undisturbed vars' →
      field.text? app = reread? s) ∧
    (reread? s = some s ↔ Verbatim s) := by
  refine ⟨field.overrideKey?_overridingName, ?_, ?_, ?_, reread?_eq_iff_verbatim s⟩
  · intro lookup t nonempty given
    exact field.text?_ofLookup given nonempty
  · intro own layered beside
    exact exists_load_of_override filled set layered beside
  · intro app loaded undisturbed
    exact text?_of_load filled set loaded undisturbed

/-- Of two variables for the issuer the last one counts, and a negative number without superfluous
zeros is verbatim. -/
theorem text_of_override_of_negative :
    ∃ app, load [("TESSERA__CACHE__DATABASE", "7"), ("tessera__jwt__issuer", "07"),
        ("TESSERA__JWT__ISSUER", "-12")] (Files.ofList []) = .ok app ∧
      app.jwt.issuer = some "-12" := by
  have filled : variablesWithFile? [("TESSERA__CACHE__DATABASE", "7"),
      ("tessera__jwt__issuer", "07"), ("TESSERA__JWT__ISSUER", "-12")] (Files.ofList []) =
        some [("TESSERA__CACHE__DATABASE", "7"), ("tessera__jwt__issuer", "07"),
          ("TESSERA__JWT__ISSUER", "-12")] := by
    decide +kernel
  have set : TextLeaf.issuer.leaf.overriding? [("TESSERA__CACHE__DATABASE", "7"),
      ("tessera__jwt__issuer", "07"), ("TESSERA__JWT__ISSUER", "-12")] = some "-12" := by
    decide +kernel
  obtain ⟨-, -, loads, -, same⟩ := text_of_override filled set
  obtain ⟨app, loaded, issuer⟩ := loads (.table [])
    { storable := ⟨by decide +kernel, by decide +kernel, by decide +kernel⟩
      file := ⟨[], fileLayer_of_missing fun _ _ => Files.read_ofList_nil _, by simp, rfl⟩
      overrides := by
        intro v member key set
        simp only [List.mem_cons, List.not_mem_nil, or_false] at member
        rcases member with rfl | rfl | rfl <;> cases set
        · exact ⟨.database, rfl⟩
        · exact ⟨.issuer, rfl⟩
        · exact ⟨.issuer, rfl⟩ }
    (by
      intro leaf other n given
      cases leaf with
      | database =>
          cases given
          rfl
      | issuer => exact absurd rfl other
      | _ => cases given)
  have verbatim : Verbatim "-12" :=
    { truthValue := by decide
      integer := fun _ _ => by simp [Numeral.Canonical]
      real := fun _ no_integer => absurd no_integer (by decide) }
  exact ⟨app, loaded, issuer.trans (same.mpr verbatim)⟩

/-- Overriding variables change texts that look like numbers or truth values: zeros in front, a plus
sign, capital letters and a fraction of zero get lost, where a plain variable keeps them. -/
theorem not_verbatim_of_override :
    (∃ app, load [("TESSERA__JWT__ISSUER", "007")] (Files.ofList []) = .ok app ∧
      app.jwt.issuer = some "7") ∧
    (∃ app, load [("TESSERA__SESSION__KEY_PREFIX", "+5")] (Files.ofList []) = .ok app ∧
      app.session.keyPrefix = "5") ∧
    (∃ app, load [("TESSERA__JWT__ALGORITHM", "TRUE")] (Files.ofList []) = .ok app ∧
      app.jwt.algorithm = "true") ∧
    (∃ app, load [("TESSERA__CACHE__KEY_PREFIX", "1.0")] (Files.ofList []) = .ok app ∧
      app.cache.keyPrefix = some "1") ∧
    ∃ app, load [("JWT_ISSUER", "007")] (Files.ofList []) = .ok app ∧
      app.jwt.issuer = some "007" := by
  refine ⟨⟨{ App.default with jwt := { Jwt.default with issuer := some "7" } }, ?_, rfl⟩,
    ⟨{ App.default with session := ⟨"5"⟩ }, ?_, rfl⟩,
    ⟨{ App.default with jwt := { Jwt.default with algorithm := "true" } }, ?_, rfl⟩,
    ⟨{ App.default with cache := { Cache.default with keyPrefix := some "1" } }, ?_, rfl⟩,
    ⟨{ App.default with jwt := { Jwt.default with issuer := some "007" } }, ?_, rfl⟩⟩
  · decide +kernel
  · decide +kernel
  · decide +kernel
  · decide +kernel
  · decide +kernel

end TokenLifecycle.Config
