import TokenLifecycle.Config.Layers
import TokenLifecycle.Proofs.Config.Places
import TokenLifecycle.Proofs.Numeral.Decimal

/-!
# Single settings

The leaves of a configuration: the settings that hold no further ones. Each has a place in the
merged layers, a type of values, and a way to be read.
-/

namespace TokenLifecycle.Config

/-! ### Leaves -/

/-- A setting that holds no further ones. -/
inductive Leaf
  | environment
  | algorithm | privateKeyPath | publicKeyPath | accessTokenExpiry | refreshTokenExpiry | issuer
  | leeway
  | sessionPrefix
  | url | connectionTimeout | responseTimeout | connectAttempts | cachePrefix | database
  | level | format | sourceLocation
  deriving DecidableEq, Repr

namespace Leaf

/-- The section that holds a leaf, if one does, and the name of the leaf there. -/
def place : Leaf → Option String × String
  | environment => (none, "environment")
  | algorithm => (some "jwt", "algorithm")
  | privateKeyPath => (some "jwt", "private_key_path")
  | publicKeyPath => (some "jwt", "public_key_path")
  | accessTokenExpiry => (some "jwt", "access_token_expiry")
  | refreshTokenExpiry => (some "jwt", "refresh_token_expiry")
  | issuer => (some "jwt", "issuer")
  | leeway => (some "jwt", "leeway")
  | sessionPrefix => (some "session", "key_prefix")
  | url => (some "cache", "url")
  | connectionTimeout => (some "cache", "connection_timeout")
  | responseTimeout => (some "cache", "response_timeout")
  | connectAttempts => (some "cache", "connect_attempts")
  | cachePrefix => (some "cache", "key_prefix")
  | database => (some "cache", "database")
  | level => (some "logging", "level")
  | format => (some "logging", "format")
  | sourceLocation => (some "logging", "source_location")

/-- The key of a leaf, as in `jwt.issuer`. -/
def key (leaf : Leaf) : String :=
  match leaf.place with
  | (none, name) => name
  | (some part, name) => part ++ "." ++ name

/-- What settings can hold at a leaf. -/
def Value : Leaf → Type
  | environment => Environment
  | algorithm | privateKeyPath | publicKeyPath | sessionPrefix | url | level => String
  | accessTokenExpiry | refreshTokenExpiry => Int64
  | issuer | cachePrefix => Option String
  | leeway | connectionTimeout | responseTimeout => UInt64
  | connectAttempts => UInt32
  | database => UInt8
  | format => LogFormat
  | sourceLocation => Bool

/-- What settings hold at a leaf. -/
def get (c : App) : (leaf : Leaf) → leaf.Value
  | environment => c.environment
  | algorithm => c.jwt.algorithm
  | privateKeyPath => c.jwt.privateKeyPath
  | publicKeyPath => c.jwt.publicKeyPath
  | accessTokenExpiry => c.jwt.accessTokenExpiry
  | refreshTokenExpiry => c.jwt.refreshTokenExpiry
  | issuer => c.jwt.issuer
  | leeway => c.jwt.leeway
  | sessionPrefix => c.session.keyPrefix
  | url => c.cache.url
  | connectionTimeout => c.cache.connectionTimeout
  | responseTimeout => c.cache.responseTimeout
  | connectAttempts => c.cache.connectAttempts
  | cachePrefix => c.cache.keyPrefix
  | database => c.cache.database
  | level => c.logging.level
  | format => c.logging.format
  | sourceLocation => c.logging.sourceLocation

/-- Reads the value of a leaf. -/
def read? (src : Source Node) : (leaf : Leaf) → Node → Option leaf.Value
  | environment => Environment.read? src
  | algorithm | privateKeyPath | publicKeyPath | sessionPrefix | url | level => src.text?
  | accessTokenExpiry | refreshTokenExpiry => src.int64?
  | issuer | cachePrefix => src.option? src.text?
  | leeway | connectionTimeout | responseTimeout => src.uint64?
  | connectAttempts => src.uint32?
  | database => src.uint8?
  | format => LogFormat.read? src
  | sourceLocation => src.bool?

/-- What merged layers hold at a leaf. -/
def of? (leaf : Leaf) (root : Node) : Option Node :=
  match leaf.place with
  | (none, name) => root.members.lookup name
  | (some part, name) => (root.members.lookup part).bind fun n => n.members.lookup name

end Leaf

/-- The sections of settings. -/
def sections : List String := ["jwt", "session", "cache", "logging"]

theorem Leaf.mem_sections (leaf : Leaf) {part name : String}
    (inside : leaf.place = (some part, name)) : part ∈ sections := by
  have given : leaf.place.1 = some part := congrArg Prod.fst inside
  cases leaf <;> cases given <;> decide

theorem Leaf.notMem_sections (leaf : Leaf) {name : String} (top : leaf.place = (none, name)) :
    name ∉ sections := by
  cases leaf with
  | environment =>
      obtain rfl : "environment" = name := (Prod.mk.inj top).2
      decide
  | _ => cases top

namespace Node

/-- Merged settings as a source in which a number has to fit its setting. -/
def fitting : Source Node :=
  { source with
    int64? := fun n => n.int?.bind Numeral.toInt64?
    uint64? := fun n => n.nat?.bind fun n => Numeral.toUInt64? n
    uint32? := fun n => n.nat?.bind fun n => Numeral.toUInt32? n
    uint8? := fun n => n.nat?.bind fun n => Numeral.toUInt8? n }

end Node

/-- A number that was narrowed has not been cut. -/
theorem map_eq_some_of_bind {α β : Type} {read : Option α} {narrow : α → Option β} {cut : α → β}
    (whole : ∀ a b, narrow a = some b → cut a = b) {b : β} (fits : read.bind narrow = some b) :
    read.map cut = some b := by
  obtain ⟨a, given, narrowed⟩ := Option.bind_eq_some_iff.mp fits
  rw [given, Option.map_some, whole a b narrowed]

/-- A value that fits a leaf is read alike when numbers may be cut. -/
theorem Leaf.read?_source_of_fitting {leaf : Leaf} {n : Node} {v : leaf.Value}
    (fits : leaf.read? Node.fitting n = some v) : leaf.read? Node.source n = some v := by
  cases leaf with
  | environment | algorithm | privateKeyPath | publicKeyPath | issuer | sessionPrefix | url
  | cachePrefix | level | format | sourceLocation => exact fits
  | accessTokenExpiry | refreshTokenExpiry =>
      exact map_eq_some_of_bind (fun _ _ => Numeral.ofInt_eq_of_toInt64?) fits
  | leeway | connectionTimeout | responseTimeout =>
      exact map_eq_some_of_bind (fun _ _ => Numeral.ofNat_eq_of_toUInt64?) fits
  | connectAttempts => exact map_eq_some_of_bind (fun _ _ => Numeral.ofNat_eq_of_toUInt32?) fits
  | database => exact map_eq_some_of_bind (fun _ _ => Numeral.ofNat_eq_of_toUInt8?) fits

/-- A table without members is no value of a leaf. -/
theorem Leaf.read?_empty (leaf : Leaf) : leaf.read? Node.fitting (.table []) = none := by
  cases leaf <;> rfl

/-! ### Texts -/

/-- A text that may be missing is the text that was read. -/
theorem Node.text?_of_option? {n : Node} {o : Option String}
    (read : source.option? source.text? n = some o) : n.text? = o := by
  cases n with
  | absent | bool _ | integer _ | real _ | text _ => exact Option.some.inj read
  | array _ | table _ => cases read

end TokenLifecycle.Config
