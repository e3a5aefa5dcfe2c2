import TokenLifecycle.Config.App
import TokenLifecycle.Config.EnvFile
import TokenLifecycle.Config.FileLayer
import TokenLifecycle.Config.Path

/-!
# Layers of a configuration

The settings of a program come in three layers: what is looked up in the environment, the file for
the environment, and single settings that the environment overrides. Each layer is put over the one
before, leaf by leaf.
-/

namespace TokenLifecycle.Config

/-! ### The base layer -/

namespace Node

/-- A number in a layer, if 64 signed bits hold it. -/
def ofNat? (n : Nat) : Option Node :=
  (Numeral.toInt64? n).map .integer

/-- A text that may be missing. -/
def ofOption : Option String → Node
  | some s => .text s
  | none => .absent

end Node

/-- The settings as a layer. Numbers beyond 63 bits have no place in one. -/
def App.layer? (c : App) : Option (List (String × Node)) := do
  let leeway ← Node.ofNat? c.jwt.leeway.toNat
  let connection ← Node.ofNat? c.cache.connectionTimeout.toNat
  let response ← Node.ofNat? c.cache.responseTimeout.toNat
  let attempts ← Node.ofNat? c.cache.connectAttempts.toNat
  let database ← Node.ofNat? c.cache.database.toNat
  return [
    ("environment", .text c.environment.name),
    ("jwt", .table [
      ("algorithm", .text c.jwt.algorithm),
      ("private_key_path", .text c.jwt.privateKeyPath),
      ("public_key_path", .text c.jwt.publicKeyPath),
      ("access_token_expiry", .integer c.jwt.accessTokenExpiry),
      ("refresh_token_expiry", .integer c.jwt.refreshTokenExpiry),
      ("issuer", .ofOption c.jwt.issuer),
      ("leeway", leeway)]),
    ("session", .table [("key_prefix", .text c.session.keyPrefix)]),
    ("cache", .table [
      ("url", .text c.cache.url),
      ("connection_timeout", connection),
      ("response_timeout", response),
      ("connect_attempts", attempts),
      ("key_prefix", .ofOption c.cache.keyPrefix),
      ("database", database)]),
    ("logging", .table [
      ("level", .text c.logging.level),
      ("format", .text c.logging.format.name),
      ("source_location", .bool c.logging.sourceLocation)])]

/-! ### Overrides -/

/-- What the names of overriding variables begin with, in any case. -/
def overridePrefix : String := "tessera__"

/-- The text with every two underscores replaced by a period. -/
def dotted : List Char → List Char
  | '_' :: '_' :: rest => '.' :: dotted rest
  | c :: rest => c :: dotted rest
  | [] => []

/-- The key that an overriding variable sets. -/
def overrideKey? (name : String) : Option String :=
  let cs := (Text.lowercase name).toList
  if overridePrefix.toList.isPrefixOf cs then
    some (String.ofList (dotted (cs.drop overridePrefix.length)))
  else none

/-- The value of an overriding variable: a truth value, a number, or else the text itself. -/
def overrideValue (s : String) : Node :=
  let word := Text.lowercase s
  if word = "true" then .bool true
  else if word = "false" then .bool false
  else
    match Numeral.int64? s, Numeral.Binary64.ofText? s with
    | some n, _ => .integer n
    | none, some x => .real x
    | none, none => .text s

/-- The entries with one more; it takes the place of an earlier one. -/
def withEntry (entries : List (String × Node)) (key : String) (n : Node) : List (String × Node) :=
  entries.filter (fun (k, _) => k ≠ key) ++ [(key, n)]

/-- The layer of the overriding variables. Of several for one key the last one counts. -/
def overrideLayer (vars : Variables) : List (String × Node) :=
  vars.foldl
    (fun entries (name, value) =>
      match overrideKey? name with
      | some key => withEntry entries key (overrideValue value)
      | none => entries)
    []

/-! ### Loading -/

/-- The variables with those that the environment file fills in. -/
def variablesWithFile? (vars : Variables) (files : Files) : Option Variables :=
  match files.read ".env" with
  | .ok text => EnvFile.load? text vars
  | .error _ => some vars

/-- The settings from all layers. -/
def load (vars : Variables) (files : Files) : Except LoadFault App := do
  let vars ← LoadFault.misplaced.orElse (variablesWithFile? vars files)
  let base := App.ofLookup vars.get?
  let lower ← LoadFault.unreadable.orElse base.layer?
  let middle ← fileLayer files base.environment.configFile
  let root ← LoadFault.misplaced.orElse do
    let root ← (Node.table []).withLayer? lower
    let root ← root.withLayer? middle
    root.withLayer? (overrideLayer vars)
  LoadFault.unreadable.orElse (App.read? Node.source root)

end TokenLifecycle.Config
