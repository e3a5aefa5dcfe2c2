import TokenLifecycle.Config.Lookup
import TokenLifecycle.Config.Source

/-!
# Settings of the cache

The address of the Redis server that keeps sessions, and how patiently it is spoken to.
-/

namespace TokenLifecycle.Config

open Json (Doc)

/-- Settings of the cache. Times are in seconds. -/
structure Cache where
  url : String
  connectionTimeout : UInt64
  responseTimeout : UInt64
  connectAttempts : UInt32
  /-- What the keys in the cache begin with. -/
  keyPrefix : Option String
  database : UInt8
  deriving DecidableEq, Repr

namespace Cache

/-- The settings where nothing is given. -/
def default : Cache where
  url := "redis://localhost:6379"
  connectionTimeout := 5
  responseTimeout := 5
  connectAttempts := 3
  keyPrefix := none
  database := 0

/-- The number of a database: fifteen is the last one. -/
def clamp (database : UInt8) : UInt8 :=
  if database ≤ 15 then database else 15

/-- The settings that are looked up. -/
def ofLookup (lookup : Lookup) : Cache where
  url := (lookup "REDIS_URL").getD default.url
  connectionTimeout :=
    lookup.parseOr "REDIS_CONNECTION_TIMEOUT" Numeral.uint64? default.connectionTimeout
  responseTimeout :=
    lookup.parseOr "REDIS_RESPONSE_TIMEOUT" Numeral.uint64? default.responseTimeout
  connectAttempts :=
    lookup.parseOr "REDIS_CONNECT_ATTEMPTS" Numeral.uint32? default.connectAttempts
  keyPrefix := lookup.nonempty? "REDIS_KEY_PREFIX"
  database := clamp (lookup.parseOr "REDIS_DATABASE" Numeral.uint8? default.database)

/-- The settings for an address. -/
def ofUrl (url : String) : Cache :=
  { default with url := url }

/-- The settings with a prefix for keys. -/
def withPrefix (c : Cache) (keyPrefix : String) : Cache :=
  { c with keyPrefix := some keyPrefix }

/-- The settings with a database. -/
def withDatabase (c : Cache) (database : UInt8) : Cache :=
  { c with database := clamp database }

/-- The key in the cache that belongs to a key. -/
def makeKey (c : Cache) (key : String) : String :=
  match c.keyPrefix with
  | some p => p ++ ":" ++ key
  | none => key

/-- The settings as a document. -/
def doc (c : Cache) : Doc :=
  Doc.ofMembers
    [("url", Doc.text c.url), ("connection_timeout", Doc.nat c.connectionTimeout.toNat),
      ("response_timeout", Doc.nat c.responseTimeout.toNat),
      ("connect_attempts", Doc.nat c.connectAttempts.toNat),
      ("key_prefix", Doc.option Doc.text c.keyPrefix), ("database", Doc.nat c.database.toNat)]

/-- The names of the members, in order. -/
def fieldNames : List String :=
  ["url", "connection_timeout", "response_timeout", "connect_attempts", "key_prefix", "database"]

/-- Reads settings from a source. -/
def read? {δ : Type} (src : Source δ) (d : δ) : Option Cache := do
  let r ← src.record? fieldNames d
  let url ← r.required? "url" src.text?
  let connection ← r.withDefault? "connection_timeout" src.uint64? default.connectionTimeout
  let response ← r.withDefault? "response_timeout" src.uint64? default.responseTimeout
  let attempts ← r.withDefault? "connect_attempts" src.uint32? default.connectAttempts
  let keyPrefix ← r.withDefault? "key_prefix" (src.option? src.text?) none
  let database ← r.withDefault? "database" src.uint8? 0
  return ⟨url, connection, response, attempts, keyPrefix, database⟩

end Cache

end TokenLifecycle.Config
