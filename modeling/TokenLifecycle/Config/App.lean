import TokenLifecycle.Config.Cache
import TokenLifecycle.Config.Jwt
import TokenLifecycle.Config.Logging
import TokenLifecycle.Config.Session

/-!
# All settings
-/

namespace TokenLifecycle.Config

open Json (Doc)

/-- All settings. -/
structure App where
  environment : Environment
  jwt : Jwt
  session : Session
  cache : Cache
  logging : Logging
  deriving DecidableEq, Repr

namespace App

/-- The settings where nothing is given. -/
def default : App where
  environment := .development
  jwt := .default
  session := .default
  cache := .default
  logging := .forEnvironment .development

/-- The settings that are looked up. -/
def ofLookup (lookup : Lookup) : App :=
  let environment := Environment.ofLookup lookup
  { environment := environment
    jwt := .ofLookup lookup
    session := .ofLookup lookup
    cache := .ofLookup lookup
    logging := .ofLookup environment lookup }

/-- The settings as a document. -/
def doc (c : App) : Doc :=
  Doc.ofMembers
    [("environment", c.environment.doc), ("jwt", c.jwt.doc), ("session", c.session.doc),
      ("cache", c.cache.doc), ("logging", c.logging.doc)]

/-- The names of the members, in order. -/
def fieldNames : List String := ["environment", "jwt", "session", "cache", "logging"]

/-- Reads settings from a source. -/
def read? {δ : Type} (src : Source δ) (d : δ) : Option App := do
  let r ← src.record? fieldNames d
  let environment ← r.required? "environment" (Environment.read? src)
  let jwt ← r.required? "jwt" (Jwt.read? src)
  let session ← r.withDefault? "session" (Session.read? src) .default
  let cache ← r.required? "cache" (Cache.read? src)
  let logging ← r.withDefault? "logging" (Logging.read? src) .default
  return ⟨environment, jwt, session, cache, logging⟩

end App

end TokenLifecycle.Config
