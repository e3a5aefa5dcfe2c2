import TokenLifecycle.Config.Lookup
import TokenLifecycle.Config.Source

/-!
# Settings of sessions
-/

namespace TokenLifecycle.Config

open Json (Doc)

/-- Settings of sessions. -/
structure Session where
  /-- What session keys begin with. -/
  keyPrefix : String
  deriving DecidableEq, Repr

namespace Session

/-- The settings where nothing is given. -/
def default : Session := ⟨"refresh_token"⟩

/-- The settings that are looked up. -/
def ofLookup (lookup : Lookup) : Session :=
  ⟨(lookup.nonempty? "SESSION_KEY_PREFIX").getD default.keyPrefix⟩

/-- The settings as a document. -/
def doc (c : Session) : Doc :=
  Doc.ofMembers [("key_prefix", Doc.text c.keyPrefix)]

/-- Reads settings from a source. -/
def read? {δ : Type} (src : Source δ) (d : δ) : Option Session := do
  let r ← src.record? ["key_prefix"] d
  let keyPrefix ← r.withDefault? "key_prefix" src.text? default.keyPrefix
  return ⟨keyPrefix⟩

end Session

end TokenLifecycle.Config
