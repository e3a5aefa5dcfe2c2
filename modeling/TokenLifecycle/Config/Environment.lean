import TokenLifecycle.Config.Lookup
import TokenLifecycle.Config.Source

/-!
# Environments

Where the program runs.
-/

namespace TokenLifecycle.Config

open Json (Doc)

/-- An environment. -/
inductive Environment
  | development | staging | production
  deriving DecidableEq, Repr

namespace Environment

/-- The name of an environment. -/
def name : Environment → String
  | development => "development"
  | staging => "staging"
  | production => "production"

/-- The environment with exactly the given name. -/
def ofName? (s : String) : Option Environment :=
  [development, staging, production].find? fun e => e.name = s

/-- Reads an environment: its name or a short form, in any case. -/
def ofText (s : String) : Except String Environment :=
  let word := Text.lowercase s
  if word = "development" ∨ word = "dev" then .ok development
  else if word = "staging" ∨ word = "stage" ∨ word = "test" then .ok staging
  else if word = "production" ∨ word = "prod" then .ok production
  else .error ("Invalid environment: " ++ s)

/-- It is the production environment. -/
def isProduction (e : Environment) : Bool := e = production

/-- It is the development environment. -/
def isDevelopment (e : Environment) : Bool := e = development

/-- The environment that is looked up: the first of three settings counts, and development where it
is not set or not an environment. -/
def ofLookup (lookup : Lookup) : Environment :=
  let text := ((lookup "ENVIRONMENT").or (lookup "ENV")).or (lookup "RUST_ENV")
  (text.bind fun s => (ofText s).toOption).getD development

/-- The name of the configuration file of an environment. -/
def configFile (e : Environment) : String :=
  "config." ++ e.name ++ ".toml"

/-- The environment as a document. -/
def doc (e : Environment) : Doc := Doc.text e.name

/-- Reads an environment from a source, by its exact name. -/
def read? {δ : Type} (src : Source δ) (d : δ) : Option Environment :=
  (src.variantName? d).bind ofName?

end Environment

end TokenLifecycle.Config
