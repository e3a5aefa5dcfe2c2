import TokenLifecycle.Config.Environment

/-!
# Settings of the log
-/

namespace TokenLifecycle.Config

open Json (Doc)

/-- A format of the log. -/
inductive LogFormat
  | json | pretty | compact
  deriving DecidableEq, Repr

namespace LogFormat

/-- The name of a format. -/
def name : LogFormat → String
  | json => "json"
  | pretty => "pretty"
  | compact => "compact"

/-- The format with exactly the given name. -/
def ofName? (s : String) : Option LogFormat :=
  [json, pretty, compact].find? fun f => f.name = s

/-- Reads a format: its name in any case. -/
def ofText (s : String) : Except String LogFormat :=
  match ofName? (Text.lowercase s) with
  | some f => .ok f
  | none => .error ("Invalid log format: " ++ s)

/-- The format as a document. -/
def doc (f : LogFormat) : Doc := Doc.text f.name

/-- Reads a format from a source, by its exact name. -/
def read? {δ : Type} (src : Source δ) (d : δ) : Option LogFormat :=
  (src.variantName? d).bind ofName?

end LogFormat

/-- Settings of the log. -/
structure Logging where
  /-- What is logged, as a filter. -/
  level : String
  format : LogFormat
  sourceLocation : Bool
  deriving DecidableEq, Repr

namespace Logging

/-- The settings where nothing is given. -/
def default : Logging := ⟨"info", .pretty, false⟩

/-- The settings for an environment. -/
def forEnvironment : Environment → Logging
  | .development => ⟨"debug", .pretty, true⟩
  | .staging => ⟨"info", .json, false⟩
  | .production => ⟨"warn", .json, false⟩

/-- The settings that are looked up, on top of those for the environment. -/
def ofLookup (e : Environment) (lookup : Lookup) : Logging :=
  let base := forEnvironment e
  { base with
    level := (lookup.nonempty? "RUST_LOG").getD base.level
    format := ((lookup "LOG_FORMAT").bind fun s => (LogFormat.ofText s).toOption).getD base.format }

/-- The settings as a document. -/
def doc (c : Logging) : Doc :=
  Doc.ofMembers
    [("level", Doc.text c.level), ("format", c.format.doc),
      ("source_location", .bool c.sourceLocation)]

/-- The names of the members, in order. -/
def fieldNames : List String := ["level", "format", "source_location"]

/-- Reads settings from a source. -/
def read? {δ : Type} (src : Source δ) (d : δ) : Option Logging := do
  let r ← src.record? fieldNames d
  let level ← r.required? "level" src.text?
  let format ← r.withDefault? "format" (LogFormat.read? src) default.format
  let sourceLocation ← r.withDefault? "source_location" src.bool? false
  return ⟨level, format, sourceLocation⟩

end Logging

end TokenLifecycle.Config
