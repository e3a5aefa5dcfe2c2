import TokenLifecycle.Config.Logging
import TokenLifecycle.Log.Filter.Directive

/-!
# Filters of the log

A list of directives, with the most specific one first. Of directives for one subject the last one
counts.
-/

namespace TokenLifecycle.Log

/-- A filter: directives that need no spans, and those that do. -/
structure Filter where
  statics : List Directive
  dynamics : List Directive
  deriving DecidableEq, Repr

namespace Filter

/-- Puts a directive at its place, where it replaces one for the same subject. -/
def insert (d : Directive) : List Directive → List Directive
  | [] => [d]
  | e :: rest =>
    match d.compare e with
    | .gt => d :: e :: rest
    | .eq => d :: rest
    | .lt => e :: insert d rest

/-- The directives in order. -/
def arrange (ds : List Directive) : List Directive :=
  ds.foldl (fun done d => insert d done) []

/-- The filter of directives. A directive for spans with a field counts without its span too. -/
def ofDirectives (ds : List Directive) : Filter :=
  let (dynamics, plain) := ds.partition (·.isDynamic)
  ⟨arrange (plain ++ dynamics.filter (·.isStatic)), arrange dynamics⟩

/-- Reads directives with commas between them. -/
def ofText (s : String) : Except Directive.Fault Filter :=
  (((s.splitOn ",").filter (· ≠ "")).mapM Directive.ofText).map ofDirectives

/-- The filter that takes the place of one that cannot be read. -/
def fallback : Filter :=
  ofDirectives [⟨none, none, none, .info⟩]

/-- The filter of a configuration, unless a position in it is misaligned. -/
def ofConfig? (c : Config.Logging) : Option Filter :=
  match ofText c.level with
  | .ok f => some f
  | .error .malformed => some fallback
  | .error .misaligned => none

/-- A filter as it is written. -/
def render (f : Filter) : String :=
  String.intercalate "," ((f.statics ++ f.dynamics).map Directive.render)

end Filter

end TokenLifecycle.Log
