/-!
# Log lines

Events that are logged: a level, a message and named fields. Events of the DEBUG level, which follow
the steps of an operation, are left out.
-/

namespace TokenLifecycle

/-- The level of an event. -/
inductive LogLevel
  | info | warn | error
  deriving DecidableEq, Repr

/-- The name of a level. -/
def LogLevel.name : LogLevel → String
  | info => "INFO"
  | warn => "WARN"
  | error => "ERROR"

/-- An event. -/
structure LogLine where
  level : LogLevel
  message : String
  fields : List (String × String)
  deriving DecidableEq, Repr

/-- The event on one line. -/
def LogLine.render (l : LogLine) : String :=
  l.level.name ++ " " ++ l.message ++
    String.join (l.fields.map fun (name, value) => " " ++ name ++ "=" ++ value)

end TokenLifecycle
