/-!
# Failing to load

The ways in which the settings of a program cannot be loaded.
-/

namespace TokenLifecycle.Config

/-- Why settings cannot be loaded. -/
inductive LoadFault
  /-- A layer, or a setting in it, cannot be read. -/
  | unreadable
  /-- A value has no place: a variable would hold a zero character, an item would stand before the
  first one or beyond all memory, or a member has neither a text nor an integer as its name. -/
  | misplaced
  deriving DecidableEq, Repr

/-- What can be read, or else the fault. -/
def LoadFault.orElse {α : Type} (f : LoadFault) : Option α → Except LoadFault α
  | some a => .ok a
  | none => .error f

end TokenLifecycle.Config
