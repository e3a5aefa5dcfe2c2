import TokenLifecycle.Numeral.Decimal
import TokenLifecycle.Text.Blank
import TokenLifecycle.Text.LetterCase

/-!
# Looking up settings

Settings by name, as an environment gives them.
-/

namespace TokenLifecycle.Config

/-- Gives the text of a setting, if it is set. -/
abbrev Lookup := String → Option String

namespace Lookup

/-- The setting, unless it is empty. -/
def nonempty? (lookup : Lookup) (name : String) : Option String :=
  (lookup name).filter (· ≠ "")

/-- The setting as `read` reads it without the blanks around it. A setting that cannot be read
counts as not set. -/
def parseOr {α : Type} (lookup : Lookup) (name : String) (read : String → Option α) (absent : α) :
    α :=
  ((lookup name).bind fun s => read (Text.trim s)).getD absent

end Lookup

end TokenLifecycle.Config
