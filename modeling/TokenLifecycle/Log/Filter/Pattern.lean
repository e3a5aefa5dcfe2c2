import TokenLifecycle.Log.Filter.Pattern.Reading
import TokenLifecycle.Log.Filter.Pattern.Support

/-!
# Patterns

Which texts are patterns. A filter keeps a pattern as it is written, so only its form is checked: it
can be read, and it asks for nothing that cannot be matched.
-/

namespace TokenLifecycle.Log.Pattern

/-- The text is a pattern. -/
def isPattern (text : String) : Bool :=
  (Expression.ofText? text).any Expression.isSupported

end TokenLifecycle.Log.Pattern
