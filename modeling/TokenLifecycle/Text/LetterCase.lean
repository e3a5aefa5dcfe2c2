/-!
# Letter case

The lower-case form of a text, as far as it can turn into ASCII.

Words and keys that are matched without regard to case are ASCII words. Besides `A` to `Z` one
character has an ASCII lower-case form, the Kelvin sign, so all others may stay as they are.
-/

namespace TokenLifecycle.Text

/-- The lower-case form of a character where that form is ASCII, and the character otherwise. -/
def lowerChar (c : Char) : Char :=
  if c = '\u212A' then 'k' else c.toLower

/-- The text with every character replaced by its lower-case form. -/
def lowercase (s : String) : String :=
  String.ofList (s.toList.map lowerChar)

/-- Two texts are equal up to the case of ASCII letters. -/
def equalIgnoringCase (s t : String) : Bool :=
  s.toList.map Char.toLower == t.toList.map Char.toLower

end TokenLifecycle.Text
