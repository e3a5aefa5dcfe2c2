import TokenLifecycle.Log.Filter.Pattern.Expression

/-!
# What patterns can ask for

A pattern matches UTF-8 texts by their bytes, and knows no tables of Unicode. So without a switch
there are no words, digits and blanks and no letter case; where Unicode is switched off these are
the ones of ASCII, and nothing may match a part of a character.
-/

namespace TokenLifecycle.Log.Pattern

/-- How the parts of a pattern are read. -/
structure Mode where
  unicode : Bool := true
  ignoreCase : Bool := false
  deriving DecidableEq, Repr

/-- The mode behind switches. -/
def Mode.apply (m : Mode) (s : Switches) : Mode :=
  { unicode := s.unicode.getD m.unicode
    ignoreCase := s.ignoreCase.getD m.ignoreCase }

/-- The atom can be matched. A boundary of words that is never looked at does no harm. -/
def Atom.isSupported (m : Mode) (isVoid : Bool) : Atom → Bool
  | .literal l => if m.unicode then !m.ignoreCase else !l.isByte || l.isAscii
  | .dot => m.unicode
  | .anchor => true
  | .wordBoundary => !m.unicode || isVoid
  | .shorthand negated => !m.unicode && !negated
  | .property => false

/-- The character can be part of a set. -/
def Literal.isSupported (m : Mode) (l : Literal) : Bool :=
  if m.unicode then !m.ignoreCase else l.isAscii

mutual

/-- The content can be matched. -/
def Content.isSupported (m : Mode) : Content → Bool
  | .literal l => l.isSupported m
  | .range low high => low.isSupported m && high.isSupported m
  | .named negated => if m.unicode then !m.ignoreCase else !negated
  | .shorthand negated => !m.unicode && !negated
  | .property => false
  | .bracketed negated content => content.isSupported m && (m.unicode || !negated)
  | .union parts => Content.areSupported m parts
  | .operation left right => left.isSupported m && right.isSupported m

/-- All parts can be matched. -/
def Content.areSupported (m : Mode) : List Content → Bool
  | [] => true
  | part :: parts => part.isSupported m && Content.areSupported m parts

end

namespace Expression

mutual

/-- The mode behind an expression that can be matched. Switches hold up to the end of their group,
from one branch to the next. -/
def modeBehind? (m : Mode) (isVoid : Bool) : Expression → Option Mode
  | .empty => some m
  | .switches s => some (m.apply s)
  | .atom a => if a.isSupported m isVoid then some m else none
  | .oneOf negated content =>
    if content.isSupported m && (m.unicode || !negated) then some m else none
  | .repetition body never => modeBehind? m (isVoid || never) body
  | .group s body => (modeBehind? (m.apply s) isVoid body).map fun _ => m
  | .sequence parts => modeBehindAll? m isVoid parts
  | .alternatives parts => modeBehindAll? m isVoid parts

/-- The mode behind several expressions that can be matched. -/
def modeBehindAll? (m : Mode) (isVoid : Bool) : List Expression → Option Mode
  | [] => some m
  | part :: parts => (modeBehind? m isVoid part).bind fun m => modeBehindAll? m isVoid parts

end

/-- The expression can be matched. -/
def isSupported (e : Expression) : Bool :=
  (e.modeBehind? {} false).isSome

end Expression

end TokenLifecycle.Log.Pattern
