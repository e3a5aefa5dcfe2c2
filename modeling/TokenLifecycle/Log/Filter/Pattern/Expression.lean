/-!
# Expressions

What a pattern says: atoms, sets of characters, and their repetitions, groups, sequences and
alternatives. The height of an expression counts how deep its parts are nested.
-/

namespace TokenLifecycle.Log.Pattern

/-- A character of a pattern; `isByte` marks one that is written as two hexadecimal digits. -/
structure Literal where
  char : Char
  isByte : Bool
  deriving DecidableEq, Repr

/-- The character stands within ASCII. -/
def Literal.isAscii (l : Literal) : Bool :=
  l.char.toNat < 128

/-- The smallest parts of a pattern. -/
inductive Atom
  | literal (l : Literal)
  | dot
  /-- The start or the end of a line or of the text. -/
  | anchor
  /-- A place where a word begins or ends, or where none does. -/
  | wordBoundary
  /-- Digits, blanks or characters of words. -/
  | shorthand (negated : Bool)
  /-- Characters with a property of Unicode. -/
  | property
  deriving DecidableEq, Repr

/-- What stands between brackets. -/
inductive Content
  | literal (l : Literal)
  | range (low high : Literal)
  | named (negated : Bool)
  | shorthand (negated : Bool)
  | property
  | bracketed (negated : Bool) (content : Content)
  | union (parts : List Content)
  /-- An intersection or a difference. -/
  | operation (left right : Content)
  deriving Repr

/-- Several parts as one. -/
def Content.ofList : List Content → Content
  | [part] => part
  | parts => .union parts

mutual

/-- How deep the parts of a content are nested. -/
def Content.height : Content → Nat
  | .bracketed _ content => content.height + 1
  | .union [] => 0
  | .union parts => Content.heightOfAll parts + 1
  | .operation left right => max left.height right.height + 1
  | _ => 0

/-- The greatest height of the parts. -/
def Content.heightOfAll : List Content → Nat
  | [] => 0
  | part :: parts => max part.height (Content.heightOfAll parts)

end

/-- What a group says about the way to read its parts; `none` leaves a mode as it is. -/
structure Switches where
  ignoreCase : Option Bool := none
  unicode : Option Bool := none
  /-- Blanks and comments are no part of the pattern. -/
  spaced : Option Bool := none
  deriving DecidableEq, Repr

/-- A pattern. -/
inductive Expression
  | empty
  | switches (s : Switches)
  | atom (a : Atom)
  | oneOf (negated : Bool) (content : Content)
  /-- A repetition; `isVoid` says that there is room for no occurrence. -/
  | repetition (body : Expression) (isVoid : Bool)
  | group (s : Switches) (body : Expression)
  | sequence (parts : List Expression)
  | alternatives (parts : List Expression)
  deriving Repr

namespace Expression

/-- Several expressions after each other. -/
def ofSequence : List Expression → Expression
  | [] => .empty
  | [part] => part
  | parts => .sequence parts

/-- Several expressions of which one has to fit. -/
def ofAlternatives : List Expression → Expression
  | [part] => part
  | parts => .alternatives parts

/-- The expression can be repeated. -/
def isRepeatable : Expression → Bool
  | .empty => false
  | .switches _ => false
  | _ => true

mutual

/-- How deep the parts of an expression are nested. -/
def height : Expression → Nat
  | .empty => 0
  | .switches _ => 0
  | .atom _ => 0
  | .oneOf _ content => content.height + 1
  | .repetition body _ => body.height + 1
  | .group _ body => body.height + 1
  | .sequence parts => heightOfAll parts + 1
  | .alternatives parts => heightOfAll parts + 1

/-- The greatest height of the parts. -/
def heightOfAll : List Expression → Nat
  | [] => 0
  | part :: parts => max part.height (heightOfAll parts)

end

end Expression

end TokenLifecycle.Log.Pattern
