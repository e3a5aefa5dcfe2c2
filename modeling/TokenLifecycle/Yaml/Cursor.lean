/-!
# Places in YAML texts

A place in a text, with the line and the column that decide what belongs together. A zero character
ends the text, and so does its end.
-/

namespace TokenLifecycle.Yaml

/-- A place in a text and what follows it. -/
structure Cursor where
  rest : List Char
  index : Nat := 0
  line : Nat := 0
  column : Nat := 0

/-! ### Kinds of characters -/

/-- The characters that end lines. -/
def isBreak (c : Char) : Bool :=
  c = '\n' || c = '\x0d'

/-- The characters that end lines or the text. -/
def isBreakOrEnd (c : Char) : Bool :=
  isBreak c || c = '\x00'

/-- Spaces and tabs. -/
def isBlank (c : Char) : Bool :=
  c = ' ' || c = '\t'

/-- The characters that end words. -/
def isBlankOrEnd (c : Char) : Bool :=
  isBlank c || isBreakOrEnd c

/-- The characters of names. -/
def isNameChar (c : Char) : Bool :=
  c.isAlphanum || c = '_' || c = '-'

/-- The characters that structure a collection in brackets. -/
def isFlowIndicator (c : Char) : Bool :=
  [',', '[', ']', '\x7b', '\x7d'].contains c

namespace Cursor

/-- The character at a distance. -/
def ahead (c : Cursor) (distance : Nat) : Char :=
  c.rest.getD distance '\x00'

/-- The next character. -/
def peek (c : Cursor) : Char :=
  c.ahead 0

/-- The text ends here. -/
def isAtEnd (c : Cursor) : Bool :=
  c.peek = '\x00'

/-- The place behind a number of characters, none of which is a line feed. -/
def skip (c : Cursor) (count : Nat) : Cursor :=
  { c with
    rest := c.rest.drop count
    index := c.index + count
    column := c.column + count }

/-- The characters from here on that fit. -/
def word (c : Cursor) (fits : Char → Bool) : List Char :=
  c.rest.takeWhile fits

/-- The place behind the characters that fit. No line feed may fit. -/
def skipWhile (c : Cursor) (fits : Char → Bool) : Cursor :=
  c.skip (c.word fits).length

/-- The place behind a line end, if there is one here. A lone carriage return begins no line. -/
def skipBreak (c : Cursor) : Cursor :=
  match c.rest with
  | '\x0d' :: '\n' :: rest => ⟨rest, c.index + 2, c.line + 1, 0⟩
  | '\x0d' :: _ => c.skip 1
  | '\n' :: rest => ⟨rest, c.index + 1, c.line + 1, 0⟩
  | _ => c

/-- The place behind blanks and a comment. -/
def skipComment (c : Cursor) : Cursor :=
  let c := c.skipWhile isBlank
  if c.peek = '#' then c.skipWhile fun x => !isBreakOrEnd x else c

/-- A document begins or ends here: three hyphens or points at the beginning of a line. -/
def isAtMark (c : Cursor) (mark : Char) : Bool :=
  c.column == 0 && c.peek = mark && c.ahead 1 = mark && c.ahead 2 = mark &&
    isBlankOrEnd (c.ahead 3)

/-- A mark of a document stands here. -/
def isAtDocumentMark (c : Cursor) : Bool :=
  c.isAtMark '-' || c.isAtMark '.'

end Cursor

end TokenLifecycle.Yaml
