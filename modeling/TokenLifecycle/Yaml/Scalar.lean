import TokenLifecycle.Numeral.Hexadecimal
import TokenLifecycle.Yaml.Cursor

/-!
# YAML scalars

The ways to write a text: plain, in single or double quotes, and as a block of indented lines. Line
ends within a text are folded: one becomes a space, and of several the first is left out.
-/

namespace TokenLifecycle.Yaml

/-! ### Gaps -/

/-- The blanks and line ends between two words: whether there is a line end, the blanks before it,
and the line ends themselves. Texts are kept in reverse. -/
structure Gap where
  broken : Bool := false
  blanks : List Char := []
  isFirstBreak : Bool := false
  breaks : List Char := []

namespace Gap

/-- What a gap stands for, in reverse. -/
def text (g : Gap) : List Char :=
  if !g.broken then g.blanks
  else if g.isFirstBreak && g.breaks.isEmpty then [' ']
  else g.breaks

/-- Reads a gap. In a plain text that has to be indented no tab may take the place of spaces. -/
def read? (indent : Int) : Nat → Cursor → Gap → Option (Gap × Cursor)
  | 0, _, _ => none
  | fuel + 1, c, g =>
    if isBlank c.peek then
      if g.broken then
        if c.column < indent ∧ c.peek = '\t' then none else read? indent fuel (c.skip 1) g
      else read? indent fuel (c.skip 1) { g with blanks := c.peek :: g.blanks }
    else if isBreak c.peek then
      if g.broken then read? indent fuel c.skipBreak { g with breaks := '\n' :: g.breaks }
      else
        read? indent fuel c.skipBreak { g with broken := true, blanks := [], isFirstBreak := true }
    else some (g, c)

end Gap

/-! ### Plain texts -/

/-- The word that begins a plain text, up to a blank, a colon that is followed by one, or an
indicator of the collection around it. -/
def plainWord (inFlow : Bool) : List Char → List Char
  | [] => []
  | c :: rest =>
    let next := rest.headD '\x00'
    if isBlankOrEnd c || (inFlow && isFlowIndicator c) then []
    else if c = ':' && (isBlankOrEnd next || (inFlow && isFlowIndicator next)) then []
    else c :: plainWord inFlow rest

/-- Reads a plain text, with the gap before the next word and the text before that in reverse. The
answer says whether the text ends behind a line end. -/
def plain? (inFlow : Bool) (indent : Int) :
    Nat → Cursor → Gap → List Char → Option (String × Bool × Cursor)
  | 0, _, _, _ => none
  | fuel + 1, c, g, done =>
    let result (broken : Bool) (done : List Char) (c : Cursor) : Option (String × Bool × Cursor) :=
      some (String.ofList done.reverse, broken, c)
    if c.isAtDocumentMark || c.peek = '#' then result g.broken done c
    else
      let word := plainWord inFlow c.rest
      let c := c.skip word.length
      let (g, done) := if word.isEmpty then (g, done) else ({}, word.reverse ++ g.text ++ done)
      if isBlank c.peek || isBreak c.peek then
        (Gap.read? indent (c.rest.length + 1) c g).bind fun (g, c) =>
          if !inFlow ∧ c.column < indent then result g.broken done c
          else plain? inFlow indent fuel c g done
      else result g.broken done c

/-! ### Texts in quotes -/

/-- The character of an escape by one character. -/
def escape? (c : Char) : Option Char :=
  [('0', '\x00'), ('a', '\x07'), ('b', '\x08'), ('t', '\t'), ('\t', '\t'), ('n', '\n'),
    ('v', '\x0b'), ('f', '\x0c'), ('r', '\x0d'), ('e', '\x1b'), (' ', ' '), ('"', '"'),
    ('\'', '\''), ('\\', '\\'), ('N', '\u0085'), ('_', '\u00a0'), ('L', '\u2028'),
    ('P', '\u2029')].lookup c

/-- The number of digits of an escape by a code point. -/
def escapeWidth (c : Char) : Option Nat :=
  [('x', 2), ('u', 4), ('U', 8)].lookup c

/-- Reads an escape behind its backslash. -/
def escaped? (c : Cursor) : Option (Char × Cursor) :=
  match escapeWidth c.peek with
  | some width =>
    let digits := (c.rest.drop 1).take width
    if digits.length = width then (Numeral.hexChar? digits).map fun x => (x, c.skip (width + 1))
    else none
  | none => (escape? c.peek).map fun x => (x, c.skip 1)

/-- Reads the characters up to a blank or the closing quote, before those in reverse. The answer
says whether an escaped line end stands behind them. -/
def quotedWord? (quote : Char) : Nat → Cursor → List Char → Option (List Char × Bool × Cursor)
  | 0, _, _ => none
  | fuel + 1, c, done =>
    if isBlankOrEnd c.peek then some (done, false, c)
    else if quote = '\'' ∧ c.peek = '\'' ∧ c.ahead 1 = '\'' then
      quotedWord? quote fuel (c.skip 2) ('\'' :: done)
    else if c.peek = quote then some (done, false, c)
    else if quote = '"' ∧ c.peek = '\\' then
      if isBreak (c.ahead 1) then some (done, true, (c.skip 1).skipBreak)
      else (escaped? (c.skip 1)).bind fun (x, c) => quotedWord? quote fuel c (x :: done)
    else quotedWord? quote fuel (c.skip 1) (c.peek :: done)

/-- Reads a text behind its opening quote, before which is what is given in reverse. -/
def quoted? (quote : Char) : Nat → Cursor → List Char → Option (String × Cursor)
  | 0, _, _ => none
  | fuel + 1, c, done =>
    if c.isAtDocumentMark || c.isAtEnd then none
    else
      (quotedWord? quote (c.rest.length + 1) c done).bind fun (done, broken, c) =>
        if c.peek = quote then some (String.ofList done.reverse, c.skip 1)
        else
          (Gap.read? 0 (c.rest.length + 1) c { broken := broken }).bind fun (g, c) =>
            quoted? quote fuel c (g.text ++ done)

/-! ### Blocks -/

/-- What happens to the line ends behind a block: one is kept unless there is a minus, and all with
a plus. -/
inductive Chomping
  | clip | strip | keep
  deriving DecidableEq, Repr

/-- Reads what stands behind the indicator of a block: how its end is chomped, and by how many
columns it is indented, zero where the first line decides. -/
def blockHeader? (c : Cursor) : Option (Chomping × Nat × Cursor) :=
  let chomping? (x : Char) : Option Chomping := [('+', .keep), ('-', .strip)].lookup x
  match chomping? c.peek, c.peek.isDigit with
  | some chomping, _ =>
    let c := c.skip 1
    if c.peek = '0' then none
    else if c.peek.isDigit then some (chomping, c.peek.toNat - 48, c.skip 1)
    else some (chomping, 0, c)
  | none, true =>
    if c.peek = '0' then none
    else
      match chomping? (c.ahead 1) with
      | some chomping => some (chomping, c.peek.toNat - 48, c.skip 2)
      | none => some (.clip, c.peek.toNat - 48, c.skip 1)
  | none, false => some (.clip, 0, c)

/-- Reads empty lines and the indentation of the next line, before line ends in reverse. Where the
indentation is not known yet, it is that of the longest of the lines, and `least` at least. -/
def blockBreaks? (indent least : Nat) :
    Nat → Nat → Cursor → List Char → Option (Nat × List Char × Cursor)
  | 0, _, _, _ => none
  | fuel + 1, longest, c, breaks =>
    let spaces := (c.word (· = ' ')).length
    let c := c.skip (if indent = 0 then spaces else min spaces (indent - c.column))
    let longest := max longest c.column
    if (indent = 0 ∨ c.column < indent) ∧ c.peek = '\t' then none
    else if isBreak c.peek then blockBreaks? indent least fuel longest c.skipBreak ('\n' :: breaks)
    else some (if indent = 0 then max longest least else indent, breaks, c)

/-- What has been read of a block; texts are kept in reverse. -/
structure Block where
  text : List Char := []
  hasBreak : Bool := false
  breaks : List Char := []
  /-- The line before began with a blank. -/
  indented : Bool := false

/-- The block with a line more. In a folded block the line end before it becomes a space, unless one
of the two lines is indented. -/
def Block.add (b : Block) (literal : Bool) (line : List Char) : Block :=
  let indented := line.head?.any isBlank
  let folded := !literal && b.hasBreak && !b.indented && !indented
  let between :=
    if folded then (if b.breaks.isEmpty then [' '] else b.breaks)
    else b.breaks ++ (if b.hasBreak then ['\n'] else [])
  ⟨line.reverse ++ between ++ b.text, false, [], indented⟩

/-- Reads the lines of a block. -/
def blockLines? (literal : Bool) (indent : Nat) : Nat → Cursor → Block → Option (Block × Cursor)
  | 0, _, _ => none
  | fuel + 1, c, b =>
    if c.column ≠ indent ∨ c.isAtEnd then some (b, c)
    else
      let line := c.word fun x => !isBreakOrEnd x
      let c := c.skip line.length
      let b := b.add literal line
      if c.isAtEnd then some (b, c)
      else
        (blockBreaks? indent indent (c.rest.length + 1) 0 c.skipBreak []).bind
          fun (_, breaks, c) =>
            blockLines? literal indent fuel c { b with hasBreak := true, breaks := breaks }

/-- Reads a block behind its indicator, within a collection that is indented by `outer`. -/
def block? (literal : Bool) (outer : Int) (c : Cursor) : Option (String × Cursor) := do
  let (chomping, increment, c) ← blockHeader? c
  let c := c.skipComment
  if !isBreakOrEnd c.peek then none
  let c := c.skipBreak
  let indent := if increment = 0 then 0 else (max outer 0).toNat + increment
  let fuel := c.rest.length + 1
  let (indent, breaks, c) ← blockBreaks? indent (max 1 (outer + 1).toNat) fuel 0 c []
  let (b, c) ← blockLines? literal indent fuel c { breaks := breaks }
  let text := if b.hasBreak && chomping ≠ .strip then '\n' :: b.text else b.text
  let text := if chomping = .keep then b.breaks ++ text else text
  return (String.ofList text.reverse, c)

end TokenLifecycle.Yaml
