import TokenLifecycle.Config.Lookup
import TokenLifecycle.Text.Alphanumeric

/-!
# Environment files

A file of assignments `NAME=value`, which fill in the variables that are not set yet. A value may be
quoted, may go over several lines between quotes, and may refer to variables. Reading stops at the
first line that is no assignment; what comes before it counts.
-/

namespace TokenLifecycle.Config

/-- The variables of an environment. -/
abbrev Variables := List (String × String)

/-- The variables as settings to look up. -/
def Variables.get? (vars : Variables) : Lookup :=
  fun name => vars.lookup name

/-- The variables with one more, unless it is set already. -/
def Variables.fill (vars : Variables) (name value : String) : Variables :=
  if (vars.get? name).isSome then vars else vars ++ [(name, value)]

namespace EnvFile

/-! ### Lines -/

/-- What the end of a line falls into. -/
inductive Place
  | plain
  | blank
  | escape
  | double
  | doubleEscape
  | single
  | singleEscape
  /-- A comment began; the number of characters before it. -/
  | comment (start : Nat)
  deriving DecidableEq, Repr

/-- The place behind a character that is not in quotes. -/
def Place.open (c : Char) : Option Place :=
  if c = '\\' then some .escape
  else if c = '"' then some .double
  else if c = '\'' then some .single
  else none

/-- The place behind the characters, the first of which is at `position`. -/
def placeAfter (position : Nat) : Place → List Char → Place
  | p, [] => p
  | p, c :: rest =>
    match p with
    | .comment start => .comment start
    | .blank =>
      if c = '#' then .comment position
      else placeAfter (position + 1) ((Place.open c).getD .plain) rest
    | .plain =>
      let blank := Text.isBlank c && c ≠ '\n' && c ≠ '\x0d'
      placeAfter (position + 1) (if blank then .blank else (Place.open c).getD .plain) rest
    | .escape => placeAfter (position + 1) .plain rest
    | .double =>
      placeAfter (position + 1)
        (if c = '\\' then .doubleEscape else if c = '"' then .plain else .double) rest
    | .doubleEscape => placeAfter (position + 1) .double rest
    | .single =>
      placeAfter (position + 1)
        (if c = '\\' then .singleEscape else if c = '\'' then .plain else .single) rest
    | .singleEscape => placeAfter (position + 1) .single rest

/-- The text split behind each line feed. -/
def splitLines : List Char → List (List Char)
  | [] => []
  | '\n' :: rest => ['\n'] :: splitLines rest
  | c :: rest =>
    match splitLines rest with
    | [] => [[c]]
    | line :: lines => (c :: line) :: lines

/-- The line without the mark of its end. -/
def stripEnd (line : List Char) : List Char :=
  match line.reverse with
  | '\n' :: '\x0d' :: rest => rest.reverse
  | '\n' :: rest => rest.reverse
  | _ => line

/-- Puts lines together that belong to one assignment, with those so far in `open_`. The last one is
nothing if its end is missing. -/
def assignments (open_ : List Char) (p : Place) : List (List Char) → List (Option (List Char))
  | [] => if p = .plain then [] else [none]
  | line :: lines =>
    let text := open_ ++ line
    if (Text.trimStart text).head? = some '#' then assignments [] .plain lines
    else
      match placeAfter 0 p line with
      | .plain => some (stripEnd text) :: assignments [] .plain lines
      | .comment start => some (open_ ++ line.take start) :: assignments [] .plain lines
      | p => assignments text p lines

/-! ### Values -/

/-- How a reference to a variable is being read. -/
inductive Reference
  | bare
  | braced
  deriving DecidableEq, Repr

/-- What a reference stands for: the value of the variable. A name with an equals sign in it names
what follows another one in a value. -/
def referent (vars : Variables) (name : List Char) : List Char :=
  match vars.get? (String.ofList name) with
  | some value => value.toList
  | none =>
    let front := name.takeWhile (· ≠ '=')
    let start := name.drop (front.length + 1) ++ ['=']
    match name.contains '=', vars.get? (String.ofList front) with
    | true, some value =>
      if start.isPrefixOf value.toList then value.toList.drop start.length else []
    | _, _ => []

/-- Where the reading of a value stands. -/
structure State where
  single : Bool := false
  double : Bool := false
  escaped : Bool := false
  finished : Bool := false
  reference : Option Reference := none
  name : List Char := []
  done : List Char := []

namespace State

/-- The value so far with a character more. -/
def push (s : State) (c : Char) : State :=
  { s with done := s.done ++ [c] }

/-- The value so far with the variable that was named put in. -/
def resolve (s : State) (vars : Variables) : State :=
  { s with done := s.done ++ referent vars s.name, name := [], reference := none }

/-- Reads one character. -/
def next (vars : Variables) (s : State) (c : Char) : Option State :=
  if s.finished then
    if c = ' ' ∨ c = '\t' then some s else none
  else if s.escaped then
    let s := { s with escaped := false }
    if ['\\', '\'', '"', '$', ' '].contains c then some (s.push c)
    else if c = 'n' then some (s.push '\n')
    else none
  else if s.single then
    some (if c = '\'' then { s with single := false } else s.push c)
  else
    match s.reference with
    | some r =>
      if Text.isAlphanumeric c then some { s with name := s.name ++ [c] }
      else
        match r with
        | .bare =>
          if c = '\x7b' ∧ s.name.isEmpty then some { s with reference := some .braced }
          else
            let s := s.resolve vars
            some (if c = '$' then { s with reference := some .bare } else s.push c)
        | .braced =>
          some (if c = '\x7d' then s.resolve vars else { s with name := s.name ++ [c] })
    | none =>
      if c = '$' then some { s with reference := some .bare }
      else if s.double then
        some (if c = '"' then { s with double := false }
          else if c = '\\' then { s with escaped := true }
          else s.push c)
      else
        some (if c = '\'' then { s with single := true }
          else if c = '"' then { s with double := true }
          else if c = '\\' then { s with escaped := true }
          else if c = ' ' ∨ c = '\t' then { s with finished := true }
          else s.push c)

end State

/-- Reads characters of a value until it ends or a comment follows. -/
def readValue (vars : Variables) : State → List Char → Option State
  | s, [] => some s
  | s, c :: rest =>
    if s.finished && c = '#' then some s
    else (s.next vars c).bind fun s => readValue vars s rest

/-- The value that a text spells. -/
def value? (vars : Variables) (cs : List Char) : Option String := do
  let s ← readValue vars {} cs
  if s.reference = some .braced ∨ s.single ∨ s.double then none
  else some (String.ofList (s.resolve vars).done)

/-! ### Assignments -/

/-- The characters of names. -/
def isNameChar (c : Char) : Bool :=
  c.isAlphanum || c = '_' || c = '.'

/-- Splits off a name and the blanks behind it. -/
def name? (cs : List Char) : Option (String × List Char) :=
  match cs with
  | c :: _ =>
    if c.isAlpha || c = '_' then
      some (String.ofList (cs.takeWhile isNameChar), Text.trimStart (cs.dropWhile isNameChar))
    else none
  | [] => none

/-- Splits off the name, an optional word `export` before it, and the equals sign. -/
def target? (cs : List Char) : Option (String × List Char) := do
  let (name, rest) ← name? cs
  match rest with
  | '=' :: rest => some (name, rest)
  | rest =>
    if name ≠ "export" then none
    let (name, rest) ← name? rest
    match rest with
    | '=' :: rest => some (name, rest)
    | _ => none

/-- What a line assigns, or nothing inside for a line without content. -/
def assignment? (vars : Variables) (line : List Char) : Option (Option (String × String)) := do
  let cs := Text.trimStart (Text.trimEnd line)
  if cs.isEmpty ∨ cs.head? = some '#' then return none
  let (name, rest) ← target? cs
  let rest := Text.trimStart rest
  if rest.isEmpty ∨ rest.head? = some '#' then return some (name, "")
  return some (name, ← value? vars rest)

/-- Carries out assignments up to the first fault; nothing when a new variable would hold a zero
character. -/
def assignAll? : List (Option (List Char)) → Variables → Option Variables
  | [], vars => some vars
  | none :: _, vars => some vars
  | some line :: rest, vars =>
    match assignment? vars line with
    | none => some vars
    | some none => assignAll? rest vars
    | some (some (name, value)) =>
      if (vars.get? name).isNone && value.toList.contains '\x00' then none
      else assignAll? rest (vars.fill name value)

/-- The variables after the assignments of a file. -/
def load? (text : String) (vars : Variables) : Option Variables :=
  let cs := match text.toList with
    | '\ufeff' :: rest => rest
    | cs => cs
  assignAll? (assignments [] .plain (splitLines cs)) vars

end EnvFile

end TokenLifecycle.Config
