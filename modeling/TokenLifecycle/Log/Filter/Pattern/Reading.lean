import TokenLifecycle.Log.Filter.Pattern.Content
import TokenLifecycle.Text.Alphanumeric

/-!
# Reading patterns

Reads a whole pattern: sequences of atoms and sets with their repetitions, alternatives, and groups
with names and switches.
-/

namespace TokenLifecycle.Log.Pattern

/-- Reads switches up to the colon or the bracket behind them. Each may be given once, and a minus
turns off those behind it. -/
def switches? : List Char → List Char → Switches → Option (Switches × Char × List Char)
  | [], _, _ => none
  | c :: rest, seen, s =>
    if c = ':' ∨ c = ')' then
      if seen.head? = some '-' then none else some (s, c, rest)
    else if seen.contains c then none
    else
      let value := some (!seen.contains '-')
      match c with
      | '-' => switches? rest (c :: seen) s
      | 'i' => switches? rest (c :: seen) { s with ignoreCase := value }
      | 'u' => switches? rest (c :: seen) { s with unicode := value }
      | 'x' => switches? rest (c :: seen) { s with spaced := value }
      | 'm' => switches? rest (c :: seen) s
      | 's' => switches? rest (c :: seen) s
      | 'U' => switches? rest (c :: seen) s
      | 'R' => switches? rest (c :: seen) s
      | _ => none

/-- Reads the name of a group up to the bracket behind it. -/
def groupName? (cs : List Char) : Option (String × List Char) :=
  let name := cs.takeWhile (· != '>')
  let isRest (c : Char) : Bool := Text.isAlphanumeric c || ['_', '.', '[', ']'].contains c
  match name, cs.dropWhile (· != '>') with
  | first :: others, _ :: rest =>
    if (first = '_' || Text.isAlphabetic first) && others.all isRest then
      some (String.ofList name, rest)
    else none
  | _, _ => none

/-- Reads a decimal number of 32 bits between blanks. -/
def count? (spaced : Bool) (cs : List Char) : Option (Nat × List Char) :=
  match gather spaced Char.isDigit false (cs.dropWhile Text.isBlank) with
  | ([], _) => none
  | (digits, rest) =>
    let value := digits.foldl (fun n c => n * 10 + (c.toNat - '0'.toNat)) 0
    if value < Nat.pow 2 32 then some (value, skip spaced (rest.dropWhile Text.isBlank)) else none

/-- Reads the bounds of a repetition behind their opening brace. The answer says whether they leave
room for no occurrence. -/
def bounds? (spaced : Bool) (cs : List Char) : Option (Bool × List Char) :=
  (count? spaced (skip spaced cs)).bind fun (low, rest) =>
    match rest with
    | '\x7d' :: rest => some (low == 0, rest)
    | ',' :: rest =>
      match skip spaced rest with
      | '\x7d' :: rest => some (false, rest)
      | rest =>
        match count? spaced rest with
        | some (high, '\x7d' :: rest) => if low ≤ high then some (high == 0, rest) else none
        | _ => none
    | _ => none

/-- A group that is being read: what stands before it, the last part first, and how to go on behind
it. -/
structure Frame where
  branches : List Expression
  parts : List Expression
  spaced : Bool
  switches : Switches

/-- What has been read: the groups that are open, the branches of the innermost one before the last
bar, and the parts of the branch behind it, the last part first. -/
structure State where
  frames : List Frame := []
  branches : List Expression := []
  parts : List Expression := []
  spaced : Bool := false
  names : List String := []

namespace State

/-- The state with one more part. -/
def add (s : State) (e : Expression) : State :=
  { s with parts := e :: s.parts }

/-- The branches of the innermost group as one expression. -/
def content (s : State) : Expression :=
  .ofAlternatives (.ofSequence s.parts.reverse :: s.branches).reverse

/-- The state inside of a group that begins here. -/
def enter (s : State) (switches : Switches) : State :=
  { s with
    frames := ⟨s.branches, s.parts, s.spaced, switches⟩ :: s.frames
    branches := []
    parts := []
    spaced := switches.spaced.getD s.spaced }

/-- The state behind the innermost group. -/
def leave? (s : State) : Option State :=
  match s.frames with
  | [] => none
  | f :: frames =>
    some { s with
      frames := frames
      branches := f.branches
      parts := .group f.switches s.content :: f.parts
      spaced := f.spaced }

/-- Reads what follows the bracket that opens a group. Groups that look ahead or behind are
refused, and so are two groups of one name. -/
def group? (s : State) (cs : List Char) : Option (State × List Char) :=
  let named (cs : List Char) : Option (State × List Char) :=
    (groupName? cs).bind fun (name, rest) =>
      if s.names.contains name then none
      else some ({ s with names := name :: s.names }.enter {}, rest)
  match skip s.spaced cs with
  | '?' :: '=' :: _ => none
  | '?' :: '!' :: _ => none
  | '?' :: '<' :: '=' :: _ => none
  | '?' :: '<' :: '!' :: _ => none
  | '?' :: 'P' :: '<' :: rest => named rest
  | '?' :: '<' :: rest => named rest
  | '?' :: ')' :: _ => none
  | '?' :: rest =>
    match switches? rest [] {} with
    | some (switches, ')', rest) =>
      some ({ s.add (.switches switches) with spaced := switches.spaced.getD s.spaced }, rest)
    | some (switches, _, rest) => some (s.enter switches, rest)
    | none => none
  | rest => some (s.enter {}, rest)

/-- The last part, repeated. A question mark behind the operator makes it reluctant. -/
def repeat? (s : State) (isVoid : Bool) (rest : List Char) : Option (State × List Char) :=
  match s.parts with
  | [] => none
  | part :: parts =>
    if part.isRepeatable then
      let rest := match rest with
        | '?' :: rest => rest
        | rest => rest
      some ({ s with parts := .repetition part isVoid :: parts }, rest)
    else none

/-- Reads the next part of a pattern. -/
def step? (s : State) : Char → List Char → Option (State × List Char)
  | '(', rest => s.group? rest
  | ')', rest => s.leave?.map fun s => (s, rest)
  | '|', rest =>
    some ({ s with branches := .ofSequence s.parts.reverse :: s.branches, parts := [] }, rest)
  | '[', rest => (oneOf? s.spaced rest).map fun (e, rest) => (s.add e, rest)
  | '?', rest => s.repeat? false rest
  | '*', rest => s.repeat? false rest
  | '+', rest => s.repeat? false rest
  | '\x7b', rest =>
    (bounds? s.spaced rest).bind fun (isVoid, rest) => s.repeat? isVoid (skip s.spaced rest)
  | '\\', rest => (escape? s.spaced rest).map fun (a, rest) => (s.add (.atom a), rest)
  | '.', rest => some (s.add (.atom .dot), rest)
  | '^', rest => some (s.add (.atom .anchor), rest)
  | '$', rest => some (s.add (.atom .anchor), rest)
  | c, rest => some (s.add (.atom (.literal ⟨c, false⟩)), rest)

/-- Reads parts up to the end of the pattern, where no group may be open. -/
def read? : Nat → State → List Char → Option Expression
  | 0, _, _ => none
  | fuel + 1, s, cs =>
    match skip s.spaced cs with
    | [] => if s.frames.isEmpty then some s.content else none
    | c :: rest => (s.step? c rest).bind fun (s, rest) => read? fuel s rest

end State

/-- The greatest height of a pattern. -/
def maxHeight : Nat := 250

/-- Reads a pattern. -/
def Expression.ofText? (text : String) : Option Expression :=
  (State.read? (text.length + 1) {} text.toList).filter fun e => e.height ≤ maxHeight

end TokenLifecycle.Log.Pattern
