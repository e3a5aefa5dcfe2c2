import TokenLifecycle.Config.Node
import TokenLifecycle.Numeral.Hexadecimal
import TokenLifecycle.Text.Blank

/-!
# INI documents

A document is a list of entries, each a key and a text, that headers in brackets collect into
sections. Comments stand at the beginning of a line, and a backslash escapes what follows it.
-/

namespace TokenLifecycle.Ini

open Config (Node)

/-- The character of an escape by one letter. -/
def escape? (c : Char) : Option Char :=
  [('0', '\x00'), ('a', '\x07'), ('b', '\x08'), ('t', '\t'), ('r', '\x0d'), ('n', '\n')].lookup c

/-- Puts characters before the text that was read. -/
def push (cs : List Char) (r : Option (List Char × List Char)) : Option (List Char × List Char) :=
  r.map fun (text, rest) => (cs ++ text, rest)

/-- Reads up to one of the characters `stops`, or up to the end if `endStops` holds. An escaped line
end is left out, and an escape without a meaning stays as it is. -/
def until? (stops : List Char) (endStops : Bool) : List Char → Option (List Char × List Char)
  | [] => if endStops then some ([], []) else none
  | c :: rest =>
    if stops.contains c then some ([], c :: rest)
    else if c ≠ '\\' then push [c] (until? stops endStops rest)
    else
      match rest with
      | '\n' :: rest => until? stops endStops rest
      | 'x' :: a :: b :: c :: d :: rest =>
        let digits := if a = '+' then [b, c, d] else [a, b, c, d]
        (Numeral.hexChar? digits).bind fun x => push [x] (until? stops endStops rest)
      | 'x' :: _ => none
      | e :: rest =>
        push (((escape? e).map fun x => [x]).getD ['\\', e]) (until? stops endStops rest)
      | [] => none

/-- Reads up to the end of the line. -/
def line? (cs : List Char) : Option (List Char × List Char) :=
  until? ['\n', '\x0d'] true cs

/-- Reads the value behind an equals sign or a colon. What follows its quotes belongs to it. -/
def value? (cs : List Char) : Option (List Char × List Char) :=
  match cs.dropWhile fun c => Text.isBlank c && c ≠ '\n' && c ≠ '\x0d' with
  | [] => some ([], [])
  | c :: rest =>
    if c = '"' ∨ c = '\'' then
      (until? [c] false rest).bind fun (text, rest) => push text (line? (rest.drop 1))
    else line? (c :: rest)

/-- An entry. -/
abbrev Entry := String × Node

/-- What has been read: the entries before the first header, the sections, and the key that waits
for its value. -/
structure State where
  general : List Entry := []
  sections : List (String × List Entry) := []
  key : String := ""

namespace State

/-- The state with an entry more in the last section. A later entry takes the place of an earlier
one. -/
def add (s : State) (key : String) (value : Node) : State :=
  match s.sections.getLast? with
  | none => { s with general := Node.setMember key value s.general }
  | some (name, entries) =>
    { s with sections := s.sections.dropLast ++ [(name, Node.setMember key value entries)] }

/-- The document. A later section takes the place of an earlier one. -/
def node (s : State) : Node :=
  .table (s.sections.foldl (fun ms (name, entries) => Node.setMember name (.table entries) ms)
    s.general)

/-- The text without blanks around it. -/
def trimmed (cs : List Char) : String :=
  String.ofList (Text.trimEnd (Text.trimStart cs))

/-- Reads what a character begins. `first` says that it is the first one of its line. -/
def step? (s : State) (first : Bool) : Char → List Char → Option (State × List Char)
  | c, rest =>
    if c = ';' ∨ c = '#' then
      if first then some (s, rest.dropWhile (· ≠ '\n')) else none
    else if c = '[' then
      (until? [']'] false rest).map fun (name, rest) =>
        ({ s with sections := s.sections ++ [(trimmed name, [])] }, rest.drop 1)
    else if c = '=' ∨ c = ':' then
      if s.key = "" then none
      else
        (value? rest).map fun (text, rest) =>
          ({ s.add s.key (.text (trimmed text)) with key := "" }, rest)
    else
      (until? ['=', ':'] false (c :: rest)).map fun (key, rest) =>
        ({ s with key := trimmed key }, rest)

/-- Reads to the end. `first` says that nothing of the line has been read. -/
def read? : Nat → State → Bool → List Char → Option State
  | 0, _, _, _ => none
  | fuel + 1, s, first, cs =>
    let blanks := cs.takeWhile Text.isBlank
    let first := match blanks.getLast? with
      | some c => c == '\n'
      | none => first
    match cs.dropWhile Text.isBlank with
    | [] => some s
    | c :: rest => (s.step? first c rest).bind fun (s, rest) => read? fuel s false rest

end State

/-- The document that a text spells. -/
def ofText? (s : String) : Option Node :=
  (State.read? (2 * s.length + 1) {} true s.toList).map State.node

end TokenLifecycle.Ini
