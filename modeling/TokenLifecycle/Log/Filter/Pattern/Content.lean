import TokenLifecycle.Log.Filter.Pattern.Atom

/-!
# Sets of characters

Reads what stands between brackets: characters, ranges, named kinds of characters, brackets inside
of brackets, and the operators between two contents.
-/

namespace TokenLifecycle.Log.Pattern

namespace Content

/-- The names of kinds of characters. -/
def names : List String :=
  ["alnum", "alpha", "ascii", "blank", "cntrl", "digit", "graph", "lower", "print", "punct",
    "space", "upper", "word", "xdigit"]

/-- Reads a kind of characters behind its opening bracket: a name between colons, with a circumflex
before it for all others. -/
def named? : List Char → Option (Content × List Char)
  | ':' :: rest =>
    let (negated, rest) := match rest with
      | '^' :: rest => (true, rest)
      | rest => (false, rest)
    match rest.dropWhile (· != ':') with
    | ':' :: ']' :: after =>
      if names.contains (String.ofList (rest.takeWhile (· != ':'))) then
        some (.named negated, after)
      else none
    | _ => none
  | _ => none

/-- What surrounds the parts that are being read. -/
inductive Frame
  /-- A bracket with the parts before it, the last part first. -/
  | bracket (negated : Bool) (before : List Content)
  /-- An operator behind its left side. -/
  | operator (left : Content)

/-- The parts that have been read, the last one first, as the right side of the operators before
them. -/
def close (frames : List Frame) (parts : List Content) : List Frame × Content :=
  let content := Content.ofList parts.reverse
  match frames with
  | .operator left :: frames => (frames, .operation left content)
  | frames => (frames, content)

/-- Reads what follows an opening bracket: a circumflex, and hyphens or else a bracket that stand
for themselves. -/
def opening? (spaced : Bool) (cs : List Char) : Option (Bool × List Content × List Char) :=
  let (negated, cs) := match skip spaced cs with
    | '^' :: rest => (true, skip spaced rest)
    | cs => (false, cs)
  let rec hyphens : Nat → List Char → List Content → List Content × List Char
    | n + 1, '-' :: rest, parts => hyphens n (skip spaced rest) (.literal ⟨'-', false⟩ :: parts)
    | _, cs, parts => (parts, cs)
  match hyphens cs.length cs [] with
  | (_, []) => none
  | ([], ']' :: rest) => some (negated, [.literal ⟨']', false⟩], skip spaced rest)
  | (parts, rest) => some (negated, parts, rest)

/-- Reads an end of a range, or what stands alone. -/
def item? (spaced : Bool) : List Char → Option (Atom × List Char)
  | [] => none
  | '\\' :: rest => escape? spaced rest
  | c :: rest => some (.literal ⟨c, false⟩, rest)

/-- What the next character behind a hyphen is taken for. -/
def next? (spaced : Bool) (cs : List Char) : Option Char :=
  if spaced then
    match cs.dropWhile Text.isBlank with
    | '#' :: rest => (rest.dropWhile Text.isBlank).head?
    | cs => cs.head?
  else cs.head?

/-- Reads a range or a single part. A hyphen before a closing bracket or before another hyphen makes
no range. -/
def part? (spaced : Bool) (cs : List Char) : Option (Content × List Char) :=
  (item? spaced cs).bind fun (low, rest) =>
    let single (rest : List Char) : Option (Content × List Char) :=
      match low with
      | .literal l => some (.literal l, rest)
      | .shorthand negated => some (.shorthand negated, rest)
      | .property => some (.property, rest)
      | _ => none
    match skip spaced rest with
    | [] => none
    | '-' :: rest =>
      if next? spaced rest = some ']' ∨ next? spaced rest = some '-' then single ('-' :: rest)
      else
        (item? spaced (skip spaced rest)).bind fun (high, rest) =>
          match low, high with
          | .literal l, .literal h => if l.char ≤ h.char then some (.range l h, rest) else none
          | _, _ => none
    | rest => single rest

/-- Reads the parts of a content up to the bracket that closes the outermost one. The last argument
holds the parts so far, the last one first. -/
def read? (spaced : Bool) :
    Nat → List Char → List Frame → List Content → Option (Expression × List Char)
  | 0, _, _, _ => none
  | fuel + 1, cs, frames, parts =>
    let operator (rest : List Char) : Option (Expression × List Char) :=
      let (frames, left) := close frames parts
      read? spaced fuel rest (.operator left :: frames) []
    match skip spaced cs with
    | [] => none
    | '[' :: rest =>
      match named? rest with
      | some (part, rest) => read? spaced fuel rest frames (part :: parts)
      | none =>
        (opening? spaced rest).bind fun (negated, inner, rest) =>
          read? spaced fuel rest (.bracket negated parts :: frames) inner
    | ']' :: rest =>
      match close frames parts with
      | ([.bracket negated _], content) => some (.oneOf negated content, rest)
      | (.bracket negated before :: frames, content) =>
        read? spaced fuel rest frames (.bracketed negated content :: before)
      | _ => none
    | '&' :: '&' :: rest => operator rest
    | '-' :: '-' :: rest => operator rest
    | '~' :: '~' :: rest => operator rest
    | cs => (part? spaced cs).bind fun (part, rest) => read? spaced fuel rest frames (part :: parts)

end Content

/-- Reads a set of characters behind its opening bracket. -/
def oneOf? (spaced : Bool) (cs : List Char) : Option (Expression × List Char) :=
  (Content.opening? spaced cs).bind fun (negated, parts, rest) =>
    Content.read? spaced (rest.length + 1) rest [.bracket negated []] parts

end TokenLifecycle.Log.Pattern
