import TokenLifecycle.Config.Node
import TokenLifecycle.Toml.Moment
import TokenLifecycle.Toml.Number

/-!
# TOML documents

A document is a list of lines: pairs of a key and a value, and headers that say to which table the
following pairs belong. No key may be given twice. Dates and times become texts, and a table may be
a way to write one.
-/

namespace TokenLifecycle.Toml

open Config (Node)

/-- A table in the making. -/
inductive Tree
  | value (value : Node)
  /-- A value in quotes. -/
  | quoted (text : String)
  /-- A table by dotted keys. No header goes into it. -/
  | dotted (members : List (String × Tree))
  /-- A table by headers, `named` by one of its own or only on the way to others. -/
  | table (named : Bool) (members : List (String × Tree))
  /-- An array of tables by headers. -/
  | tables (items : List (List (String × Tree)))

namespace Tree

/-- The name of the first member of a table that stands for a date or a time. -/
def momentKey : String := "$__toml_private_datetime"

/-- The table stands for a date or a time, whatever further members it has. -/
def isMoment : List (String × Tree) → Bool
  | (k, _) :: _ => k == momentKey
  | [] => false

/-- The date or the time that a table stands for. -/
def moment? : List (String × Tree) → Option Node
  | (_, .quoted s) :: _ => (Moment.normalize? s).map .text
  | _ => none

mutual

/-- The value that a tree stands for. -/
def node? : Tree → Option Node
  | value n => some n
  | quoted s => some (.text s)
  | dotted ms => if isMoment ms then moment? ms else (nodes? ms).map .table
  | table _ ms => if isMoment ms then moment? ms else (nodes? ms).map .table
  | tables items => (itemNodes? items).map .array

/-- The values of members. -/
def nodes? : List (String × Tree) → Option (List (String × Node))
  | [] => some []
  | (k, t) :: rest => (t.node?).bind fun n => (nodes? rest).map fun ns => (k, n) :: ns

/-- The values of the items of an array of tables. -/
def itemNodes? : List (List (String × Tree)) → Option (List Node)
  | [] => some []
  | ms :: rest =>
    (if isMoment ms then moment? ms else (nodes? ms).map .table).bind fun n =>
      (itemNodes? rest).map fun ns => n :: ns

end

/-- The value of a table. -/
def tableNode? (ms : List (String × Tree)) : Option Node :=
  (dotted ms).node?

/-- The members with one of them replaced. -/
def replace (ms : List (String × Tree)) (key : String) (t : Tree) : List (String × Tree) :=
  ms.map fun (k, old) => if k = key then (k, t) else (k, old)

/-- Adds a value under a dotted key. A table that stands for a date takes no more members. -/
def add? (t : Tree) : List String → List (String × Tree) → Option (List (String × Tree))
  | [], _ => none
  | [k], ms =>
    if isMoment ms then some ms
    else if (ms.lookup k).isSome then none
    else some (ms ++ [(k, t)])
  | k :: keys, ms =>
    if isMoment ms then some ms
    else
      match ms.lookup k with
      | none => (add? t keys []).map fun inner => ms ++ [(k, .dotted inner)]
      | some (.dotted inner) => (add? t keys inner).map fun inner => replace ms k (.dotted inner)
      | some _ => none

/-- Changes the table that a header names. Of an array of tables it is the last one. -/
def within? (change : List (String × Tree) → Option (List (String × Tree))) :
    List String → List (String × Tree) → Option (List (String × Tree))
  | [], ms => change ms
  | k :: keys, ms =>
    match ms.lookup k with
    | some (.table named inner) =>
      (within? change keys inner).map fun inner => replace ms k (.table named inner)
    | some (.tables items) =>
      (within? change keys (items.getLastD [])).map fun inner =>
        replace ms k (.tables (items.dropLast ++ [inner]))
    | _ => none

/-- Opens the table of a header, which is an item of an array of tables if `array` holds. -/
def openTable? (array : Bool) : List String → List (String × Tree) → Option (List (String × Tree))
  | [], _ => none
  | [k], ms =>
    match ms.lookup k, array with
    | none, false => some (ms ++ [(k, .table true [])])
    | none, true => some (ms ++ [(k, .tables [[]])])
    | some (.table false inner), false => some (replace ms k (.table true inner))
    | some (.tables items), true => some (replace ms k (.tables (items ++ [[]])))
    | _, _ => none
  | k :: keys, ms =>
    let further (inner : List (String × Tree)) : Option (List (String × Tree)) :=
      if isMoment inner then none else openTable? array keys inner
    match ms.lookup k with
    | none => (openTable? array keys []).map fun inner => ms ++ [(k, .table false inner)]
    | some (.table named inner) =>
      (further inner).map fun inner => replace ms k (.table named inner)
    | some (.tables items) =>
      (further (items.getLastD [])).map fun inner =>
        replace ms k (.tables (items.dropLast ++ [inner]))
    | some _ => none

end Tree

/-! ### Values -/

/-- The tokens without blanks at the beginning. -/
def skipBlanks : List Token → List Token
  | .blanks _ :: ts => skipBlanks ts
  | ts => ts

/-- The tokens without blanks, comments and line ends at the beginning. -/
def skipLines : List Token → List Token
  | .blanks _ :: ts => skipLines ts
  | .comment :: ts => skipLines ts
  | .newline :: ts => skipLines ts
  | ts => ts

/-- Reads one part of a key. -/
def keyPart? : List Token → Option (String × List Token)
  | .word w :: ts => some (w, ts)
  | .string s false :: ts => some (s, ts)
  | _ => none

/-- Reads a key: parts with periods between them. -/
def key? : Nat → List Token → Option (List String × List Token)
  | 0, _ => none
  | fuel + 1, ts => do
    let (part, ts) ← keyPart? ts
    match skipBlanks ts with
    | .period :: ts =>
      let (parts, ts) ← key? fuel (skipBlanks ts)
      return (part :: parts, ts)
    | ts => return ([part], ts)

/-- Reads a number or a date that begins with a word. -/
def scalar? (w : String) (ts : List Token) : Option (Node × List Token) :=
  let text (r : Option (String × List Token)) : Option (Node × List Token) :=
    r.map fun (s, ts) => (.text s, ts)
  if Moment.begins w then text (Moment.ofWord? w ts)
  else
    match ts with
    | .colon :: _ => text (Moment.ofWord? w ts)
    | ts => number? w ts
where
  /-- Reads a number that begins with a word. -/
  number? (w : String) (ts : List Token) : Option (Node × List Token) :=
    (Number.ofWord? w ts).map fun (n, ts) =>
      match n with
      | .integer i => (.integer i, ts)
      | .real x => (.real x, ts)

/-- A value under a key, which the given tokens begin. -/
def leaf (ts : List Token) (n : Node) : Tree :=
  match skipBlanks ts with
  | .string s _ :: _ => .quoted s
  | _ => .value n

mutual

/-- Reads a value. -/
def value? : Nat → List Token → Option (Node × List Token)
  | 0, _ => none
  | fuel + 1, ts =>
    match ts with
    | .string s _ :: ts => some (.text s, ts)
    | .word w :: ts =>
      if w = "true" then some (.bool true, ts)
      else if w = "false" then some (.bool false, ts)
      else
        match w.toList with
        | c :: _ =>
          if w = "inf" ∨ w = "nan" ∨ c = '-' ∨ Numeral.isDigit c then scalar? w ts else none
        | [] => none
    | .plus :: .word w :: ts => scalar?.number? w ts
    | .openBracket :: ts => (items? fuel (skipLines ts)).map fun (xs, ts) => (.array xs, ts)
    | .openBrace :: ts =>
      match skipBlanks ts with
      | .closeBrace :: ts => some (.table [], ts)
      | ts =>
        (pairs? fuel ts []).bind fun (ms, ts) => (Tree.tableNode? ms).map fun n => (n, ts)
    | _ => none

/-- Reads the items of an array up to its closing bracket. -/
def items? : Nat → List Token → Option (List Node × List Token)
  | 0, _ => none
  | fuel + 1, ts =>
    match ts with
    | .closeBracket :: ts => some ([], ts)
    | ts => do
      let (n, ts) ← value? fuel ts
      match skipLines ts with
      | .comma :: ts =>
        let (ns, ts) ← items? fuel (skipLines ts)
        return (n :: ns, ts)
      | .closeBracket :: ts => return ([n], ts)
      | _ => none

/-- Reads the pairs of a table within a line, up to its closing brace. -/
def pairs? : Nat → List Token → List (String × Tree) → Option (List (String × Tree) × List Token)
  | 0, _, _ => none
  | fuel + 1, ts, done => do
    let (key, ts) ← key? fuel ts
    match skipBlanks ts with
    | .equals :: ts =>
      let (n, rest) ← value? fuel (skipBlanks ts)
      let done ← Tree.add? (leaf ts n) key done
      let ts := rest
      match skipBlanks ts with
      | .closeBrace :: ts => return (done, ts)
      | .comma :: ts => pairs? fuel (skipBlanks ts) done
      | _ => none
    | _ => none

end

/-! ### Lines -/

/-- The tokens behind the end of a line, which a comment may precede. -/
def lineEnd? (ts : List Token) : Option (List Token) :=
  match skipBlanks ts with
  | [] => some []
  | .newline :: ts => some ts
  | .comment :: [] => some []
  | .comment :: .newline :: ts => some ts
  | _ => none

/-- Reads a header behind its first bracket: whether it is one of an array, and its key. -/
def header? (fuel : Nat) (ts : List Token) : Option (Bool × List String × List Token) := do
  let (array, ts) := match ts with
    | .openBracket :: ts => (true, ts)
    | ts => (false, ts)
  let (key, ts) ← key? fuel (skipBlanks ts)
  match array, ts with
  | true, .closeBracket :: .closeBracket :: ts => return (array, key, ← lineEnd? ts)
  | false, .closeBracket :: ts => return (array, key, ← lineEnd? ts)
  | _, _ => none

/-- Reads lines into the tables so far; `here` is the key of the last header. -/
def lines? : Nat → List Token → List String → List (String × Tree) → Option (List (String × Tree))
  | 0, _, _, _ => none
  | fuel + 1, ts, here, root =>
    match skipLines ts with
    | [] => some root
    | .openBracket :: ts => do
      let (array, key, ts) ← header? fuel ts
      let root ← if Tree.isMoment root then some root else Tree.openTable? array key root
      lines? fuel ts key root
    | ts => do
      let (key, ts) ← key? fuel ts
      match skipBlanks ts with
      | .equals :: ts =>
        let (n, rest) ← value? fuel (skipBlanks ts)
        let root ←
          if Tree.isMoment root then some root
          else Tree.within? (Tree.add? (leaf ts n) key) here root
        lines? fuel (← lineEnd? rest) here root
      | _ => none

/-- The value of the document that a text spells. -/
def ofText? (s : String) : Option Node := do
  let ts ← scan? s
  Tree.tableNode? (← lines? (2 * ts.length + 2) ts [] [])

end TokenLifecycle.Toml
