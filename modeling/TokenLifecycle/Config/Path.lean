import TokenLifecycle.Config.Node

/-!
# Paths into settings

A path names a place in nested tables and arrays, as in `jwt.issuer` or `list[0].name`. A value is
set at a place by building the tables and arrays on the way to it. There is no place before the
first item of an array.
-/

namespace TokenLifecycle.Config

/-- One step of a path. -/
inductive Step
  | child (name : String)
  | item (index : Int)
  deriving DecidableEq, Repr

/-- A path: a name at the top and the steps from there. -/
structure Path where
  head : String
  steps : List Step
  deriving DecidableEq, Repr

namespace Path

/-! ### Reading -/

/-- The characters of names in paths. -/
def isNameChar (c : Char) : Bool :=
  c.isAlphanum || c = ' ' || c = '_' || c = '-'

/-- Splits off a name. -/
def name? (cs : List Char) : Option (String × List Char) :=
  let name := cs.takeWhile isNameChar
  if name.isEmpty then none else some (String.ofList name, cs.dropWhile isNameChar)

/-- Splits off an index behind its opening bracket. -/
def index? (cs : List Char) : Option (Int × List Char) :=
  let blank (c : Char) : Bool := c = ' ' || c = '\t'
  let (negative, cs) := match cs.dropWhile blank with
    | '-' :: r => (true, r)
    | r => (false, r)
  let digits := cs.takeWhile Numeral.isDigit
  match (cs.dropWhile Numeral.isDigit).dropWhile blank with
  | ']' :: rest =>
    let n : Nat := Numeral.value digits
    let index : Int := if negative then -(n : Int) else n
    if digits.isEmpty ∨ 9223372036854775808 ≤ index ∨ index < -9223372036854775808 then none
    else some (index, rest)
  | _ => none

/-- Reads steps until the end, at most `fuel` of them. -/
def steps? : Nat → List Char → Option (List Step)
  | _, [] => some []
  | fuel + 1, '.' :: cs => do
    let (name, rest) ← name? cs
    return .child name :: (← steps? fuel rest)
  | fuel + 1, '[' :: cs => do
    let (index, rest) ← index? cs
    return .item index :: (← steps? fuel rest)
  | _, _ => none

/-- Reads a path. -/
def ofText? (s : String) : Option Path := do
  let (head, rest) ← name? s.toList
  return ⟨head, ← steps? rest.length rest⟩

/-- The place that a key of a layer names. A key that is no path is a name itself. -/
def ofKey (key : String) : Path :=
  (ofText? key).getD ⟨key, []⟩

/-! ### Setting -/

/-- The number of items that an array has room for. -/
def maxItems : Nat := 16777216

/-- The place of an index among a number of items. A negative index counts from the end. -/
def position? (index : Int) (size : Nat) : Option Nat :=
  let i := if index < 0 then size + index else index
  if 0 ≤ i ∧ i < maxItems then some i.toNat else none

/-- The items with the one at an index changed by `f`. Absent items fill a gap before it. -/
def updateItem? (index : Int) (f : Node → Option Node) (xs : List Node) : Option (List Node) :=
  (position? index xs.length).bind fun i =>
    let filled := xs ++ List.replicate (i + 1 - xs.length) .absent
    (f (filled[i]?.getD .absent)).map fun n => filled.set i n

/-- The value below a place, reached by steps, becomes `upper` put over what is there; nothing where
an array has no such item. -/
def setBelow? (upper : Node) : List Step → Node → Option Node
  | [], n => some (n.overlay upper)
  | [.child k], n =>
    some (.table
      (Node.setMember k (((n.members.lookup k).getD (.table [])).overlay upper) n.members))
  | [.item i], n => (updateItem? i (fun _ => some upper) n.items).map .array
  | .child k :: rest, n =>
    (setBelow? upper rest ((n.members.lookup k).getD .absent)).map fun below =>
      .table (Node.setMember k below n.members)
  | .item i :: rest, n => (updateItem? i (setBelow? upper rest) n.items).map .array

/-- Settings with a value put over what is at a path. -/
def set? (p : Path) (upper : Node) (root : Node) : Option Node :=
  setBelow? upper (.child p.head :: p.steps) root

end Path

/-- Settings with the entries of a layer put over them, in order. -/
def Node.withLayer? (root : Node) (entries : List (String × Node)) : Option Node :=
  entries.foldlM (fun n (key, value) => (Path.ofKey key).set? value n) root

end TokenLifecycle.Config
