import TokenLifecycle.Config.Source
import TokenLifecycle.Numeral.Binary64
import TokenLifecycle.Text.LetterCase

/-!
# Merged settings

The values that the layers of a configuration hold, how a layer is put over another, and how a value
is read as a setting. Reading is lenient: a text may stand for a number, and a number for a truth
value.
-/

namespace TokenLifecycle.Config

open Numeral (Binary64)

/-- A value in a layer. -/
inductive Node
  | absent
  | bool (value : Bool)
  | integer (value : Int64)
  | real (value : Binary64)
  | text (value : String)
  | array (items : List Node)
  | table (members : List (String × Node))

namespace Node

/-- The members of a table. -/
def members : Node → List (String × Node)
  | table ms => ms
  | _ => []

/-- The items of an array. -/
def items : Node → List Node
  | array xs => xs
  | _ => []

/-- The members with one of them replaced, or added at the end. -/
def setMember (name : String) (n : Node) : List (String × Node) → List (String × Node)
  | [] => [(name, n)]
  | (k, m) :: rest => if k = name then (k, n) :: rest else (k, m) :: setMember name n rest

mutual

/-- What is at a place when `upper` is put over `lower` there: a table is merged into what is below
it, everything else replaces it. -/
def overlay (lower upper : Node) : Node :=
  match upper with
  | .table [] => lower
  | .table (m :: ms) => .table (overlayMembers lower.members (m :: ms))
  | n => n

/-- The members of a table with those of another one put over them. -/
def overlayMembers (lower : List (String × Node)) : List (String × Node) → List (String × Node)
  | [] => lower
  | (k, n) :: rest =>
    overlayMembers (setMember k (overlay ((lower.lookup k).getD (.table [])) n) lower) rest

end

/-! ### Reading -/

/-- A word that stands for a truth value, in any case. -/
def truthWord? (s : String) : Option Bool :=
  let word := Text.lowercase s
  if word = "true" ∨ word = "on" ∨ word = "yes" then some true
  else if word = "false" ∨ word = "off" ∨ word = "no" then some false
  else none

/-- A signed integer. A floating-point number is rounded, and the bounds stand for what lies beyond
them. -/
def int? : Node → Option Int
  | bool b => some (if b then 1 else 0)
  | integer n => some n.toInt
  | real x => some (x.roundClamped (-9223372036854775808) 9223372036854775807)
  | text s =>
    match truthWord? s with
    | some b => some (if b then 1 else 0)
    | none => (Numeral.int64? s).map (·.toInt)
  | _ => none

/-- An unsigned integer. -/
def nat? : Node → Option Nat
  | bool b => some (if b then 1 else 0)
  | integer n => if 0 ≤ n.toInt then some n.toInt.toNat else none
  | real x => some (x.roundClamped 0 18446744073709551615).toNat
  | text s =>
    match truthWord? s with
    | some b => some (if b then 1 else 0)
    | none => (Numeral.uint64? s).map (·.toNat)
  | _ => none

/-- A truth value. A number is true unless it is zero. -/
def bool? : Node → Option Bool
  | bool b => some b
  | integer n => some (n ≠ 0)
  | real x => some !x.isZero
  | text s => if s = "1" then some true else if s = "0" then some false else truthWord? s
  | _ => none

/-- A text. Numbers and truth values are written out. -/
def text? : Node → Option String
  | bool b => some (if b then "true" else "false")
  | integer n => some (Numeral.ofInt n.toInt)
  | real x => some x.positional
  | text s => some s
  | _ => none

/-- A record: a table, or an array of the fields in order, which may be longer than needed. -/
def record? (names : List String) : Node → Option (Record Node)
  | table ms => some ⟨ms.filter fun (k, _) => names.contains k, false⟩
  | array xs => some ⟨names.zip xs, true⟩
  | _ => none

/-- The name of a variant: a text, or the name of a table's only member. -/
def variantName? : Node → Option String
  | text s => some s
  | table [(k, _)] => some k
  | _ => none

/-- Merged settings as a source. An unsigned integer is cut to the width of its setting. -/
def source : Source Node where
  record? := record?
  isNull n := match n with
    | absent => true
    | _ => false
  text? := text?
  bool? := bool?
  int64? n := n.int?.map Int64.ofInt
  uint64? n := n.nat?.map UInt64.ofNat
  uint32? n := n.nat?.map UInt32.ofNat
  uint8? n := n.nat?.map UInt8.ofNat
  variantName? := variantName?

end Node

end TokenLifecycle.Config
