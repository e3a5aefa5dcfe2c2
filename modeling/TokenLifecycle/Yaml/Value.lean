import TokenLifecycle.Numeral.Binary64
import TokenLifecycle.Numeral.Hexadecimal
import TokenLifecycle.Yaml.Token

/-!
# YAML values

What the nodes of a document stand for. A plain text without a tag is a number, a truth value or
nothing if it looks like one.
-/

namespace TokenLifecycle.Yaml

open Numeral (Binary64)

/-- A value. -/
inductive Value
  | null
  | bool (value : Bool)
  | integer (value : Int64)
  /-- A number with its spelling. -/
  | real (text : String)
  | text (value : String)
  | sequence (items : List Value)
  | mapping (entries : List (Value × Value))
  /-- A value that is not what its tag says. -/
  | invalid

namespace Value

/-- The text is a decimal number, an infinity or no number. -/
def isReal (s : String) : Bool :=
  [".inf", ".Inf", ".INF", "+.inf", "+.Inf", "+.INF", "-.inf", "-.Inf", "-.INF", ".nan", "NaN",
    ".NAN"].contains s || (Binary64.ofText? s).isSome

/-- Reads an integer in a base, with an optional sign behind its mark. -/
def based? (base : Nat) (cs : List Char) : Option Int64 :=
  let (negative, digits) := match cs with
    | '-' :: rest => (true, rest)
    | '+' :: rest => (false, rest)
    | cs => (false, cs)
  match digits.mapM fun c => (Numeral.hexDigit? c).filter (· < base) with
  | some (d :: ds) =>
    let n : Nat := ds.foldl (fun n d => base * n + d) d
    Numeral.toInt64? (if negative then -(n : Int) else n)
  | _ => none

/-- The integer that a plain text spells. A plus sign may precede a sign. -/
def integer? (s : String) : Option Int64 :=
  let marked : Option Int64 := match s.toList with
    | '0' :: 'x' :: cs => based? 16 cs
    | '0' :: 'o' :: cs => based? 8 cs
    | '+' :: cs => Numeral.int64? (String.ofList cs)
    | _ => none
  marked.or (Numeral.int64? s)

/-- The value of a plain text without a tag. -/
def ofPlain (s : String) : Value :=
  match integer? s with
  | some n => .integer n
  | none =>
    if s = "~" ∨ s = "null" then .null
    else if s = "true" then .bool true
    else if s = "false" then .bool false
    else if isReal s then .real s
    else .text s

/-- The value of a plain text with a tag of the standard kinds. -/
def ofTagged (suffix s : String) : Value :=
  match suffix with
  | "bool" => if s = "true" then .bool true else if s = "false" then .bool false else .invalid
  | "int" => ((Numeral.int64? s).map .integer).getD .invalid
  | "float" => if isReal s then .real s else .invalid
  | "null" => if s = "~" ∨ s = "null" then .null else .invalid
  | _ => .text s

/-- The value of a text. -/
def ofScalar (isPlain : Bool) (tag : Option (String × String)) (s : String) : Value :=
  match isPlain, tag with
  | true, none => ofPlain s
  | true, some ("!!", suffix) => ofTagged suffix s
  | _, _ => .text s

/-- The two values are the same text or the same integer. -/
def isSameKey : Value → Value → Bool
  | .text a, .text b => a == b
  | .integer a, .integer b => a == b
  | _, _ => false

/-- The entries of the keys and values that alternate in a mapping. An invalid value where a key is
expected is passed over, and a later entry takes the place of an earlier one. -/
def entries : Option Value → List Value → List (Value × Value) → List (Value × Value)
  | _, [], done => done
  | none, .invalid :: rest, done => entries none rest done
  | none, k :: rest, done => entries (some k) rest done
  | some k, v :: rest, done =>
    entries none rest (done.filter (fun (other, _) => !isSameKey other k) ++ [(k, v)])

/-- The mapping of keys and values that alternate. -/
def ofPairs (parts : List Value) : Value :=
  .mapping (entries none parts [])

end Value

end TokenLifecycle.Yaml
