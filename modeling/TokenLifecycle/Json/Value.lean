import TokenLifecycle.Json.Doc

/-!
# JSON values

The values that documents denote: numbers are integers of 64 bits where they can be and
floating-point numbers otherwise, strings are texts, and of members with one name the last one
counts.
-/

namespace TokenLifecycle.Json

open Numeral (Binary64)

namespace Number

/-- Takes up the digits of a significand while it fits into 64 bits. Gives the significand and how
many digits are left over. -/
def takeDigits (significand : Nat) : Bytes → Nat × Nat
  | [] => (significand, 0)
  | b :: rest =>
    let grown := 10 * significand + (b.toNat - 48)
    if grown < Nat.pow 2 64 then takeDigits grown rest else (significand, rest.length + 1)

/-- The exponent that a number spells: its value while it fits into 32 bits. Otherwise how many of
its digits follow the one that makes it too large. -/
def exponentValue (magnitude : Nat) : Bytes → Nat ⊕ Nat
  | [] => .inl magnitude
  | b :: rest =>
    let grown := 10 * magnitude + (b.toNat - 48)
    if grown < Nat.pow 2 31 then exponentValue grown rest else .inr rest.length

/-- Multiplies by a power of ten with floating-point operations: one rounding for the power and one
for the product. An exponent beyond the range of powers is worked off by divisions. -/
def scale (x : Binary64) (exponent : Int) : Nat → Option Binary64
  | 0 => some x
  | fuel + 1 =>
    let power (e : Nat) : Binary64 := Binary64.ofNat (Nat.pow 10 e)
    if exponent.natAbs ≤ 308 then
      if 0 ≤ exponent then
        let y := x.scaleUp (power exponent.natAbs)
        if y.isFinite then some y else none
      else some (x.scaleDown (power exponent.natAbs))
    else if x.isZero then some x
    else if 0 ≤ exponent then none
    else scale (x.scaleDown (power 308)) (exponent + 308) fuel

/-- The significand and the decimal exponent of the digits: a significand of 64 bits takes what
fits, and later digits count only by their place. -/
def significand (n : Number) : Nat × Int :=
  let (whole, dropped) := takeDigits 0 n.whole
  let (m, ignored) := takeDigits whole n.fraction
  (m, (dropped : Int) - (n.fraction.length - ignored : Nat))

/-- The floating-point number that is read from the digits, or nothing when it is too large. -/
def real? (n : Number) : Option Binary64 := do
  let (m, e) := n.significand
  let magnitude ←
    match n.exponent with
    | none => scale (.ofNat m) e 4
    | some ⟨negative, digits⟩ =>
      match exponentValue 0 digits with
      | .inl x => scale (.ofNat m) (if negative then e - x else e + x) 4
      | .inr _ => if m ≠ 0 ∧ !negative then none else some (.ofNat 0)
  return if n.negative then magnitude.neg else magnitude

/-- How many digits of the number are unread when it turns out to be too large, or nothing when it
is within range. -/
def unread? (n : Number) : Option Nat :=
  if n.real?.isSome then none
  else
    match n.exponent with
    | some ⟨_, digits⟩ =>
      match exponentValue 0 digits with
      | .inl _ => some 0
      | .inr k => some k
    | none => some 0

end Number

/-- A JSON value. -/
inductive Value
  | null
  | bool (value : Bool)
  | integer (value : Int)
  | real (value : Binary64)
  | text (value : String)
  | array (items : List Value)
  | object (members : List (String × Value))

/-- The value of a number. -/
def Number.value? (n : Number) : Option Value :=
  let asReal := n.real?.map Value.real
  match n.fraction, n.exponent with
  | [], none =>
    match takeDigits 0 n.whole with
    | (m, 0) =>
      if n.negative then
        if m = 0 ∨ Nat.pow 2 63 < m then asReal else some (.integer (-(m : Int)))
      else some (.integer m)
    | _ => asReal
  | _, _ => asReal

/-- The members with `name` set to `v`; a new name goes to the end. -/
def setMember (name : String) (v : Value) : List (String × Value) → List (String × Value)
  | [] => [(name, v)]
  | (k, w) :: rest => if k = name then (k, v) :: rest else (k, w) :: setMember name v rest

mutual

/-- The value of a document whose containers are nested at most `depth` deep. -/
def Doc.value? (depth : Nat) : Doc → Option Value
  | .null => some .null
  | .bool b => some (.bool b)
  | .number n => n.value?
  | .string body => (Body.text? body).map .text
  | .array items =>
    match depth with
    | 0 => none
    | depth + 1 => (Doc.values? depth items).map .array
  | .object members =>
    match depth with
    | 0 => none
    | depth + 1 => (Doc.memberValues? depth members []).map .object

/-- The values of documents. -/
def Doc.values? (depth : Nat) : List Doc → Option (List Value)
  | [] => some []
  | d :: rest => do
    let v ← d.value? depth
    let vs ← Doc.values? depth rest
    return v :: vs

/-- The members `done` with those of an object added. -/
def Doc.memberValues? (depth : Nat) :
    List (Bytes × Doc) → List (String × Value) → Option (List (String × Value))
  | [], done => some done
  | (k, d) :: rest, done => do
    let name ← Body.text? k
    let v ← d.value? depth
    Doc.memberValues? depth rest (setMember name v done)

end

/-- A floating-point number as it is written: always with a fraction or an exponent, and
positionally when the leading digit stands between the fifth place behind the point and the
sixteenth before it. -/
def Number.ofReal (x : Binary64) : Number :=
  let s := x.shortest
  let ds : Bytes := (Numeral.digits s.digits).map fun c => UInt8.ofNat c.toNat
  let point : Int := ds.length + s.exponent
  let zeros (k : Nat) : Bytes := List.replicate k 48
  if 0 ≤ s.exponent ∧ point ≤ 16 then
    ⟨x.isNegative, ds ++ zeros s.exponent.toNat, [48], none⟩
  else if 0 < point ∧ point ≤ 16 then
    ⟨x.isNegative, ds.take point.toNat, ds.drop point.toNat, none⟩
  else if -5 < point ∧ point ≤ 0 then
    ⟨x.isNegative, [48], zeros (-point).toNat ++ ds, none⟩
  else
    let e := point - 1
    ⟨x.isNegative, ds.take 1, ds.drop 1,
      some ⟨e < 0, (Numeral.digits e.natAbs).map fun c => UInt8.ofNat c.toNat⟩⟩

mutual

/-- The document of a value. -/
def Value.doc : Value → Doc
  | .null => .null
  | .bool b => .bool b
  | .integer n => Doc.int n
  | .real x => if x.isFinite then .number (.ofReal x) else .null
  | .text s => Doc.text s
  | .array items => .array (Value.docs items)
  | .object members => .object (Value.memberDocs members)

/-- The documents of values. -/
def Value.docs : List Value → List Doc
  | [] => []
  | v :: rest => v.doc :: Value.docs rest

/-- The members of an object as documents. -/
def Value.memberDocs : List (String × Value) → List (Bytes × Doc)
  | [] => []
  | (k, v) :: rest => (Body.ofText k, v.doc) :: Value.memberDocs rest

end

end TokenLifecycle.Json
