import TokenLifecycle.Json.Record
import TokenLifecycle.Json.Value

/-!
# Registered claims

The claims that are checked before a token is accepted: expiry, issuer and audience. They are read
from the payload on their own. A member of the wrong kind counts as absent, as long as the reader
gets past it; where it does not, the payload is refused.
-/

namespace TokenLifecycle

open Json (Doc Number)

/-- What the checks need to know of a payload. -/
structure Registered where
  expiry : Option Nat
  issuer : Option String
  /-- The payload names an audience. -/
  hasAudience : Bool
  deriving DecidableEq, Repr

namespace Registered

/-- How the reader fares with a member that it tries to read. -/
inductive Attempt
  /-- It gets past the member. -/
  | past
  /-- It gives up at the end of the member. -/
  | faultAtEnd
  /-- It gives up within the member. -/
  | faultInside
  deriving DecidableEq, Repr

/-- The reader can go on behind the member. -/
def Attempt.canGoOn : Attempt → Bool
  | .faultInside => false
  | _ => true

/-- Trying a string. Ill-formed UTF-8 is noticed at its end. -/
def tryString (body : Bytes) : Attempt :=
  match Json.Body.read body with
  | .bytes bs => if (Text.ofBytes? bs).isSome then .past else .faultAtEnd
  | .faultAtEnd => .faultAtEnd
  | .faultInside => .faultInside

/-- Trying a number. One that is too large is noticed before or at its end. -/
def tryNumber (n : Number) : Attempt :=
  match n.unread? with
  | none => .past
  | some 0 => .faultAtEnd
  | some _ => .faultInside

/-- Trying a member of which only a text would count. -/
def tryText : Doc → Attempt
  | .null => .past
  | .bool _ => .faultAtEnd
  | .number n => if (tryNumber n).canGoOn then .faultAtEnd else .faultInside
  | .string body => tryString body
  | .array _ => .faultInside
  | .object _ => .faultInside

/-- Trying a member of which only a number would count. Empty containers are passed. -/
def tryTime : Doc → Attempt
  | .null => .past
  | .bool _ => .faultAtEnd
  | .number n => tryNumber n
  | .string body => if (tryString body).canGoOn then .faultAtEnd else .faultInside
  | .array items => if items.isEmpty then .faultAtEnd else .faultInside
  | .object members => if members.isEmpty then .faultAtEnd else .faultInside

mutual

/-- Trying a member of any kind, with containers nested at most `depth` deep. A fault in the last
item of a container is one at the container's end. -/
def tryAny (depth : Nat) : Doc → Attempt
  | .null => .past
  | .bool _ => .past
  | .number n => tryNumber n
  | .string body => tryString body
  | .array items =>
    match depth with
    | 0 => .faultInside
    | depth + 1 => tryItems depth items
  | .object members =>
    match depth with
    | 0 => .faultInside
    | depth + 1 => tryMembers depth members

/-- Trying the items of an array. -/
def tryItems (depth : Nat) : List Doc → Attempt
  | [] => .past
  | d :: rest =>
    match tryAny depth d with
    | .past => tryItems depth rest
    | .faultAtEnd => if rest.isEmpty then .faultAtEnd else .faultInside
    | .faultInside => .faultInside

/-- Trying the members of an object. -/
def tryMembers (depth : Nat) : List (Bytes × Doc) → Attempt
  | [] => .past
  | (k, d) :: rest =>
    match tryString k with
    | .past =>
      match tryAny depth d with
      | .past => tryMembers depth rest
      | .faultAtEnd => if rest.isEmpty then .faultAtEnd else .faultInside
      | .faultInside => .faultInside
    | _ => .faultInside

end

/-- The expiry, when it is a number from zero on. -/
def expiryOf (d : Doc) : Option Nat :=
  match d.int? with
  | some n => if 0 ≤ n ∧ n < 18446744073709551616 then some n.toNat else none
  | none => none

/-- An audience is a text or a list of texts. -/
def isAudience : Doc → Bool
  | .string _ => true
  | .array items => items.all fun d => d.text?.isSome
  | _ => false

/-- Reads the audience. -/
def audience? (d : Doc) : Option Bool :=
  match tryAny 126 d with
  | .past => some (isAudience d)
  | .faultAtEnd => some false
  | .faultInside => none

/-- The names of the members, in order. -/
def fieldNames : List String := ["exp", "nbf", "sub", "iss", "aud"]

/-- Reads the registered claims of a payload. A payload that is an array gives them in order, and
the last one must not be missing. -/
def ofDoc? (d : Doc) : Option Registered := do
  let f ← d.record? fieldNames
  let attempted (name : String) (try_ : Doc → Attempt) : Bool :=
    match f.get? name with
    | some d => (try_ d).canGoOn
    | none => true
  if !(attempted "exp" tryTime && attempted "nbf" tryTime && attempted "sub" tryText) then none
  let audience ←
    match f.get? "aud" with
    | some d => audience? d
    | none => if f.positional then none else some false
  return ⟨(f.get? "exp").bind expiryOf, (f.get? "iss").bind Doc.text?, audience⟩

end Registered

end TokenLifecycle
