import TokenLifecycle.Crypto.Octets

/-!
# Encoded trees

The lenient reading of an encoded value as a tree. It serves to find out which kind of key a value
holds: lengths may be written in any form, and values that say nothing about the kind of key are
only checked.
-/

namespace TokenLifecycle.Crypto

/-- A part of an encoded value. -/
inductive Asn1
  | sequence (parts : List Asn1)
  | objectIdentifier (arcs : List Nat)
  | bitString (content : Bytes)
  | octetString (content : Bytes)
  /-- Any other value. -/
  | other

namespace Asn1

/-- A number in groups of seven bits, and the bytes behind it. -/
def groups? (acc : Nat) : Bytes → Option (Nat × Bytes)
  | [] => none
  | b :: rest =>
    let acc := acc * 128 + b.toNat % 128
    if b < 128 then some (acc, rest) else groups? acc rest

/-- The tag: its class, whether it is constructed, its number, and the bytes behind it. -/
def tag? : Bytes → Option (Nat × Bool × Nat × Bytes)
  | [] => none
  | b :: rest =>
    let kind := b.toNat / 64
    let constructed := b.toNat / 32 % 2 == 1
    if b.toNat % 32 = 31 then (groups? 0 rest).map fun (n, r) => (kind, constructed, n, r)
    else some (kind, constructed, b.toNat % 32, rest)

/-- The length field, of at most eight further bytes, and the bytes behind it. -/
def length? : Bytes → Option (Nat × Bytes)
  | [] => none
  | b :: rest =>
    if b < 128 then some (b.toNat, rest)
    else
      let count := b.toNat % 128
      if count ≤ 8 ∧ count ≤ rest.length then
        some (Octets.toNat (rest.take count), rest.drop count)
      else none

/-- The numbers in groups of seven bits that the bytes consist of. -/
def arcsFrom? : Nat → Bytes → Option (List Nat)
  | _, [] => some []
  | 0, _ => none
  | fuel + 1, bs => do
    let (n, rest) ← groups? 0 bs
    return n :: (← arcsFrom? fuel rest)

/-- The arcs of an object identifier. The first byte holds two of them. -/
def arcs? : Bytes → Option (List Nat)
  | [] => none
  | b :: rest => do
    let n := b.toNat
    let front := if n < 40 then [0, n] else if n < 80 then [1, n - 40] else [2, n - 80]
    return front ++ (← arcsFrom? rest.length rest)

/-- The bytes stand for characters that printable strings may hold. -/
def isPrintable (bs : Bytes) : Bool :=
  bs.all fun b =>
    (65 ≤ b && b ≤ 90) || (97 ≤ b && b ≤ 122) || (48 ≤ b && b ≤ 57) ||
      (Text.ascii " '()+,-./:=?").contains b

/-- The number of days in a month. -/
def daysIn (year : Int) (month : Nat) : Nat :=
  if month = 2 then
    if year % 4 = 0 ∧ (year % 100 ≠ 0 ∨ year % 400 = 0) then 29 else 28
  else if month = 4 ∨ month = 6 ∨ month = 9 ∨ month = 11 then 30
  else 31

/-- The number that decimal digits spell. -/
def decimal? (bs : Bytes) : Option Nat :=
  if bs.isEmpty || !(bs.all fun b => 48 ≤ b && b ≤ 57) then none
  else some (bs.foldl (fun n b => 10 * n + (b.toNat - 48)) 0)

/-- The bytes spell a date and a time of day: month, day, hour, minute and second of two digits
each. -/
def isMoment (year : Int) (bs : Bytes) : Bool :=
  match (pairs bs).map decimal? with
  | [some month, some day, some hour, some minute, some second] =>
    1 ≤ month && month ≤ 12 && 1 ≤ day && day ≤ daysIn year month && hour < 24 && minute < 60 &&
      second < 60
  | _ => false
where
  /-- The bytes two by two. -/
  pairs : Bytes → List Bytes
    | a :: b :: rest => [a, b] :: pairs rest
    | [] => []
    | rest => [rest]

/-- A short date: a year of two digits, from 1950 on, and a final `Z`. -/
def isShortDate (bs : Bytes) : Bool :=
  match decimal? (bs.take 2) with
  | some y =>
    bs.length == 13 && bs.getLast? == some 90 &&
      isMoment (if 50 ≤ y then 1900 + y else 2000 + y) ((bs.drop 2).dropLast)
  | none => false

/-- A long date: a year of four digits with an optional sign, a final `Z`, and possibly a fraction
of the second of up to nine digits. Zeros before its last character fill up a short text. -/
def isLongDate (bs : Bytes) : Bool :=
  let pointed := if bs.contains 46 then bs else bs.take 14 ++ 46 :: bs.drop 14
  let filled :=
    pointed.dropLast ++ List.replicate (25 - pointed.length) 48 ++ pointed.drop (pointed.length - 1)
  let (sign, rest) : Int × Bytes := match filled with
    | 43 :: rest => (1, rest)
    | 45 :: rest => (-1, rest)
    | rest => (1, rest)
  15 ≤ bs.length && rest.getLast? == some 90 &&
    (match decimal? (rest.take 4), (rest.drop 14).dropLast with
      | some y, 46 :: fraction =>
        isMoment (sign * y) ((rest.drop 4).take 10) && 1 ≤ fraction.length &&
          fraction.length ≤ 9 && fraction.all fun b => 48 ≤ b && b ≤ 57
      | _, _ => false)

/-- A value of a universal type without parts, unless its content is not one of that type. -/
def scalar? (number : Nat) (content : Bytes) : Option Asn1 :=
  let check (ok : Bool) : Option Asn1 := if ok then some .other else none
  match number with
  | 1 => check (content.length == 1)
  | 3 =>
    match content with
    | [] => some (.bitString [])
    | unused :: bits => if unused.toNat ≤ 8 * bits.length then some (.bitString bits) else none
  | 4 => some (.octetString content)
  | 6 => (arcs? content).map .objectIdentifier
  | 12 => check (Text.ofBytes? content).isSome
  | 19 => check (isPrintable content)
  | 20 => check (Text.ofBytes? content).isSome
  | 23 => check (isShortDate content)
  | 24 => check (isLongDate content)
  | 28 => check (Text.ofBytes? content).isSome
  | 30 => check (Text.ofBytes? content).isSome
  | _ => some .other

/-- The parts that the bytes consist of: one at least. Sequences and sets are read to the bottom;
`fuel` bounds the number of values on the way. -/
def partsFrom? : Nat → Bytes → Option (List Asn1)
  | 0, _ => none
  | _, [] => none
  | fuel + 1, bs => do
    let (kind, _, number, rest) ← tag? bs
    let (n, rest) ← length? rest
    if rest.length < n then none
    let content := rest.take n
    let part ←
      if kind ≠ 0 then some .other
      else if number = 16 then (partsFrom? fuel content).map .sequence
      else if number = 17 then (partsFrom? fuel content).map fun _ => .other
      else scalar? number content
    let rest := rest.drop n
    if rest.isEmpty then return [part]
    return part :: (← partsFrom? fuel rest)

/-- The parts that the bytes consist of. -/
def parts? (bs : Bytes) : Option (List Asn1) :=
  partsFrom? (bs.length + 1) bs

mutual

/-- The first object identifier within sequences for which `find` gives something. -/
def firstIdentifier? {α : Type} (find : List Nat → Option α) : Asn1 → Option α
  | .objectIdentifier arcs => find arcs
  | .sequence parts => firstIdentifierOf? find parts
  | _ => none

/-- The same among several parts. -/
def firstIdentifierOf? {α : Type} (find : List Nat → Option α) : List Asn1 → Option α
  | [] => none
  | part :: rest => (firstIdentifier? find part).or (firstIdentifierOf? find rest)

end

mutual

/-- The content of the first bit string or octet string within sequences. -/
def firstContent? : Asn1 → Option Bytes
  | .bitString content => some content
  | .octetString content => some content
  | .sequence parts => firstContentOf? parts
  | _ => none

/-- The same among several parts. -/
def firstContentOf? : List Asn1 → Option Bytes
  | [] => none
  | part :: rest => (firstContent? part).or (firstContentOf? rest)

end

end Asn1

end TokenLifecycle.Crypto
