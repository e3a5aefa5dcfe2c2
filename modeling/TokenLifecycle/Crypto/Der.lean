import TokenLifecycle.Crypto.Octets

/-!
# Distinguished encoding

The strict reading of encoded values, as keys have to be written: definite lengths in their
shortest form, and integers that are not negative and have no superfluous leading byte.
-/

namespace TokenLifecycle.Crypto.Der

/-- The length field: its value and the bytes behind it. -/
def length? : Bytes → Option (Nat × Bytes)
  | b :: rest =>
    if b < 128 then some (b.toNat, rest)
    else
      match b, rest with
      | 129, x :: rest => if 128 ≤ x.toNat then some (x.toNat, rest) else none
      | 130, x :: y :: rest =>
        let n := Octets.toNat [x, y]
        if 256 ≤ n then some (n, rest) else none
      | _, _ => none
  | [] => none

/-- The content of the value with the given tag at the beginning, and the bytes behind it. -/
def expect? (tag : UInt8) : Bytes → Option (Bytes × Bytes)
  | t :: rest =>
    if t = tag then do
      let (n, rest) ← length? rest
      if n ≤ rest.length then some (rest.take n, rest.drop n) else none
    else none
  | [] => none

/-- The content of the value with the given tag, when nothing stands behind it. -/
def only? (tag : UInt8) (bs : Bytes) : Option Bytes :=
  match expect? tag bs with
  | some (content, []) => some content
  | _ => none

/-- An integer that is not negative, by its bytes without a leading zero. -/
def natural? (bs : Bytes) : Option (Bytes × Bytes) :=
  match expect? 2 bs with
  | some ([0], rest) => some ([0], rest)
  | some (0 :: b :: content, rest) => if b < 128 then none else some (b :: content, rest)
  | some (b :: content, rest) => if b < 128 then some (b :: content, rest) else none
  | _ => none

/-- An integer below 256 that is not negative. -/
def small? (bs : Bytes) : Option (UInt8 × Bytes) :=
  match natural? bs with
  | some ([b], rest) => some (b, rest)
  | _ => none

/-- A sequence of integers that are not negative, read one after the other. -/
def naturals? : Nat → Bytes → Option (List Bytes × Bytes)
  | 0, bs => some ([], bs)
  | count + 1, bs => do
    let (n, bs) ← natural? bs
    let (ns, bs) ← naturals? count bs
    return (n :: ns, bs)

/-- The bytes of a bit string's content, of which no bit may be unused. -/
def wholeBytes? : Bytes → Option Bytes
  | 0 :: content => some content
  | _ => none

/-- A bit string of whole bytes. -/
def wholeBits? (bs : Bytes) : Option Bytes :=
  (only? 3 bs).bind wholeBytes?

end TokenLifecycle.Crypto.Der
