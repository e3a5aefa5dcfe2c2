import TokenLifecycle.Text.Utf8

/-!
# Base 64

Three bytes are written as four digits of six bits. There are two alphabets; tokens use the one for
addresses, without padding, and armoured keys the standard one, with padding. Only the canonical
form is read: unused bits have to be zero.
-/

namespace TokenLifecycle.Text.Base64

/-- An alphabet, given by its last two digits. The others are the letters and the ten numerals. -/
structure Alphabet where
  digit62 : UInt8
  digit63 : UInt8

/-- The alphabet with `+` and `/`. -/
def standard : Alphabet := ⟨43, 47⟩

/-- The alphabet with `-` and `_`. -/
def address : Alphabet := ⟨45, 95⟩

/-- The digit for a number below 64. -/
def Alphabet.digit (a : Alphabet) (n : Nat) : UInt8 :=
  if n < 26 then UInt8.ofNat (65 + n)
  else if n < 52 then UInt8.ofNat (71 + n)
  else if n < 62 then UInt8.ofNat (n - 4)
  else if n = 62 then a.digit62
  else a.digit63

/-- The number that a digit stands for. -/
def Alphabet.value? (a : Alphabet) (b : UInt8) : Option Nat :=
  if 65 ≤ b ∧ b ≤ 90 then some (b.toNat - 65)
  else if 97 ≤ b ∧ b ≤ 122 then some (b.toNat - 71)
  else if 48 ≤ b ∧ b ≤ 57 then some (b.toNat + 4)
  else if b = a.digit62 then some 62
  else if b = a.digit63 then some 63
  else none

/-- The digits of a string of bytes, without padding. -/
def encode (a : Alphabet) : Bytes → Bytes
  | [] => []
  | [x] => [a.digit (x.toNat / 4), a.digit (x.toNat % 4 * 16)]
  | [x, y] =>
    [a.digit (x.toNat / 4), a.digit (x.toNat % 4 * 16 + y.toNat / 16),
      a.digit (y.toNat % 16 * 4)]
  | x :: y :: z :: rest =>
    a.digit (x.toNat / 4) :: a.digit (x.toNat % 4 * 16 + y.toNat / 16) ::
      a.digit (y.toNat % 16 * 4 + z.toNat / 64) :: a.digit (z.toNat % 64) :: encode a rest

/-- The bytes that the digits stand for. -/
def decode? (a : Alphabet) : Bytes → Option Bytes
  | [] => some []
  | [_] => none
  | [p, q] => do
    let p ← a.value? p
    let q ← a.value? q
    if q % 16 = 0 then some [UInt8.ofNat (p * 4 + q / 16)] else none
  | [p, q, r] => do
    let p ← a.value? p
    let q ← a.value? q
    let r ← a.value? r
    if r % 4 = 0 then
      some [UInt8.ofNat (p * 4 + q / 16), UInt8.ofNat (q % 16 * 16 + r / 4)]
    else none
  | p :: q :: r :: s :: rest => do
    let p ← a.value? p
    let q ← a.value? q
    let r ← a.value? r
    let s ← a.value? s
    let rest ← decode? a rest
    return UInt8.ofNat (p * 4 + q / 16) :: UInt8.ofNat (q % 16 * 16 + r / 4) ::
      UInt8.ofNat (r % 4 * 64 + s) :: rest

/-- The bytes that digits with padding stand for: `=` fills the last group of four. -/
def decodePadded? (a : Alphabet) (digits : Bytes) : Option Bytes :=
  if digits.length % 4 ≠ 0 then none
  else
    match digits.reverse with
    | 61 :: 61 :: front => decode? a front.reverse
    | 61 :: front => decode? a front.reverse
    | _ => decode? a digits

end TokenLifecycle.Text.Base64
