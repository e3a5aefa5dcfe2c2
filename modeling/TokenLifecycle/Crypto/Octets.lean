import TokenLifecycle.Text.Utf8

/-!
# Numbers as octets

Natural numbers as strings of bytes, the most significant byte first.
-/

namespace TokenLifecycle.Crypto.Octets

/-- The number that the bytes stand for. -/
def toNat (bs : Bytes) : Nat :=
  bs.foldl (fun n b => 256 * n + b.toNat) 0

/-- The last `length` bytes of a number, before the bytes `tail`. -/
def prepend : Nat → Nat → Bytes → Bytes
  | 0, _, tail => tail
  | length + 1, n, tail => prepend length (n / 256) (UInt8.ofNat (n % 256) :: tail)

/-- A number as `length` bytes. Higher digits are dropped. -/
def ofNat (length n : Nat) : Bytes :=
  prepend length n []

/-- A number as `length` bytes, the least significant byte first. -/
def ofNatReversed (length n : Nat) : Bytes :=
  (ofNat length n).reverse

/-- How many bits a number has. -/
def bitLength (n : Nat) : Nat :=
  if n = 0 then 0 else n.log2 + 1

/-- How many bytes hold a number. -/
def byteLength (n : Nat) : Nat :=
  (bitLength n + 7) / 8

/-- The bitwise exclusive or of two strings of one length. -/
def xor (xs ys : Bytes) : Bytes :=
  List.zipWith (· ^^^ ·) xs ys

end TokenLifecycle.Crypto.Octets
