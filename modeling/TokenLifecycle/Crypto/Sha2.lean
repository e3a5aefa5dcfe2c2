import TokenLifecycle.Crypto.Octets

/-!
# The SHA-2 digests

Both word sizes share one description: a message is padded, cut into blocks of sixteen words, and
each block is mixed into a state of eight words. The constants are fractional parts of roots of the
first prime numbers.
-/

namespace TokenLifecycle.Crypto.Sha2

/-- The greatest number whose power `k` is at most `n`, among those that have the leading bits `r`
and further `bits` bits. -/
def root (k n : Nat) : Nat → Nat → Nat
  | 0, r => r
  | bits + 1, r =>
    root k n bits (if Nat.pow (r + Nat.pow 2 bits) k ≤ n then r + Nat.pow 2 bits else r)

/-- The first `count` prime numbers from `n` on, with `fuel` numbers to look at. -/
def primesFrom : Nat → Nat → Nat → List Nat
  | 0, _, _ => []
  | _, 0, _ => []
  | fuel + 1, count + 1, n =>
    if (List.range n).any fun d => 2 ≤ d && n % d == 0 then primesFrom fuel (count + 1) (n + 1)
    else n :: primesFrom fuel count (n + 1)

/-- The first `count` prime numbers. -/
def primes (count : Nat) : List Nat :=
  primesFrom 500 count 2

/-- The first `w` bits of the fractional part of the root of order `k`. -/
def rootFraction (w k n : Nat) : BitVec w :=
  BitVec.ofNat w (root k (n * Nat.pow 2 (k * w)) (w + 10) 0)

/-- What tells the word sizes apart. -/
structure Family (w : Nat) where
  /-- The rotations of the working words. -/
  sum0 : Nat × Nat × Nat
  sum1 : Nat × Nat × Nat
  /-- Two rotations and a shift that extend the message. -/
  extend0 : Nat × Nat × Nat
  extend1 : Nat × Nat × Nat
  roundConstants : List (BitVec w)

/-- Words of 32 bits. -/
def family32 : Family 32 where
  sum0 := (2, 13, 22)
  sum1 := (6, 11, 25)
  extend0 := (7, 18, 3)
  extend1 := (17, 19, 10)
  roundConstants := (primes 64).map (rootFraction 32 3)

/-- Words of 64 bits. -/
def family64 : Family 64 where
  sum0 := (28, 34, 39)
  sum1 := (14, 18, 41)
  extend0 := (1, 8, 7)
  extend1 := (19, 61, 6)
  roundConstants := (primes 80).map (rootFraction 64 3)

/-- The eight words that are worked on. -/
structure State (w : Nat) where
  a : BitVec w
  b : BitVec w
  c : BitVec w
  d : BitVec w
  e : BitVec w
  f : BitVec w
  g : BitVec w
  h : BitVec w

namespace State

variable {w : Nat}

/-- The state with the given words, the missing ones zero. -/
def ofList (ws : List (BitVec w)) : State w :=
  ⟨ws.getD 0 0, ws.getD 1 0, ws.getD 2 0, ws.getD 3 0, ws.getD 4 0, ws.getD 5 0, ws.getD 6 0,
    ws.getD 7 0⟩

/-- The words of the state. -/
def toList (s : State w) : List (BitVec w) :=
  [s.a, s.b, s.c, s.d, s.e, s.f, s.g, s.h]

/-- The sum of two states, word by word. -/
def add (s t : State w) : State w :=
  ⟨s.a + t.a, s.b + t.b, s.c + t.c, s.d + t.d, s.e + t.e, s.f + t.f, s.g + t.g, s.h + t.h⟩

end State

/-- The exclusive or of three rotations of a word. -/
def rotations {w : Nat} (x : BitVec w) (amounts : Nat × Nat × Nat) : BitVec w :=
  x.rotateRight amounts.1 ^^^ x.rotateRight amounts.2.1 ^^^ x.rotateRight amounts.2.2

/-- The exclusive or of two rotations and a shift of a word. -/
def rotationsAndShift {w : Nat} (x : BitVec w) (amounts : Nat × Nat × Nat) : BitVec w :=
  x.rotateRight amounts.1 ^^^ x.rotateRight amounts.2.1 ^^^ (x >>> amounts.2.2)

/-- One round, with a word of the extended message and a constant. -/
def round {w : Nat} (p : Family w) (s : State w) (word k : BitVec w) : State w :=
  let choice := (s.e &&& s.f) ^^^ (~~~s.e &&& s.g)
  let majority := (s.a &&& s.b) ^^^ (s.a &&& s.c) ^^^ (s.b &&& s.c)
  let t1 := s.h + rotations s.e p.sum1 + choice + k + word
  let t2 := rotations s.a p.sum0 + majority
  ⟨t1 + t2, s.a, s.b, s.c, s.d + t1, s.e, s.f, s.g⟩

/-- The word that follows sixteen words of the extended message. -/
def extend {w : Nat} (p : Family w) (window : List (BitVec w)) : BitVec w :=
  rotationsAndShift (window.getD 14 0) p.extend1 + window.getD 9 0 +
    rotationsAndShift (window.getD 1 0) p.extend0 + window.getD 0 0

/-- Mixes a block of sixteen words into the state. -/
def compress {w : Nat} (p : Family w) (s : State w) (block : List (BitVec w)) : State w :=
  let (mixed, _) := p.roundConstants.foldl
    (fun (t, window) k =>
      (round p t (window.getD 0 0) k, window.tail ++ [extend p window]))
    (s, block)
  s.add mixed

/-- The pieces of `size` bytes that a string consists of. -/
def pieces (size : Nat) : Nat → Bytes → List Bytes
  | 0, _ => []
  | fuel + 1, bs =>
    if bs.isEmpty then [] else bs.take size :: pieces size fuel (bs.drop size)

/-- The message with its end marked, filled up to whole blocks that end with its length in bits. -/
def padded (w : Nat) (message : Bytes) : Bytes :=
  let block := 2 * w
  let field := w / 4
  let used := (message.length + 1 + field) % block
  let zeros := if used = 0 then 0 else block - used
  message ++ 128 :: List.replicate zeros 0 ++ Octets.ofNat field (8 * message.length)

/-- The state after a whole message. -/
def process {w : Nat} (p : Family w) (start : State w) (message : Bytes) : State w :=
  let text := padded w message
  (pieces (2 * w) text.length text).foldl
    (fun s block =>
      compress p s ((pieces (w / 8) block.length block).map fun b =>
        BitVec.ofNat w (Octets.toNat b)))
    start

/-- The words of a state as bytes. -/
def State.bytes {w : Nat} (s : State w) : Bytes :=
  s.toList.flatMap fun x => Octets.ofNat (w / 8) x.toNat

/-- The first words of SHA-256. -/
def start256 : State 32 :=
  .ofList ((primes 8).map (rootFraction 32 2))

/-- The first words of SHA-384. -/
def start384 : State 64 :=
  .ofList (((primes 16).drop 8).map (rootFraction 64 2))

/-- The first words of SHA-512. -/
def start512 : State 64 :=
  .ofList ((primes 8).map (rootFraction 64 2))

/-- The SHA-256 digest. -/
def sha256 (message : Bytes) : Bytes :=
  (process family32 start256 message).bytes

/-- The SHA-384 digest. -/
def sha384 (message : Bytes) : Bytes :=
  (process family64 start384 message).bytes.take 48

/-- The SHA-512 digest. -/
def sha512 (message : Bytes) : Bytes :=
  (process family64 start512 message).bytes

end TokenLifecycle.Crypto.Sha2
