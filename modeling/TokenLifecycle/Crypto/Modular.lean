/-!
# Arithmetic modulo a number

Operations on the residues `0` to `m - 1`.
-/

namespace TokenLifecycle.Crypto.Modular

/-- The power `base ^ exponent` modulo `m`, by squaring. -/
def pow (m base exponent : Nat) : Nat :=
  if exponent = 0 then 1 % m
  else
    let half := pow m (base * base % m) (exponent / 2)
    if exponent % 2 = 1 then base * half % m else half

/-- The difference of two residues. -/
def sub (m x y : Nat) : Nat :=
  (x + (m - y % m)) % m

/-- The inverse of a residue modulo a prime number. -/
def inverse (p x : Nat) : Nat :=
  pow p x (p - 2)

/-- The bits of a number, the most significant first. -/
def bits (n : Nat) : List Bool :=
  if n = 0 then [] else bits (n / 2) ++ [n % 2 == 1]

end TokenLifecycle.Crypto.Modular
