import TokenLifecycle.Numeral.Decimal

/-!
# Hexadecimal numerals

Hexadecimal digits in either case, and the characters whose code points they spell.
-/

namespace TokenLifecycle.Numeral

/-- The value of a hexadecimal digit. -/
def hexDigit? (c : Char) : Option Nat :=
  if isDigit c then some (digitValue c)
  else if 'a' ≤ c ∧ c ≤ 'f' then some (c.toNat - 87)
  else if 'A' ≤ c ∧ c ≤ 'F' then some (c.toNat - 55)
  else none

/-- The number that hexadecimal digits spell. -/
def hexValue? (ds : List Char) : Option Nat :=
  (ds.mapM hexDigit?).map fun values => values.foldl (fun n d => 16 * n + d) 0

/-- The character of a code point. -/
def charOf? (n : Nat) : Option Char :=
  if n.isValidChar then some (Char.ofNat n) else none

/-- The character whose code point hexadecimal digits spell. -/
def hexChar? (ds : List Char) : Option Char :=
  (hexValue? ds).bind charOf?

end TokenLifecycle.Numeral
