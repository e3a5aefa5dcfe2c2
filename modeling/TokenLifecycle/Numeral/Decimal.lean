/-!
# Decimal numerals

How integers are written, and which texts are read as an integer: an optional sign and one or more
digits, with leading zeros allowed, within the range of the type that is asked for.
-/

namespace TokenLifecycle.Numeral

/-- The digits `0` to `9`. -/
def isDigit (c : Char) : Bool :=
  '0' ≤ c && c ≤ '9'

/-- The character of a digit below ten. -/
def digitChar (d : Nat) : Char :=
  Char.ofNat (48 + d)

/-- The value of a digit character. -/
def digitValue (c : Char) : Nat :=
  c.toNat - 48

/-- The decimal digits of a number, without leading zeros. -/
def digits (n : Nat) : List Char :=
  if n < 10 then [digitChar n] else digits (n / 10) ++ [digitChar (n % 10)]

/-- A number in decimal. -/
def ofNat (n : Nat) : String :=
  String.ofList (digits n)

/-- An integer in decimal, with a minus sign when it is negative. -/
def ofInt : Int → String
  | .ofNat n => ofNat n
  | .negSucc n => String.ofList ('-' :: digits (n + 1))

/-- The number that a string of digits stands for. -/
def value (cs : List Char) : Nat :=
  cs.foldl (fun n c => 10 * n + digitValue c) 0

/-- Reads one or more digits. -/
def nat? (cs : List Char) : Option Nat :=
  if cs.isEmpty || !cs.all isDigit then none else some (value cs)

/-- Reads an optional sign and one or more digits. -/
def int? (s : String) : Option Int :=
  match s.toList with
  | '+' :: cs => (nat? cs).map Int.ofNat
  | '-' :: cs => (nat? cs).map fun n => -(n : Int)
  | cs => (nat? cs).map Int.ofNat

/-- Reads an optional plus sign and one or more digits. -/
def unsigned? (s : String) : Option Nat :=
  match s.toList with
  | '+' :: cs => nat? cs
  | cs => nat? cs

/-- An integer as a signed 64-bit word, if it is one. -/
def toInt64? (n : Int) : Option Int64 :=
  if -9223372036854775808 ≤ n ∧ n < 9223372036854775808 then some (Int64.ofInt n) else none

/-- An integer as an unsigned 64-bit word, if it is one. -/
def toUInt64? (n : Int) : Option UInt64 :=
  if 0 ≤ n ∧ n < 18446744073709551616 then some (UInt64.ofNat n.toNat) else none

/-- An integer as an unsigned 32-bit word, if it is one. -/
def toUInt32? (n : Int) : Option UInt32 :=
  if 0 ≤ n ∧ n < 4294967296 then some (UInt32.ofNat n.toNat) else none

/-- An integer as an unsigned byte, if it is one. -/
def toUInt8? (n : Int) : Option UInt8 :=
  if 0 ≤ n ∧ n < 256 then some (UInt8.ofNat n.toNat) else none

/-- Reads a signed 64-bit word. -/
def int64? (s : String) : Option Int64 :=
  (int? s).bind toInt64?

/-- Reads an unsigned 64-bit word. -/
def uint64? (s : String) : Option UInt64 :=
  (unsigned? s).bind fun n => toUInt64? n

/-- Reads an unsigned 32-bit word. -/
def uint32? (s : String) : Option UInt32 :=
  (unsigned? s).bind fun n => toUInt32? n

/-- Reads an unsigned byte. -/
def uint8? (s : String) : Option UInt8 :=
  (unsigned? s).bind fun n => toUInt8? n

theorem toInt64?_toInt (n : Int64) : toInt64? n.toInt = some n := by
  have low := n.le_toInt
  have high := n.toInt_lt
  rw [toInt64?, if_pos ⟨low, high⟩, Int64.ofInt_toInt]

theorem toUInt64?_toNat (n : UInt64) : toUInt64? (n.toNat : Int) = some n := by
  have high := n.toNat_lt
  simp only [toUInt64?]
  rw [if_pos (by omega)]
  simp

end TokenLifecycle.Numeral
