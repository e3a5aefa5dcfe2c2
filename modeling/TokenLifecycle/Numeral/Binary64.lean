import TokenLifecycle.Numeral.Decimal

/-!
# Binary floating-point numbers of 64 bits

A finite number is a sign, a significand below `2 ^ 53` and a power of two. Rounding goes to the
nearest number and a tie to the even significand; all of it is arithmetic on natural numbers. A
number is written with the fewest decimal digits that read back as the same number.
-/

namespace TokenLifecycle.Numeral

/-- A 64-bit binary floating-point number. -/
inductive Binary64
  /-- The number `significand * 2 ^ exponent`, negated when `negative` holds. -/
  | finite (negative : Bool) (significand : Nat) (exponent : Int)
  | infinite (negative : Bool)
  | nan
  deriving DecidableEq, Repr

namespace Binary64

/-- The quotient rounded to the nearest natural number, a tie to the even one. -/
def roundQuotient (num den : Nat) : Nat :=
  let q := num / den
  let twice := 2 * (num % den)
  if twice < den then q
  else if twice = den then q + q % 2
  else q + 1

/-- The quotient `num / (den * 2 ^ exponent)` as a fraction of natural numbers. -/
def scaled (num den : Nat) (exponent : Int) : Nat × Nat :=
  match exponent with
  | .ofNat e => (num, den * Nat.pow 2 e)
  | .negSucc e => (num * Nat.pow 2 (e + 1), den)

/-- The exponent of the grid on which `num / den` is rounded: the significand fills 53 bits, or the
exponent is the least one. -/
def gridExponent (num den : Nat) : Int :=
  let guess := max (-1074) ((num.log2 : Int) - den.log2 - 52)
  let (n, d) := scaled num den guess
  if n / d < Nat.pow 2 52 then max (-1074) (guess - 1) else guess

/-- The number nearest to `num / den`. -/
def ofRatio (negative : Bool) (num den : Nat) : Binary64 :=
  if num = 0 then .finite negative 0 (-1074)
  else
    let e := gridExponent num den
    let (n, d) := scaled num den e
    let m := roundQuotient n d
    let (m, e) := if m = Nat.pow 2 53 then (Nat.pow 2 52, e + 1) else (m, e)
    if e > 971 then .infinite negative else .finite negative m e

/-- The number nearest to a natural number. -/
def ofNat (n : Nat) : Binary64 :=
  ofRatio false n 1

/-- The number nearest to `significand * 10 ^ exponent`. -/
def ofDecimal (negative : Bool) (significand : Nat) (exponent : Int) : Binary64 :=
  match exponent with
  | .ofNat e => ofRatio negative (significand * Nat.pow 10 e) 1
  | .negSucc e => ofRatio negative significand (Nat.pow 10 (e + 1))

/-- The magnitude of a finite number as a fraction, and zero for the others. -/
def ratio : Binary64 → Nat × Nat
  | .finite _ m (.ofNat e) => (m * Nat.pow 2 e, 1)
  | .finite _ m (.negSucc e) => (m, Nat.pow 2 (e + 1))
  | _ => (0, 1)

/-- The number with the sign bit set. -/
def isNegative : Binary64 → Bool
  | .finite n _ _ => n
  | .infinite n => n
  | .nan => false

/-- Not an infinity and not a NaN. -/
def isFinite : Binary64 → Bool
  | .finite .. => true
  | _ => false

/-- The magnitude is zero. -/
def isZero : Binary64 → Bool
  | .finite _ m _ => m == 0
  | _ => false

/-- The number with the opposite sign. -/
def neg : Binary64 → Binary64
  | .finite n m e => .finite (!n) m e
  | .infinite n => .infinite (!n)
  | .nan => .nan

/-- The product of two finite magnitudes, rounded. -/
def scaleUp (x y : Binary64) : Binary64 :=
  let (a, b) := x.ratio
  let (c, d) := y.ratio
  ofRatio x.isNegative (a * c) (b * d)

/-- The quotient of two finite magnitudes, rounded. -/
def scaleDown (x y : Binary64) : Binary64 :=
  let (a, b) := x.ratio
  let (c, d) := y.ratio
  ofRatio x.isNegative (a * d) (b * c)

/-- The integer nearest to the number, a half away from zero; the bound for what lies beyond it,
and zero for a NaN. -/
def roundClamped (low high : Int) : Binary64 → Int
  | .nan => 0
  | .infinite n => if n then low else high
  | x@(.finite n _ _) =>
    let (num, den) := x.ratio
    let whole : Int := ((2 * num + den) / (2 * den) : Nat)
    max low (min high (if n then -whole else whole))

/-- A decimal with `digits` as its significant digits and `exponent` as the power of ten of the
last one. -/
structure Shortest where
  digits : Nat
  exponent : Int
  deriving Repr

/-- The decimal exponent of the leading digit of `num / den`. -/
def leadingExponent (num den : Nat) : Int :=
  if den ≤ num then ((digits (num / den)).length : Int) - 1
  else -((digits ((den - 1) / num)).length : Int)

/-- The two neighbours of a magnitude on the grid of multiples of `10 ^ exponent`, nearest first. -/
def neighbours (num den : Nat) (exponent : Int) : List Nat :=
  let (n, d) := match exponent with
    | .ofNat e => (num, den * Nat.pow 10 e)
    | .negSucc e => (num * Nat.pow 10 (e + 1), den)
  let low := n / d
  if 2 * (n % d) ≤ d then [low, low + 1] else [low + 1, low]

/-- The decimal of at most `budget` more digits that reads back as `x`, starting from `count`
digits. -/
def shortestFrom (x : Binary64) (budget count : Nat) : Shortest :=
  let (num, den) := x.ratio
  let e := leadingExponent num den - count + 1
  let near := neighbours num den e
  let best (d : Nat) : Bool := ofDecimal x.isNegative d e == x
  match near.find? best, budget with
  | some d, _ => ⟨d, e⟩
  | none, 0 => ⟨near.headD 0, e⟩
  | none, budget + 1 => shortestFrom x budget (count + 1)

/-- A decimal without trailing zeros among its digits. -/
def Shortest.trimmed (fuel : Nat) (s : Shortest) : Shortest :=
  match fuel with
  | 0 => s
  | fuel + 1 =>
    if s.digits ≠ 0 ∧ s.digits % 10 = 0 then trimmed fuel ⟨s.digits / 10, s.exponent + 1⟩ else s

/-- The decimal of the fewest digits that reads back as the finite number `x`. -/
def shortest (x : Binary64) : Shortest :=
  if x.isZero then ⟨0, 0⟩ else (shortestFrom x 17 1).trimmed 20

/-- A decimal in positional notation: digits, and a point only where the number is not whole. -/
def Shortest.positional (s : Shortest) : List Char :=
  let ds := Numeral.digits s.digits
  match s.exponent with
  | .ofNat e => if s.digits = 0 then ds else ds ++ List.replicate e '0'
  | .negSucc e =>
    let places := e + 1
    if places < ds.length then
      ds.take (ds.length - places) ++ '.' :: ds.drop (ds.length - places)
    else '0' :: '.' :: List.replicate (places - ds.length) '0' ++ ds

/-- The number in positional notation, as settings show it. -/
def positional : Binary64 → String
  | .nan => "NaN"
  | .infinite n => if n then "-inf" else "inf"
  | x => String.ofList ((if x.isNegative then ['-'] else []) ++ x.shortest.positional)

/-- The characters of a number in words, in any case. -/
private def word? (cs : List Char) : Option Binary64 :=
  match String.ofList (cs.map Char.toLower) with
  | "inf" => some (.infinite false)
  | "infinity" => some (.infinite false)
  | "nan" => some .nan
  | _ => none

/-- Reads the part of a decimal after its exponent mark. -/
private def exponent? : List Char → Option Int
  | '+' :: cs => (nat? cs).map Int.ofNat
  | '-' :: cs => (nat? cs).map fun n => -(n : Int)
  | cs => (nat? cs).map Int.ofNat

/-- Reads digits with at most one point among them and an optional exponent; one digit is
required. An exponent beyond a hundred thousand counts as that. -/
private def magnitude? (cs : List Char) : Option Binary64 :=
  let whole := cs.takeWhile isDigit
  let rest := cs.dropWhile isDigit
  let (fraction, rest) := match rest with
    | '.' :: r => (r.takeWhile isDigit, r.dropWhile isDigit)
    | r => ([], r)
  if whole.isEmpty && fraction.isEmpty then none
  else
    let significand := value (whole ++ fraction)
    let finish (e : Int) : Binary64 :=
      let e := max (-100000) (min 100000 e)
      if significand = 0 then ofRatio false 0 1
      else ofDecimal false significand (e - fraction.length)
    match rest with
    | [] => some (finish 0)
    | c :: r => if c = 'e' ∨ c = 'E' then (exponent? r).map finish else none

/-- Reads a number: an optional sign and a decimal, `inf`, `infinity` or `nan` in any case. -/
def ofText? (s : String) : Option Binary64 :=
  let unsignedPart (cs : List Char) : Option Binary64 := (word? cs).or (magnitude? cs)
  match s.toList with
  | '+' :: cs => unsignedPart cs
  | '-' :: cs => (unsignedPart cs).map neg
  | cs => unsignedPart cs

end Binary64

end TokenLifecycle.Numeral
