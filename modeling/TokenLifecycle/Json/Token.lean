import TokenLifecycle.Text.Utf8
import TokenLifecycle.Numeral.Binary64

/-!
# JSON tokens

The words of a JSON text: brackets, marks, literals, numbers and strings. A string token keeps its
body as it is written; escapes are resolved, and the encoding is checked, only when the string is
read as a text. So a text that nobody reads may hold unpaired surrogates or ill-formed UTF-8.
-/

namespace TokenLifecycle.Json

/-- The exponent part of a number. -/
structure Exponent where
  negative : Bool
  digits : Bytes
  deriving DecidableEq, Repr

/-- A number as it is written. -/
structure Number where
  negative : Bool
  /-- The digits before the point. -/
  whole : Bytes
  /-- The digits after the point; none when there is no point. -/
  fraction : Bytes
  exponent : Option Exponent
  deriving DecidableEq, Repr

/-- A token. -/
inductive Token
  | openBrace | closeBrace | openBracket | closeBracket | comma | colon
  | null
  | bool (value : Bool)
  | number (number : Number)
  | string (body : Bytes)
  deriving DecidableEq, Repr

/-- The ASCII digits as bytes. -/
def isDigit (b : UInt8) : Bool :=
  48 ≤ b && b ≤ 57

/-- The bytes between tokens: space, tab, line feed and carriage return. -/
def isSpace (b : UInt8) : Bool :=
  b == 32 || b == 9 || b == 10 || b == 13

/-- The value of a hexadecimal digit. -/
def hexValue? (b : UInt8) : Option Nat :=
  if 48 ≤ b ∧ b ≤ 57 then some (b.toNat - 48)
  else if 97 ≤ b ∧ b ≤ 102 then some (b.toNat - 87)
  else if 65 ≤ b ∧ b ≤ 70 then some (b.toNat - 55)
  else none

/-- The value of four hexadecimal digits. -/
def hexQuad? (a b c d : UInt8) : Option Nat := do
  let a ← hexValue? a
  let b ← hexValue? b
  let c ← hexValue? c
  let d ← hexValue? d
  return ((a * 16 + b) * 16 + c) * 16 + d

/-- The byte that a one-letter escape stands for. -/
def simpleEscape? (b : UInt8) : Option UInt8 :=
  match b with
  | 34 => some 34
  | 92 => some 92
  | 47 => some 47
  | 98 => some 8
  | 102 => some 12
  | 110 => some 10
  | 114 => some 13
  | 116 => some 9
  | _ => none

/-- Splits the input after an opening quote into the body of the string and what follows the
closing quote. Escapes have to be well-formed, and control characters are refused. -/
def scanString : Bytes → Option (Bytes × Bytes)
  | [] => none
  | 34 :: rest => some ([], rest)
  | 92 :: 117 :: a :: b :: c :: d :: rest =>
    if (hexQuad? a b c d).isSome then
      (scanString rest).map fun (body, r) => (92 :: 117 :: a :: b :: c :: d :: body, r)
    else none
  | 92 :: e :: rest =>
    if (simpleEscape? e).isSome then
      (scanString rest).map fun (body, r) => (92 :: e :: body, r)
    else none
  | b :: rest =>
    if b < 32 ∨ b = 92 then none
    else (scanString rest).map fun (body, r) => (b :: body, r)

/-- Splits off the exponent of a number, if an exponent mark follows. -/
def scanExponent : Bytes → Option (Option Exponent × Bytes)
  | b :: rest =>
    if b = 101 ∨ b = 69 then
      let (negative, rest) := match rest with
        | 43 :: r => (false, r)
        | 45 :: r => (true, r)
        | r => (false, r)
      let digits := rest.takeWhile isDigit
      if digits.isEmpty then none else some (some ⟨negative, digits⟩, rest.dropWhile isDigit)
    else some (none, b :: rest)
  | [] => some (none, [])

/-- Splits off the fraction of a number, if a point follows. -/
def scanFraction : Bytes → Option (Bytes × Bytes)
  | 46 :: rest =>
    let digits := rest.takeWhile isDigit
    if digits.isEmpty then none else some (digits, rest.dropWhile isDigit)
  | rest => some ([], rest)

/-- Splits off a number. It begins with one digit `0`, or with digits that do not begin so. -/
def scanNumber (input : Bytes) : Option (Number × Bytes) := do
  let (negative, rest) := match input with
    | 45 :: r => (true, r)
    | r => (false, r)
  let whole := match rest with
    | 48 :: _ => [48]
    | r => r.takeWhile isDigit
  if whole.isEmpty then none
  let (fraction, rest) ← scanFraction (rest.drop whole.length)
  let (exponent, rest) ← scanExponent rest
  return (⟨negative, whole, fraction, exponent⟩, rest)

/-- Splits off one token. -/
def scanToken : Bytes → Option (Token × Bytes)
  | 123 :: rest => some (.openBrace, rest)
  | 125 :: rest => some (.closeBrace, rest)
  | 91 :: rest => some (.openBracket, rest)
  | 93 :: rest => some (.closeBracket, rest)
  | 44 :: rest => some (.comma, rest)
  | 58 :: rest => some (.colon, rest)
  | 110 :: 117 :: 108 :: 108 :: rest => some (.null, rest)
  | 116 :: 114 :: 117 :: 101 :: rest => some (.bool true, rest)
  | 102 :: 97 :: 108 :: 115 :: 101 :: rest => some (.bool false, rest)
  | 34 :: rest => (scanString rest).map fun (body, r) => (.string body, r)
  | input => (scanNumber input).map fun (n, r) => (.number n, r)

/-- Splits the input into at most `fuel` tokens and spaces, in reverse before `done`. -/
def scanFrom : Nat → Bytes → List Token → Option (List Token)
  | _, [], done => some done.reverse
  | 0, _ :: _, _ => none
  | fuel + 1, b :: rest, done =>
    if isSpace b then scanFrom fuel rest done
    else (scanToken (b :: rest)).bind fun (t, r) => scanFrom fuel r (t :: done)

/-- Splits the input into tokens. -/
def scan (input : Bytes) : Option (List Token) :=
  scanFrom input.length input []

/-- The bytes of a number. -/
def Number.bytes (n : Number) : Bytes :=
  (if n.negative then [45] else []) ++ n.whole ++
    (if n.fraction.isEmpty then [] else 46 :: n.fraction) ++
    (match n.exponent with
      | none => []
      | some e => 101 :: (if e.negative then 45 :: e.digits else e.digits))

/-- The bytes of a token. -/
def Token.bytes : Token → Bytes
  | .openBrace => [123]
  | .closeBrace => [125]
  | .openBracket => [91]
  | .closeBracket => [93]
  | .comma => [44]
  | .colon => [58]
  | .null => [110, 117, 108, 108]
  | .bool true => [116, 114, 117, 101]
  | .bool false => [102, 97, 108, 115, 101]
  | .number n => n.bytes
  | .string body => 34 :: body ++ [34]

end TokenLifecycle.Json
