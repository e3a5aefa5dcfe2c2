import TokenLifecycle.Crypto.Octets

/-!
# Token identifiers

Identifiers of 122 random bits in the form of five hyphenated groups of hexadecimal digits, where
two digits state the version and the variant of the form.
-/

namespace TokenLifecycle.Identifier

/-- The last `count` hexadecimal digits of a number. -/
def hex : Nat → Nat → List Char
  | 0, _ => []
  | count + 1, n => hex count (n / 16) ++ [Nat.digitChar (n % 16)]

/-- The identifier with the given random number. -/
def ofRandom (n : Nat) : String :=
  let field (shift count : Nat) : List Char := hex count (n / Nat.pow 2 shift)
  String.ofList
    (field 96 8 ++ '-' :: field 80 4 ++ '-' :: '4' :: field 64 3 ++
      '-' :: Nat.digitChar (8 + n / Nat.pow 2 60 % 4) :: field 48 3 ++ '-' :: field 0 12)

/-- A hexadecimal digit, in lower case. -/
def isHexDigit (c : Char) : Bool :=
  ('0' ≤ c && c ≤ '9') || ('a' ≤ c && c ≤ 'f')

/-- The text has the form of an identifier, with the digits for random bits and the variant that go
with it. -/
def isIdentifier (s : String) : Bool :=
  match s.toList.splitOn '-' with
  | [a, b, c, d, e] =>
    [a, b, c, d, e].map List.length == [8, 4, 4, 4, 12] &&
      [a, b, c, d, e].all (fun group => group.all isHexDigit) &&
      c.head? == some '4' && ['8', '9', 'a', 'b'].contains (d.headD '0')
  | _ => false

end TokenLifecycle.Identifier
