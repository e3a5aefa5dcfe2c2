/-!
# Signing algorithms

The algorithms that a token header can name, and the families of keys that they sign with.
-/

namespace TokenLifecycle

/-- An algorithm. -/
inductive Algorithm
  | hs256 | hs384 | hs512
  | rs256 | rs384 | rs512
  | ps256 | ps384 | ps512
  | es256 | es384
  | edDSA
  deriving DecidableEq, Repr

/-- A family of asymmetric keys. -/
inductive KeyFamily
  | rsa | ec | ed
  deriving DecidableEq, Repr

namespace Algorithm

/-- All algorithms. -/
def all : List Algorithm :=
  [hs256, hs384, hs512, rs256, rs384, rs512, ps256, ps384, ps512, es256, es384, edDSA]

/-- The name of an algorithm. -/
def name : Algorithm → String
  | hs256 => "HS256"
  | hs384 => "HS384"
  | hs512 => "HS512"
  | rs256 => "RS256"
  | rs384 => "RS384"
  | rs512 => "RS512"
  | ps256 => "PS256"
  | ps384 => "PS384"
  | ps512 => "PS512"
  | es256 => "ES256"
  | es384 => "ES384"
  | edDSA => "EdDSA"

/-- The algorithm with a name. -/
def ofName? (s : String) : Option Algorithm :=
  all.find? fun a => a.name = s

/-- The family of keys that an algorithm signs with. Algorithms with a shared secret have none:
whoever can verify with such a secret can also sign. -/
def family? : Algorithm → Option KeyFamily
  | hs256 => none
  | hs384 => none
  | hs512 => none
  | rs256 => some .rsa
  | rs384 => some .rsa
  | rs512 => some .rsa
  | ps256 => some .rsa
  | ps384 => some .rsa
  | ps512 => some .rsa
  | es256 => some .ec
  | es384 => some .ec
  | edDSA => some .ed

theorem ofName?_name (a : Algorithm) : ofName? a.name = some a := by
  cases a <;> decide

end Algorithm

end TokenLifecycle
