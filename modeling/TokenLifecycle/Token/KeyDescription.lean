import TokenLifecycle.Json.Record
import TokenLifecycle.Json.Value

/-!
# Key descriptions

A token header may describe a key. The description is not used, but a header with a malformed one
is refused.
-/

namespace TokenLifecycle.KeyDescription

open Json (Doc)

/-- Reads a list of texts. -/
def texts? : Doc → Option (List String)
  | .array items => items.mapM Doc.text?
  | _ => none

/-- Reads one of the given names. -/
def oneOf? (names : List String) (d : Doc) : Option String :=
  d.variantName?.bind fun n => if names.contains n then some n else none

/-- Reads one of the given names, where the value beside a name may also be an empty object. -/
def looselyOneOf? (names : List String) (d : Doc) : Option String :=
  match d with
  | .object [(k, .object [])] => oneOf? names (.string k)
  | d => oneOf? names d

/-- The algorithms that a described key may be meant for. -/
def algorithmNames : List String :=
  ["HS256", "HS384", "HS512", "ES256", "ES384", "RS256", "RS384", "RS512", "PS256", "PS384",
    "PS512", "EdDSA", "RSA1_5", "RSA-OAEP", "RSA-OAEP-256"]

/-- The curves that a described key may lie on. -/
def curveNames : List String := ["P-256", "P-384", "P-521", "Ed25519"]

/-- The members that every description may have are well-formed. -/
def hasCommon (d : Doc) : Bool :=
  let check : Option Unit := do
    let f ← d.record? ["use", "key_ops", "alg", "kid", "x5u", "x5c", "x5t", "x5t#S256"]
    let _ ← f.optional? "use" (Doc.option? Doc.text?)
    let _ ← f.optional? "key_ops" (Doc.option? texts?)
    let _ ← f.optional? "alg" (Doc.option? (looselyOneOf? algorithmNames))
    let _ ← f.optional? "kid" (Doc.option? Doc.text?)
    let _ ← f.optional? "x5u" (Doc.option? Doc.text?)
    let _ ← f.optional? "x5c" (Doc.option? texts?)
    let _ ← f.optional? "x5t" (Doc.option? Doc.text?)
    let _ ← f.optional? "x5t#S256" (Doc.option? Doc.text?)
  check.isSome

/-- The description is one of a kind: it names the kind, and the curve if there is one, and has the
given texts. Members that the kind does not know may be anything. -/
def isKind (kind : String) (withCurve : Bool) (names : List String) (d : Doc) : Bool :=
  let check : Option Unit := do
    let f ← d.record? ("kty" :: (if withCurve then ["crv"] else []) ++ names)
    let _ ← f.required? "kty" (oneOf? [kind])
    if withCurve then
      let _ ← f.required? "crv" (oneOf? curveNames)
    for name in names do
      let _ ← f.required? name Doc.text?
  check.isSome

/-- The document describes a key: an object with readable members that fits one of the four
kinds. -/
def isValid (d : Doc) : Bool :=
  match d with
  | .object members =>
    (members.all fun (_, v) => (v.value? 125).isSome) && hasCommon d &&
      (isKind "EC" true ["x", "y"] d || isKind "RSA" false ["n", "e"] d ||
        isKind "oct" false ["k"] d || isKind "OKP" true ["x"] d)
  | _ => false

end TokenLifecycle.KeyDescription
