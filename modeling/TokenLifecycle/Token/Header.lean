import TokenLifecycle.Keys.Algorithm
import TokenLifecycle.Token.KeyDescription

/-!
# Token headers

The first part of a token. Of all that it may hold only the algorithm counts, but every member has
to be well-formed.
-/

namespace TokenLifecycle

open Json (Doc)

/-- What counts of a header. -/
structure Header where
  algorithm : Algorithm
  deriving DecidableEq, Repr

namespace Header

/-- The header as a document. -/
def doc (h : Header) : Doc :=
  Doc.ofMembers [("typ", Doc.text "JWT"), ("alg", Doc.text h.algorithm.name)]

/-- The names of the members, in order. -/
def fieldNames : List String :=
  ["typ", "alg", "cty", "jku", "jwk", "kid", "x5u", "x5c", "x5t", "x5t#S256"]

/-- Reads a header. -/
def ofDoc? (d : Doc) : Option Header := do
  let f ← d.record? fieldNames
  let _ ← f.optional? "typ" (Doc.option? Doc.text?)
  let algorithm ← f.required? "alg" fun a => a.variantName?.bind Algorithm.ofName?
  let _ ← f.optional? "cty" (Doc.option? Doc.text?)
  let _ ← f.optional? "jku" (Doc.option? Doc.text?)
  let _ ← f.optional? "jwk"
    (Doc.option? fun k => if KeyDescription.isValid k then some () else none)
  let _ ← f.optional? "kid" (Doc.option? Doc.text?)
  let _ ← f.optional? "x5u" (Doc.option? Doc.text?)
  let _ ← f.optional? "x5c" (Doc.option? KeyDescription.texts?)
  let _ ← f.optional? "x5t" (Doc.option? Doc.text?)
  let _ ← f.optional? "x5t#S256" (Doc.option? Doc.text?)
  return ⟨algorithm⟩

end Header

end TokenLifecycle
