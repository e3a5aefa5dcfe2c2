import TokenLifecycle.Json.Record

/-!
# Sources of settings

Settings are read alike from a JSON document and from the merged layers of a configuration; the
sources differ in what they take for a number, a text or a record.
-/

namespace TokenLifecycle.Config

open Json (Doc)

/-- How values of type `δ` are read. -/
structure Source (δ : Type) where
  record? : List String → δ → Option (Record δ)
  isNull : δ → Bool
  text? : δ → Option String
  bool? : δ → Option Bool
  int64? : δ → Option Int64
  uint64? : δ → Option UInt64
  uint32? : δ → Option UInt32
  uint8? : δ → Option UInt8
  /-- The name of a variant without content. -/
  variantName? : δ → Option String

/-- Reads a value that may be null. -/
def Source.option? {δ α : Type} (src : Source δ) (read : δ → Option α) (d : δ) :
    Option (Option α) :=
  if src.isNull d then some none else (read d).map some

/-- JSON documents as a source. -/
def json : Source Doc where
  record? := Doc.record?
  isNull d := match d with
    | .null => true
    | _ => false
  text? := Doc.text?
  bool? := Doc.bool?
  int64? := Doc.int64?
  uint64? := Doc.uint64?
  uint32? := Doc.uint32?
  uint8? := Doc.uint8?
  variantName? := Doc.variantName?

end TokenLifecycle.Config
