/-!
# Records

The fields of a record as some source gives them: a document, or the merged layers of a
configuration. Members with unknown names are no part of a record.
-/

namespace TokenLifecycle

/-- The fields of a record that a source gives. -/
structure Record (δ : Type) where
  given : List (String × δ)
  /-- The fields are given by their order alone, so they can be missing only at the end. -/
  positional : Bool

namespace Record

variable {δ α : Type}

/-- What the source gives for a field. -/
def get? (r : Record δ) (name : String) : Option δ :=
  r.given.lookup name

/-- Reads a field that has to be given. -/
def required? (r : Record δ) (name : String) (read : δ → Option α) : Option α :=
  (r.get? name).bind read

/-- Reads a field whose value may be missing, with `read` for what is given. A field that is not
given counts as missing where fields have names. -/
def optional? (r : Record δ) (name : String) (read : δ → Option (Option α)) :
    Option (Option α) :=
  match r.get? name with
  | some d => read d
  | none => if r.positional then none else some none

/-- Reads a field with a value for the case that it is not given. -/
def withDefault? (r : Record δ) (name : String) (read : δ → Option α) (absent : α) : Option α :=
  match r.get? name with
  | some d => read d
  | none => some absent

end Record

end TokenLifecycle
