import TokenLifecycle.Json.Doc
import TokenLifecycle.Record

/-!
# Records in JSON

A record is written as an object with a member per field, or as an array of the fields in order. In
an object every name has to be a text, and a field that is given twice is refused. An array must not
be longer than the list of fields.
-/

namespace TokenLifecycle.Json.Doc

/-- The names and values of an object's members, if all names are texts. -/
def named? : List (Bytes × Doc) → Option (List (String × Doc))
  | [] => some []
  | (k, d) :: rest => do
    let name ← Body.text? k
    let rest ← named? rest
    return (name, d) :: rest

/-- The first member of an object with a name. -/
def member? (d : Doc) (name : String) : Option Doc :=
  match d with
  | .object members => (members.find? fun (k, _) => Body.text? k == some name).map (·.2)
  | _ => none

/-- The record with the given field names that a document is. -/
def record? (names : List String) : Doc → Option (Record Doc)
  | .object members => do
    let known := (← named? members).filter fun (k, _) => names.contains k
    if (known.map (·.1)).Nodup then some ⟨known, false⟩ else none
  | .array items => if items.length ≤ names.length then some ⟨names.zip items, true⟩ else none
  | _ => none

/-- The name of a variant without content: a string, or an object whose only member has that name
and the value `null`. -/
def variantName? : Doc → Option String
  | .string body => Body.text? body
  | .object [(k, .null)] => Body.text? k
  | _ => none

end TokenLifecycle.Json.Doc
