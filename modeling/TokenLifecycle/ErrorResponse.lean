import TokenLifecycle.Error
import TokenLifecycle.Json.Record
import TokenLifecycle.Json.Value
import TokenLifecycle.Time.Rfc3339

/-!
# Error responses

What a client is told about a failure: a code, a message, the time, and details by name.
-/

namespace TokenLifecycle

open Json (Doc Value)

/-- An error response. Its details are kept by name and have no order of their own: they can be
written in any, and the order of the list stands for the one that they are written in. -/
structure ErrorResponse where
  code : String
  message : String
  details : Option (List (String × Value))
  timestamp : Timestamp

namespace ErrorResponse

/-- The response to an error. -/
def ofError (e : Error) (now : Instant) : ErrorResponse :=
  ⟨e.code, e.publicMessage, none, .ofInstant now⟩

/-- Adds a detail. A value that cannot be written leaves the details as they are, but the response
has details from then on. -/
def addDetail (r : ErrorResponse) (name : String) (value : Option Value) : ErrorResponse :=
  let details := r.details.getD []
  match value with
  | some v => { r with details := some (Json.setMember name v details) }
  | none => { r with details := some details }

/-- The response as a document. -/
def doc (r : ErrorResponse) : Doc :=
  Doc.ofMembers
    ([("error", Doc.text r.code), ("message", Doc.text r.message)] ++
      (match r.details with
        | some ds => [("details", (Value.object ds).doc)]
        | none => []) ++
      [("timestamp", Doc.text r.timestamp.render)])

/-- The names of the members, in order. -/
def fieldNames : List String := ["error", "message", "details", "timestamp"]

/-- Reads details: an object whose values are nested at most 125 deep. -/
def details? : Doc → Option (List (String × Value))
  | .object members => Doc.memberValues? 125 members []
  | _ => none

/-- Reads a response. -/
def ofDoc? (d : Doc) : Option ErrorResponse := do
  let f ← d.record? fieldNames
  let code ← f.required? "error" Doc.text?
  let message ← f.required? "message" Doc.text?
  let details ← f.optional? "details" (Doc.option? details?)
  let timestamp ← f.required? "timestamp" fun t => t.text?.bind Timestamp.ofText?
  return ⟨code, message, details, timestamp⟩

end ErrorResponse

end TokenLifecycle
