import Mathlib.Tactic
import TokenLifecycle.Config.App
import TokenLifecycle.Proofs.Config.BaseLayer
import TokenLifecycle.Proofs.Config.Reading
import TokenLifecycle.Proofs.Json.Record
import TokenLifecycle.Proofs.Json.Written

/-!
# Settings as documents

Every section writes all of its fields, those with a default and those that are missing included. So
no default of the reader comes in, and each section is read back from its own document
(`App.read?_doc`).
-/

namespace TokenLifecycle

open Json (Doc)

namespace Json.Doc

/-! ### Scalars of settings -/

@[simp] theorem uint64?_nat_toNat (n : UInt64) : uint64? (nat n.toNat) = some n := by
  rw [uint64?, nat, int?_int, Option.bind_some, Numeral.toUInt64?_toNat]

@[simp] theorem uint32?_nat_toNat (n : UInt32) : uint32? (nat n.toNat) = some n := by
  rw [uint32?, nat, int?_int, Option.bind_some, Numeral.toUInt32?_toNat]

@[simp] theorem uint8?_nat_toNat (n : UInt8) : uint8? (nat n.toNat) = some n := by
  rw [uint8?, nat, int?_int, Option.bind_some, Numeral.toUInt8?_toNat]

end Json.Doc

namespace Config

section Source

@[simp] theorem text?_json : json.text? = Doc.text? := rfl

@[simp] theorem bool?_json : json.bool? = Doc.bool? := rfl

@[simp] theorem int64?_json : json.int64? = Doc.int64? := rfl

@[simp] theorem uint64?_json : json.uint64? = Doc.uint64? := rfl

@[simp] theorem uint32?_json : json.uint32? = Doc.uint32? := rfl

@[simp] theorem uint8?_json : json.uint8? = Doc.uint8? := rfl

@[simp] theorem variantName?_json : json.variantName? = Doc.variantName? := rfl

@[simp] theorem option?_json_option (value : Option String) :
    json.option? Doc.text? (Doc.option Doc.text value) = some value := by
  cases value with
  | none => rfl
  | some s => exact congrArg (Option.map some) (Doc.text?_text s)

/-- The record of a document that gives each of its fields. -/
theorem record?_json {members : List (String × Doc)} {names : List String}
    (fields : members.map (·.1) = names) (distinct : names.Nodup) :
    json.record? names (Doc.ofMembers members) = some ⟨members, false⟩ := by
  refine (Doc.record?_ofMembers (fields ▸ distinct) names).trans ?_
  rw [List.filter_eq_self.mpr]
  intro member given
  rw [List.contains_iff_mem, ← fields]
  exact List.mem_map_of_mem given

end Source

/-! ### Sections -/

namespace Environment

theorem written_doc (e : Environment) : e.doc.Written :=
  .text e.name

@[simp] theorem read?_doc (e : Environment) : read? json e.doc = some e := by
  rw [read?, doc, variantName?_json, Doc.variantName?_text, Option.bind_some, ofName?_name]

end Environment

namespace LogFormat

theorem written_doc (f : LogFormat) : f.doc.Written :=
  .text f.name

@[simp] theorem read?_doc (f : LogFormat) : read? Config.json f.doc = some f := by
  rw [read?, doc, variantName?_json, Doc.variantName?_text, Option.bind_some, ofName?_name]

end LogFormat

namespace Jwt

theorem written_doc (c : Jwt) : c.doc.Written := by
  refine .ofMembers ?_
  simp only [List.forall_mem_cons]
  exact ⟨.text _, .text _, .text _, .int _, .int _, Doc.written_option .text _, .int _, nofun⟩

@[simp] theorem read?_doc (c : Jwt) : read? json c.doc = some c := by
  simp only [read?, doc, Option.bind_eq_bind]
  refine bind_of_some (record?_json rfl (by decide)) ?_
  simp [Record.withDefault?, Record.required?, Record.get?, List.lookup_cons]

end Jwt

namespace Session

theorem written_doc (c : Session) : c.doc.Written := by
  refine .ofMembers ?_
  simp only [List.forall_mem_cons]
  exact ⟨.text _, nofun⟩

@[simp] theorem read?_doc (c : Session) : read? json c.doc = some c := by
  simp only [read?, doc, Option.bind_eq_bind]
  refine bind_of_some (record?_json rfl (by decide)) ?_
  simp [Record.withDefault?, Record.get?]

end Session

namespace Cache

theorem written_doc (c : Cache) : c.doc.Written := by
  refine .ofMembers ?_
  simp only [List.forall_mem_cons]
  exact ⟨.text _, .int _, .int _, .int _, Doc.written_option .text _, .int _, nofun⟩

@[simp] theorem read?_doc (c : Cache) : read? json c.doc = some c := by
  simp only [read?, doc, Option.bind_eq_bind]
  refine bind_of_some (record?_json rfl (by decide)) ?_
  simp [Record.withDefault?, Record.required?, Record.get?, List.lookup_cons]

end Cache

namespace Logging

theorem written_doc (c : Logging) : c.doc.Written := by
  refine .ofMembers ?_
  simp only [List.forall_mem_cons]
  exact ⟨.text _, c.format.written_doc, .bool _, nofun⟩

@[simp] theorem read?_doc (c : Logging) : read? json c.doc = some c := by
  simp only [read?, doc, Option.bind_eq_bind]
  refine bind_of_some (record?_json rfl (by decide)) ?_
  simp [Record.withDefault?, Record.required?, Record.get?, List.lookup_cons, Doc.bool?]

end Logging

namespace App

theorem written_doc (c : App) : c.doc.Written := by
  refine .ofMembers ?_
  simp only [List.forall_mem_cons]
  exact ⟨c.environment.written_doc, c.jwt.written_doc, c.session.written_doc, c.cache.written_doc,
    c.logging.written_doc, nofun⟩

/-- Settings are read back from their document. -/
theorem read?_doc (c : App) : read? json c.doc = some c := by
  simp only [read?, doc, Option.bind_eq_bind]
  refine bind_of_some (record?_json rfl (by decide)) ?_
  simp [Record.withDefault?, Record.required?, Record.get?, List.lookup_cons]

end App

end Config

end TokenLifecycle
