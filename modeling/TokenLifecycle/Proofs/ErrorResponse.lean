import TokenLifecycle.ErrorResponse
import TokenLifecycle.Proofs.Json.Record
import TokenLifecycle.Proofs.Json.Written

/-!
# Details of error responses

Details are added one by one, and of those for one name the last that can be written counts
(`lookup_addDetails`). A value that cannot be written changes no detail, but it leaves the response
with details, and so with one more member, even if it never gets any (`addDetails_eq_opened`). The
main statement is `details_of_additions`.
-/

namespace TokenLifecycle

open Json (Doc Value)

namespace Json

theorem setMember_eq_put (name : String) (v : Value) (members : List (String × Value)) :
    setMember name v members = Association.put name v members := by
  induction members with
  | nil => rfl
  | cons member rest ih => rw [setMember, Association.put, ih]

theorem Value.doc_object (members : List (String × Value)) :
    (object members).doc = Doc.ofMembers (members.map fun (k, v) => (k, v.doc)) := by
  simp only [doc, Doc.ofMembers, Doc.object.injEq]
  induction members with
  | nil => rfl
  | cons member rest ih => rw [memberDocs, ih]; rfl

/-- The members of a written object are its values as they are written. -/
theorem Value.member?_object (members : List (String × Value)) (name : String) :
    (object members).doc.member? name = (members.lookup name).map doc := by
  rw [doc_object, Doc.member?_ofMembers]
  induction members with
  | nil => rfl
  | cons member rest ih =>
      rw [List.map_cons, Association.lookup_cons_eq, Association.lookup_cons_eq, ih]
      split <;> rfl

end Json

namespace ErrorResponse

/-! ### Adding details -/

/-- A detail to be added: its name, and its value if that can be written. -/
abbrev Addition := String × Option Value

/-- Adds details one after the other. -/
def addDetails (r : ErrorResponse) (additions : List Addition) : ErrorResponse :=
  additions.foldl (fun r (name, value) => r.addDetail name value) r

/-- The additions whose value can be written. -/
def writable (additions : List Addition) : List Addition :=
  additions.filter fun (_, value) => value.isSome

/-- The value of the last addition under a name that can be written. -/
def lastValue? (name : String) : List Addition → Option Value
  | [] => none
  | (other, value) :: rest => (lastValue? name rest).or (if name = other then value else none)

/-- The details, none where the response has no details. -/
def entries (r : ErrorResponse) : List (String × Value) :=
  r.details.getD []

/-- The response with details, be there any or not. -/
def opened (r : ErrorResponse) : ErrorResponse :=
  { r with details := some r.entries }

section Details

variable (r : ErrorResponse)

theorem addDetail_none (name : String) : r.addDetail name none = r.opened := rfl

theorem addDetail_some (name : String) (v : Value) :
    r.addDetail name (some v) = { r with details := some (Association.put name v r.entries) } := by
  rw [← Json.setMember_eq_put]
  rfl

theorem opened_addDetail (name : String) (value : Option Value) :
    (r.addDetail name value).opened = r.addDetail name value := by
  cases value <;> rfl

theorem addDetail_opened (name : String) (value : Option Value) :
    r.opened.addDetail name value = r.addDetail name value := by
  cases value <;> rfl

theorem opened_of_isSome {r : ErrorResponse} (present : r.details.isSome) : r.opened = r := by
  obtain ⟨code, message, details, timestamp⟩ := r
  cases details with
  | none => cases present
  | some _ => rfl

theorem addDetails_cons (name : String) (value : Option Value) (rest : List Addition) :
    r.addDetails ((name, value) :: rest) = (r.addDetail name value).addDetails rest :=
  rfl

/-- A value that can be written takes the place of what had its name. -/
theorem lookup_addDetail (other : String) (value : Option Value) (name : String) :
    (r.addDetail other value).entries.lookup name =
      (if name = other then value else none).or (r.entries.lookup name) := by
  cases value with
  | none => simp [addDetail_none, opened, entries]
  | some v =>
      rw [addDetail_some]
      simp only [entries, Option.getD_some, Association.lookup_put]
      split <;> rfl

/-- Each name has the value that was written for it last. -/
theorem lookup_addDetails (additions : List Addition) (name : String) :
    (r.addDetails additions).entries.lookup name =
      (lastValue? name additions).or (r.entries.lookup name) := by
  induction additions generalizing r with
  | nil => rfl
  | cons addition rest ih =>
      obtain ⟨other, value⟩ := addition
      rw [addDetails_cons, ih, lookup_addDetail, lastValue?, Option.or_assoc]

theorem nodup_addDetail (name : String) (value : Option Value)
    (distinct : (r.entries.map (·.1)).Nodup) :
    ((r.addDetail name value).entries.map (·.1)).Nodup := by
  cases value with
  | none => exact distinct
  | some v =>
      rw [addDetail_some]
      exact Association.nodup_map_put name v distinct

/-- No name is given twice. -/
theorem nodup_addDetails (additions : List Addition) (distinct : (r.entries.map (·.1)).Nodup) :
    ((r.addDetails additions).entries.map (·.1)).Nodup := by
  induction additions generalizing r with
  | nil => exact distinct
  | cons addition rest ih => exact ih _ (r.nodup_addDetail _ _ distinct)

/-! ### Additions that fail -/

theorem opened_addDetails {r : ErrorResponse} (present : r.opened = r) (additions : List Addition) :
    (r.addDetails additions).opened = r.addDetails additions := by
  induction additions generalizing r with
  | nil => exact present
  | cons addition rest ih => exact ih (r.opened_addDetail _ _)

theorem opened_addDetails_opened (additions : List Addition) :
    (r.opened.addDetails additions).opened = (r.addDetails additions).opened := by
  cases additions with
  | nil => rfl
  | cons addition rest => rw [addDetails_cons, addDetails_cons, addDetail_opened]

theorem opened_addDetails_writable (additions : List Addition) :
    (r.addDetails additions).opened = (r.addDetails (writable additions)).opened := by
  induction additions generalizing r with
  | nil => rfl
  | cons addition rest ih =>
      obtain ⟨name, value⟩ := addition
      cases value with
      | none => rw [addDetails_cons, addDetail_none, ih, opened_addDetails_opened]; rfl
      | some v => exact ih _

/-- Additions that fail change nothing but that the response has details. -/
theorem addDetails_eq_opened {additions : List Addition} (nonempty : additions ≠ []) :
    r.addDetails additions = (r.addDetails (writable additions)).opened := by
  rw [← opened_addDetails_writable]
  cases additions with
  | nil => exact absurd rfl nonempty
  | cons addition rest => exact (opened_addDetails (r.opened_addDetail _ _) rest).symm

theorem isSome_details_addDetails (additions : List Addition) :
    (r.addDetails additions).details.isSome ↔ r.details.isSome ∨ additions ≠ [] := by
  by_cases empty : additions = []
  · subst empty
    simp [addDetails]
  · simp [r.addDetails_eq_opened empty, opened, empty]

/-- Adding details changes nothing else. -/
theorem addDetails_eq (additions : List Addition) :
    r.addDetails additions = { r with details := (r.addDetails additions).details } := by
  induction additions generalizing r with
  | nil => rfl
  | cons addition rest ih =>
      obtain ⟨name, value⟩ := addition
      rw [addDetails_cons, ih]
      cases value <;> rfl

/-! ### Written responses -/

/-- The details stand in the written response if it has any. -/
theorem member?_details :
    r.doc.member? "details" = r.details.map fun details => (Value.object details).doc := by
  rw [doc, Doc.member?_ofMembers]
  cases r.details <;> rfl

/-- Responses without details and with none in them are written differently. -/
theorem bytes_opened_ne (absent : r.details = none) : r.opened.doc.bytes ≠ r.doc.bytes := by
  intro same
  have plain : r.doc.Written := by
    rw [doc, absent]
    refine .ofMembers ?_
    simp only [List.cons_append, List.nil_append, List.forall_mem_cons]
    exact ⟨.text _, .text _, .text _, nofun⟩
  have no_details : (Value.object []).doc.Written := .ofMembers (List.forall_mem_nil _)
  have with_details : r.opened.doc.Written := by
    rw [doc, opened, entries, absent]
    refine .ofMembers ?_
    simp only [Option.getD_none, List.cons_append, List.nil_append, List.forall_mem_cons]
    exact ⟨.text _, .text _, no_details, .text _, nofun⟩
  have read := Doc.ofBytes?_bytes with_details.wellFormed
  rw [same, Doc.ofBytes?_bytes plain.wellFormed, Option.some.injEq] at read
  have member := congrArg (fun d => d.member? "details") read
  simp only [member?_details, absent] at member
  cases member

theorem isSome_member?_details :
    (r.doc.member? "details").isSome ↔ r.details.isSome := by
  rw [member?_details, Option.isSome_map]

/-- A detail as it is written. -/
def detail? (name : String) : Option Doc :=
  (r.doc.member? "details").bind fun details => details.member? name

theorem detail?_eq (name : String) : r.detail? name = (r.entries.lookup name).map Value.doc := by
  rw [detail?, member?_details, entries]
  cases r.details with
  | none => rfl
  | some details => exact Value.member?_object details name

/-! ### Traces of additions -/

/-- Additions that fail leave no trace: the response is written as if they were left out, byte for
byte when its details are written in the order of the list both times. -/
def Traceless (additions : List Addition) : Prop :=
  (r.addDetails additions).doc.bytes = (r.addDetails (writable additions)).doc.bytes

/-- The written response has details exactly if it had some before or one was written. -/
def PresentIfWritten (additions : List Addition) : Prop :=
  ((r.addDetails additions).doc.member? "details").isSome ↔
    (r.doc.member? "details").isSome ∨ writable additions ≠ []

/-- The written response had details before, or one was written, or none was to be added. -/
def Unmarked (additions : List Addition) : Prop :=
  (r.doc.member? "details").isSome ∨ writable additions ≠ [] ∨ additions = []

theorem traceless_iff_unmarked (additions : List Addition) :
    r.Traceless additions ↔ r.Unmarked additions := by
  by_cases empty : additions = []
  · subst empty
    exact iff_of_true rfl (.inr (.inr rfl))
  rw [Traceless, r.addDetails_eq_opened empty, Unmarked, or_iff_left empty,
    isSome_member?_details, ← isSome_details_addDetails]
  constructor
  · intro same
    by_contra absent
    exact bytes_opened_ne _ (Option.not_isSome_iff_eq_none.mp absent) same
  · intro present
    rw [opened_of_isSome present]

theorem presentIfWritten_iff_unmarked (additions : List Addition) :
    r.PresentIfWritten additions ↔ r.Unmarked additions := by
  rw [PresentIfWritten, Unmarked, isSome_member?_details, isSome_member?_details,
    isSome_details_addDetails]
  by_cases empty : additions = []
  · subst empty
    simp [writable]
  · simp [empty]

/-- What additions do to a response, be they many or few and some of them such that fail. Each
detail has the value that was written for it last, and keeps what it had if none was; no name is
given twice, and nothing but the details changes. The response is as without the additions that
fail except that it has details; that can be seen exactly if there are only such and there were no
details. -/
theorem details_of_additions (additions : List Addition)
    (distinct : (r.entries.map (·.1)).Nodup) :
    (∀ name, (r.addDetails additions).detail? name =
      ((lastValue? name additions).map Value.doc).or (r.detail? name)) ∧
    ((r.addDetails additions).entries.map (·.1)).Nodup ∧
    r.addDetails additions = { r with details := (r.addDetails additions).details } ∧
    (r.addDetails additions =
      if additions = [] then r else (r.addDetails (writable additions)).opened) ∧
    (r.Traceless additions ↔ r.Unmarked additions) ∧
    (r.PresentIfWritten additions ↔ r.Unmarked additions) := by
  refine ⟨fun name => ?_, r.nodup_addDetails additions distinct, r.addDetails_eq additions, ?_,
    r.traceless_iff_unmarked additions, r.presentIfWritten_iff_unmarked additions⟩
  · rw [detail?_eq, detail?_eq, lookup_addDetails, Option.map_or]
  · split_ifs with empty
    · rw [empty]
      rfl
    · exact r.addDetails_eq_opened empty

end Details

/-- A detail whose new value cannot be written keeps its value, and of two new values the later one
counts. -/
theorem details_of_additions_of_some_fail :
    let r : ErrorResponse :=
      ⟨"UNAUTHORIZED", "Unauthorized", some [("reason", .text "expired")], ⟨1767225600, 0⟩⟩
    let additions : List Addition :=
      [("reason", none), ("attempt", some (.integer 1)), ("attempt", some (.integer 2)),
        ("cause", none)]
    (r.addDetails additions).detail? "reason" = some (.text "expired") ∧
      (r.addDetails additions).detail? "attempt" = some (.int 2) ∧
      (r.addDetails additions).detail? "cause" = none ∧
      r.Traceless additions ∧ r.PresentIfWritten additions := by
  intro r additions
  obtain ⟨written, -, -, -, traceless, present⟩ :=
    r.details_of_additions additions (List.nodup_singleton _)
  have unmarked : r.Unmarked additions := .inl rfl
  refine ⟨?_, ?_, ?_, traceless.mpr unmarked, present.mpr unmarked⟩
  · rw [written]
    rfl
  · rw [written]
    rfl
  · rw [written]
    rfl

/-- If the only detail cannot be written, the response is written with details all the same, be
there none in them. -/
theorem marked_of_failed_addition :
    let r : ErrorResponse := ⟨"UNAUTHORIZED", "Unauthorized", none, ⟨1767225600, 0⟩⟩
    ¬ r.Traceless [("reason", none)] ∧ ¬ r.PresentIfWritten [("reason", none)] := by
  intro r
  refine ⟨r.bytes_opened_ne rfl, fun present => ?_⟩
  obtain before | written := present.mp rfl
  · cases before
  · exact written rfl

end ErrorResponse

end TokenLifecycle
