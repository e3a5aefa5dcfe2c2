import Mathlib.Tactic
import TokenLifecycle.Proofs.Config.Documents
import TokenLifecycle.Proofs.Token.Claims
import TokenLifecycle.Token.Pair

/-!
# Data that survives its text

Claims, pairs of tokens and all settings are read back from the texts that are written for them. Of
claims, neither the order of their members nor members with other names count. The main statement is
`documents_round_trip`.
-/

namespace TokenLifecycle

open Config (App Cache Environment Jwt LogFormat Logging Session)
open Json (Doc)

namespace TokenPair

theorem written_doc (p : TokenPair) : p.doc.Written := by
  refine .ofMembers ?_
  simp only [List.forall_mem_cons]
  exact ⟨.text _, .text _, .int _, .int _, nofun⟩

/-- A pair is read back from its document. -/
theorem ofDoc?_doc (p : TokenPair) : ofDoc? p.doc = some p := by
  simp only [ofDoc?, doc, Option.bind_eq_bind]
  refine Config.bind_of_some (Config.record?_json rfl (by decide)) ?_
  simp [Record.required?, Record.get?, List.lookup_cons]

end TokenPair

namespace Claims

/-- The members of claims as they are written. -/
def writtenMembers (c : Claims) : List (Bytes × Doc) :=
  c.members.map fun (k, d) => (Json.Body.ofText k, d)

/-- The issuer is written if there is one. -/
theorem exists_issuer_iff (c : Claims) :
    (∃ member ∈ c.writtenMembers, Json.Body.text? member.1 = some "iss") ↔ c.issuer.isSome := by
  obtain ⟨_, _, _, _, issuer⟩ := c
  cases issuer <;> simp [writtenMembers, members]

/-- Claims are read from their members in any order, and with other members among them. -/
theorem ofDoc?_of_perm (c : Claims) {given extra : List (Bytes × Doc)}
    (foreign : Doc.Foreign fieldNames extra) (perm : given.Perm (c.writtenMembers ++ extra)) :
    ofDoc? (.object given) = some c := by
  obtain ⟨f, record, _, same⟩ := Doc.exists_record?_of_perm foreign perm c.nodup_members
  exact ofDoc?_of_record record same

end Claims

/-- Every value of the data types that are written in JSON is read back from the text that is
written for it, whatever characters stand in its strings. The text of claims has a member for the
issuer exactly when there is one; and every text of an object with the members of claims, in any
order and with members of other names among them, is read as these claims. -/
theorem documents_round_trip :
    Doc.RoundTrips Claims.doc Claims.ofDoc? ∧
    Doc.RoundTrips TokenPair.doc TokenPair.ofDoc? ∧
    Doc.RoundTrips App.doc (App.read? Config.json) ∧
    Doc.RoundTrips Jwt.doc (Jwt.read? Config.json) ∧
    Doc.RoundTrips Session.doc (Session.read? Config.json) ∧
    Doc.RoundTrips Cache.doc (Cache.read? Config.json) ∧
    Doc.RoundTrips Logging.doc (Logging.read? Config.json) ∧
    Doc.RoundTrips Environment.doc (Environment.read? Config.json) ∧
    Doc.RoundTrips LogFormat.doc (LogFormat.read? Config.json) ∧
    ∀ c : Claims, ∃ members, Doc.ofBytes? c.doc.bytes = some (.object members) ∧
      ((∃ member ∈ members, Json.Body.text? member.1 = some "iss") ↔ c.issuer.isSome) ∧
      ∀ bs given extra, Doc.ofBytes? bs = some (.object given) →
        given.Perm (members ++ extra) → Doc.Foreign Claims.fieldNames extra →
        (Doc.ofBytes? bs).bind Claims.ofDoc? = some c := by
  refine ⟨Doc.roundTrips_of_written Claims.written_doc Claims.ofDoc?_doc,
    Doc.roundTrips_of_written TokenPair.written_doc TokenPair.ofDoc?_doc,
    Doc.roundTrips_of_written App.written_doc App.read?_doc,
    Doc.roundTrips_of_written Jwt.written_doc Jwt.read?_doc,
    Doc.roundTrips_of_written Session.written_doc Session.read?_doc,
    Doc.roundTrips_of_written Cache.written_doc Cache.read?_doc,
    Doc.roundTrips_of_written Logging.written_doc Logging.read?_doc,
    Doc.roundTrips_of_written Environment.written_doc Environment.read?_doc,
    Doc.roundTrips_of_written LogFormat.written_doc LogFormat.read?_doc, fun c => ?_⟩
  refine ⟨c.writtenMembers, Doc.ofBytes?_bytes c.wellFormed_doc, c.exists_issuer_iff, ?_⟩
  intro bs given extra spelled perm foreign
  rw [spelled, Option.bind_some, c.ofDoc?_of_perm foreign perm]

/-- Claims whose issuer is the empty text and whose identifier has to be escaped, written from the
last member to the first behind a member that is nested. -/
theorem documents_round_trip_of_reverse :
    let c : Claims := ⟨-1, 0, 60, "\"\\\u0001😀", some ""⟩
    let header : String × Doc := ("kid", .array [.null, .array []])
    let d := Doc.ofMembers (header :: c.members.reverse)
    (Doc.ofBytes? d.bytes).bind Claims.ofDoc? = some c := by
  intro c header d
  obtain ⟨_, _, _, _, _, _, _, _, _, claims⟩ := documents_round_trip
  obtain ⟨members, spelled, _, reads⟩ := claims c
  obtain rfl : members = c.writtenMembers := by
    have same := Option.some.inj (spelled.symm.trans (Doc.ofBytes?_bytes c.wellFormed_doc))
    exact Doc.object.inj same
  have formed : d.WellFormed := by
    refine Doc.wellFormed_ofMembers (List.forall_mem_cons.mpr ⟨?_, fun member given => ?_⟩)
    · refine Doc.wellFormed_array (List.forall_mem_cons.mpr ⟨Doc.wellFormed_null, ?_⟩)
      exact List.forall_mem_singleton.mpr (Doc.wellFormed_array nofun)
    · exact (c.written_members member (List.mem_reverse.mp given)).wellFormed
  have spelled := Doc.ofBytes?_bytes formed
  refine reads _ _ [(Json.Body.ofText "kid", header.2)] spelled ?_ ?_
  · have reversed := (List.reverse_perm c.members).map fun (k, d) => (Json.Body.ofText k, d)
    exact (reversed.cons _).trans (List.perm_append_singleton _ _).symm
  · exact List.forall_mem_singleton.mpr ⟨"kid", Json.Body.text?_ofText "kid", by decide⟩

end TokenLifecycle
