import Mathlib.Tactic
import TokenLifecycle.Proofs.Token.Claims
import TokenLifecycle.Token.Registered

/-!
# What payloads say

A payload says claims (`Claims.GivenBy`) as an object with a member for each of them, or as an array
with an item for each of them. The reader of claims reads exactly these payloads. What the checks
see is the same expiry and issuer in an object, and the principal and the identifier in an array.
-/

namespace TokenLifecycle

open Json (Doc)
open Json.Doc (Named Fields)

namespace Claims

variable {c : Claims}

/-- The members of an object give the claims: each claim once, in whatever order and among whatever
other members. The issuer may be left out. -/
structure InObject (c : Claims) (members : List (Bytes × Doc)) : Prop where
  fields : Fields fieldNames members
  uid : ∃ d, Named members "uid" d ∧ d.int64? = some c.uid
  issuedAt : ∃ d, Named members "iat" d ∧ d.int64? = some c.issuedAt
  expiry : ∃ d, Named members "exp" d ∧ d.int64? = some c.expiry
  jti : ∃ d, Named members "jti" d ∧ d.text? = some c.jti
  issuer : (∃ d, Named members "iss" d ∧ d.option? Doc.text? = some c.issuer) ∨
    ((∀ d, ¬Named members "iss" d) ∧ none = c.issuer)

/-- The items of an array give the claims in order. The issuer may be left out. -/
inductive InArray (c : Claims) : List Doc → Prop
  | short {uid issuedAt expiry jti : Doc} (has_uid : uid.int64? = some c.uid)
      (has_issuedAt : issuedAt.int64? = some c.issuedAt)
      (has_expiry : expiry.int64? = some c.expiry) (has_jti : jti.text? = some c.jti)
      (absent : c.issuer = none) : InArray c [uid, issuedAt, expiry, jti]
  | full {uid issuedAt expiry jti issuer : Doc} (has_uid : uid.int64? = some c.uid)
      (has_issuedAt : issuedAt.int64? = some c.issuedAt)
      (has_expiry : expiry.int64? = some c.expiry) (has_jti : jti.text? = some c.jti)
      (has_issuer : issuer.option? Doc.text? = some c.issuer) :
      InArray c [uid, issuedAt, expiry, jti, issuer]

/-- The document gives the claims. -/
def GivenBy (c : Claims) : Doc → Prop
  | .object members => c.InObject members
  | .array items => c.InArray items
  | _ => False

/-- Claims are read field by field. -/
theorem ofDoc?_eq_some_iff_record {d : Doc} :
    ofDoc? d = some c ↔
      ∃ f, d.record? fieldNames = some f ∧ f.required? "uid" Doc.int64? = some c.uid ∧
        f.required? "iat" Doc.int64? = some c.issuedAt ∧
        f.required? "exp" Doc.int64? = some c.expiry ∧
        f.required? "jti" Doc.text? = some c.jti ∧
        f.withDefault? "iss" (Doc.option? Doc.text?) none = some c.issuer := by
  simp only [ofDoc?, Option.bind_eq_bind, Option.bind_eq_some_iff, Option.pure_def]
  constructor
  · rintro ⟨f, record, uid, has_uid, issuedAt, has_issuedAt, expiry, has_expiry, jti, has_jti,
      issuer, has_issuer, ⟨⟩⟩
    exact ⟨f, record, has_uid, has_issuedAt, has_expiry, has_jti, has_issuer⟩
  · rintro ⟨f, record, has_uid, has_issuedAt, has_expiry, has_jti, has_issuer⟩
    exact ⟨f, record, _, has_uid, _, has_issuedAt, _, has_expiry, _, has_jti, _, has_issuer, rfl⟩

theorem ofDoc?_object_eq_some_iff {members : List (Bytes × Doc)} :
    ofDoc? (.object members) = some c ↔ c.InObject members := by
  rw [ofDoc?_eq_some_iff_record]
  constructor
  · rintro ⟨f, record, uid, issuedAt, expiry, jti, issuer⟩
    exact {
      fields := Doc.exists_record?_iff.mp ⟨f, record⟩
      uid := (Doc.required?_eq_some_iff record (by decide)).mp uid
      issuedAt := (Doc.required?_eq_some_iff record (by decide)).mp issuedAt
      expiry := (Doc.required?_eq_some_iff record (by decide)).mp expiry
      jti := (Doc.required?_eq_some_iff record (by decide)).mp jti
      issuer := (Doc.withDefault?_eq_some_iff record (by decide)).mp issuer }
  · intro given
    obtain ⟨f, record⟩ := Doc.exists_record?_iff.mpr given.fields
    exact ⟨f, record, (Doc.required?_eq_some_iff record (by decide)).mpr given.uid,
      (Doc.required?_eq_some_iff record (by decide)).mpr given.issuedAt,
      (Doc.required?_eq_some_iff record (by decide)).mpr given.expiry,
      (Doc.required?_eq_some_iff record (by decide)).mpr given.jti,
      (Doc.withDefault?_eq_some_iff record (by decide)).mpr given.issuer⟩

theorem ofDoc?_array_eq_some_iff {items : List Doc} :
    ofDoc? (.array items) = some c ↔ c.InArray items := by
  rw [ofDoc?_eq_some_iff_record]
  constructor
  · rintro ⟨f, record, uid, issuedAt, expiry, jti, issuer⟩
    simp only [Doc.record?, Option.ite_none_right_eq_some] at record
    obtain ⟨short, same⟩ := record
    obtain rfl := Option.some.inj same
    -- The zip of names and items computes, so each reading is one of an item.
    rcases items with _ | ⟨_, _ | ⟨_, _ | ⟨_, _ | ⟨_, _ | ⟨_, _ | ⟨_, rest⟩⟩⟩⟩⟩⟩
    · cases uid
    · cases issuedAt
    · cases expiry
    · cases jti
    · exact .short uid issuedAt expiry jti (Option.some.inj issuer).symm
    · exact .full uid issuedAt expiry jti issuer
    · simp only [fieldNames, List.length_cons, List.length_nil] at short
      omega
  · intro given
    cases given with
    | short uid issuedAt expiry jti absent =>
        exact ⟨_, rfl, uid, issuedAt, expiry, jti, congrArg some absent.symm⟩
    | full uid issuedAt expiry jti issuer => exact ⟨_, rfl, uid, issuedAt, expiry, jti, issuer⟩

/-- The reader of claims reads the documents that give claims. -/
theorem ofDoc?_eq_some_iff {d : Doc} : ofDoc? d = some c ↔ c.GivenBy d := by
  cases d with
  | object members => exact ofDoc?_object_eq_some_iff
  | array items => exact ofDoc?_array_eq_some_iff
  | _ => simp [ofDoc?, Doc.record?, GivenBy]

/-- The members that claims are written with give these claims. -/
theorem inObject_members (c : Claims) :
    c.InObject (c.members.map fun (k, d) => (Json.Body.ofText k, d)) :=
  ofDoc?_object_eq_some_iff.mp (ofDoc?_doc c)

/-- Claims are written with no other registered claims than the expiry and the issuer. -/
theorem plain_members (c : Claims) : ∀ name ∈ ["nbf", "sub", "aud"], ∀ d,
    ¬Named (c.members.map fun (k, d) => (Json.Body.ofText k, d)) name d := by
  intro name other d named
  rw [← Doc.mem_of_named? (Doc.named?_map_ofText c.members)] at named
  have known : ∀ member ∈ c.members, member.1 ∈ fieldNames := by
    refine List.forall_mem_append.mpr ⟨by simp [fieldNames], ?_⟩
    cases c.issuer <;> simp [fieldNames]
  have foreign : ∀ name ∈ ["nbf", "sub", "aud"], name ∉ fieldNames := by decide
  exact foreign name other (known _ named)

end Claims

/-! ### What the checks see -/

namespace Registered

/-- The reader gets past every number without an exponent. -/
theorem canGoOn_tryNumber {n : Json.Number} (plain : n.exponent = none) :
    (tryNumber n).canGoOn = true := by
  simp only [tryNumber, Json.Number.unread?, plain]
  split <;> simp_all [Attempt.canGoOn]

/-- The reader gets past every integer, where it looks for a time and where it looks for a text. -/
theorem canGoOn_of_int? {d : Doc} {n : Int} (read : d.int? = some n) :
    (tryTime d).canGoOn = true ∧ (tryText d).canGoOn = true := by
  match d, read with
  | .number ⟨negative, whole, [], none⟩, _ =>
      have past : (tryNumber ⟨negative, whole, [], none⟩).canGoOn = true := canGoOn_tryNumber rfl
      exact ⟨past, by rw [tryText, if_pos past]; rfl⟩

/-- An expiry before 1970 counts as absent. -/
theorem expiryOf_of_int64? {d : Doc} {time : Int64} (read : d.int64? = some time) :
    expiryOf d = if 0 ≤ time.toInt then some time.toInt.toNat else none := by
  obtain ⟨n, given, word⟩ := Option.bind_eq_some_iff.mp read
  simp only [Numeral.toInt64?, Option.ite_none_right_eq_some, Option.some.injEq] at word
  obtain ⟨bounds, rfl⟩ := word
  simp only [expiryOf, given]
  rw [Int64.toInt_ofInt_of_le bounds.1 bounds.2]
  by_cases sign : 0 ≤ n
  · rw [if_pos ⟨sign, by omega⟩, if_pos sign]
  · rw [if_neg (fun both => sign both.1), if_neg sign]

/-- A text is an audience. -/
theorem audience?_of_text? {d : Doc} {s : String} (read : d.text? = some s) :
    audience? d = some true := by
  match d, read with
  | .string body, read =>
      have attempt : tryAny 126 (.string body) = .past := by
        rw [Doc.text?, Json.Body.text?] at read
        rw [tryAny, tryString]
        split at read
        · rename_i bs found
          simp only [found, read, Option.isSome_some, ↓reduceIte]
        · simp at read
      rw [audience?, attempt]
      rfl

/-- The audience in the place of an issuer. -/
theorem audience?_of_option? {d : Doc} {s : Option String}
    (read : d.option? Doc.text? = some s) : audience? d = some s.isSome := by
  have text := Doc.text?_of_option? read
  cases s with
  | some s => exact audience?_of_text? text
  | none =>
      cases d with
      | null => rfl
      | string body =>
          obtain ⟨_, found, same⟩ := Option.map_eq_some_iff.mp read
          cases same
      | _ => cases read

/-- As far as the checks see them, the expiry and the issuer of an object are those of its
claims. -/
theorem seen_of_object {c : Claims} {members : List (Bytes × Doc)} (given : c.InObject members)
    {f : Record Doc} (record : Doc.record? fieldNames (.object members) = some f) :
    (f.get? "exp").bind expiryOf =
        (if 0 ≤ c.expiry.toInt then some c.expiry.toInt.toNat else none) ∧
      (f.get? "iss").bind Doc.text? = c.issuer := by
  constructor
  · obtain ⟨expiry, named, read⟩ := given.expiry
    rw [(Doc.get?_eq_some_iff record (by decide)).mpr named]
    exact expiryOf_of_int64? read
  · rcases given.issuer with ⟨issuer, named, read⟩ | ⟨missing, same⟩
    · rw [(Doc.get?_eq_some_iff record (by decide)).mpr named]
      exact Doc.text?_of_option? read
    · rw [(Doc.get?_eq_none_iff record (by decide)).mpr missing, Option.bind_none, same]

/-- Of an object the checks see the expiry and the issuer of its claims, when it says nothing about
the other registered claims. -/
theorem ofDoc?_object {c : Claims} {members : List (Bytes × Doc)} (given : c.InObject members)
    (plain : ∀ name ∈ ["nbf", "sub", "aud"], ∀ d, ¬Named members name d) :
    ofDoc? (.object members) =
      some ⟨if 0 ≤ c.expiry.toInt then some c.expiry.toInt.toNat else none, c.issuer, false⟩ := by
  have fields : Fields fieldNames members := given.fields.of_absent fun name known => by
    have cover : ∀ name ∈ fieldNames, name ∈ Claims.fieldNames ∨ name ∈ ["nbf", "sub", "aud"] := by
      decide
    exact (cover name known).imp_right (plain name)
  obtain ⟨f, record⟩ := Doc.exists_record?_iff.mpr fields
  have positional := Doc.positional_of_record? record
  have absent (name : String) (other : name ∈ ["nbf", "sub", "aud"]) (known : name ∈ fieldNames) :
      f.get? name = none :=
    (Doc.get?_eq_none_iff record known).mpr (plain name other)
  have nbf := absent "nbf" (by decide) (by decide)
  have sub := absent "sub" (by decide) (by decide)
  have aud := absent "aud" (by decide) (by decide)
  obtain ⟨expiry, named, read⟩ := given.expiry
  have exp := (Doc.get?_eq_some_iff record (by decide)).mpr named
  obtain ⟨n, whole, _⟩ := Option.bind_eq_some_iff.mp read
  have past := (canGoOn_of_int? whole).1
  obtain ⟨expires, iss⟩ := seen_of_object given record
  rw [exp, Option.bind_some] at expires
  simp [ofDoc?, record, nbf, sub, aud, exp, iss, past, expires, positional]

/-- Of the document of claims the checks see their expiry and their issuer. -/
theorem ofDoc?_doc (c : Claims) :
    ofDoc? c.doc =
      some ⟨if 0 ≤ c.expiry.toInt then some c.expiry.toInt.toNat else none, c.issuer, false⟩ :=
  ofDoc?_object c.inObject_members c.plain_members

/-- Of an array the checks see the principal as the expiry and the identifier as the issuer. The
fifth item is the audience to them, and it must not be missing. -/
theorem ofDoc?_array {c : Claims} {items : List Doc} (given : c.InArray items) :
    ofDoc? (.array items) =
      if items.length = 5 then
        some ⟨if 0 ≤ c.uid.toInt then some c.uid.toInt.toNat else none, some c.jti,
          c.issuer.isSome⟩
      else none := by
  have past {d : Doc} {time : Int64} (read : d.int64? = some time) :
      (tryTime d).canGoOn = true ∧ (tryText d).canGoOn = true := by
    obtain ⟨n, whole, _⟩ := Option.bind_eq_some_iff.mp read
    exact canGoOn_of_int? whole
  cases given with
  | short uid issuedAt expiry jti absent =>
      simp [ofDoc?, Doc.record?, fieldNames, Record.get?, List.lookup_cons]
  | full uid issuedAt expiry jti issuer =>
      have expires := expiryOf_of_int64? uid
      simp [ofDoc?, Doc.record?, fieldNames, Record.get?, List.lookup_cons, (past uid).1,
        (past issuedAt).1, (past expiry).2, expires, jti, audience?_of_option? issuer]

/-! ### Two readings of one payload -/

/-- What is seen of the expiry and the issuer does not depend on the other registered claims. -/
theorem exists_of_ofDoc? {d : Doc} {r : Registered} (read : ofDoc? d = some r) :
    ∃ f, d.record? fieldNames = some f ∧ r.expiry = (f.get? "exp").bind expiryOf ∧
      r.issuer = (f.get? "iss").bind Doc.text? := by
  simp only [ofDoc?, Option.bind_eq_bind, Option.bind_eq_some_iff, Option.pure_def] at read
  obtain ⟨f, record, read⟩ := read
  simp only [Option.bind_none, Option.bind_some, Option.ite_none_left_eq_some] at read
  obtain ⟨_, read⟩ := read
  split at read
  · obtain ⟨_, _, same⟩ := Option.bind_eq_some_iff.mp read
    obtain rfl := Option.some.inj same
    exact ⟨f, record, rfl, rfl⟩
  · obtain rfl := Option.some.inj (Option.ite_none_left_eq_some.mp read).2
    exact ⟨f, record, rfl, rfl⟩

theorem toInt_of_seen {time : Int64} {expiry : Nat}
    (found : (if 0 ≤ time.toInt then some time.toInt.toNat else none) = some expiry) :
    (expiry : Int) = time.toInt := by
  rw [Option.ite_none_right_eq_some, Option.some.injEq] at found
  obtain ⟨sign, rfl⟩ := found
  exact Int.toNat_of_nonneg sign

/-- Of an object the checks see the expiry and the issuer that its reader gets. -/
theorem agree_of_object {members : List (Bytes × Doc)} {claims : Claims} {r : Registered}
    (read : Claims.ofDoc? (.object members) = some claims)
    (other_read : ofDoc? (.object members) = some r) :
    (∀ expiry, r.expiry = some expiry → (expiry : Int) = claims.expiry.toInt) ∧
      ∀ issuer, r.issuer = some issuer → claims.issuer = some issuer := by
  obtain ⟨f, record, expiry, issuer⟩ := exists_of_ofDoc? other_read
  obtain ⟨seen_expiry, seen_issuer⟩ :=
    seen_of_object (Claims.ofDoc?_object_eq_some_iff.mp read) record
  rw [expiry, issuer, seen_expiry, seen_issuer]
  exact ⟨fun _ => toInt_of_seen, fun _ => id⟩

/-- Of an array the checks take the principal for the expiry and the identifier for the issuer. An
issuer that its reader gets is an audience to them. -/
theorem agree_of_array {items : List Doc} {claims : Claims} {r : Registered}
    (read : Claims.ofDoc? (.array items) = some claims)
    (other_read : ofDoc? (.array items) = some r) :
    (∀ expiry, r.expiry = some expiry → (expiry : Int) = claims.uid.toInt) ∧
      (∀ issuer, r.issuer = some issuer → claims.jti = issuer) ∧
      (r.hasAudience = false → claims.issuer = none) := by
  rw [ofDoc?_array (Claims.ofDoc?_array_eq_some_iff.mp read), Option.ite_none_right_eq_some,
    Option.some.injEq] at other_read
  obtain ⟨_, rfl⟩ := other_read
  refine ⟨fun _ => toInt_of_seen, fun _ => Option.some.inj, fun unnamed => ?_⟩
  exact Option.not_isSome_iff_eq_none.mp (Bool.eq_false_iff.mp unnamed)

end Registered

end TokenLifecycle
