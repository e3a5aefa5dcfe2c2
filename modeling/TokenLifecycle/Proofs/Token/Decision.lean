import Mathlib.Tactic
import TokenLifecycle.Proofs.Token.Refusals

/-!
# The decision table of verification

Verification goes through stages and stops at the first that fails. What makes a stage fail is said
here of the token as a text: of the points in it, of the parts that they separate, and of the
documents in these parts. There are two tables. They differ in what the checks take for the expiry
and the issuer: in the payload of an object these are the expiry and the issuer of the claims, and
in an array they are the principal and the identifier. The main statement is
`verify_eq_iff_decided`.
-/

namespace TokenLifecycle

open Json (Doc)
open Json.Doc (Named)

/-! ### Decisions by stages -/

/-- A stage of a decision: what it fails for, and the error that it fails with. -/
structure Stage where
  fails : Prop
  error : Error

/-- What stages decide in order: the error of the first that fails, and an accepted value behind the
last. -/
inductive Decided {α : Type} (accepted : α → Prop) : List Stage → Outcome α → Prop
  | here {stage : Stage} {later : List Stage} (fails : stage.fails) :
      Decided accepted (stage :: later) (refuse stage.error)
  | later {stage : Stage} {later : List Stage} {outcome : Outcome α} (passes : ¬stage.fails)
      (decided : Decided accepted later outcome) : Decided accepted (stage :: later) outcome
  | done {a : α} (value : accepted a) : Decided accepted [] (.ok a)

namespace Decided

variable {α : Type} {accepted : α → Prop} {stage : Stage} {stages : List Stage}

/-- Stages decide one outcome, when they accept one value. -/
theorem unique (single : ∀ a b, accepted a → accepted b → a = b) {outcome other : Outcome α}
    (decided : Decided accepted stages outcome) (decided' : Decided accepted stages other) :
    outcome = other := by
  induction decided with
  | here fails =>
      cases decided' with
      | here => rfl
      | later passes _ => exact absurd fails passes
  | later passes _ ih =>
      cases decided' with
      | here fails => exact absurd fails passes
      | later _ decided' => exact ih decided'
  | done value =>
      cases decided' with
      | done value' => rw [single _ _ value value']

theorem cons_iff {outcome : Outcome α} :
    Decided accepted (stage :: stages) outcome ↔
      (stage.fails ∧ outcome = refuse stage.error) ∨
        (¬stage.fails ∧ Decided accepted stages outcome) := by
  constructor
  · intro decided
    cases decided with
    | here fails => exact .inl ⟨fails, rfl⟩
    | later passes decided => exact .inr ⟨passes, decided⟩
  · rintro (⟨fails, rfl⟩ | ⟨passes, decided⟩)
    · exact .here fails
    · exact .later passes decided

/-- A branch of a program decides a stage. -/
theorem ite {p : Prop} [Decidable p] (fails : stage.fails ↔ p) {outcome : Outcome α}
    (decided : ¬p → Decided accepted stages outcome) :
    Decided accepted (stage :: stages) (if p then refuse stage.error else outcome) := by
  split_ifs with holds
  · exact .here (fails.mpr holds)
  · exact .later (fun failed => holds (fails.mp failed)) (decided holds)

end Decided

namespace Codec

/-! ### What a token is, as a text -/

/-- The part is written for a document. -/
def PartOf (digits : Bytes) (d : Doc) : Prop :=
  ∃ bs, digits = Compact.part bs ∧ Doc.ofBytes? bs = some d

/-- The header of a token names an algorithm. -/
def NamesAlgorithm (token : String) (a : Algorithm) : Prop :=
  ∃ (p : Compact.Parts) (d : Doc), p.Spell token ∧ PartOf p.header d ∧
    Header.ofDoc? d = some ⟨a⟩

/-- A token has a signature for a message. -/
def Signs (token : String) (message signature : Bytes) : Prop :=
  ∃ p : Compact.Parts, p.Spell token ∧ p.message = message ∧ p.signature = Compact.part signature

/-- The payload of a token is a document. -/
def HasPayload (token : String) (d : Doc) : Prop :=
  ∃ p : Compact.Parts, p.Spell token ∧ PartOf p.payload d

/-- The payload of a token gives claims. -/
def Carries (token : String) (claims : Claims) : Prop :=
  ∃ d, HasPayload token d ∧ claims.GivenBy d

/-- The payload of a token is an array that gives claims. -/
def ListsClaims (token : String) : Prop :=
  ∃ (items : List Doc) (claims : Claims), HasPayload token (.array items) ∧ claims.InArray items

/-- The token has no signature that the codec could verify. -/
inductive Malformed (c : Codec) (token : String) : Prop
  | parts (few : token.toList.count '.' < 2)
  | header (unread : ∀ a, ¬NamesAlgorithm token a)
  | algorithm {a : Algorithm} (named : NamesAlgorithm token a) (other : a ≠ c.keys.algorithm)
  | signature (unread : ∀ message signature, ¬Signs token message signature)

/-- The signature of the token is not valid. -/
def Forged (c : Codec) (token : String) : Prop :=
  ∃ message signature, Signs token message signature ∧ c.keys.verify message signature = false

/-- If the payload of the token is an object, it says nothing about other registered claims than the
expiry and the issuer. -/
def Plain (token : String) : Prop :=
  ∀ members, HasPayload token (.object members) →
    ∀ name ∈ ["nbf", "sub", "aud"], ∀ d, ¬Named members name d

/-! ### The tables -/

/-- A stage that fails for the claims of a token. -/
def claimStage (token : String) (fails : Claims → Prop) (error : Error) : Stage :=
  ⟨∃ claims, Carries token claims ∧ fails claims, error⟩

/-- The stages before there are claims. -/
def openingStages (c : Codec) (token : String) : List Stage :=
  [⟨Malformed c token, .invalidTokenFormat⟩,
    ⟨Forged c token, .invalidSignature⟩,
    ⟨∀ claims, ¬Carries token claims, .invalidTokenFormat⟩]

/-- The checks of what is taken for the expiry and for the issuer of claims. -/
def checkStages (c : Codec) (now : Instant) (token : String) (expiry : Claims → Int64)
    (issuer : Claims → Option String) : List Stage :=
  [claimStage token
      (fun claims => (expiry claims).toInt < 0 ∨ c.issuer.isSome ∧ issuer claims = none)
      .invalidClaims,
    claimStage token (fun claims => (expiry claims).toInt + c.leeway.toNat < now.seconds)
      .tokenExpired,
    claimStage token (fun claims => c.issuer.isSome ∧ c.issuer ≠ issuer claims) .invalidClaims]

/-- The check of the claims in themselves. -/
def closingStage (token : String) : Stage :=
  claimStage token (fun claims => claims.uid = 0 ∨ claims.expiry ≤ claims.issuedAt) .invalidClaims

/-- The table: the expiry and the issuer are those of the claims. -/
def stages (c : Codec) (now : Instant) (token : String) : List Stage :=
  c.openingStages token ++
    (c.checkStages now token (·.expiry) (·.issuer) ++ [closingStage token])

/-- The table for payloads that are arrays: an array must not leave out the issuer, the checks take
the principal for the expiry and the identifier for the issuer, and there must not be an issuer. -/
def arrayStages (c : Codec) (now : Instant) (token : String) : List Stage :=
  c.openingStages token ++
    ⟨∃ items, HasPayload token (.array items) ∧ items.length ≠ 5, .invalidTokenFormat⟩ ::
      (c.checkStages now token (·.uid) (fun claims => some claims.jti) ++
        [claimStage token (fun claims => claims.issuer.isSome) .invalidTokenFormat,
          closingStage token])

/-! ### Reading a token -/

section Reading

variable {token : String} {p : Compact.Parts} (spell : p.Spell token)

theorem partDoc?_eq_some_iff {digits : Bytes} {d : Doc} :
    partDoc? digits = some d ↔ PartOf digits d := by
  simp only [partDoc?, Option.bind_eq_some_iff, Compact.content?_eq_some_iff, PartOf]

include spell

theorem namesAlgorithm_iff {a : Algorithm} :
    NamesAlgorithm token a ↔ (partDoc? p.header).bind Header.ofDoc? = some ⟨a⟩ := by
  simp only [Option.bind_eq_some_iff, partDoc?_eq_some_iff]
  constructor
  · rintro ⟨p', d, spell', part, read⟩
    rw [spell.unique spell']
    exact ⟨d, part, read⟩
  · rintro ⟨d, part, read⟩
    exact ⟨p, d, spell, part, read⟩

theorem signs_iff {message signature : Bytes} :
    Signs token message signature ↔
      p.message = message ∧ Compact.content? p.signature = some signature := by
  rw [Compact.content?_eq_some_iff]
  constructor
  · rintro ⟨p', spell', covered, written⟩
    rw [spell.unique spell']
    exact ⟨covered, written⟩
  · rintro ⟨covered, written⟩
    exact ⟨p, spell, covered, written⟩

theorem hasPayload_iff {d : Doc} : HasPayload token d ↔ partDoc? p.payload = some d := by
  rw [partDoc?_eq_some_iff]
  constructor
  · rintro ⟨p', spell', part⟩
    rw [spell.unique spell']
    exact part
  · exact fun part => ⟨p, spell, part⟩

theorem carries_iff {claims : Claims} :
    Carries token claims ↔ (partDoc? p.payload).bind Claims.ofDoc? = some claims := by
  simp only [Carries, hasPayload_iff spell, Option.bind_eq_some_iff, Claims.ofDoc?_eq_some_iff]

/-- A token with all its parts is not malformed when it names the codec's algorithm. -/
theorem not_malformed {c : Codec} (named : NamesAlgorithm token c.keys.algorithm)
    {signature : Bytes} (content : Compact.content? p.signature = some signature) :
    ¬Malformed c token := by
  intro malformed
  cases malformed with
  | parts few =>
      have enough := Compact.exists_spell_iff.mp ⟨p, spell⟩
      omega
  | header unread => exact unread _ named
  | algorithm named' other =>
      rw [namesAlgorithm_iff spell] at named named'
      cases named.symm.trans named'
      exact other rfl
  | signature unread => exact unread _ _ ((signs_iff spell).mpr ⟨rfl, content⟩)

theorem forged_iff {c : Codec} {signature : Bytes}
    (content : Compact.content? p.signature = some signature) :
    Forged c token ↔ c.keys.verify p.message signature = false := by
  constructor
  · rintro ⟨message, signature', signs, invalid⟩
    obtain ⟨rfl, content'⟩ := (signs_iff spell).mp signs
    rwa [Option.some.inj (content.symm.trans content')]
  · exact fun invalid => ⟨_, _, (signs_iff spell).mpr ⟨rfl, content⟩, invalid⟩

end Reading

theorem hasPayload_text {h : Header} {payload : Doc} (formed : payload.WellFormed)
    {signature : Bytes} {d : Doc} :
    HasPayload (Compact.text (Compact.message h payload) signature) d ↔ d = payload := by
  have spell := Compact.parts?_eq_some_iff.mp (Compact.parts?_text h payload signature)
  rw [hasPayload_iff spell, partDoc?, Compact.content?_part, Option.bind_some,
    Doc.ofBytes?_bytes formed, Option.some.injEq]
  exact eq_comm

/-- A token carries one set of claims at most. -/
theorem Carries.unique {token : String} {claims claims' : Claims} (carried : Carries token claims)
    (carried' : Carries token claims') : claims = claims' := by
  have ⟨_, ⟨p, spell, _⟩, _⟩ := carried
  rw [carries_iff spell] at carried carried'
  exact Option.some.inj (carried.symm.trans carried')

theorem claimStage_fails {token : String} {claims : Claims} (carried : Carries token claims)
    {fails : Claims → Prop} {error : Error} :
    (claimStage token fails error).fails ↔ fails claims := by
  constructor
  · rintro ⟨claims', carried', failed⟩
    rwa [carried.unique carried']
  · exact fun failed => ⟨claims, carried, failed⟩

/-! ### The stages of the program -/

/-- The signed payload of a token is found unless the token is malformed or forged. -/
theorem signedPayload_cases (c : Codec) (token : String) :
    (Malformed c token ∧ c.signedPayload token = refuse .invalidTokenFormat) ∨
      (¬Malformed c token ∧ Forged c token ∧ c.signedPayload token = refuse .invalidSignature) ∨
      (¬Malformed c token ∧ ¬Forged c token ∧
        ∃ p : Compact.Parts, p.Spell token ∧ c.signedPayload token = .ok p.payload) := by
  rw [signedPayload]
  cases split : Compact.parts? token with
  | none =>
      refine .inl ⟨.parts (not_le.mp fun enough => ?_), rfl⟩
      obtain ⟨p, spell⟩ := Compact.exists_spell_iff.mpr enough
      cases split.symm.trans (Compact.parts?_eq_some_iff.mpr spell)
  | some p =>
      have spell := Compact.parts?_eq_some_iff.mp split
      cases header : (partDoc? p.header).bind Header.ofDoc? with
      | none =>
          refine .inl ⟨.header fun a named => ?_, by simp only [header]⟩
          cases header.symm.trans ((namesAlgorithm_iff spell).mp named)
      | some h =>
          have named := (namesAlgorithm_iff spell).mpr header
          by_cases other : h.algorithm ≠ c.keys.algorithm
          · exact .inl ⟨.algorithm named other, by simp only [header, if_pos other]⟩
          · cases content : Compact.content? p.signature with
            | none =>
                refine .inl ⟨.signature fun message signature signs => ?_, ?_⟩
                · cases content.symm.trans ((signs_iff spell).mp signs).2
                · simp only [header, if_neg other, content]
            | some signature =>
                rw [not_ne_iff.mp other] at named
                have formed := not_malformed spell named content
                simp only [header, if_neg other, content]
                by_cases valid : c.keys.verify p.message signature = true
                · have genuine : ¬Forged c token := by simp [forged_iff spell content, valid]
                  exact .inr (.inr ⟨formed, genuine, p, spell, if_pos valid⟩)
                · have forged : Forged c token := by simpa [forged_iff spell content] using valid
                  exact .inr (.inl ⟨formed, forged, if_neg valid⟩)

/-- The stages before there are claims decide which tokens have their claims checked. -/
theorem decided_opening {c : Codec} {now : Instant} {token : String} {later : List Stage}
    (decided : ∀ p : Compact.Parts, p.Spell token → ∀ claims, Carries token claims →
      Decided (Carries token) later (c.accept now p.payload)) :
    Decided (Carries token) (c.openingStages token ++ later) (c.verify now token) := by
  rcases signedPayload_cases c token with
    ⟨malformed, refused⟩ | ⟨formed, forged, refused⟩ | ⟨formed, genuine, p, spell, signed⟩
  · rw [verify, refused]
    exact .here malformed
  · rw [verify, refused]
    exact .later formed (.here forged)
  · have accepted : c.verify now token = c.accept now p.payload := by rw [verify, signed]
    rw [accepted]
    refine .later formed (.later genuine ?_)
    by_cases unread : ∀ claims, ¬Carries token claims
    · have refused : c.accept now p.payload = refuse .invalidTokenFormat := by
        simp only [carries_iff spell] at unread
        rw [accept]
        cases content : partDoc? p.payload with
        | none => rfl
        | some d =>
            have unread : Claims.ofDoc? d = none :=
              Option.eq_none_iff_forall_ne_some.mpr (by simpa [content] using unread)
            simp only [unread]
      rw [refused]
      exact .here unread
    · obtain ⟨claims, carried⟩ := not_forall_not.mp unread
      exact .later unread (decided p spell claims carried)

/-- The checks decide for what they take for the expiry and the issuer. -/
theorem decided_checks {c : Codec} {now : Instant} (running : (c.leeway.toNat : Int) ≤ now.seconds)
    {token : String} {claims : Claims} (carried : Carries token claims)
    (expiry : Claims → Int64) (issuer : Claims → Option String) (audience : Bool)
    {later : List Stage} {payload : Bytes} {d : Doc}
    (content : partDoc? payload = some d) (read : Claims.ofDoc? d = some claims)
    (seen : Registered.ofDoc? d = some ⟨if 0 ≤ (expiry claims).toInt then
      some (expiry claims).toInt.toNat else none, issuer claims, audience⟩)
    (decided : Decided (Carries token) later (if audience then refuse .invalidTokenFormat
      else if claims.uid = 0 ∨ claims.expiry ≤ claims.issuedAt then refuse .invalidClaims
      else .ok claims)) :
    Decided (Carries token) (c.checkStages now token expiry issuer ++ later)
      (c.accept now payload) := by
  have chain : c.accept now payload =
      if (expiry claims).toInt < 0 ∨ c.issuer.isSome ∧ issuer claims = none then
        refuse .invalidClaims
      else if (expiry claims).toInt + c.leeway.toNat < now.seconds then refuse .tokenExpired
      else if c.issuer.isSome ∧ c.issuer ≠ issuer claims then refuse .invalidClaims
      else if audience then refuse .invalidTokenFormat
      else if claims.uid = 0 ∨ claims.expiry ≤ claims.issuedAt then refuse .invalidClaims
      else .ok claims := by
    rw [accept_of_read content read seen, check_claims running]
    split_ifs <;> rfl
  rw [chain]
  exact .ite (claimStage_fails carried) fun _ => .ite (claimStage_fails carried) fun _ =>
    .ite (claimStage_fails carried) fun _ => decided

/-- A payload that does not give claims as an array is decided by the table. -/
theorem decided_of_named {c : Codec} {now : Instant}
    (running : (c.leeway.toNat : Int) ≤ now.seconds) {token : String} (plain : Plain token)
    (named : ¬ListsClaims token) :
    Decided (Carries token) (c.stages now token) (c.verify now token) := by
  refine decided_opening fun p spell claims carried => ?_
  obtain ⟨d, payload, given⟩ := carried
  have carried : Carries token claims := ⟨d, payload, given⟩
  have content := (hasPayload_iff spell).mp payload
  have read := Claims.ofDoc?_eq_some_iff.mpr given
  cases d with
  | object members =>
      have seen := Registered.ofDoc?_object given (plain members payload)
      refine decided_checks running carried (·.expiry) (·.issuer) false content read seen ?_
      exact .ite (claimStage_fails carried) fun _ => .done carried
  | array items => exact absurd ⟨items, claims, payload, given⟩ named
  | _ => exact given.elim

/-- A payload that gives claims as an array is decided by the table for arrays. -/
theorem decided_of_listed {c : Codec} {now : Instant}
    (running : (c.leeway.toNat : Int) ≤ now.seconds) {token : String} (listed : ListsClaims token) :
    Decided (Carries token) (c.arrayStages now token) (c.verify now token) := by
  refine decided_opening fun p spell claims carried => ?_
  obtain ⟨items, claims', payload, given⟩ := listed
  obtain rfl : claims = claims' := carried.unique ⟨_, payload, given⟩
  have content := (hasPayload_iff spell).mp payload
  have read := Claims.ofDoc?_array_eq_some_iff.mpr given
  have incomplete_iff : (∃ items, HasPayload token (.array items) ∧ items.length ≠ 5) ↔
      items.length ≠ 5 := by
    simp [hasPayload_iff spell, content]
  by_cases complete : items.length = 5
  · refine .later (fun incomplete => incomplete_iff.mp incomplete complete) ?_
    have seen := (Registered.ofDoc?_array given).trans (if_pos complete)
    refine decided_checks running carried (·.uid) (fun claims => some claims.jti)
      claims.issuer.isSome content read seen ?_
    exact .ite (claimStage_fails carried) fun _ =>
      .ite (claimStage_fails carried) fun _ => .done carried
  · have refused : c.accept now p.payload = refuse .invalidTokenFormat := by
      have unseen := (Registered.ofDoc?_array given).trans (if_neg complete)
      simp only [accept, content, read, unseen]
    rw [refused]
    exact .here (incomplete_iff.mpr complete)

/-- A token that passes the opening stages names the codec's algorithm, and its signature is
valid. -/
theorem signs_of_passed {c : Codec} {token : String} (formed : ¬Malformed c token)
    (genuine : ¬Forged c token) :
    NamesAlgorithm token c.keys.algorithm ∧
      ∃ message signature, Signs token message signature ∧
        c.keys.verify message signature = true := by
  constructor
  · by_contra unnamed
    refine formed (.header fun a named => formed (.algorithm named ?_))
    rintro rfl
    exact unnamed named
  · by_contra unsigned
    refine formed (.signature fun message signature signs => genuine ⟨_, _, signs, ?_⟩)
    exact Bool.eq_false_iff.mpr fun valid => unsigned ⟨_, _, signs, valid⟩

theorem passed_of_expired {c : Codec} {token : String} {accepted : Claims → Prop}
    {later : List Stage}
    (decided : Decided accepted (c.openingStages token ++ later) (refuse .tokenExpired)) :
    ¬Malformed c token ∧ ¬Forged c token ∧ ∃ claims, Carries token claims := by
  simp only [openingStages, List.cons_append, List.nil_append, Decided.cons_iff, refuse_inj,
    reduceCtorEq, and_false, false_or, not_forall, not_not] at decided
  obtain ⟨formed, genuine, carried, _⟩ := decided
  exact ⟨formed, genuine, carried⟩

/-- The outcome of verification is the one that the table decides, unless the payload gives claims
as an array; then it is the one that the table for arrays decides. Either way a token is called
expired only if its signature is valid and it carries claims. -/
theorem verify_eq_iff_decided {c : Codec} {now : Instant}
    (running : (c.leeway.toNat : Int) ≤ now.seconds) {token : String} (plain : Plain token) :
    (¬ListsClaims token → ∀ outcome, c.verify now token = outcome ↔
        Decided (Carries token) (c.stages now token) outcome) ∧
      (ListsClaims token → ∀ outcome, c.verify now token = outcome ↔
        Decided (Carries token) (c.arrayStages now token) outcome) ∧
      (c.verify now token = refuse .tokenExpired →
        NamesAlgorithm token c.keys.algorithm ∧
          (∃ message signature, Signs token message signature ∧
            c.keys.verify message signature = true) ∧
          ∃ claims, Carries token claims) := by
  have single : ∀ claims claims', Carries token claims → Carries token claims' → claims = claims' :=
    fun _ _ => Carries.unique
  refine ⟨fun named outcome => ?_, fun listed outcome => ?_, fun expired => ?_⟩
  · have decided := decided_of_named running plain named
    exact ⟨fun same => same ▸ decided, decided.unique single⟩
  · have decided := decided_of_listed running listed
    exact ⟨fun same => same ▸ decided, decided.unique single⟩
  · have ⟨formed, genuine, carried⟩ : ¬Malformed c token ∧ ¬Forged c token ∧
        ∃ claims, Carries token claims := by
      by_cases listed : ListsClaims token
      · exact passed_of_expired (expired ▸ decided_of_listed running listed)
      · exact passed_of_expired (expired ▸ decided_of_named running plain listed)
    obtain ⟨named, signed⟩ := signs_of_passed formed genuine
    exact ⟨named, signed, carried⟩

/-- An expired token is called expired by the table and by the program. -/
theorem verify_eq_iff_decided_of_expired :
    let c : Codec := ⟨.digest, some "a", 0⟩
    let now : Instant := .ofSeconds 61
    let claims : Claims := ⟨7, 0, 60, "x", some "a"⟩
    let message := Compact.message ⟨.edDSA⟩ claims.doc
    let token := Compact.text message (Crypto.Sha2.sha256 message)
    (c.leeway.toNat : Int) ≤ now.seconds ∧ Plain token ∧ ¬ListsClaims token ∧
      c.verify now token = refuse .tokenExpired ∧
      Decided (Carries token) (c.stages now token) (refuse .tokenExpired) ∧
      NamesAlgorithm token .edDSA := by
  intro c now claims message token
  have running : (c.leeway.toNat : Int) ≤ now.seconds := by decide
  have formed := claims.wellFormed_doc
  have plain : Plain token := by
    intro members payload name other d named
    cases (hasPayload_text formed).mp payload
    exact claims.plain_members name other d named
  have named : ¬ListsClaims token := by
    rintro ⟨items, _, payload, _⟩
    cases (hasPayload_text formed).mp payload
  have expired : c.verify now token = refuse .tokenExpired :=
    verify_text (c := c) running (beq_self_eq_true _) (by decide) (by decide)
  obtain ⟨table, _, sound⟩ := verify_eq_iff_decided running plain
  exact ⟨running, plain, named, expired, (table named _).mp expired, (sound expired).1⟩

/-- For a payload that is an array the table calls a token expired that the program accepts. -/
theorem not_verify_eq_iff_decided_of_array :
    let c : Codec := ⟨.digest, none, 0⟩
    let now : Instant := .ofSeconds 1767225600
    let message := Compact.message ⟨.edDSA⟩ expiredArray
    let token := Compact.text message (Crypto.Sha2.sha256 message)
    (c.leeway.toNat : Int) ≤ now.seconds ∧ Plain token ∧
      c.verify now token = .ok ⟨9999999999, 0, 1, "x", none⟩ ∧
      Decided (Carries token) (c.stages now token) (refuse .tokenExpired) := by
  intro c now message token
  have payload : HasPayload token expiredArray := (hasPayload_text wellFormed_expiredArray).mpr rfl
  have plain : Plain token := by
    intro members object
    cases (hasPayload_text wellFormed_expiredArray).mp object
  have signed : c.signedPayload token = .ok (Compact.part expiredArray.bytes) :=
    signedPayload_text (c := c) (beq_self_eq_true _)
  have accepted : c.accept now (Compact.part expiredArray.bytes) =
      .ok ⟨9999999999, 0, 1, "x", none⟩ :=
    accept_expiredArray rfl nofun
  have carried : Carries token ⟨9999999999, 0, 1, "x", none⟩ :=
    ⟨_, payload, Claims.ofDoc?_eq_some_iff.mp ofDoc?_expiredArray⟩
  refine ⟨by decide, plain, verify_eq_ok_iff.mpr ⟨_, signed, accepted⟩, ?_⟩
  rcases signedPayload_cases c token with ⟨_, refused⟩ | ⟨_, _, refused⟩ | ⟨formed, genuine, _⟩
  · cases signed.symm.trans refused
  · cases signed.symm.trans refused
  · refine .later formed (.later genuine (.later (fun unread => unread _ carried) ?_))
    refine .later (fun failed => ?_) (.here ((claimStage_fails carried).mpr (by decide)))
    exact absurd ((claimStage_fails carried).mp failed) (by decide)

end Codec

end TokenLifecycle
