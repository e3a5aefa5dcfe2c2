import Mathlib.Tactic
import TokenLifecycle.Proofs.Token.Payload
import TokenLifecycle.Token.Codec

/-!
# Minted tokens under verification

A token that was minted with one issuer is verified with another one, under the same pair of keys.
The main statement `verify_mint` gives the outcome for every moment and every leeway: all that
counts is the expiry and the two issuers.
-/

namespace TokenLifecycle

open Json (Doc)

/-- Whatever the private key signs, the public key verifies. -/
def KeyPair.Sound (keys : KeyPair) : Prop :=
  ∀ entropy message signature,
    keys.sign entropy message = some signature → keys.verify message signature = true

/-- The pair whose signature of a message is its digest. -/
def KeyPair.digest : KeyPair where
  algorithm := .edDSA
  sign _ message := some (Crypto.Sha2.sha256 message)
  verify message signature := signature == Crypto.Sha2.sha256 message

theorem KeyPair.sound_digest : digest.Sound := by
  intro entropy message signature signed
  obtain rfl := Option.some.inj signed
  exact beq_self_eq_true _

/-! ### Reading the clock -/

theorem Instant.read_of_running {now : Instant} (running : 0 ≤ now.seconds) :
    now.read = .ok now :=
  if_neg (Int.not_lt.mpr running)

theorem Instant.read_before_epoch {now : Instant} (early : now.seconds < 0) :
    now.read = .error .overflow :=
  if_pos early

/-! ### Times of minted claims -/

namespace Claims

variable (uid : Int64) {start : Instant} {lifetime : Span} (jti : String) (issuer : Option String)

theorem issuedAt_issue (inside : Instant.inCalendar start.seconds = true) (lifetime : Span) :
    (issue uid start lifetime jti issuer).issuedAt.toInt = start.seconds := by
  simp only [Instant.inCalendar, Bool.and_eq_true, decide_eq_true_eq] at inside
  exact Int64.toInt_ofInt_of_le (by omega) (by omega)

theorem expiry_issue (inside : Instant.inCalendar start.seconds = true)
    (bounded : lifetime.isRepresentable = true) (positive : 0 < lifetime.wholeSeconds) :
    (issue uid start lifetime jti issuer).expiry.toInt = start.seconds + lifetime.wholeSeconds := by
  have limit := Span.wholeSeconds_le_of_isRepresentable bounded
  simp only [Instant.inCalendar, Bool.and_eq_true, decide_eq_true_eq] at inside
  exact Int64.toInt_ofInt_of_le (by omega) (by omega)

end Claims

namespace Codec

/-- What the signature of a minted token covers. -/
def mintedMessage (c : Codec) (start : Instant) (uid : Int64) (lifetime : Span) (draw : Draw) :
    Bytes :=
  Compact.message ⟨c.keys.algorithm⟩ (Claims.issue uid start lifetime draw.jti c.issuer).doc

/-- Minting succeeds for a principal other than zero and a lifetime of a second at least, when the
private key gives a signature. -/
theorem mint_eq_ok_iff {c : Codec} {start : Instant} {uid : Int64} {lifetime : Span} {draw : Draw}
    {token : String} :
    c.mint start uid lifetime draw = .ok token ↔
      uid ≠ 0 ∧ 0 < lifetime.wholeSeconds ∧
        ∃ signature,
          c.keys.sign draw.entropy (c.mintedMessage start uid lifetime draw) = some signature ∧
            token = Compact.text (c.mintedMessage start uid lifetime draw) signature := by
  unfold mint mintedMessage
  split_ifs with zero short
  · simp [refuse, zero]
  · simp only [refuse, reduceCtorEq, false_iff, not_and]
    intro _ positive
    omega
  · simp only
    split
    · rename_i signature signed
      simp only [Except.ok.injEq, signed, Option.some.injEq, exists_eq_left']
      exact ⟨fun same => ⟨zero, by omega, same.symm⟩, fun parts => parts.2.2.symm⟩
    · rename_i unsigned
      simp [refuse, unsigned]

theorem mint_of_unsigned {c : Codec} {start : Instant} {uid : Int64} (uid_ne : uid ≠ 0)
    {lifetime : Span} (positive : 0 < lifetime.wholeSeconds) {draw : Draw}
    (unsigned : c.keys.sign draw.entropy (c.mintedMessage start uid lifetime draw) = none) :
    c.mint start uid lifetime draw = refuse .tokenGenerationFailed := by
  have long : ¬lifetime.wholeSeconds ≤ 0 := by omega
  rw [mintedMessage] at unsigned
  simp only [mint, uid_ne, long, unsigned, ↓reduceIte]

theorem mintNow_of_running (c : Codec) {now : Instant} (running : 0 ≤ now.seconds) (uid : Int64)
    (lifetime : Span) (draw : Draw) :
    c.mintNow now uid lifetime draw = c.mint now uid lifetime draw := by
  rw [mintNow, Instant.read_of_running running]

theorem mintNow_before_epoch (c : Codec) {now : Instant} (early : now.seconds < 0) (uid : Int64)
    (lifetime : Span) (draw : Draw) : c.mintNow now uid lifetime draw = .error .overflow := by
  rw [mintNow, Instant.read_before_epoch early]

/-- What is minted now is minted at the reading of the clock, which is not before 1970. -/
theorem mintNow_eq_ok_iff {c : Codec} {now : Instant} {uid : Int64} {lifetime : Span} {draw : Draw}
    {token : String} :
    c.mintNow now uid lifetime draw = .ok token ↔
      0 ≤ now.seconds ∧ c.mint now uid lifetime draw = .ok token := by
  rcases Int.lt_or_le now.seconds 0 with early | running
  · simp [c.mintNow_before_epoch early, Int.not_le.mpr early]
  · simp [c.mintNow_of_running running, running]

theorem mintNow_eq_error_iff {c : Codec} {now : Instant} {uid : Int64} {lifetime : Span}
    {draw : Draw} {f : Failure} :
    c.mintNow now uid lifetime draw = .error f ↔
      now.seconds < 0 ∧ f = .overflow ∨
        0 ≤ now.seconds ∧ c.mint now uid lifetime draw = .error f := by
  rcases Int.lt_or_le now.seconds 0 with early | running
  · simp [c.mintNow_before_epoch early, Int.not_le.mpr early, early, eq_comm]
  · simp [c.mintNow_of_running running, running, Int.not_lt.mpr running]

/-- The payload of a token with a valid signature. -/
theorem signedPayload_text {c : Codec} {payload : Doc} {signature : Bytes}
    (valid : c.keys.verify (Compact.message ⟨c.keys.algorithm⟩ payload) signature = true) :
    c.signedPayload (Compact.text (Compact.message ⟨c.keys.algorithm⟩ payload) signature) =
      .ok (Compact.part payload.bytes) := by
  have header : (partDoc? (Compact.part (Header.doc ⟨c.keys.algorithm⟩).bytes)).bind
      Header.ofDoc? = some ⟨c.keys.algorithm⟩ := by
    rw [partDoc?, Compact.content?_part, Option.bind_some,
      Doc.ofBytes?_bytes (Header.wellFormed_doc _), Option.bind_some, Header.ofDoc?_doc]
  rw [signedPayload, Compact.parts?_text]
  simp only [header, Compact.content?_part, ne_eq, not_true_eq_false, ↓reduceIte]
  exact if_pos valid

/-- Claims are accepted when what is seen of their payload passes the checks. -/
theorem accept_of_read {c : Codec} {now : Instant} {payload : Bytes} {d : Doc} {claims : Claims}
    {r : Registered} (content : partDoc? payload = some d) (read : Claims.ofDoc? d = some claims)
    (seen : Registered.ofDoc? d = some r) :
    c.accept now payload =
      match c.check now r with
      | .error f => .error f
      | .ok () =>
        if claims.uid = 0 ∨ claims.expiry ≤ claims.issuedAt then refuse .invalidClaims
        else .ok claims := by
  cases checked : c.check now r with
  | error f => simp only [accept, content, read, seen, checked]
  | ok _ => simp only [accept, content, read, seen, checked]

/-- Claims are accepted when their expiry and their issuer pass the checks. -/
theorem accept_doc (c : Codec) (now : Instant) (claims : Claims) :
    c.accept now (Compact.part claims.doc.bytes) =
      match c.check now
          ⟨if 0 ≤ claims.expiry.toInt then some claims.expiry.toInt.toNat else none,
            claims.issuer, false⟩ with
      | .error f => .error f
      | .ok () =>
        if claims.uid = 0 ∨ claims.expiry ≤ claims.issuedAt then refuse .invalidClaims
        else .ok claims := by
  have content : partDoc? (Compact.part claims.doc.bytes) = some claims.doc := by
    rw [partDoc?, Compact.content?_part, Option.bind_some, Doc.ofBytes?_bytes claims.wellFormed_doc]
  exact accept_of_read content (Claims.ofDoc?_doc claims) (Registered.ofDoc?_doc claims)

/-- The outcome of the checks for an expiry, an issuer and an audience. -/
theorem check_claims {c : Codec} {now : Instant} (running : (c.leeway.toNat : Int) ≤ now.seconds)
    (expiry : Int) (issuer : Option String) (audience : Bool) :
    c.check now ⟨if 0 ≤ expiry then some expiry.toNat else none, issuer, audience⟩ =
      if expiry < 0 ∨ c.issuer.isSome ∧ issuer = none then refuse .invalidClaims
      else if expiry + c.leeway.toNat < now.seconds then refuse .tokenExpired
      else if c.issuer.isSome ∧ c.issuer ≠ issuer then refuse .invalidClaims
      else if audience then refuse .invalidTokenFormat
      else .ok () := by
  by_cases sign : 0 ≤ expiry
  · have expired : (expiry.toNat : Int) = expiry := Int.toNat_of_nonneg sign
    have not_negative : ¬expiry < 0 := by omega
    have not_early : ¬now.seconds < c.leeway.toNat := by omega
    simp only [check, if_pos sign, expired, not_early, not_negative, false_or, ↓reduceIte]
    cases c.issuer with
    | none => simp
    | some required =>
        cases issuer with
        | none => simp
        | some stamped =>
            have order : stamped = required ↔ required = stamped := eq_comm
            simp [order]
  · have negative : expiry < 0 := by omega
    simp [check, sign, negative]

/-- What becomes of signed claims: the first fault that they have, or the claims. -/
def verdict (c : Codec) (now : Instant) (claims : Claims) : Outcome Claims :=
  if claims.expiry.toInt < 0 ∨ c.issuer.isSome ∧ claims.issuer = none then refuse .invalidClaims
  else if claims.expiry.toInt + c.leeway.toNat < now.seconds then refuse .tokenExpired
  else if c.issuer.isSome ∧ c.issuer ≠ claims.issuer then refuse .invalidClaims
  else .ok claims

/-- To a codec with their issuer all that counts of claims is their expiry. -/
theorem verdict_eq_of_issuer {c : Codec} {now : Instant} {claims : Claims}
    (forward : 0 ≤ claims.expiry.toInt) (same_issuer : claims.issuer = c.issuer) :
    c.verdict now claims =
      if claims.expiry.toInt + c.leeway.toNat < now.seconds then refuse .tokenExpired
      else .ok claims := by
  have present : ¬(claims.expiry.toInt < 0 ∨ c.issuer.isSome ∧ claims.issuer = none) := by
    rintro (negative | ⟨required, absent⟩)
    · omega
    · rw [← same_issuer, absent] at required
      cases required
  have matching : ¬(c.issuer.isSome ∧ c.issuer ≠ claims.issuer) :=
    fun ⟨_, different⟩ => different same_issuer.symm
  rw [verdict, if_neg present, if_neg matching]

/-- Verifying signed claims of a principal that expire after their issue. -/
theorem verify_text {c : Codec} {now : Instant} (running : (c.leeway.toNat : Int) ≤ now.seconds)
    {claims : Claims} {signature : Bytes}
    (valid : c.keys.verify (Compact.message ⟨c.keys.algorithm⟩ claims.doc) signature = true)
    (uid_ne : claims.uid ≠ 0) (ordered : claims.issuedAt.toInt < claims.expiry.toInt) :
    c.verify now (Compact.text (Compact.message ⟨c.keys.algorithm⟩ claims.doc) signature) =
      c.verdict now claims := by
  have order : ¬claims.expiry ≤ claims.issuedAt := by
    rw [Int64.le_iff_toInt_le]
    omega
  rw [verify, signedPayload_text valid]
  simp only [accept_doc, check_claims running, uid_ne, order, or_self, Bool.false_eq_true,
    ↓reduceIte]
  unfold verdict
  split_ifs <;> rfl

/-- The payload that a token carries. -/
def payload? (token : String) : Option Doc :=
  (Compact.parts? token).bind fun p => partDoc? p.payload

/-- The claims that a token carries, whether or not they hold. -/
def claims? (token : String) : Option Claims :=
  (payload? token).bind Claims.ofDoc?

/-- The token carries the claims, under a signature of the codec's private key. -/
def Signed (c : Codec) (claims : Claims) (token : String) : Prop :=
  ∃ entropy signature,
    c.keys.sign entropy (Compact.message ⟨c.keys.algorithm⟩ claims.doc) = some signature ∧
      token = Compact.text (Compact.message ⟨c.keys.algorithm⟩ claims.doc) signature

theorem signed_of_mint {c : Codec} {start : Instant} {uid : Int64} {lifetime : Span} {draw : Draw}
    {token : String} (minted : c.mint start uid lifetime draw = .ok token) :
    c.Signed (.issue uid start lifetime draw.jti c.issuer) token := by
  obtain ⟨_, _, signature, signed, rfl⟩ := mint_eq_ok_iff.mp minted
  exact ⟨_, signature, signed, rfl⟩

/-- A signed token carries the claims that were signed. -/
theorem Signed.claims?_eq {c : Codec} {claims : Claims} {token : String}
    (signed : c.Signed claims token) : claims? token = some claims := by
  obtain ⟨_, signature, _, rfl⟩ := signed
  rw [claims?, payload?, Compact.parts?_text, Option.bind_some, partDoc?, Compact.content?_part,
    Option.bind_some, Doc.ofBytes?_bytes (Claims.wellFormed_doc _), Option.bind_some,
    Claims.ofDoc?_doc]

/-- A minted token says what it was minted for. -/
theorem claims?_of_mint {c : Codec} {start : Instant} {uid : Int64} {lifetime : Span}
    {draw : Draw} {token : String} (minted : c.mint start uid lifetime draw = .ok token) :
    claims? token = some (.issue uid start lifetime draw.jti c.issuer) :=
  (signed_of_mint minted).claims?_eq

/-- A signed token is verified by everyone with the same keys. -/
theorem Signed.verify_eq {signer verifier : Codec} {claims : Claims} {token : String}
    (signed : signer.Signed claims token) (sound : signer.keys.Sound)
    (same_keys : verifier.keys = signer.keys) {now : Instant}
    (running : (verifier.leeway.toNat : Int) ≤ now.seconds) (uid_ne : claims.uid ≠ 0)
    (ordered : claims.issuedAt.toInt < claims.expiry.toInt) :
    verifier.verify now token = verifier.verdict now claims := by
  obtain ⟨_, signature, made, rfl⟩ := signed
  have valid := sound _ _ _ made
  rw [← same_keys] at valid ⊢
  exact verify_text running valid uid_ne ordered

/-- A minted token is verified by everyone with the same keys. -/
theorem verify_of_mint (minter verifier : Codec) (sound : minter.keys.Sound)
    (same_keys : verifier.keys = minter.keys) {start now : Instant} {uid : Int64}
    {lifetime : Span} {draw : Draw} {token : String}
    (inside : Instant.inCalendar start.seconds = true) (bounded : lifetime.isRepresentable = true)
    (running : (verifier.leeway.toNat : Int) ≤ now.seconds)
    (minted : minter.mint start uid lifetime draw = .ok token) :
    verifier.verify now token =
      verifier.verdict now (.issue uid start lifetime draw.jti minter.issuer) := by
  obtain ⟨uid_ne, positive, _⟩ := mint_eq_ok_iff.mp minted
  have issuedAt := Claims.issuedAt_issue uid draw.jti minter.issuer inside lifetime
  have expiry := Claims.expiry_issue uid draw.jti minter.issuer inside bounded positive
  exact (signed_of_mint minted).verify_eq sound same_keys running uid_ne (by omega)

/-- To the codec that minted a token all that counts of it is its expiry. -/
theorem verify_of_own_mint {c : Codec} (sound : c.keys.Sound) {start now : Instant} {uid : Int64}
    {lifetime : Span} {draw : Draw} {token : String}
    (inside : Instant.inCalendar start.seconds = true) (bounded : lifetime.isRepresentable = true)
    (forward : 0 ≤ start.seconds + lifetime.wholeSeconds)
    (running : (c.leeway.toNat : Int) ≤ now.seconds)
    (minted : c.mint start uid lifetime draw = .ok token) :
    c.verify now token =
      if start.seconds + lifetime.wholeSeconds + c.leeway.toNat < now.seconds then
        refuse .tokenExpired
      else .ok (.issue uid start lifetime draw.jti c.issuer) := by
  obtain ⟨_, positive, _⟩ := mint_eq_ok_iff.mp minted
  have expiry := Claims.expiry_issue uid draw.jti c.issuer inside bounded positive
  rw [verify_of_mint c c sound rfl inside bounded running minted,
    verdict_eq_of_issuer (by omega) rfl, expiry]

/-- A token holds at the moment that it is minted, for the codec that minted it. -/
theorem verify_at_mint {c : Codec} (sound : c.keys.Sound) {now : Instant} {uid : Int64}
    {lifetime : Span} {draw : Draw} {token : String}
    (inside : Instant.inCalendar now.seconds = true) (bounded : lifetime.isRepresentable = true)
    (running : (c.leeway.toNat : Int) ≤ now.seconds)
    (minted : c.mint now uid lifetime draw = .ok token) :
    c.verify now token = .ok (.issue uid now lifetime draw.jti c.issuer) := by
  obtain ⟨_, positive, _⟩ := mint_eq_ok_iff.mp minted
  rw [verify_of_own_mint sound inside bounded (by omega) running minted, if_neg (by omega)]

/-- Minting fails only when the private key gives no signature. Otherwise the outcome of verifying
the token with the same keys depends on its expiry and on the two issuers alone. -/
theorem verify_mint {keys : KeyPair} (sound : keys.Sound) (stamped required : Option String)
    (mintLeeway leeway : UInt64) {uid : Int64} (uid_ne : uid ≠ 0) {start : Instant}
    (inside : Instant.inCalendar start.seconds = true) {lifetime : Span}
    (bounded : lifetime.isRepresentable = true) (positive : 1 ≤ lifetime.wholeSeconds)
    (draw : Draw) {now : Instant} (running : (leeway.toNat : Int) ≤ now.seconds) :
    let minter : Codec := ⟨keys, stamped, mintLeeway⟩
    let verifier : Codec := ⟨keys, required, leeway⟩
    let expiry := start.seconds + lifetime.wholeSeconds
    (keys.sign draw.entropy (minter.mintedMessage start uid lifetime draw) = none ∧
        minter.mint start uid lifetime draw = refuse .tokenGenerationFailed) ∨
      ∃ (token : String) (claims : Claims),
        minter.mint start uid lifetime draw = .ok token ∧
        claims.uid = uid ∧ claims.issuedAt.toInt = start.seconds ∧
        claims.expiry.toInt = expiry ∧ claims.jti = draw.jti ∧ claims.issuer = stamped ∧
        verifier.verify now token =
          if expiry < 0 ∨ required.isSome ∧ stamped = none then refuse .invalidClaims
          else if expiry + leeway.toNat < now.seconds then refuse .tokenExpired
          else if required.isSome ∧ required ≠ stamped then refuse .invalidClaims
          else .ok claims := by
  intro minter verifier expiry
  cases signed : keys.sign draw.entropy (minter.mintedMessage start uid lifetime draw) with
  | none =>
      have unsigned : minter.keys.sign _ (minter.mintedMessage start uid lifetime draw) = none :=
        signed
      exact .inl ⟨rfl, mint_of_unsigned uid_ne (by omega) unsigned⟩
  | some signature =>
      have long : 0 < lifetime.wholeSeconds := by omega
      have minted : minter.mint start uid lifetime draw = .ok _ :=
        mint_eq_ok_iff.mpr ⟨uid_ne, long, signature, signed, rfl⟩
      have expires := Claims.expiry_issue uid draw.jti stamped inside bounded long
      refine .inr ⟨_, .issue uid start lifetime draw.jti stamped, minted, rfl,
        Claims.issuedAt_issue _ _ _ inside _, expires, rfl, rfl, ?_⟩
      rw [verify_of_mint minter verifier sound rfl inside bounded running minted, verdict, expires]
      rfl

/-- A token of the year 1969 that expired a second after the epoch, seen by another issuer's codec
within its leeway. -/
theorem verify_mint_before_epoch :
    let minter : Codec := ⟨.digest, some "a", 0⟩
    let verifier : Codec := ⟨.digest, some "b", 2⟩
    ∃ (token : String) (claims : Claims),
      minter.mint ⟨-1500000000⟩ 7 ⟨3900000000⟩ ⟨"x", []⟩ = .ok token ∧
        claims.uid = 7 ∧ claims.issuedAt.toInt = -2 ∧ claims.expiry.toInt = 1 ∧
        verifier.verify (.ofSeconds 3) token = refuse .invalidClaims := by
  intro minter verifier
  have inside : Instant.inCalendar (Instant.mk (-1500000000)).seconds = true := by decide
  have bounded : (Span.mk 3900000000).isRepresentable = true := by decide
  have running : ((2 : UInt64).toNat : Int) ≤ (Instant.ofSeconds 3).seconds := by decide
  rcases verify_mint KeyPair.sound_digest (some "a") (some "b") 0 2 (show (7 : Int64) ≠ 0 by decide)
      inside bounded (by decide) ⟨"x", []⟩ running with
    ⟨unsigned, _⟩ | ⟨token, claims, minted, uid, issuedAt, expiry, _, _, verified⟩
  · simp [KeyPair.digest] at unsigned
  · exact ⟨token, claims, minted, uid, issuedAt, expiry, verified⟩

end Codec

end TokenLifecycle
