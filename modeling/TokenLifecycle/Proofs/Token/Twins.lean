import Mathlib.Tactic
import TokenLifecycle.Proofs.Session.Twins
import TokenLifecycle.Proofs.Token.Minting

/-!
# Twin tokens

Two tokens that were minted for the same claims and differ only by chance: in their identifiers and
in their signatures. They are verified alike, and as long as no identifier is drawn twice neither of
them has another twin.
-/

namespace TokenLifecycle

/-- Claims that differ at most in their identifiers. -/
def Claims.Twins (claims claims' : Claims) : Prop :=
  { claims with jti := claims'.jti } = claims'

theorem Claims.Twins.refl (claims : Claims) : claims.Twins claims :=
  rfl

namespace Codec

variable {c : Codec} {now start start' : Instant} {uid uid' : Int64} {lifetime lifetime' : Span}
  {draw : Draw} {token token' other : String} {draws : List (Draw × Draw)}

/-! ### Verification -/

theorem Signed.verify_eq_accept {claims : Claims} (signed : c.Signed claims token)
    (sound : c.keys.Sound) (now : Instant) :
    c.verify now token = c.accept now (Compact.part claims.doc.bytes) := by
  obtain ⟨_, signature, made, rfl⟩ := signed
  rw [verify, signedPayload_text (sound _ _ _ made)]

/-- Whether claims are accepted does not depend on their identifier. -/
theorem twins_accept (c : Codec) (now : Instant) {claims claims' : Claims}
    (twins : claims.Twins claims') :
    (c.accept now (Compact.part claims.doc.bytes)).Twins Claims.Twins
      (c.accept now (Compact.part claims'.doc.bytes)) := by
  rw [← twins, accept_doc, accept_doc]
  cases c.check now
      ⟨if 0 ≤ claims.expiry.toInt then some claims.expiry.toInt.toNat else none,
        claims.issuer, false⟩ with
  | error f => exact .error f
  | ok _ =>
      simp only
      split_ifs
      · exact .error _
      · exact .ok rfl

/-! ### Minting -/

/-- Tokens that were minted alike, each with its draw of a pair. -/
def Twins (c : Codec) (draws : List (Draw × Draw)) (token token' : String) : Prop :=
  ∃ pair ∈ draws, ∃ start uid lifetime,
    c.mint start uid lifetime pair.1 = .ok token ∧ c.mint start uid lifetime pair.2 = .ok token'

/-- Minting with two draws is refused for the same cause, or gives twins, unless the private key
gives no signature. -/
theorem mint_cases (c : Codec) (start : Instant) (uid : Int64) (lifetime : Span)
    (draw draw' : Draw) :
    (∃ message, c.mint start uid lifetime draw = refuse (.validation message) ∧
        c.mint start uid lifetime draw' = refuse (.validation message)) ∨
      (c.mint start uid lifetime draw = refuse .tokenGenerationFailed ∨
        c.mint start uid lifetime draw' = refuse .tokenGenerationFailed) ∨
      ∃ token token', c.mint start uid lifetime draw = .ok token ∧
        c.mint start uid lifetime draw' = .ok token' := by
  by_cases zero : uid = 0
  · have refused (draw : Draw) : c.mint start uid lifetime draw =
        refuse (.validation "principal id must be non-zero") := by
      rw [mint, if_pos zero]
    exact .inl ⟨_, refused draw, refused draw'⟩
  · by_cases positive : 0 < lifetime.wholeSeconds
    · cases signed : c.keys.sign draw.entropy (c.mintedMessage start uid lifetime draw) with
      | none => exact .inr (.inl (.inl (mint_of_unsigned zero positive signed)))
      | some signature =>
          cases signed' :
              c.keys.sign draw'.entropy (c.mintedMessage start uid lifetime draw') with
          | none => exact .inr (.inl (.inr (mint_of_unsigned zero positive signed')))
          | some signature' =>
              exact .inr (.inr ⟨_, _, mint_eq_ok_iff.mpr ⟨zero, positive, _, signed, rfl⟩,
                mint_eq_ok_iff.mpr ⟨zero, positive, _, signed', rfl⟩⟩)
    · have short : lifetime.wholeSeconds ≤ 0 := by omega
      have refused (draw : Draw) : c.mint start uid lifetime draw =
          refuse (.validation
            ("token lifetime must be at least one second, got " ++ lifetime.render)) := by
        rw [mint, if_neg zero, if_pos short]
      exact .inl ⟨_, refused draw, refused draw'⟩

/-- A token is determined by its claims and its draw. -/
theorem mint_unique (minted : c.mint start uid lifetime draw = .ok token)
    (minted' : c.mint start' uid' lifetime' draw = .ok token')
    {jti : String} (twins : (Claims.issue uid start lifetime jti c.issuer).Twins
      (.issue uid' start' lifetime' jti c.issuer)) : token = token' := by
  obtain ⟨_, _, signature, signed, rfl⟩ := mint_eq_ok_iff.mp minted
  obtain ⟨_, _, signature', signed', rfl⟩ := mint_eq_ok_iff.mp minted'
  have claims : Claims.issue uid start lifetime draw.jti c.issuer =
      .issue uid' start' lifetime' draw.jti c.issuer := by
    simp only [Claims.Twins, Claims.issue, Claims.mk.injEq] at twins ⊢
    exact twins
  have message : c.mintedMessage start uid lifetime draw =
      c.mintedMessage start' uid' lifetime' draw := by
    rw [mintedMessage, mintedMessage, claims]
  rw [message, signed'] at signed
  rw [message, Option.some.inj signed]

namespace Twins

theorem symm (twins : c.Twins draws token token') :
    c.Twins (draws.map Prod.swap) token' token := by
  obtain ⟨pair, drawn, start, uid, lifetime, minted, minted'⟩ := twins
  exact ⟨pair.swap, List.mem_map_of_mem drawn, start, uid, lifetime, minted', minted⟩

/-- Twins are verified alike. -/
theorem verify (twins : c.Twins draws token token') (sound : c.keys.Sound) (now : Instant) :
    (c.verify now token).Twins Claims.Twins (c.verify now token') := by
  obtain ⟨pair, _, start, uid, lifetime, minted, minted'⟩ := twins
  rw [(signed_of_mint minted).verify_eq_accept sound,
    (signed_of_mint minted').verify_eq_accept sound]
  exact twins_accept c now rfl

/-- A token has one twin when no identifier is drawn twice. -/
theorem right_unique (distinct : (draws.map (·.1.jti)).Nodup) (twins : c.Twins draws token token')
    (twins' : c.Twins draws token other) : token' = other := by
  obtain ⟨pair, drawn, start, uid, lifetime, minted, minted'⟩ := twins
  obtain ⟨pair', drawn', start', uid', lifetime', again, again'⟩ := twins'
  have carried := (claims?_of_mint minted).symm.trans (claims?_of_mint again)
  have claims := Option.some.inj carried
  obtain rfl := List.inj_on_of_nodup_map distinct drawn drawn' (congrArg Claims.jti claims)
  have same : (Claims.issue uid start lifetime pair.1.jti c.issuer).Twins
      (.issue uid' start' lifetime' pair.1.jti c.issuer) := by
    rw [claims]
    exact .refl _
  exact mint_unique minted' again' same

/-- A token is the twin of one only when no identifier is drawn twice. -/
theorem left_unique (distinct : (draws.map (·.2.jti)).Nodup) (twins : c.Twins draws token token')
    (twins' : c.Twins draws other token') : token = other := by
  have distinct' : ((draws.map Prod.swap).map (·.1.jti)).Nodup := by
    rw [List.map_map]
    exact distinct
  exact right_unique distinct' twins.symm twins'.symm

end Twins

end Codec

end TokenLifecycle
