import Mathlib.Tactic
import TokenLifecycle.Proofs.Token.Bearer
import TokenLifecycle.Proofs.Token.Minting
import TokenLifecycle.Service.Operations

/-!
# Authentication by a bearer header

A header is authenticated by the token that it carries, and refused for its format when it carries
none. A minted token is written without spaces, so every header that carries one comes to what the
token comes to. The main statement is `authenticate_spec`.
-/

namespace TokenLifecycle

namespace Codec

variable {c : Codec} {start : Instant} {uid : Int64} {lifetime : Span} {draw : Draw}
  {token : String}

/-- A minted token is written with the digits of base 64 and points. -/
theorem isDigit_or_point_of_mint (minted : c.mint start uid lifetime draw = .ok token) {ch : Char}
    (member : ch ∈ token.toList) : Text.Base64.IsDigit ch ∨ ch = '.' := by
  obtain ⟨_, _, signature, _, rfl⟩ := mint_eq_ok_iff.mp minted
  exact Compact.isDigit_or_point_of_mem_text member

/-- A header can carry every token that is minted. -/
theorem carries_of_mint (minted : c.mint start uid lifetime draw = .ok token) :
    Bearer.Carries ("Bearer " ++ token) token where
  spelled := rfl
  nonempty := by
    obtain ⟨_, _, signature, _, rfl⟩ := mint_eq_ok_iff.mp minted
    exact Compact.text_ne_empty _ _
  spaceless := by
    intro space
    have written := isDigit_or_point_of_mint minted space
    revert written
    decide

end Codec

namespace Service

variable (s : Service) (now : Instant)

theorem authenticate_of_carries {header t : String} (carried : Bearer.Carries header t) :
    s.authenticate now header = s.principal now t := by
  rw [authenticate, Bearer.token_eq_ok_iff.mpr carried]

theorem authenticate_of_refused {header : String}
    (refused : Bearer.token header = refuse .invalidTokenFormat) :
    s.authenticate now header = refuse .invalidTokenFormat := by
  rw [authenticate, refused]
  rfl

/-- Either a header carries a token and is authenticated as this token is, or it carries none and is
refused for its format. No minted token is ever refused for its header. -/
theorem authenticate_spec :
    (∀ header t, Bearer.token header = .ok t ↔ Bearer.Carries header t) ∧
      (∀ header, (∃ t, Bearer.Carries header t ∧ Bearer.token header = .ok t ∧
          s.authenticate now header = s.principal now t) ∨
        (∀ t, ¬Bearer.Carries header t) ∧ Bearer.token header = refuse .invalidTokenFormat ∧
          s.authenticate now header = refuse .invalidTokenFormat) ∧
      ∀ (minter : Codec) (start : Instant) (uid : Int64) (lifetime : Span) (draw : Draw)
        (token : String), minter.mint start uid lifetime draw = .ok token →
          (∀ ch ∈ token.toList, Text.Base64.IsDigit ch ∨ ch = '.') ∧
            s.authenticate now ("Bearer " ++ token) = s.principal now token := by
  refine ⟨fun _ _ => Bearer.token_eq_ok_iff, fun header => ?_, ?_⟩
  · rcases Bearer.token_cases header with ⟨t, carried, found⟩ | ⟨bare, refused⟩
    · exact .inl ⟨t, carried, found, s.authenticate_of_carries now carried⟩
    · exact .inr ⟨bare, refused, s.authenticate_of_refused now refused⟩
  · intro minter start uid lifetime draw token minted
    exact ⟨fun _ => Codec.isDigit_or_point_of_mint minted,
      s.authenticate_of_carries now (Codec.carries_of_mint minted)⟩

/-- A token for a principal below zero, with an issuer that has a space in its name. -/
theorem authenticate_spec_of_spaced_issuer :
    let s : Service := ⟨⟨.digest, some "two words", 0⟩, Settings.default⟩
    ∃ token, s.codec.mint (.ofSeconds 0) (-7) (.ofSeconds 60) ⟨"x", []⟩ = .ok token ∧
      s.authenticate (.ofSeconds 30) ("Bearer " ++ token) = .ok (-7) := by
  intro s
  have minted : s.codec.mint (.ofSeconds 0) (-7) (.ofSeconds 60) ⟨"x", []⟩ = .ok _ :=
    Codec.mint_eq_ok_iff.mpr ⟨by decide, by decide, _, rfl, rfl⟩
  have carried := ((s.authenticate_spec (.ofSeconds 30)).2.2 _ _ _ _ _ _ minted).2
  have running : (s.codec.leeway.toNat : Int) ≤ (Instant.ofSeconds 30).seconds := by decide
  have verified := Codec.verify_of_own_mint KeyPair.sound_digest (by decide) (by decide)
    (by decide) running minted
  refine ⟨_, minted, carried.trans ?_⟩
  rw [principal, claims, verified]
  rfl

end Service

end TokenLifecycle
