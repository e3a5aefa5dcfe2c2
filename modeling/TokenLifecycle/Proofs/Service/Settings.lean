import Mathlib.Tactic
import TokenLifecycle.Proofs.Time.Instant
import TokenLifecycle.Service.Settings

/-!
# Lifetimes on their way to the settings

A lifetime is given as a number of seconds, or of minutes or days, which are multiplied first. A
number of seconds becomes the span of this many seconds, or is refused by its name. The products are
computed before anything is checked: the main statement `ofUnits_spec` says that they lead to the
lifetimes that they stand for or to a refusal as long as they are 64-bit integers, and to an
overflow otherwise.
-/

namespace TokenLifecycle

/-- An integer is a 64-bit one. -/
def InWord (n : Int) : Prop :=
  -9223372036854775808 ≤ n ∧ n < 9223372036854775808

instance (n : Int) : Decidable (InWord n) :=
  inferInstanceAs (Decidable (_ ∧ _))

theorem InWord.toInt_ofInt {n : Int} (inside : InWord n) : (Int64.ofInt n).toInt = n :=
  Int64.toInt_ofInt_of_le inside.1 inside.2

theorem inWord_of_isRepresentable {seconds : Int}
    (bounded : (Span.ofSeconds seconds).isRepresentable = true) : InWord seconds := by
  have range := Span.isRepresentable_ofSeconds_iff.mp bounded
  unfold InWord
  omega

/-! ### Minutes and days -/

namespace Config.Jwt

/-- The product is exact, or there is none. -/
theorem seconds_eq (count : Int64) (unit : Int) :
    seconds count unit =
      if InWord (count.toInt * unit) then .ok (Int64.ofInt (count.toInt * unit))
      else .error .overflow := by
  by_cases inside : InWord (count.toInt * unit)
  · have found : Numeral.toInt64? (count.toInt * unit) = some _ := if_pos inside
    rw [seconds, found, if_pos inside]
  · have absent : Numeral.toInt64? (count.toInt * unit) = none := if_neg inside
    rw [seconds, absent, if_neg inside]

end Config.Jwt

namespace Service.Settings

/-! ### From seconds to settings -/

theorem lifetime_eq (kind : String) (seconds : Int64) :
    lifetime kind seconds =
      if (Span.ofSeconds seconds.toInt).isRepresentable then .ok (.ofSeconds seconds.toInt)
      else refuse (outOfRange kind seconds.toInt) := by
  cases bounded : (Span.ofSeconds seconds.toInt).isRepresentable with
  | true => simp [lifetime, Span.ofSeconds?, bounded]
  | false => simp [lifetime, Span.ofSeconds?, bounded]

/-- The settings with the lifetimes of a configuration. -/
def asConfigured (jwt : Config.Jwt) (session : Config.Session) : Settings where
  accessLifetime := .ofSeconds jwt.accessTokenExpiry.toInt
  refreshLifetime := .ofSeconds jwt.refreshTokenExpiry.toInt
  keyPrefix := session.keyPrefix

/-- A configuration is refused for the first of its lifetimes that no span has. -/
theorem ofConfig_eq (jwt : Config.Jwt) (session : Config.Session) :
    ofConfig jwt session =
      if (Span.ofSeconds jwt.accessTokenExpiry.toInt).isRepresentable then
        if (Span.ofSeconds jwt.refreshTokenExpiry.toInt).isRepresentable then
          .ok (asConfigured jwt session)
        else refuse (outOfRange "refresh" jwt.refreshTokenExpiry.toInt)
      else refuse (outOfRange "access" jwt.accessTokenExpiry.toInt) := by
  simp only [ofConfig, lifetime_eq]
  split_ifs <;> rfl

/-- Settings can be used when both lifetimes have a second at least and the prefix is not empty. -/
theorem validate_eq_ok_iff {settings : Settings} :
    settings.validate = .ok () ↔
      0 < settings.accessLifetime.wholeSeconds ∧ 0 < settings.refreshLifetime.wholeSeconds ∧
        settings.keyPrefix ≠ "" := by
  unfold validate
  split_ifs with access refresh unnamed
  · exact iff_of_false (by simp [refuse]) (by omega)
  · exact iff_of_false (by simp [refuse]) (by omega)
  · exact iff_of_false (by simp [refuse]) (fun usable => usable.2.2 unnamed)
  · exact iff_of_true rfl ⟨by omega, by omega, unnamed⟩

theorem exists_validate_eq_refuse {settings : Settings} (unusable : settings.validate ≠ .ok ()) :
    ∃ message, settings.validate = refuse (.validation message) := by
  unfold validate at unusable ⊢
  split_ifs at unusable ⊢
  · exact ⟨_, rfl⟩
  · exact ⟨_, rfl⟩
  · exact ⟨_, rfl⟩
  · exact absurd rfl unusable

/-! ### From minutes and days to settings -/

/-- The settings that a configuration gives once its lifetimes are set in minutes and in days. -/
def ofUnits (jwt : Config.Jwt) (session : Config.Session) (minutes days : Int64) :
    Outcome Settings :=
  ((jwt.withAccessMinutes minutes).bind fun jwt => jwt.withRefreshDays days).bind
    fun jwt => ofConfig jwt session

/-- What two numbers of seconds come to when they are the products of other numbers. -/
inductive Converted (session : Config.Session) (access refresh : Int) : Outcome Settings → Prop
  | overflowed : ¬(InWord access ∧ InWord refresh) →
      Converted session access refresh (.error .overflow)
  | longAccess : InWord access ∧ InWord refresh →
      (Span.ofSeconds access).isRepresentable = false →
      Converted session access refresh (refuse (outOfRange "access" access))
  | longRefresh : InWord access ∧ InWord refresh →
      (Span.ofSeconds access).isRepresentable = true →
      (Span.ofSeconds refresh).isRepresentable = false →
      Converted session access refresh (refuse (outOfRange "refresh" refresh))
  | kept : (Span.ofSeconds access).isRepresentable = true →
      (Span.ofSeconds refresh).isRepresentable = true →
      Converted session access refresh
        (.ok ⟨.ofSeconds access, .ofSeconds refresh, session.keyPrefix⟩)

theorem converted (jwt : Config.Jwt) (session : Config.Session) (minutes days : Int64) :
    Converted session (60 * minutes.toInt) (86400 * days.toInt)
      (ofUnits jwt session minutes days) := by
  rw [Int.mul_comm 60, Int.mul_comm 86400]
  unfold ofUnits Config.Jwt.withAccessMinutes
  rw [Config.Jwt.seconds_eq]
  split_ifs with access
  · simp only [Except.map, Except.bind, Config.Jwt.withRefreshDays, Config.Jwt.seconds_eq]
    split_ifs with refresh
    · simp only [ofConfig_eq, asConfigured, access.toInt_ofInt, refresh.toInt_ofInt]
      split_ifs with short short'
      · exact .kept short short'
      · exact .longRefresh ⟨access, refresh⟩ short (Bool.eq_false_of_not_eq_true short')
      · exact .longAccess ⟨access, refresh⟩ (Bool.eq_false_of_not_eq_true short)
    · exact .overflowed fun inside => refresh inside.2
  · exact .overflowed fun inside => access inside.1

/-- The outcome has just these lifetimes, in seconds, or refuses them. -/
def ExactOrRefused (outcome : Outcome Settings) (access refresh : Int) : Prop :=
  (∃ settings, outcome = .ok settings ∧ settings.accessLifetime = .ofSeconds access ∧
    settings.refreshLifetime = .ofSeconds refresh) ∨
  ∃ message, outcome = refuse (.validation message)

namespace Converted

variable {session : Config.Session} {access refresh : Int} {outcome : Outcome Settings}

theorem eq_ok_iff (converted : Converted session access refresh outcome) (settings : Settings) :
    outcome = .ok settings ↔
      (Span.ofSeconds access).isRepresentable = true ∧
        (Span.ofSeconds refresh).isRepresentable = true ∧
        settings = ⟨.ofSeconds access, .ofSeconds refresh, session.keyPrefix⟩ := by
  cases converted with
  | overflowed outside =>
      refine iff_of_false (by simp) fun ⟨short, short', _⟩ => outside ?_
      exact ⟨inWord_of_isRepresentable short, inWord_of_isRepresentable short'⟩
  | longAccess _ long => simp [refuse, long]
  | longRefresh _ _ long => simp [refuse, long]
  | kept short short' => simp [short, short', eq_comm]

theorem eq_refuse_iff (converted : Converted session access refresh outcome) (e : Error) :
    outcome = refuse e ↔ (InWord access ∧ InWord refresh) ∧
      ((Span.ofSeconds access).isRepresentable = false ∧ e = outOfRange "access" access ∨
        (Span.ofSeconds access).isRepresentable = true ∧
          (Span.ofSeconds refresh).isRepresentable = false ∧
          e = outOfRange "refresh" refresh) := by
  cases converted with
  | overflowed outside => exact iff_of_false (by simp [refuse]) fun refused => outside refused.1
  | longAccess inside long => simpa [refuse, inside, long] using eq_comm
  | longRefresh inside short long => simpa [refuse, inside, short, long] using eq_comm
  | kept short short' => simp [refuse, short, short']

theorem eq_overflow_iff (converted : Converted session access refresh outcome) :
    outcome = .error .overflow ↔ ¬(InWord access ∧ InWord refresh) := by
  cases converted with
  | overflowed outside => exact iff_of_true rfl outside
  | longAccess inside _ => exact iff_of_false (by simp [refuse]) (not_not_intro inside)
  | longRefresh inside _ _ => exact iff_of_false (by simp [refuse]) (not_not_intro inside)
  | kept short short' =>
      have inside := And.intro (inWord_of_isRepresentable short) (inWord_of_isRepresentable short')
      exact iff_of_false (by simp) (not_not_intro inside)

theorem exactOrRefused_iff (converted : Converted session access refresh outcome) :
    ExactOrRefused outcome access refresh ↔ InWord access ∧ InWord refresh := by
  cases converted with
  | overflowed outside =>
      refine iff_of_false ?_ outside
      rintro (⟨settings, found, _⟩ | ⟨message, refused⟩)
      · cases found
      · cases refused
  | longAccess inside _ => exact iff_of_true (.inr ⟨_, rfl⟩) inside
  | longRefresh inside _ _ => exact iff_of_true (.inr ⟨_, rfl⟩) inside
  | kept short short' =>
      exact iff_of_true (.inl ⟨_, rfl, rfl, rfl⟩)
        ⟨inWord_of_isRepresentable short, inWord_of_isRepresentable short'⟩

end Converted

/-- Minutes and days give their seconds as lifetimes when spans have them. Otherwise they are
refused by these seconds, unless the seconds are no 64-bit integers: then they overflow, and are
neither kept nor refused. -/
theorem ofUnits_spec (jwt : Config.Jwt) (session : Config.Session) (minutes days : Int64) :
    let access := 60 * minutes.toInt
    let refresh := 86400 * days.toInt
    let outcome := ofUnits jwt session minutes days
    (∀ settings, outcome = .ok settings ↔
      (Span.ofSeconds access).isRepresentable = true ∧
        (Span.ofSeconds refresh).isRepresentable = true ∧
        settings = ⟨.ofSeconds access, .ofSeconds refresh, session.keyPrefix⟩) ∧
      (∀ e, outcome = refuse e ↔ (InWord access ∧ InWord refresh) ∧
        ((Span.ofSeconds access).isRepresentable = false ∧ e = outOfRange "access" access ∨
          (Span.ofSeconds access).isRepresentable = true ∧
            (Span.ofSeconds refresh).isRepresentable = false ∧
            e = outOfRange "refresh" refresh)) ∧
      (outcome = .error .overflow ↔ ¬(InWord access ∧ InWord refresh)) ∧
      (ExactOrRefused outcome access refresh ↔ InWord access ∧ InWord refresh) := by
  intro access refresh outcome
  have came : Converted session access refresh outcome := converted jwt session minutes days
  exact ⟨came.eq_ok_iff, came.eq_refuse_iff, came.eq_overflow_iff, came.exactOrRefused_iff⟩

/-- The least number of minutes above zero that overflows. -/
theorem not_exactOrRefused_of_minutes :
    ofUnits .default .default 153722867280912931 30 = .error .overflow ∧
      ¬ExactOrRefused (ofUnits .default .default 153722867280912931 30)
        (60 * 153722867280912931) (86400 * 30) := by
  have came : Converted .default (60 * 153722867280912931) (86400 * 30)
      (ofUnits .default .default 153722867280912931 30) :=
    converted .default .default 153722867280912931 30
  have outside : ¬(InWord (60 * 153722867280912931) ∧ InWord (86400 * 30)) := by decide
  exact ⟨came.eq_overflow_iff.mpr outside, fun kept => outside (came.exactOrRefused_iff.mp kept)⟩

end Service.Settings

end TokenLifecycle
