import Mathlib.Tactic
import TokenLifecycle.Proofs.Json.Body

/-!
# Written tokens read back

A well-formed token is split off the text that it begins, provided that nothing behind a number
prolongs it. A list of well-formed tokens is scanned from its text when no number directly follows
another one.
-/

namespace TokenLifecycle.Json

/-- Nothing at the front of the text prolongs a number before it. -/
def EndsNumber (rest : Bytes) : Prop :=
  ∀ b ∈ rest.head?, isDigit b = false ∧ b ≠ 46 ∧ b ≠ 101 ∧ b ≠ 69

theorem endsNumber_nil : EndsNumber [] := by
  simp [EndsNumber]

/-- The parts of a number are digits where digits belong, and no zero leads other digits. -/
structure Number.WellFormed (n : Number) : Prop where
  whole_ne_nil : n.whole ≠ []
  whole_digits : ∀ b ∈ n.whole, isDigit b = true
  whole_zero : ∀ rest, n.whole = 48 :: rest → rest = []
  fraction_digits : ∀ b ∈ n.fraction, isDigit b = true
  exponent_digits : ∀ e, n.exponent = some e → e.digits ≠ [] ∧ ∀ b ∈ e.digits, isDigit b = true

/-- A token that is written as it is scanned. -/
def Token.WellFormed : Token → Prop
  | .number n => n.WellFormed
  | .string body => ∀ rest, scanString (body ++ 34 :: rest) = some (body, rest)
  | _ => True

section Digits

variable {ds rest : Bytes}

private theorem takeWhile_digits (digits : ∀ b ∈ ds, isDigit b = true)
    (stop : ∀ b ∈ rest.head?, isDigit b = false) : (ds ++ rest).takeWhile isDigit = ds := by
  rw [List.takeWhile_append_of_pos digits]
  cases rest with
  | nil => simp
  | cons b rest => simp [stop b rfl]

private theorem dropWhile_digits (digits : ∀ b ∈ ds, isDigit b = true)
    (stop : ∀ b ∈ rest.head?, isDigit b = false) : (ds ++ rest).dropWhile isDigit = rest := by
  rw [List.dropWhile_append_of_pos digits]
  cases rest with
  | nil => simp
  | cons b rest => simp [stop b rfl]

end Digits

namespace Number

/-- The written form of an exponent. -/
def exponentBytes : Option Exponent → Bytes
  | none => []
  | some e => 101 :: (if e.negative then 45 :: e.digits else e.digits)

/-- The written form of a fraction. -/
def fractionBytes (fraction : Bytes) : Bytes :=
  if fraction.isEmpty then [] else 46 :: fraction

theorem bytes_eq (n : Number) :
    n.bytes = (if n.negative then [45] else []) ++
      (n.whole ++ (fractionBytes n.fraction ++ exponentBytes n.exponent)) := by
  simp only [bytes, fractionBytes, List.append_assoc]
  rfl

theorem scanExponent_bytes {exponent : Option Exponent} {rest : Bytes}
    (digits : ∀ e, exponent = some e → e.digits ≠ [] ∧ ∀ b ∈ e.digits, isDigit b = true)
    (stop : EndsNumber rest) :
    scanExponent (exponentBytes exponent ++ rest) = some (exponent, rest) := by
  cases exponent with
  | none =>
      cases rest with
      | nil => rfl
      | cons b rest =>
          obtain ⟨_, _, small, large⟩ := stop b rfl
          simp [exponentBytes, scanExponent, small, large]
  | some e =>
      obtain ⟨negative, ds⟩ := e
      obtain ⟨nonempty, all⟩ := digits _ rfl
      simp only at nonempty all
      have ends : ∀ b ∈ rest.head?, isDigit b = false := fun b front => (stop b front).1
      have taken := takeWhile_digits all ends
      have dropped := dropWhile_digits all ends
      cases negative with
      | true => simp [exponentBytes, scanExponent, taken, dropped, nonempty]
      | false =>
          obtain ⟨first, others, rfl⟩ := List.exists_cons_of_ne_nil nonempty
          have digit := all first List.mem_cons_self
          have no_plus : first ≠ 43 := by rintro rfl; exact absurd digit (by decide)
          have no_minus : first ≠ 45 := by rintro rfl; exact absurd digit (by decide)
          simp only [List.cons_append] at taken dropped
          simp [exponentBytes, scanExponent, no_plus, no_minus, taken, dropped]

theorem endsFraction_exponentBytes (exponent : Option Exponent) {rest : Bytes}
    (stop : EndsNumber rest) :
    ∀ b ∈ (exponentBytes exponent ++ rest).head?, isDigit b = false ∧ b ≠ 46 := by
  intro b front
  cases exponent with
  | none => exact ⟨(stop b front).1, (stop b front).2.1⟩
  | some e =>
      obtain rfl : 101 = b := by simpa [exponentBytes] using front
      decide

theorem scanFraction_bytes {fraction rest : Bytes} (digits : ∀ b ∈ fraction, isDigit b = true)
    (stop : ∀ b ∈ rest.head?, isDigit b = false ∧ b ≠ 46) :
    scanFraction (fractionBytes fraction ++ rest) = some (fraction, rest) := by
  cases fraction with
  | nil =>
      cases rest with
      | nil => rfl
      | cons b rest => simp [fractionBytes, scanFraction, (stop b rfl).2]
  | cons first others =>
      have ends : ∀ b ∈ rest.head?, isDigit b = false := fun b front => (stop b front).1
      have taken := takeWhile_digits digits ends
      have dropped := dropWhile_digits digits ends
      simp only [List.cons_append] at taken dropped
      simp [fractionBytes, scanFraction, taken, dropped]

theorem endsWhole_fractionBytes (fraction : Bytes) {rest : Bytes}
    (stop : ∀ b ∈ rest.head?, isDigit b = false ∧ b ≠ 46) :
    ∀ b ∈ (fractionBytes fraction ++ rest).head?, isDigit b = false := by
  intro b front
  cases fraction with
  | nil => exact (stop b front).1
  | cons first others =>
      obtain rfl : 46 = b := by simpa [fractionBytes] using front
      decide

/-- The sign at the front of a text, and what follows it. -/
def splitSign : Bytes → Bool × Bytes
  | 45 :: rest => (true, rest)
  | rest => (false, rest)

/-- The digits before a point: a single zero, or all the digits that there are. -/
def wholeDigits : Bytes → Bytes
  | 48 :: _ => [48]
  | rest => rest.takeWhile isDigit

/-- Splits off a number behind its sign. -/
def scanUnsigned (negative : Bool) (input : Bytes) : Option (Number × Bytes) := do
  if (wholeDigits input).isEmpty then none
  let (fraction, rest) ← scanFraction (input.drop (wholeDigits input).length)
  let (exponent, rest) ← scanExponent rest
  return (⟨negative, wholeDigits input, fraction, exponent⟩, rest)

theorem scanNumber_eq (input : Bytes) :
    scanNumber input = scanUnsigned (splitSign input).1 (splitSign input).2 :=
  rfl

theorem wholeDigits_append {n : Number} (formed : n.WellFormed) {rest : Bytes}
    (stop : ∀ b ∈ rest.head?, isDigit b = false) : wholeDigits (n.whole ++ rest) = n.whole := by
  obtain ⟨first, others, shape⟩ := List.exists_cons_of_ne_nil formed.whole_ne_nil
  by_cases zero : first = 48
  · subst zero
    obtain rfl := formed.whole_zero others shape
    simp [shape, wholeDigits]
  · have taken := takeWhile_digits formed.whole_digits stop
    rw [shape, List.cons_append] at taken
    simp [shape, wholeDigits, zero, taken]

theorem splitSign_append {n : Number} (formed : n.WellFormed) (rest : Bytes) :
    splitSign ((if n.negative then [45] else []) ++ (n.whole ++ rest)) =
      (n.negative, n.whole ++ rest) := by
  obtain ⟨first, others, shape⟩ := List.exists_cons_of_ne_nil formed.whole_ne_nil
  have digit := formed.whole_digits first (shape ▸ List.mem_cons_self)
  have no_minus : first ≠ 45 := by rintro rfl; exact absurd digit (by decide)
  cases n.negative with
  | true => simp [splitSign]
  | false => simp [shape, splitSign, no_minus]

/-- A well-formed number is split off the text that it begins. -/
theorem scanNumber_bytes {n : Number} (formed : n.WellFormed) {rest : Bytes}
    (stop : EndsNumber rest) : scanNumber (n.bytes ++ rest) = some (n, rest) := by
  have ends_fraction := endsFraction_exponentBytes n.exponent stop
  have ends_whole := endsWhole_fractionBytes n.fraction ends_fraction
  have whole := wholeDigits_append formed ends_whole
  have fraction := scanFraction_bytes formed.fraction_digits ends_fraction
  have exponent := scanExponent_bytes formed.exponent_digits stop
  rw [scanNumber_eq, bytes_eq, List.append_assoc, List.append_assoc, List.append_assoc,
    splitSign_append formed]
  simp [scanUnsigned, whole, fraction, exponent, formed.whole_ne_nil]

/-- A number begins with a minus sign or a digit. -/
theorem exists_bytes_eq_cons {n : Number} (formed : n.WellFormed) :
    ∃ first others, n.bytes = first :: others ∧ (first = 45 ∨ isDigit first = true) := by
  obtain ⟨first, others, shape⟩ := List.exists_cons_of_ne_nil formed.whole_ne_nil
  have digit := formed.whole_digits first (shape ▸ List.mem_cons_self)
  rw [bytes_eq, shape]
  cases n.negative with
  | true => exact ⟨45, _, rfl, .inl rfl⟩
  | false => exact ⟨first, _, rfl, .inr digit⟩

end Number

namespace Token

/-- The token is a number. -/
def isNumber : Token → Bool
  | .number _ => true
  | _ => false

/-- Two tokens that can stand side by side without a space. -/
def Separate (t next : Token) : Prop :=
  t.isNumber = false ∨ next.isNumber = false

theorem endsNumber_bytes_append {t : Token} (other : t.isNumber = false) (rest : Bytes) :
    EndsNumber (t.bytes ++ rest) := by
  intro b front
  cases t with
  | number n => simp [isNumber] at other
  | bool value =>
      cases value <;>
      · obtain rfl := Option.some.inj front
        decide
  | _ =>
      obtain rfl := Option.some.inj front
      decide

theorem scanToken_numeral {first : UInt8} (numeral : first = 45 ∨ isDigit first = true)
    (input : Bytes) :
    scanToken (first :: input) =
      (scanNumber (first :: input)).map fun (n, r) => (.number n, r) := by
  rw [scanToken.eq_def]
  split <;> simp_all [isDigit]

/-- A well-formed token is split off the text that it begins. -/
theorem scanToken_bytes {t : Token} (formed : t.WellFormed) {rest : Bytes}
    (stop : t.isNumber = true → EndsNumber rest) :
    scanToken (t.bytes ++ rest) = some (t, rest) := by
  cases t with
  | number n =>
      obtain ⟨first, others, shape, numeral⟩ := Number.exists_bytes_eq_cons formed
      have split := Number.scanNumber_bytes formed (stop rfl)
      rw [shape, List.cons_append] at split
      change scanToken (n.bytes ++ rest) = _
      rw [shape, List.cons_append, scanToken_numeral numeral, split]
      rfl
  | string body =>
      have split := formed rest
      simp [Token.bytes, scanToken, split]
  | bool value => cases value <;> rfl
  | _ => rfl

/-- A token is written with at least one byte, and that is no space. -/
theorem exists_bytes_eq_cons {t : Token} (formed : t.WellFormed) :
    ∃ first others, t.bytes = first :: others ∧ isSpace first = false := by
  cases t with
  | number n =>
      obtain ⟨first, others, shape, numeral⟩ := Number.exists_bytes_eq_cons formed
      refine ⟨first, others, shape, ?_⟩
      rcases numeral with rfl | digit
      · rfl
      · by_contra space
        simp only [isSpace, Bool.not_eq_false, Bool.or_eq_true, beq_iff_eq] at space
        rcases space with ((rfl | rfl) | rfl) | rfl <;> exact absurd digit (by decide)
  | bool value => cases value <;> exact ⟨_, _, rfl, rfl⟩
  | _ => exact ⟨_, _, rfl, rfl⟩

/-- Well-formed tokens are scanned from their text. -/
theorem scanFrom_bytes {ts : List Token} (formed : ∀ t ∈ ts, t.WellFormed)
    (separate : ts.IsChain Separate) {fuel : Nat} (enough : ts.length ≤ fuel)
    (done : List Token) :
    scanFrom fuel (ts.flatMap Token.bytes) done = some (done.reverse ++ ts) := by
  induction ts generalizing fuel done with
  | nil => cases fuel <;> simp [scanFrom]
  | cons t rest ih =>
      obtain ⟨fuel, rfl⟩ : ∃ more, fuel = more + 1 :=
        ⟨fuel - 1, by simp only [List.length_cons] at enough; omega⟩
      obtain ⟨first, others, shape, visible⟩ :=
        exists_bytes_eq_cons (formed t List.mem_cons_self)
      have stop : t.isNumber = true → EndsNumber (rest.flatMap Token.bytes) := by
        intro number
        cases rest with
        | nil => exact endsNumber_nil
        | cons next later =>
            have apart := (List.isChain_cons_cons.mp separate).1
            have other : next.isNumber = false := by simpa [Separate, number] using apart
            simpa using endsNumber_bytes_append other (later.flatMap Token.bytes)
      have split := scanToken_bytes (formed t List.mem_cons_self) stop
      have later := ih (fun t member => formed t (List.mem_cons_of_mem _ member))
        separate.tail (Nat.le_of_succ_le_succ enough) (t :: done)
      rw [shape, List.cons_append] at split
      rw [List.flatMap_cons, shape, List.cons_append, scanFrom, visible, split]
      simpa using later

theorem length_le_length_flatMap_bytes {ts : List Token} (formed : ∀ t ∈ ts, t.WellFormed) :
    ts.length ≤ (ts.flatMap Token.bytes).length := by
  induction ts with
  | nil => simp
  | cons t rest ih =>
      obtain ⟨first, others, shape, _⟩ := exists_bytes_eq_cons (formed t List.mem_cons_self)
      have later := ih fun t member => formed t (List.mem_cons_of_mem _ member)
      simp only [List.flatMap_cons, shape, List.cons_append, List.length_cons, List.length_append]
      omega

/-- Scanning undoes writing. -/
theorem scan_bytes {ts : List Token} (formed : ∀ t ∈ ts, t.WellFormed)
    (separate : ts.IsChain Separate) : scan (ts.flatMap Token.bytes) = some ts := by
  rw [scan, scanFrom_bytes formed separate (length_le_length_flatMap_bytes formed)]
  rfl

end Token

end TokenLifecycle.Json
