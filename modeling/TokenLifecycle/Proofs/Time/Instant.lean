import Mathlib.Tactic
import TokenLifecycle.Time.Instant

/-!
# Instants, spans and running clocks

The order of instants is that of their nanoseconds. A span lasts at least as long as its whole
seconds, and two clocks that run together stay in the calendar between two readings in it.
-/

namespace TokenLifecycle

namespace Instant

variable {s t : Instant}

theorem lt_iff : s < t ↔ s.nanoseconds < t.nanoseconds :=
  Iff.rfl

theorem le_iff : s ≤ t ↔ s.nanoseconds ≤ t.nanoseconds :=
  Iff.rfl

theorem not_lt : ¬s < t ↔ t ≤ s := by
  rw [lt_iff, le_iff, Int.not_lt]

theorem lt_ofSeconds_iff {seconds : Int} : t < ofSeconds seconds ↔ t.seconds < seconds := by
  simp only [lt_iff, ofSeconds, Instant.seconds, nanosecondsPerSecond]
  omega

@[simp]
theorem seconds_ofSeconds (seconds : Int) : (ofSeconds seconds).seconds = seconds :=
  Int.mul_ediv_cancel seconds (by decide)

theorem ofSeconds_lt_ofSeconds_iff {m n : Int} : ofSeconds m < ofSeconds n ↔ m < n := by
  rw [lt_ofSeconds_iff, seconds_ofSeconds]

theorem since_ofSeconds (m n : Int) : (ofSeconds m).since (ofSeconds n) = .ofSeconds (m - n) :=
  congrArg Span.mk (Int.sub_mul m n nanosecondsPerSecond).symm

end Instant

namespace Span

theorem wholeSeconds_le_of_isRepresentable {s : Span} (bounded : s.isRepresentable = true) :
    s.wholeSeconds ≤ 9223372036854775 := by
  rw [isRepresentable, Bool.and_eq_true] at bounded
  have upper : s.nanoseconds ≤ maxMilliseconds * 1000000 := of_decide_eq_true bounded.2
  calc
    s.wholeSeconds ≤ Int.tdiv (maxMilliseconds * 1000000) nanosecondsPerSecond :=
      Int.tdiv_le_tdiv (by decide) upper
    _ = 9223372036854775 := by decide

theorem nanoseconds_nonneg {s : Span} (positive : 0 < s.wholeSeconds) : 0 ≤ s.nanoseconds := by
  by_contra negative
  have short : s.wholeSeconds ≤ Int.tdiv 0 nanosecondsPerSecond :=
    Int.tdiv_le_tdiv (by decide) (by omega)
  rw [Int.zero_tdiv] at short
  omega

/-- The whole seconds of a span take no longer than it, and a second more takes longer. -/
theorem wholeSeconds_bounds {s : Span} (positive : 0 < s.wholeSeconds) :
    s.wholeSeconds * 1000000000 ≤ s.nanoseconds ∧
      s.nanoseconds < (s.wholeSeconds + 1) * 1000000000 := by
  rw [wholeSeconds, Int.tdiv_eq_ediv_of_nonneg (nanoseconds_nonneg positive)]
  simp only [nanosecondsPerSecond]
  omega

@[simp]
theorem wholeSeconds_ofSeconds (seconds : Int) : (ofSeconds seconds).wholeSeconds = seconds :=
  Int.mul_tdiv_cancel seconds (by decide)

theorem isRepresentable_ofSeconds_iff {seconds : Int} :
    (ofSeconds seconds).isRepresentable = true ↔
      -9223372036854775 ≤ seconds ∧ seconds ≤ 9223372036854775 := by
  rw [isRepresentable, Bool.and_eq_true, decide_eq_true_iff, decide_eq_true_iff]
  simp only [ofSeconds, nanosecondsPerSecond, maxMilliseconds]
  omega

theorem ofSeconds?_eq_some_iff {seconds : Int} {s : Span} :
    ofSeconds? seconds = some s ↔
      (-9223372036854775 ≤ seconds ∧ seconds ≤ 9223372036854775) ∧ s = .ofSeconds seconds := by
  rw [← isRepresentable_ofSeconds_iff, ofSeconds?, Option.ite_none_right_eq_some, Option.some_inj,
    eq_comm (a := s)]

theorem exists_duration?_eq {s : Span} (forward : 0 ≤ s.nanoseconds) :
    ∃ d, s.duration? = some d := by
  simp [duration?, Int.not_lt.mpr forward]

end Span

/-- A duration of a representable span is the whole span. -/
theorem Duration.span_eq {s : Span} {d : Duration} (counted : s.duration? = some d)
    (bounded : s.isRepresentable = true) : d.span = s := by
  unfold Span.duration? at counted
  split_ifs at counted with negative
  obtain rfl := Option.some.inj counted
  rw [Span.isRepresentable, Bool.and_eq_true] at bounded
  have upper : s.nanoseconds ≤ Span.maxMilliseconds * 1000000 := of_decide_eq_true bounded.2
  have seconds_fit : (s.nanoseconds / nanosecondsPerSecond).toNat < 2 ^ 64 := by
    simp only [nanosecondsPerSecond, Span.maxMilliseconds] at upper ⊢
    omega
  have subsecond_fits : (s.nanoseconds % nanosecondsPerSecond).toNat < 2 ^ 32 := by
    simp only [nanosecondsPerSecond]
    omega
  rw [Duration.span, UInt64.toNat_ofNat_of_lt' seconds_fit,
    UInt32.toNat_ofNat_of_lt' subsecond_fits]
  have forward : 0 ≤ s.nanoseconds := by omega
  have whole : ((s.nanoseconds / nanosecondsPerSecond).toNat : Int) =
      s.nanoseconds / nanosecondsPerSecond :=
    Int.toNat_of_nonneg (Int.ediv_nonneg forward (by decide))
  have rest : ((s.nanoseconds % nanosecondsPerSecond).toNat : Int) =
      s.nanoseconds % nanosecondsPerSecond :=
    Int.toNat_of_nonneg (Int.emod_nonneg _ (by decide))
  rw [whole, rest, Int.ediv_mul_add_emod]

/-- Whole seconds of an instant and of a span, added up, fall behind the instant after the span by
less than two seconds. -/
theorem Instant.add_bounds (t : Instant) {s : Span} (positive : 0 < s.wholeSeconds) :
    ofSeconds (t.seconds + s.wholeSeconds) ≤ t.add s ∧
      t.add s < ofSeconds (t.seconds + s.wholeSeconds + 2) := by
  have whole := Span.wholeSeconds_bounds positive
  simp only [le_iff, lt_iff, ofSeconds, add, Instant.seconds, nanosecondsPerSecond]
  omega

/-- A span that is shorter than some seconds by a second moves the whole seconds by less. -/
theorem Instant.seconds_add_lt (t : Instant) {s : Span} {seconds : Int}
    (short : s.nanoseconds + 1000000000 ≤ seconds * 1000000000) :
    (t.add s).seconds < t.seconds + seconds := by
  simp only [Instant.add, Instant.seconds, nanosecondsPerSecond]
  omega

/-- Both clocks come to later readings by the same span. -/
def Clock.RunsTo (earlier later : Clock) : Prop :=
  ∃ elapsed : Span, 0 ≤ elapsed.nanoseconds ∧ later = earlier.advance elapsed

namespace Clock.RunsTo

theorem refl (c : Clock) : c.RunsTo c :=
  ⟨⟨0⟩, Int.le_refl 0, by simp [Clock.advance, Instant.add]⟩

theorem trans {first second third : Clock} (before : first.RunsTo second)
    (after : second.RunsTo third) : first.RunsTo third := by
  obtain ⟨elapsed, forward, rfl⟩ := before
  obtain ⟨elapsed', forward', rfl⟩ := after
  refine ⟨⟨elapsed.nanoseconds + elapsed'.nanoseconds⟩, Int.add_nonneg forward forward', ?_⟩
  simp [Clock.advance, Instant.add, Int.add_assoc]

theorem wall_le {earlier later : Clock} (runs : earlier.RunsTo later) :
    earlier.wall ≤ later.wall := by
  obtain ⟨elapsed, forward, rfl⟩ := runs
  rw [Instant.le_iff, Clock.advance, Instant.add]
  exact Int.le_add_of_nonneg_right forward

theorem steady_le {earlier later : Clock} (runs : earlier.RunsTo later) :
    earlier.steady ≤ later.steady := by
  obtain ⟨elapsed, forward, rfl⟩ := runs
  rw [Instant.le_iff, Clock.advance, Instant.add]
  exact Int.le_add_of_nonneg_right forward

theorem seconds_le {earlier later : Clock} (runs : earlier.RunsTo later) :
    earlier.wall.seconds ≤ later.wall.seconds :=
  Int.ediv_le_ediv (by decide) runs.wall_le

theorem inCalendar {first second third : Clock}
    (first_inside : Instant.inCalendar first.wall.seconds = true)
    (third_inside : Instant.inCalendar third.wall.seconds = true) (before : first.RunsTo second)
    (after : second.RunsTo third) : Instant.inCalendar second.wall.seconds = true := by
  have low := before.seconds_le
  have high := after.seconds_le
  simp only [Instant.inCalendar, Bool.and_eq_true, decide_eq_true_eq] at *
  omega

end Clock.RunsTo

namespace Clock

/-- What the wall clock shows when the steady clock comes to an instant, while both move
together. -/
def onWall (c : Clock) (t : Instant) : Instant :=
  c.wall.add (t.since c.steady)

theorem onWall_add (c : Clock) (s : Span) : c.onWall (c.steady.add s) = c.wall.add s := by
  simp [onWall, Instant.add, Instant.since]

theorem lt_onWall_iff {c : Clock} {t : Instant} : c.wall < c.onWall t ↔ c.steady < t := by
  simp only [onWall, Instant.lt_iff, Instant.add, Instant.since]
  omega

theorem onWall_le_iff {c : Clock} {t : Instant} : c.onWall t ≤ c.wall ↔ t ≤ c.steady := by
  rw [← Instant.not_lt, lt_onWall_iff, Instant.not_lt]

/-- Clocks that move together go on to agree about an instant. -/
theorem RunsTo.onWall_eq {earlier later : Clock} (runs : earlier.RunsTo later) (t : Instant) :
    later.onWall t = earlier.onWall t := by
  obtain ⟨elapsed, _, rfl⟩ := runs
  simp only [onWall, Clock.advance, Instant.add, Instant.since, Instant.mk.injEq]
  omega

end Clock

end TokenLifecycle
