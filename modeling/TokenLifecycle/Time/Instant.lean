/-!
# Instants and spans of time

Both count nanoseconds, so nothing is lost. Whole seconds of an instant are rounded down, whole
seconds of a span toward zero.
-/

namespace TokenLifecycle

/-- Nanoseconds in a second. -/
def nanosecondsPerSecond : Int := 1000000000

/-- A span of time, possibly negative. -/
structure Span where
  nanoseconds : Int
  deriving DecidableEq, Repr

/-- A point in time, counted from the epoch of its clock. -/
structure Instant where
  nanoseconds : Int
  deriving DecidableEq, Repr

namespace Span

/-- A span of whole seconds. -/
def ofSeconds (seconds : Int) : Span :=
  ⟨seconds * nanosecondsPerSecond⟩

/-- The whole seconds of a span, rounded toward zero. -/
def wholeSeconds (s : Span) : Int :=
  Int.tdiv s.nanoseconds nanosecondsPerSecond

/-- The longest span there is, in milliseconds; the shortest is its opposite. -/
def maxMilliseconds : Int := 9223372036854775807

/-- The span lies within the representable bounds. -/
def isRepresentable (s : Span) : Bool :=
  -(maxMilliseconds * 1000000) ≤ s.nanoseconds && s.nanoseconds ≤ maxMilliseconds * 1000000

/-- The span of a number of seconds, if it is representable. -/
def ofSeconds? (seconds : Int) : Option Span :=
  let s := ofSeconds seconds
  if s.isRepresentable then some s else none

end Span

/-- A span of time that is not negative, as stores count it. -/
structure Duration where
  seconds : UInt64
  /-- The nanoseconds beyond the whole seconds. -/
  subsecond : UInt32
  deriving DecidableEq, Repr

/-- The span that a duration is. -/
def Duration.span (d : Duration) : Span :=
  ⟨d.seconds.toNat * nanosecondsPerSecond + d.subsecond.toNat⟩

/-- The duration that a span is, if it is not negative. -/
def Span.duration? (s : Span) : Option Duration :=
  if s.nanoseconds < 0 then none
  else
    some ⟨UInt64.ofNat (s.nanoseconds / nanosecondsPerSecond).toNat,
      UInt32.ofNat (s.nanoseconds % nanosecondsPerSecond).toNat⟩

namespace Instant

/-- The instant a number of whole seconds after the epoch. -/
def ofSeconds (seconds : Int) : Instant :=
  ⟨seconds * nanosecondsPerSecond⟩

/-- The whole seconds since the epoch, rounded down. -/
def seconds (t : Instant) : Int :=
  t.nanoseconds / nanosecondsPerSecond

/-- The nanoseconds beyond the whole seconds. -/
def subsecond (t : Instant) : Nat :=
  (t.nanoseconds % nanosecondsPerSecond).toNat

/-- The instant after a span. -/
def add (t : Instant) (s : Span) : Instant :=
  ⟨t.nanoseconds + s.nanoseconds⟩

/-- The span from one instant to another. -/
def since (t earlier : Instant) : Span :=
  ⟨t.nanoseconds - earlier.nanoseconds⟩

/-- The instants of the calendar, from the first to the last second. -/
def inCalendar (seconds : Int) : Bool :=
  -8334601228800 ≤ seconds && seconds ≤ 8210266876799

instance : LE Instant := ⟨fun s t => s.nanoseconds ≤ t.nanoseconds⟩

instance : LT Instant := ⟨fun s t => s.nanoseconds < t.nanoseconds⟩

instance (s t : Instant) : Decidable (s ≤ t) :=
  inferInstanceAs (Decidable (s.nanoseconds ≤ t.nanoseconds))

instance (s t : Instant) : Decidable (s < t) :=
  inferInstanceAs (Decidable (s.nanoseconds < t.nanoseconds))

end Instant

/-- The readings of the two clocks: the wall clock, which may be set, and the steady clock, which
only runs. -/
structure Clock where
  wall : Instant
  steady : Instant
  deriving DecidableEq, Repr

/-- Both clocks after a span. -/
def Clock.advance (c : Clock) (s : Span) : Clock :=
  ⟨c.wall.add s, c.steady.add s⟩

end TokenLifecycle
