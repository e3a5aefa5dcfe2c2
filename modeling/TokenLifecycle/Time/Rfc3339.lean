import TokenLifecycle.Numeral.Decimal
import TokenLifecycle.Text.Blank
import TokenLifecycle.Time.Calendar
import TokenLifecycle.Time.Instant

/-!
# Timestamps as text

The form `2026-01-01T00:00:00Z`, with three, six or nine digits of a fraction where they are needed
and a signed year outside the years of four digits. Reading is more lenient than writing: the
separator may be a space, fields may have fewer digits and blanks before them, and the zone may be
an offset.
-/

namespace TokenLifecycle

/-- A point of the calendar with leap seconds: whole seconds since 1970, and nanoseconds, which go
beyond one second within a leap second. -/
structure Timestamp where
  seconds : Int
  nanosecond : Nat
  deriving DecidableEq, Repr

namespace Timestamp

/-- The timestamp of an instant. -/
def ofInstant (t : Instant) : Timestamp :=
  ⟨t.seconds, t.subsecond⟩

/-! ### Writing -/

/-- The last `width` digits of a number. -/
def padded (width n : Nat) : List Char :=
  let ds := Numeral.digits n
  List.replicate (width - ds.length) '0' ++ ds

/-- A year: four digits, and a sign where they do not suffice. -/
def yearText (year : Int) : List Char :=
  if 0 ≤ year ∧ year ≤ 9999 then padded 4 year.toNat
  else (if year < 0 then '-' else '+') :: padded 4 year.natAbs

/-- A fraction of a second in the fewest groups of three digits. -/
def fractionText (nanosecond : Nat) : List Char :=
  if nanosecond = 0 then []
  else if nanosecond % 1000000 = 0 then '.' :: padded 3 (nanosecond / 1000000)
  else if nanosecond % 1000 = 0 then '.' :: padded 6 (nanosecond / 1000)
  else '.' :: padded 9 nanosecond

/-- The timestamp before the given text for the zone. -/
def renderWith (zone : String) (t : Timestamp) : String :=
  let date := Date.ofDays (t.seconds / 86400)
  let time := (t.seconds % 86400).toNat
  let leap := t.nanosecond / 1000000000
  String.ofList
    (yearText date.year ++ '-' :: padded 2 date.month ++ '-' :: padded 2 date.day ++
      'T' :: padded 2 (time / 3600) ++ ':' :: padded 2 (time / 60 % 60) ++
      ':' :: padded 2 (time % 60 + leap) ++ fractionText (t.nanosecond % 1000000000)) ++ zone

/-- The timestamp with `Z` for the zone. -/
def render (t : Timestamp) : String :=
  t.renderWith "Z"

/-- The timestamp with the offset written out. -/
def renderWithOffset (t : Timestamp) : String :=
  t.renderWith "+00:00"

/-! ### Reading -/

/-- Reads a number of at least one and at most `width` digits. -/
def number? (width : Nat) (cs : List Char) : Option (Nat × List Char) :=
  let ds := (cs.take width).takeWhile Numeral.isDigit
  if ds.isEmpty then none else some (Numeral.value ds, cs.drop ds.length)

/-- Reads a number of at most two digits behind blanks, within bounds. -/
def field? (low high : Nat) (cs : List Char) : Option (Nat × List Char) := do
  let (n, rest) ← number? 2 (Text.trimStart cs)
  if low ≤ n ∧ n ≤ high then some (n, rest) else none

/-- Reads a year behind blanks: at most four digits, or a sign and any number of digits. -/
def year? (cs : List Char) : Option (Int × List Char) :=
  match Text.trimStart cs with
  | '-' :: rest => (number? rest.length rest).map fun (n, r) => (-(n : Int), r)
  | '+' :: rest => (number? rest.length rest).map fun (n, r) => ((n : Int), r)
  | rest => (number? 4 rest).map fun (n, r) => ((n : Int), r)

/-- Reads a given character behind blanks. -/
def mark? (c : Char) (cs : List Char) : Option (List Char) :=
  match Text.trimStart cs with
  | d :: rest => if d = c then some rest else none
  | [] => none

/-- Reads a fraction of a second as nanoseconds. Digits after the ninth are passed over. -/
def fraction? : List Char → Option (Nat × List Char)
  | '.' :: rest => do
    let (n, after) ← number? 9 rest
    let count := rest.length - after.length
    return (n * Nat.pow 10 (9 - count), after.dropWhile Numeral.isDigit)
  | rest => some (0, rest)

/-- The value of two digits at the beginning. -/
def twoDigits? : List Char → Option (Nat × List Char)
  | a :: b :: rest =>
    if Numeral.isDigit a && Numeral.isDigit b then some (Numeral.value [a, b], rest) else none
  | _ => none

/-- Reads a zone as an offset in seconds: `Z`, `UTC`, or a sign, hours and minutes. -/
def zone? (cs : List Char) : Option (Int × List Char) :=
  let offset (negative : Bool) (cs : List Char) : Option (Int × List Char) := do
    let (hours, rest) ← twoDigits? cs
    let (minutes, rest) ← twoDigits? (rest.dropWhile fun c => c = ':' || Text.isBlank c)
    if hours < 24 ∧ minutes < 60 then
      let seconds : Int := (hours * 3600 + minutes * 60 : Nat)
      some (if negative then -seconds else seconds, rest)
    else none
  if (cs.take 3).map Char.toUpper = ['U', 'T', 'C'] then some (0, cs.drop 3)
  else
    match cs with
    | 'Z' :: rest => some (0, rest)
    | 'z' :: rest => some (0, rest)
    | '+' :: rest => offset false rest
    | '-' :: rest => offset true rest
    | '\u2212' :: rest => offset true rest
    | _ => none

/-- Reads a timestamp. -/
def ofText? (s : String) : Option Timestamp := do
  let (year, rest) ← year? s.toList
  let (month, rest) ← field? 1 12 (← mark? '-' rest)
  let (day, rest) ← field? 1 31 (← mark? '-' rest)
  let rest ←
    match rest with
    | c :: rest => if c = 'T' ∨ c = 't' ∨ c = ' ' then some rest else none
    | [] => none
  let (hour, rest) ← field? 0 23 rest
  let (minute, rest) ← field? 0 59 (← mark? ':' rest)
  let (second, rest) ← field? 0 60 (← mark? ':' rest)
  let (fraction, rest) ← fraction? rest
  let (offset, rest) ← zone? (Text.trimStart rest)
  let date : Date := ⟨year, month, day⟩
  let leap := second / 60
  let seconds := date.toDays * 86400 + (hour * 3600 + minute * 60 + (second - leap) : Nat) - offset
  if (Text.trimStart rest).isEmpty ∧ date.isValid ∧ Instant.inCalendar (seconds + offset) ∧
      Instant.inCalendar seconds then
    some ⟨seconds, leap * 1000000000 + fraction⟩
  else none

end Timestamp

namespace Span

/-- The digits of a fraction without trailing zeros. -/
def fractionDigits (fuel n : Nat) (width : Nat) : List Char :=
  match fuel with
  | 0 => Timestamp.padded width n
  | fuel + 1 =>
    if n % 10 = 0 then fractionDigits fuel (n / 10) (width - 1) else Timestamp.padded width n

/-- A span in the form `PT1.5S`, behind a minus sign when it is negative. -/
def render (s : Span) : String :=
  let magnitude := s.nanoseconds.natAbs
  if magnitude = 0 then "P0D"
  else
    let fraction := magnitude % 1000000000
    String.ofList ((if s.nanoseconds < 0 then ['-'] else []) ++ 'P' :: 'T' ::
      Numeral.digits (magnitude / 1000000000) ++
      (if fraction = 0 then [] else '.' :: fractionDigits 9 fraction 9) ++ ['S'])

end Span

end TokenLifecycle
