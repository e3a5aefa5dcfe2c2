import TokenLifecycle.Time.Rfc3339
import TokenLifecycle.Toml.Token

/-!
# TOML dates and times

A date, a time, or both with an optional offset. They are kept in their usual written form: `T`
between date and time, and no zeros at the end of a fraction. Days are not checked against the
length of the month.
-/

namespace TokenLifecycle.Toml.Moment

/-- Reads a given number of digits. -/
def digits? : Nat → List Char → Option (List Char × List Char)
  | 0, cs => some ([], cs)
  | n + 1, c :: rest => if Numeral.isDigit c then push c (digits? n rest) else none
  | _ + 1, [] => none

/-- Reads two digits within bounds. -/
def pair? (low high : Nat) (cs : List Char) : Option (List Char × List Char) := do
  let (ds, rest) ← digits? 2 cs
  let n := Numeral.value ds
  if low ≤ n ∧ n ≤ high then some (ds, rest) else none

/-- Reads a given character. -/
def mark? (c : Char) : List Char → Option (List Char)
  | d :: rest => if d = c then some rest else none
  | [] => none

/-- Reads a date. -/
def date? (cs : List Char) : Option (List Char × List Char) := do
  let (year, rest) ← digits? 4 cs
  let (month, rest) ← pair? 1 12 (← mark? '-' rest)
  let (day, rest) ← pair? 1 31 (← mark? '-' rest)
  return (year ++ '-' :: month ++ '-' :: day, rest)

/-- A fraction in nine digits at most, without zeros at its end. -/
def fraction (ds : List Char) : List Char :=
  match ((ds.take 9).reverse.dropWhile (· = '0')).reverse with
  | [] => []
  | kept => '.' :: kept

/-- Reads a time. -/
def time? (cs : List Char) : Option (List Char × List Char) := do
  let (hour, rest) ← pair? 0 24 cs
  let (minute, rest) ← pair? 0 59 (← mark? ':' rest)
  let (second, rest) ← pair? 0 59 (← mark? ':' rest)
  let clock := hour ++ ':' :: minute ++ ':' :: second
  match rest with
  | '.' :: rest =>
    let ds := rest.takeWhile Numeral.isDigit
    if ds.isEmpty then none else some (clock ++ fraction ds, rest.dropWhile Numeral.isDigit)
  | rest => some (clock, rest)

/-- Reads an offset up to the end. A negative offset below an hour loses its sign. -/
def offset? : List Char → Option (List Char)
  | [] => some []
  | ['Z'] => some ['Z']
  | ['z'] => some ['Z']
  | sign :: rest => do
    if sign ≠ '+' ∧ sign ≠ '-' then none
    let (hours, rest) ← digits? 2 rest
    let (minutes, rest) ← digits? 2 (← mark? ':' rest)
    let sign := if Numeral.value hours = 0 then '+' else sign
    if rest.isEmpty then some (sign :: hours ++ ':' :: minutes) else none

/-- Reads a date, a time, or both, and gives them in their written form. -/
def normalize? (s : String) : Option String := do
  let cs := s.toList
  if cs[2]? = some ':' then
    let (time, rest) ← time? cs
    if rest.isEmpty then some (String.ofList time) else none
  else
    let (date, rest) ← date? cs
    match rest with
    | [] => some (String.ofList date)
    | c :: rest =>
      if c = 'T' ∨ c = 't' ∨ c = ' ' then
        let (time, rest) ← time? rest
        let offset ← offset? rest
        some (String.ofList (date ++ 'T' :: time ++ offset))
      else none

/-- Splits off the words, points and colons of a time of day that goes on behind an hour. -/
def clockTokens? : List Token → Option (String × List Token)
  | .colon :: .word m :: .colon :: .word s :: ts =>
    let (fraction, ts) : Option String × List Token := match ts with
      | .period :: .word f :: ts => (some ("." ++ f), ts)
      | .period :: _ => (none, ts)
      | ts => (some "", ts)
    let (offset, ts) : Option String × List Token := match ts with
      | .plus :: .word h :: ts => (some ("+" ++ h), ts)
      | .plus :: _ => (none, ts)
      | ts => (some "", ts)
    let (rest, ts) : Option String × List Token := match ts with
      | .colon :: .word m :: ts => (some (":" ++ m), ts)
      | .colon :: _ => (none, ts)
      | ts => (some "", ts)
    match fraction, offset, rest with
    | some f, some o, some r => some (":" ++ m ++ ":" ++ s ++ f ++ o ++ r, ts)
    | _, _, _ => none
  | .colon :: _ => none
  | ts => some ("", ts)

/-- Reads a date or a time that begins with a word. One space may stand between date and time. -/
def ofWord? (w : String) (ts : List Token) : Option (String × List Token) := do
  let (date, ts) := match ts with
    | .blanks " " :: .word h :: ts => (w ++ " " ++ h, ts)
    | ts => (w, ts)
  let (time, ts) ← clockTokens? ts
  return (← normalize? (date ++ time), ts)

/-- The word begins a date or a time of day with a date. -/
def begins (w : String) : Bool :=
  let cs := w.toList
  let marked (e : Char) : Bool := (cs.zip (cs.drop 1)).contains (e, '-')
  cs.contains 'T' || cs.contains 't' ||
    ((cs.drop 1).contains '-' && !marked 'e' && !marked 'E')

end TokenLifecycle.Toml.Moment
