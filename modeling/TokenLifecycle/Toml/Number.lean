import TokenLifecycle.Numeral.Binary64
import TokenLifecycle.Toml.Token

/-!
# TOML numbers

Integers in four bases and decimal fractions, with single underscores between digits. A word that
holds digits may go on behind a period or a plus sign.
-/

namespace TokenLifecycle.Toml

open Numeral (Binary64 hexDigit?)

/-- A number. -/
inductive Number
  | integer (value : Int64)
  | real (value : Binary64)

namespace Number

/-- The value of a digit in a base. -/
def digit? (base : Nat) (c : Char) : Option Nat :=
  (hexDigit? c).filter (· < base)

/-- What has been read of a run of digits: something, a leading zero, an underscore at the end. -/
structure Run where
  begun : Bool
  zero : Bool
  underscore : Bool

/-- Splits off digits and the underscores between them. Underscores are dropped. `zeros` says
whether further digits may follow a leading zero. -/
def digitsFrom? (base : Nat) (zeros : Bool) : Run → List Char → Option (List Char × List Char)
  | r, [] => if r.begun && !r.underscore then some ([], []) else none
  | r, c :: rest =>
    if c = '0' ∧ !r.begun then push c (digitsFrom? base zeros ⟨true, true, false⟩ rest)
    else if (digit? base c).isSome then
      if r.begun && r.zero && !zeros then none
      else push c (digitsFrom? base zeros ⟨true, r.zero, false⟩ rest)
    else if c = '_' ∧ !r.begun then none
    else if c = '_' ∧ !r.underscore then digitsFrom? base zeros ⟨true, r.zero, true⟩ rest
    else if r.begun && !r.underscore then some ([], c :: rest)
    else none

/-- Splits off digits. -/
def digits? (base : Nat) (zeros : Bool) (cs : List Char) : Option (List Char × List Char) :=
  digitsFrom? base zeros ⟨false, false, false⟩ cs

/-- Splits off a sign and digits. The sign stays in the text. -/
def signed? (zeros : Bool) : List Char → Option (List Char × List Char)
  | '+' :: rest => push '+' (digits? 10 zeros rest)
  | '-' :: rest => push '-' (digits? 10 zeros rest)
  | cs => digits? 10 zeros cs

/-- Reads an integer in another base than ten. -/
def based? (base : Nat) (cs : List Char) : Option Number := do
  let (ds, rest) ← digits? base true cs
  if rest.isEmpty then
    let n := (← ds.mapM (digit? base)).foldl (fun n d => base * n + d) 0
    (Numeral.toInt64? n).map .integer
  else none

/-- Reads an integer in base ten. -/
def decimal? (cs : List Char) : Option Number := do
  let (ds, rest) ← signed? false cs
  if rest.isEmpty then (Numeral.int64? (String.ofList ds)).map .integer else none

/-- The digits of an exponent, which begin in the word behind its mark or in the next one. -/
def exponent? (cs : List Char) (ts : List Token) : Option (List Char × List Token) := do
  let (ds, rest, ts) ←
    match cs, ts with
    | [], .plus :: .word w :: ts => (digits? 10 true w.toList).map fun (d, r) => (d, r, ts)
    | [], .word w :: ts => (digits? 10 true w.toList).map fun (d, r) => (d, r, ts)
    | [], _ => none
    | cs, ts => (signed? true cs).map fun (d, r) => (d, r, ts)
  if rest.isEmpty then some (ds, ts) else none

/-- Reads a number with a fraction or an exponent. -/
def real? (whole : List Char) (fraction : Option (List Char)) (ts : List Token) :
    Option (Number × List Token) := do
  let (ds, rest) ← signed? false whole
  let (places, rest) ←
    match fraction with
    | none => some ([], rest)
    | some f =>
      if rest.isEmpty then (digits? 10 true f).map fun (d, r) => ('.' :: d, r) else none
  let (exponent, ts) ←
    match rest with
    | [] => some ([], ts)
    | c :: rest =>
      if c = 'e' ∨ c = 'E' then (exponent? rest ts).map fun (d, ts) => ('e' :: d, ts) else none
  let x ← Binary64.ofText? (String.ofList (ds ++ places ++ exponent))
  if x.isFinite then some (.real x, ts) else none

/-- Reads a number that begins with a word. -/
def ofWord? (w : String) (ts : List Token) : Option (Number × List Token) :=
  match w.toList with
  | '0' :: 'x' :: cs => (based? 16 cs).map (·, ts)
  | '0' :: 'o' :: cs => (based? 8 cs).map (·, ts)
  | '0' :: 'b' :: cs => (based? 2 cs).map (·, ts)
  | cs =>
    if cs.contains 'e' || cs.contains 'E' then real? cs none ts
    else
      match ts with
      | .period :: .word f :: ts => real? cs (some f.toList) ts
      | .period :: _ => none
      | ts =>
        if w = "inf" then some (.real (.infinite false), ts)
        else if w = "-inf" then some (.real (.infinite true), ts)
        else if w = "nan" ∨ w = "-nan" then some (.real .nan, ts)
        else (decimal? cs).map (·, ts)

end Number

end TokenLifecycle.Toml
