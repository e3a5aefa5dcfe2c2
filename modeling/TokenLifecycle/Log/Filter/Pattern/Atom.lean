import TokenLifecycle.Log.Filter.Pattern.Expression
import TokenLifecycle.Numeral.Hexadecimal
import TokenLifecycle.Text.Blank

/-!
# Atoms

Reads the smallest parts of a pattern: a character, or an escape behind a backslash. Where a pattern
is spaced, blanks and comments may stand between its parts, and a comment goes on to the end of its
line.
-/

namespace TokenLifecycle.Log.Pattern

open Numeral (hexDigit? hexChar? charOf?)

/-- What follows blanks and comments; the first argument says that a comment is open. -/
def dropLayout : Bool → List Char → List Char
  | _, [] => []
  | true, c :: rest => dropLayout (c != '\n') rest
  | false, c :: rest =>
    if Text.isBlank c then dropLayout false rest
    else if c = '#' then dropLayout true rest
    else c :: rest

/-- What follows blanks and comments, if the pattern is spaced. -/
def skip (spaced : Bool) (cs : List Char) : List Char :=
  if spaced then dropLayout false cs else cs

/-- The characters up to the first one that `stops` refuses, and what follows. In a spaced pattern
blanks and comments are left out. -/
def gather (spaced : Bool) (fits : Char → Bool) : Bool → List Char → List Char × List Char
  | _, [] => ([], [])
  | true, c :: rest => gather spaced fits (c != '\n') rest
  | false, c :: rest =>
    if fits c then
      let (taken, rest) := gather spaced fits false rest
      (c :: taken, rest)
    else if spaced && Text.isBlank c then gather spaced fits false rest
    else if spaced && c = '#' then gather spaced fits true rest
    else ([], c :: rest)

/-- Reads a number of hexadecimal digits, and skips what may follow them. -/
def hexDigits? (spaced : Bool) : Nat → Nat → List Char → Option (Nat × List Char)
  | 0, value, cs => some (value, skip spaced cs)
  | n + 1, value, cs =>
    match skip spaced cs with
    | c :: rest => (hexDigit? c).bind fun d => hexDigits? spaced n (value * 16 + d) rest
    | [] => none

/-- Reads a code point of so many hexadecimal digits, or of any number of them between braces. -/
def codePoint? (spaced : Bool) (width : Nat) (cs : List Char) : Option (Literal × List Char) :=
  match skip spaced cs with
  | '\x7b' :: rest =>
    match gather spaced (fun c => (hexDigit? c).isSome) false rest with
    | ([], _) => none
    | (digits, '\x7d' :: rest) => (hexChar? digits).map fun c => (⟨c, false⟩, skip spaced rest)
    | _ => none
  | cs =>
    (hexDigits? spaced width 0 cs).bind fun (value, rest) =>
      (charOf? value).map fun c => (⟨c, width == 2⟩, rest)

/-- Reads what says in braces which end of a word is meant. Braces that do not begin with a letter
or a hyphen are no part of it. -/
def boundaryKind? (spaced : Bool) (cs : List Char) : Option (List Char) :=
  let isPart (c : Char) : Bool := c.isAlpha || c = '-'
  match cs with
  | '\x7b' :: rest =>
    match skip spaced rest with
    | [] => none
    | c :: rest =>
      if isPart c then
        match gather spaced isPart false (c :: rest) with
        | (kind, '\x7d' :: rest) =>
          if ["start", "end", "start-half", "end-half"].contains (String.ofList kind) then some rest
          else none
        | _ => none
      else some cs
  | _ => some cs

/-- Reads what follows a backslash. Characters of ASCII that are neither letters nor digits stand
for themselves. -/
def escape? (spaced : Bool) : List Char → Option (Atom × List Char)
  | [] => none
  | c :: rest =>
    let literal (c : Char) : Option (Atom × List Char) := some (.literal ⟨c, false⟩, rest)
    match c with
    | 'x' => (codePoint? spaced 2 rest).map fun (l, rest) => (.literal l, rest)
    | 'u' => (codePoint? spaced 4 rest).map fun (l, rest) => (.literal l, rest)
    | 'U' => (codePoint? spaced 8 rest).map fun (l, rest) => (.literal l, rest)
    | 'p' => some (.property, rest)
    | 'P' => some (.property, rest)
    | 'd' => some (.shorthand false, rest)
    | 's' => some (.shorthand false, rest)
    | 'w' => some (.shorthand false, rest)
    | 'D' => some (.shorthand true, rest)
    | 'S' => some (.shorthand true, rest)
    | 'W' => some (.shorthand true, rest)
    | 'a' => literal '\x07'
    | 'f' => literal '\x0c'
    | 't' => literal '\t'
    | 'n' => literal '\n'
    | 'r' => literal '\r'
    | 'v' => literal '\x0b'
    | 'A' => some (.anchor, rest)
    | 'z' => some (.anchor, rest)
    | 'b' => (boundaryKind? spaced rest).map fun rest => (.wordBoundary, rest)
    | 'B' => some (.wordBoundary, rest)
    | '<' => some (.wordBoundary, rest)
    | '>' => some (.wordBoundary, rest)
    | c => if c.toNat < 128 && !c.isAlphanum then literal c else none

end TokenLifecycle.Log.Pattern
