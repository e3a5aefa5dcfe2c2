import TokenLifecycle.Config.Node
import TokenLifecycle.Numeral.Hexadecimal
import TokenLifecycle.Text.Blank
import TokenLifecycle.Text.Category

/-!
# JSON5 documents

JSON with comments, names without quotes, strings in single quotes, commas behind the last member,
and further ways to write numbers. A document is an object.
-/

namespace TokenLifecycle.Json5

open Config (Node)
open Numeral (Binary64)

/-! ### Blanks and comments -/

/-- The characters that end lines. -/
def isLineEnd (c : Char) : Bool :=
  c = '\n' || c = '\x0d' || c = '\u2028' || c = '\u2029'

/-- The characters between tokens. -/
def isSpace (c : Char) : Bool :=
  isLineEnd c || c = '\ufeff' || (Text.isBlank c && c ≠ '\u0085')

/-- Where the passing of blanks and comments stands. -/
inductive Layout
  | plain
  | lineComment
  | blockComment
  deriving DecidableEq, Repr

/-- What follows blanks and comments; nothing if a comment does not end. -/
def skipFrom? : Layout → List Char → Option (List Char)
  | .plain, '/' :: '/' :: rest => skipFrom? .lineComment rest
  | .plain, '/' :: '*' :: rest => skipFrom? .blockComment rest
  | .plain, c :: rest => if isSpace c then skipFrom? .plain rest else some (c :: rest)
  | .plain, [] => some []
  | .lineComment, c :: rest => skipFrom? (if isLineEnd c then .plain else .lineComment) rest
  | .lineComment, [] => some []
  | .blockComment, '*' :: '/' :: rest => skipFrom? .plain rest
  | .blockComment, _ :: rest => skipFrom? .blockComment rest
  | .blockComment, [] => none

/-- What follows blanks and comments. -/
def skip? (cs : List Char) : Option (List Char) :=
  skipFrom? .plain cs

/-! ### Strings and names -/

/-- Puts a character before the text that was read. -/
def push (c : Char) (r : Option (List Char × List Char)) : Option (List Char × List Char) :=
  r.map fun (text, rest) => (c :: text, rest)

/-- Reads the four digits of an escaped character, and those of a second escape if it takes two. -/
def unicode? : List Char → Option (Char × List Char)
  | a :: b :: c :: d :: rest =>
    (Numeral.hexValue? [a, b, c, d]).bind fun high =>
      if 0xD800 ≤ high ∧ high < 0xDC00 then
        match rest with
        | '\\' :: 'u' :: a :: b :: c :: d :: rest =>
          (Numeral.hexValue? [a, b, c, d]).bind fun low =>
            if 0xDC00 ≤ low ∧ low < 0xE000 then
              (Numeral.charOf? (0x10000 + (high - 0xD800) * 0x400 + (low - 0xDC00))).map (·, rest)
            else none
        | _ => none
      else (Numeral.charOf? high).map (·, rest)
  | _ => none

/-- The character of an escape by one character. Most stand for themselves. -/
def escape? (c : Char) : Option Char :=
  if '1' ≤ c ∧ c ≤ '9' then none
  else
    some (([('b', '\x08'), ('f', '\x0c'), ('n', '\n'), ('r', '\x0d'), ('t', '\t'), ('v', '\x0b'),
      ('0', '\x00')].lookup c).getD c)

/-- Reads a string behind its opening quote. An escaped line end is left out. -/
def string? (quote : Char) : Nat → List Char → Option (List Char × List Char)
  | 0, _ => none
  | _, [] => none
  | fuel + 1, c :: rest =>
    if c = quote then some ([], rest)
    else if c = '\\' then
      match rest with
      | '\x0d' :: '\n' :: rest => string? quote fuel rest
      | 'u' :: rest => (unicode? rest).bind fun (x, rest) => push x (string? quote fuel rest)
      | 'x' :: a :: b :: rest =>
        (Numeral.hexChar? [a, b]).bind fun x => push x (string? quote fuel rest)
      | 'x' :: _ => none
      | e :: rest =>
        if isLineEnd e then string? quote fuel rest
        else (escape? e).bind fun x => push x (string? quote fuel rest)
      | [] => none
    else if c = '\n' ∨ c = '\x0d' then none
    else push c (string? quote fuel rest)

/-- The characters that may begin a name. -/
def isNameStart (c : Char) : Bool :=
  c.isAlpha || c = '$' || c = '_' || Text.isWithin Text.letterRanges c

/-- The characters that a name may go on with. -/
def isNamePart (c : Char) : Bool :=
  isNameStart c || c.isDigit || c = '\u200c' || c = '\u200d' || Text.isWithin Text.markRanges c ||
    Text.isWithin Text.decimalDigitRanges c || Text.isWithin Text.connectorRanges c

/-- Reads characters of a name, the first of which `fits`. -/
def nameFrom? : Nat → (Char → Bool) → List Char → Option (List Char × List Char)
  | 0, _, _ => none
  | _, _, [] => some ([], [])
  | fuel + 1, fits, c :: rest =>
    if fits c then push c (nameFrom? fuel isNamePart rest)
    else
      match c, rest with
      | '\\', 'u' :: rest =>
        (unicode? rest).bind fun (x, rest) => push x (nameFrom? fuel isNamePart rest)
      | _, _ => some ([], c :: rest)

/-- Reads the name of a member. -/
def key? : List Char → Option (String × List Char)
  | '"' :: rest => (string? '"' (rest.length + 1) rest).map fun (k, r) => (String.ofList k, r)
  | '\'' :: rest => (string? '\'' (rest.length + 1) rest).map fun (k, r) => (String.ofList k, r)
  | cs =>
    match nameFrom? (cs.length + 1) isNameStart cs with
    | some (c :: name, rest) => some (String.ofList (c :: name), rest)
    | _ => none

/-! ### Numbers -/

/-- Splits off a word. -/
def word? (word : String) (cs : List Char) : Option (List Char) :=
  if word.toList.isPrefixOf cs then some (cs.drop word.length) else none

/-- Splits off digits. -/
def digits (cs : List Char) : List Char × List Char :=
  (cs.takeWhile Numeral.isDigit, cs.dropWhile Numeral.isDigit)

/-- Splits off an exponent, which needs digits. -/
def exponent (cs : List Char) : List Char × List Char :=
  match cs with
  | c :: rest =>
    let (sign, rest) := match rest with
      | '+' :: rest => (['+'], rest)
      | '-' :: rest => (['-'], rest)
      | rest => ([], rest)
    let (ds, rest) := digits rest
    if (c = 'e' ∨ c = 'E') ∧ !ds.isEmpty then ('e' :: sign ++ ds, rest) else ([], cs)
  | [] => ([], [])

/-- Splits off the text of a decimal number, and says whether it is one with neither point nor
exponent. A zero ends the digits before the point. -/
def decimal? (cs : List Char) : Option (List Char × Bool × List Char) :=
  let (whole, rest) := match cs with
    | '0' :: rest => (['0'], rest)
    | cs => digits cs
  let (point, places, rest) := match rest with
    | '.' :: rest => (['.'], digits rest)
    | rest => ([], [], rest)
  let (power, rest) := exponent rest
  if whole.isEmpty && places.isEmpty then none
  else some (whole ++ point ++ places ++ power, point.isEmpty && power.isEmpty, rest)

/-- Reads a number behind its sign. A hexadecimal number has no sign and 32 bits; an infinity and a
number that is none have no plus sign. -/
def unsigned? (sign : List Char) (cs : List Char) : Option (Node × List Char) :=
  let wordly (x : Binary64) (rest : List Char) : Option (Node × List Char) :=
    if sign = ['+'] then none else some (.real x, rest)
  let hexadecimal (rest : List Char) : Option (Node × List Char) :=
    let ds := rest.takeWhile fun c => (Numeral.hexDigit? c).isSome
    match sign, ds, Numeral.hexValue? ds with
    | [], _ :: _, some n =>
      if n < Nat.pow 2 32 then some (.integer (Int64.ofNat n), rest.drop ds.length) else none
    | _, _, _ => none
  match word? "Infinity" cs, word? "NaN" cs, cs with
  | some rest, _, _ => wordly (.infinite (sign == ['-'])) rest
  | _, some rest, _ => wordly .nan rest
  | _, _, '0' :: 'x' :: rest => hexadecimal rest
  | _, _, '0' :: 'X' :: rest => hexadecimal rest
  | _, _, cs =>
    (decimal? cs).bind fun (text, isInteger, rest) =>
      let text := String.ofList (sign ++ text)
      if isInteger then (Numeral.int64? text).map fun n => (.integer n, rest)
      else (Binary64.ofText? text).bind fun x => if x.isFinite then some (.real x, rest) else none

/-- Reads a number. -/
def number? : List Char → Option (Node × List Char)
  | '+' :: rest => unsigned? ['+'] rest
  | '-' :: rest => unsigned? ['-'] rest
  | cs => unsigned? [] cs

/-! ### Values -/

mutual

/-- Reads a value. -/
def value? : Nat → List Char → Option (Node × List Char)
  | 0, _ => none
  | fuel + 1, cs =>
    match cs with
    | '\x7b' :: rest => (members? fuel rest []).map fun (ms, rest) => (.table ms, rest)
    | '[' :: rest => (items? fuel rest).map fun (xs, rest) => (.array xs, rest)
    | '"' :: rest => (string? '"' (rest.length + 1) rest).map fun (s, r) => (text s, r)
    | '\'' :: rest => (string? '\'' (rest.length + 1) rest).map fun (s, r) => (text s, r)
    | cs =>
      match word? "null" cs, word? "true" cs, word? "false" cs with
      | some rest, _, _ => some (.absent, rest)
      | _, some rest, _ => some (.bool true, rest)
      | _, _, some rest => some (.bool false, rest)
      | _, _, _ => number? cs
where
  /-- A text. -/
  text (cs : List Char) : Node := .text (String.ofList cs)

/-- Reads the items of an array up to its closing bracket. -/
def items? : Nat → List Char → Option (List Node × List Char)
  | 0, _ => none
  | fuel + 1, cs => do
    let cs ← skip? cs
    match cs with
    | ']' :: rest => return ([], rest)
    | cs =>
      let (n, rest) ← value? fuel cs
      match ← skip? rest with
      | ',' :: rest =>
        let (ns, rest) ← items? fuel rest
        return (n :: ns, rest)
      | ']' :: rest => return ([n], rest)
      | _ => none

/-- Reads the members of an object up to its closing brace, after those before. A later member takes
the place of an earlier one. -/
def members? : Nat → List Char → List (String × Node) → Option (List (String × Node) × List Char)
  | 0, _, _ => none
  | fuel + 1, cs, done => do
    let cs ← skip? cs
    match cs with
    | '\x7d' :: rest => return (done, rest)
    | cs =>
      let (k, rest) ← key? cs
      match ← skip? rest with
      | ':' :: rest =>
        let (n, rest) ← value? fuel (← skip? rest)
        let done := Node.setMember k n done
        match ← skip? rest with
        | ',' :: rest => members? fuel rest done
        | '\x7d' :: rest => return (done, rest)
        | _ => none
      | _ => none

end

/-- The object that a text spells. -/
def ofText? (s : String) : Option Node := do
  let (n, rest) ← value? (2 * s.length + 2) (← skip? s.toList)
  match n, ← skip? rest with
  | .table ms, [] => return .table ms
  | _, _ => none

end TokenLifecycle.Json5
