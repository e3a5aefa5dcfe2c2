import TokenLifecycle.Config.Node
import TokenLifecycle.Numeral.Hexadecimal

/-!
# RON documents

An object notation with records `Name(field: value)`, tuples `(a, b)`, maps whose keys are values,
and optional values `Some(x)` and `None`. Names of records say nothing; a name alone is a value
without content.
-/

namespace TokenLifecycle.Ron

open Config (Node)
open Numeral (Binary64)

/-! ### Blanks and comments -/

/-- What blanks and comments are being passed. -/
inductive Layout
  | plain
  | lineComment
  /-- Comments that are open inside of each other. -/
  | blockComment (depth : Nat)
  deriving DecidableEq, Repr

/-- What follows blanks and comments; nothing if a comment does not end. -/
def skipFrom? : Layout → List Char → Option (List Char)
  | .plain, '/' :: '/' :: rest => skipFrom? .lineComment rest
  | .plain, '/' :: '*' :: rest => skipFrom? (.blockComment 0) rest
  | .plain, '/' :: _ => none
  | .plain, c :: rest =>
    if c = ' ' ∨ c = '\t' ∨ c = '\n' ∨ c = '\x0d' then skipFrom? .plain rest else some (c :: rest)
  | .plain, [] => some []
  | .lineComment, c :: rest => skipFrom? (if c = '\n' then .plain else .lineComment) rest
  | .lineComment, [] => some []
  | .blockComment n, '/' :: '*' :: rest => skipFrom? (.blockComment (n + 1)) rest
  | .blockComment 0, '*' :: '/' :: rest => skipFrom? .plain rest
  | .blockComment (n + 1), '*' :: '/' :: rest => skipFrom? (.blockComment n) rest
  | .blockComment n, _ :: rest => skipFrom? (.blockComment n) rest
  | .blockComment _, [] => none

/-- What follows blanks and comments. -/
def skip? (cs : List Char) : Option (List Char) :=
  skipFrom? .plain cs

/-! ### Names -/

/-- The characters that names go on with. -/
def isNameChar (c : Char) : Bool :=
  c.isAlphanum || c = '_'

/-- The characters of raw names. -/
def isRawNameChar (c : Char) : Bool :=
  isNameChar c || c = '.' || c = '+' || c = '-'

/-- Splits off a name. Behind `r#` it is a raw one, unless a raw string follows. -/
def name? : List Char → Option (String × List Char)
  | 'r' :: '"' :: _ => none
  | ['r'] => none
  | 'r' :: '#' :: rest =>
    let name := rest.takeWhile isRawNameChar
    if name.isEmpty then none else some (String.ofList name, rest.dropWhile isRawNameChar)
  | c :: rest =>
    if c.isAlpha || c = '_' then
      some (String.ofList (c :: rest.takeWhile isNameChar), rest.dropWhile isNameChar)
    else none
  | [] => none

/-- Splits off a word that no name goes on from. -/
def word? (word : String) (cs : List Char) : Option (List Char) :=
  let rest := cs.drop word.length
  if word.toList.isPrefixOf cs && !rest.head?.any isNameChar then some rest else none

/-! ### Texts -/

/-- Reads the digits of an escaped code point, six at most, up to the closing brace. -/
def codePoint? : Nat → List Char → List Char → Option (Char × List Char)
  | _, _, [] => none
  | left, seen, c :: rest =>
    if c = '\x7d' then
      if seen.isEmpty then none else (Numeral.hexChar? seen.reverse).map fun x => (x, rest)
    else
      match left with
      | 0 => none
      | left + 1 => codePoint? left (c :: seen) rest

/-- Reads an escape behind its backslash. -/
def escape? : List Char → Option (Char × List Char)
  | 'n' :: rest => some ('\n', rest)
  | 'r' :: rest => some ('\x0d', rest)
  | 't' :: rest => some ('\t', rest)
  | '\'' :: rest => some ('\'', rest)
  | '"' :: rest => some ('"', rest)
  | '\\' :: rest => some ('\\', rest)
  | 'x' :: a :: b :: rest => (Numeral.hexChar? [a, b]).map fun x => (x, rest)
  | 'u' :: '\x7b' :: rest => codePoint? 6 [] rest
  | _ => none

/-- Reads a string behind its opening quote. -/
def string? : Nat → List Char → Option (List Char × List Char)
  | 0, _ => none
  | _, [] => none
  | _, '"' :: rest => some ([], rest)
  | fuel + 1, '\\' :: rest =>
    (escape? rest).bind fun (c, rest) =>
      (string? fuel rest).map fun (text, rest) => (c :: text, rest)
  | fuel + 1, c :: rest => (string? fuel rest).map fun (text, rest) => (c :: text, rest)

/-- Reads a raw string up to the closing that is given. -/
def rawString? (closing : List Char) : List Char → Option (List Char × List Char)
  | [] => none
  | c :: rest =>
    if closing.isPrefixOf (c :: rest) then some ([], (c :: rest).drop closing.length)
    else (rawString? closing rest).map fun (text, rest) => (c :: text, rest)

/-- Reads a text: a string, a raw string between as many number signs on both sides, or a
character. -/
def text? : List Char → Option (String × List Char)
  | '"' :: rest => (string? (rest.length + 1) rest).map fun (s, r) => (String.ofList s, r)
  | 'r' :: rest =>
    let signs := rest.takeWhile (· = '#')
    match rest.drop signs.length with
    | '"' :: rest => (rawString? ('"' :: signs) rest).map fun (s, r) => (String.ofList s, r)
    | _ => none
  | '\'' :: '\\' :: rest =>
    match escape? rest with
    | some (c, '\'' :: rest) => some (String.singleton c, rest)
    | _ => none
  | '\'' :: '\'' :: _ => none
  | '\'' :: c :: '\'' :: rest => some (String.singleton c, rest)
  | _ => none

/-! ### Numbers -/

/-- The characters of integers in all bases. -/
def isIntegerChar (c : Char) : Bool :=
  (Numeral.hexDigit? c).isSome || c = '_'

/-- The characters of decimal numbers. -/
def isRealChar (c : Char) : Bool :=
  c.isDigit || c = 'e' || c = 'E' || c = '.' || c = '+' || c = '-'

/-- Reads an integer behind its sign, with underscores between its digits. -/
def integer? (cs : List Char) : Option (Nat × List Char) :=
  let (base, cs) := match cs with
    | '0' :: 'x' :: rest => (16, rest)
    | '0' :: 'o' :: rest => (8, rest)
    | '0' :: 'b' :: rest => (2, rest)
    | cs => (10, cs)
  let word := cs.takeWhile isIntegerChar
  let digits := (word.filter (· ≠ '_')).mapM fun c => (Numeral.hexDigit? c).filter (· < base)
  match word.head?, digits with
  | some c, some ds =>
    if c = '_' then none
    else some (ds.foldl (fun n d => base * n + d) 0, cs.drop word.length)
  | _, _ => none

/-- Reads a decimal number. -/
def real? (cs : List Char) : Option (Node × List Char) :=
  (Binary64.ofText? (String.ofList (cs.takeWhile isRealChar))).map fun x =>
    (.real x, cs.dropWhile isRealChar)

/-- Reads a number. What can be no integer of 64 bits is read as a decimal number. -/
def number? (cs : List Char) : Option (Node × List Char) :=
  let (negative, signed, body) := match cs with
    | '-' :: rest => (true, true, rest)
    | '+' :: rest => (false, true, rest)
    | cs => (false, false, cs)
  if (body.takeWhile isIntegerChar).length < (body.takeWhile isRealChar).length then real? cs
  else
    match integer? body with
    | some (n, rest) =>
      match Numeral.toInt64? (if negative then -(n : Int) else n) with
      | some i => some (.integer i, rest)
      | none => if !signed && n < Nat.pow 2 64 then some (.real (.ofNat n), rest) else real? cs
    | none => real? cs

/-! ### Values -/

/-- What begins behind the opening bracket of a record is a tuple: no name with a colon behind it.
It is nothing when the text ends there. -/
def isTuple? (cs : List Char) : Option Bool :=
  match name? cs with
  | none => some true
  | some (_, rest) =>
    match skip? rest with
    | some (c :: _) => some (c ≠ ':')
    | _ => none

mutual

/-- Reads a value. -/
def value? : Nat → List Char → Option (Node × List Char)
  | 0, _ => none
  | fuel + 1, cs =>
    match word? "true" cs, word? "false" cs, word? "Some" cs, word? "None" cs with
    | some rest, _, _, _ => some (.bool true, rest)
    | _, some rest, _, _ => some (.bool false, rest)
    | _, _, some rest, _ => optional? fuel rest
    | _, _, _, some rest => some (.absent, rest)
    | _, _, _, _ =>
      match word? "inf" cs, word? "-inf" cs, word? "NaN" cs with
      | some rest, _, _ => some (.real (.infinite false), rest)
      | _, some rest, _ => some (.real (.infinite true), rest)
      | _, _, some rest => some (.real .nan, rest)
      | _, _, _ =>
        match name? cs, cs with
        | some (_, rest), _ => (skip? rest).bind (record? fuel)
        | none, '(' :: ')' :: rest => some (.absent, rest)
        | none, '(' :: _ => record? fuel cs
        | none, '[' :: rest => (items? fuel ']' rest).map fun (xs, rest) => (.array xs, rest)
        | none, '\x7b' :: rest =>
          (members? fuel false rest []).map fun (ms, rest) => (.table ms, rest)
        | none, c :: _ =>
          if c.isDigit || c = '+' || c = '-' then number? cs
          else if c = '.' then real? cs
          else (text? cs).map fun (s, rest) => (.text s, rest)
        | none, [] => none

/-- Reads what an optional value holds. -/
def optional? : Nat → List Char → Option (Node × List Char)
  | 0, _ => none
  | fuel + 1, cs => do
    match ← skip? cs with
    | '(' :: rest =>
      let (n, rest) ← value? fuel (← skip? rest)
      let rest ← match ← skip? rest with
        | ',' :: rest => skip? rest
        | rest => some rest
      match rest with
      | ')' :: rest => return (n, rest)
      | _ => none
    | _ => none

/-- Reads a record or a tuple behind its name. Without a bracket it has no content. -/
def record? : Nat → List Char → Option (Node × List Char)
  | 0, _ => none
  | fuel + 1, cs =>
    match cs with
    | '(' :: rest => do
      let rest ← skip? rest
      if ← isTuple? rest then
        let (xs, rest) ← items? fuel ')' rest
        return (.array xs, rest)
      else
        let (ms, rest) ← members? fuel true rest []
        return (.table ms, rest)
    | cs => some (.absent, cs)

/-- Reads items up to a closing bracket. -/
def items? : Nat → Char → List Char → Option (List Node × List Char)
  | 0, _, _ => none
  | fuel + 1, closing, cs => do
    match ← skip? cs with
    | [] => none
    | c :: rest =>
      if c = closing then return ([], rest)
      let (n, rest) ← value? fuel (c :: rest)
      match ← skip? rest with
      | [] => none
      | d :: rest =>
        if d = ',' then
          let (ns, rest) ← items? fuel closing rest
          return (n :: ns, rest)
        else if d = closing then return ([n], rest)
        else none

/-- Reads the fields of a record, whose keys are names, or the entries of a map, whose keys are
texts, up to the closing bracket. A later one takes the place of an earlier one. -/
def members? :
    Nat → Bool → List Char → List (String × Node) → Option (List (String × Node) × List Char)
  | 0, _, _, _ => none
  | fuel + 1, isRecord, cs, done => do
    let closing := if isRecord then ')' else '\x7d'
    match ← skip? cs with
    | [] => none
    | c :: rest =>
      if c = closing then return (done, rest)
      let (k, rest) ← if isRecord then name? (c :: rest) else text? (c :: rest)
      match ← skip? rest with
      | ':' :: rest =>
        let (n, rest) ← value? fuel (← skip? rest)
        let done := Node.setMember k n done
        match ← skip? rest with
        | [] => none
        | d :: rest =>
          if d = ',' then members? fuel isRecord rest done
          else if d = closing then return (done, rest)
          else none
      | _ => none

end

/-! ### Documents -/

/-- Splits off parts with blanks between them. -/
def parts? : List String → List Char → Option (List Char)
  | [], cs => some cs
  | part :: parts, cs =>
    if part.toList.isPrefixOf cs then (skip? (cs.drop part.length)).bind (parts? parts) else none

/-- The extensions that a document may ask for. They do not change what is read here. -/
def extensions : List String := ["unwrap_newtypes", "implicit_some"]

/-- Reads the names of extensions up to the last one. -/
def extensions? : Nat → List Char → Option (List Char)
  | 0, _ => none
  | fuel + 1, cs => do
    let (name, rest) ← name? cs
    if !extensions.contains name then none
    match ← skip? rest with
    | ',' :: rest =>
      let rest ← skip? rest
      if rest.head?.any isNameChar then extensions? fuel rest else some rest
    | rest => some rest

/-- Passes attributes before the value of a document. -/
def attributes? : Nat → List Char → Option (List Char)
  | 0, _ => none
  | fuel + 1, cs =>
    match cs with
    | '#' :: _ => do
      let rest ← extensions? fuel (← parts? ["#", "!", "[", "enable", "("] cs)
      attributes? fuel (← parts? [")", "]"] rest)
    | cs => some cs

/-- The value that a text spells. -/
def ofText? (s : String) : Option Node := do
  let fuel := 2 * s.length + 2
  let (n, rest) ← value? fuel (← attributes? fuel (← skip? s.toList))
  if (← skip? rest).isEmpty then some n else none

end TokenLifecycle.Ron
