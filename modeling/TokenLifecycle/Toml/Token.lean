import TokenLifecycle.Numeral.Hexadecimal

/-!
# TOML tokens

The tokens of a TOML document. Strings carry what they stand for; words are names, numbers and parts
of dates. A line may end with a carriage return before its line feed.
-/

namespace TokenLifecycle.Toml

open Numeral (hexChar?)

/-- A token. -/
inductive Token
  | blanks (text : String)
  | newline
  | comment
  | equals
  | period
  | comma
  | colon
  | plus
  | openBrace
  | closeBrace
  | openBracket
  | closeBracket
  | word (text : String)
  | string (text : String) (multiline : Bool)
  deriving DecidableEq, Repr

/-- The characters of words. -/
def isWordChar (c : Char) : Bool :=
  c.isAlphanum || c = '-' || c = '_'

/-- The characters between words. -/
def isBlank (c : Char) : Bool :=
  c = ' ' || c = '\t'

/-- The characters that strings and comments may hold as they are. -/
def isPlain (c : Char) : Bool :=
  c = '\t' || (32 ≤ c.toNat && c ≠ '\x7f')

/-- The text with plain line feeds only. -/
def foldLineEnds : List Char → List Char
  | '\x0d' :: '\n' :: rest => '\n' :: foldLineEnds rest
  | c :: rest => c :: foldLineEnds rest
  | [] => []

/-- The character of an escape by one letter. -/
def escape? (c : Char) : Option Char :=
  [('"', '"'), ('\\', '\\'), ('b', '\x08'), ('f', '\x0c'), ('n', '\n'), ('r', '\x0d'),
    ('t', '\t')].lookup c

/-- Where the reading of a string stands. -/
inductive Reading
  | text
  /-- Behind an escaped blank: only blanks until the end of the line. -/
  | lineEnd
  /-- Behind an escaped end of line: blanks and further line ends are passed. -/
  | gap

/-- Ends a string of several lines. Up to two quotes before the closing three belong to it. -/
def closing? (quote : Char) : List Char → Option (List Char × List Char)
  | a :: b :: c :: rest =>
    if a = quote ∧ b = quote ∧ c = quote then
      match rest with
      | d :: e :: rest' =>
        if d = quote ∧ e = quote then some ([quote, quote], rest')
        else if d = quote then some ([quote], e :: rest')
        else some ([], rest)
      | [d] => if d = quote then some ([quote], []) else some ([], rest)
      | [] => some ([], [])
    else none
  | _ => none

/-- Puts a character before the text that was read. -/
def push (c : Char) (r : Option (List Char × List Char)) : Option (List Char × List Char) :=
  r.map fun (text, rest) => (c :: text, rest)

/-- Reads a string in double quotes behind its opening. -/
def basic? (multiline : Bool) : Reading → List Char → Option (List Char × List Char)
  | _, [] => none
  | .lineEnd, c :: rest =>
    if isBlank c then basic? multiline .lineEnd rest
    else if c = '\n' then basic? multiline .gap rest
    else none
  | .gap, ' ' :: rest => basic? multiline .gap rest
  | .gap, '\t' :: rest => basic? multiline .gap rest
  | .gap, '\n' :: rest => basic? multiline .gap rest
  | _, '\\' :: 'u' :: a :: b :: c :: d :: rest =>
    match hexChar? [a, b, c, d] with
    | some x => push x (basic? multiline .text rest)
    | none => none
  | _, '\\' :: 'U' :: a :: b :: c :: d :: e :: f :: g :: h :: rest =>
    match hexChar? [a, b, c, d, e, f, g, h] with
    | some x => push x (basic? multiline .text rest)
    | none => none
  | _, '\\' :: c :: rest =>
    match escape? c with
    | some x => push x (basic? multiline .text rest)
    | none =>
      if multiline && c = '\n' then basic? multiline .gap rest
      else if multiline && isBlank c then basic? multiline .lineEnd rest
      else none
  | _, '"' :: rest =>
    if multiline then
      match closing? '"' ('"' :: rest) with
      | some r => some r
      | none => push '"' (basic? multiline .text rest)
    else some ([], rest)
  | _, '\n' :: rest => if multiline then push '\n' (basic? multiline .text rest) else none
  | _, c :: rest => if isPlain c then push c (basic? multiline .text rest) else none

/-- Reads a string in single quotes behind its opening. -/
def literal? (multiline : Bool) : List Char → Option (List Char × List Char)
  | [] => none
  | '\'' :: rest =>
    if multiline then
      match closing? '\'' ('\'' :: rest) with
      | some r => some r
      | none => push '\'' (literal? multiline rest)
    else some ([], rest)
  | '\n' :: rest => if multiline then push '\n' (literal? multiline rest) else none
  | c :: rest => if isPlain c then push c (literal? multiline rest) else none

/-- Reads a string behind its first quote. A line end right behind the opening is passed. -/
def string? (quote : Char) (read : Bool → List Char → Option (List Char × List Char))
    (cs : List Char) : Option (Token × List Char) :=
  let token (multiline : Bool) (r : Option (List Char × List Char)) : Option (Token × List Char) :=
    r.map fun (text, rest) => (.string (String.ofList text) multiline, rest)
  match cs with
  | a :: rest =>
    if a = quote then
      match rest with
      | b :: rest' =>
        if b = quote then
          token true (read true (match rest' with
            | '\n' :: r => r
            | r => r))
        else some (.string "" false, rest)
      | [] => some (.string "" false, [])
    else token false (read false cs)
  | [] => none

/-- Splits off one token. -/
def scanToken? : List Char → Option (Token × List Char)
  | [] => none
  | '\n' :: rest => some (.newline, rest)
  | '#' :: rest => some (.comment, rest.dropWhile fun c => c = '\t' || 32 ≤ c.toNat)
  | '=' :: rest => some (.equals, rest)
  | '.' :: rest => some (.period, rest)
  | ',' :: rest => some (.comma, rest)
  | ':' :: rest => some (.colon, rest)
  | '+' :: rest => some (.plus, rest)
  | '\x7b' :: rest => some (.openBrace, rest)
  | '\x7d' :: rest => some (.closeBrace, rest)
  | '[' :: rest => some (.openBracket, rest)
  | ']' :: rest => some (.closeBracket, rest)
  | '\'' :: rest => string? '\'' literal? rest
  | '"' :: rest => string? '"' (fun multiline => basic? multiline .text) rest
  | c :: rest =>
    if isBlank c then
      some (.blanks (String.ofList (c :: rest.takeWhile isBlank)), rest.dropWhile isBlank)
    else if isWordChar c then
      some (.word (String.ofList (c :: rest.takeWhile isWordChar)), rest.dropWhile isWordChar)
    else none

/-- Splits a text into at most `fuel` tokens, in reverse before `done`. -/
def scanFrom? : Nat → List Char → List Token → Option (List Token)
  | _, [], done => some done.reverse
  | 0, _ :: _, _ => none
  | fuel + 1, cs, done => (scanToken? cs).bind fun (t, rest) => scanFrom? fuel rest (t :: done)

/-- Splits a document into tokens. A byte order mark at the beginning is passed. -/
def scan? (s : String) : Option (List Token) :=
  let cs := match s.toList with
    | '\ufeff' :: rest => foldLineEnds rest
    | cs => foldLineEnds cs
  scanFrom? cs.length cs []

end TokenLifecycle.Toml
