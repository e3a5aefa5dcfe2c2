import TokenLifecycle.Yaml.Scalar

/-!
# YAML tokens

The tokens of a text. Besides what is written they mark where collections begin and end by their
indentation, and which texts are keys. That a text is a key is known only at the colon behind it, so
the places where a key could begin are kept until then.
-/

namespace TokenLifecycle.Yaml

/-- A token. -/
inductive Token
  | directive
  | documentStart
  | documentEnd
  | sequenceStart
  | mappingStart
  /-- The end of a collection by indentation. -/
  | blockEnd
  | openBracket
  | closeBracket
  | openBrace
  | closeBrace
  | entry
  | comma
  | key
  | value
  | alias (name : String)
  | anchor (name : String)
  | tag (handle suffix : String)
  | scalar (isPlain : Bool) (text : String)
  | streamEnd
  deriving DecidableEq, Repr

/-! ### Names and tags -/

/-- Reads the name of an anchor or of a reference to one. -/
def anchorName? (c : Cursor) : Option (String × Cursor) :=
  let name := c.word isNameChar
  let c := c.skip name.length
  let ends := isBlankOrEnd c.peek || ['?', ':', ',', ']', '\x7d', '%', '@', '\x60'].contains c.peek
  if name.isEmpty || !ends then none else some (String.ofList name, c)

/-- The characters of tags. -/
def isTagChar (c : Char) : Bool :=
  isNameChar c || ";/?:@&=+$.!~*'()[]%".toList.contains c

/-- Reads further bytes of a character that is written byte by byte, each behind a percent sign. The
bytes are put together as they are. -/
def tagBytes? : Nat → Nat → List Char → Option (Nat × List Char)
  | 0, value, rest => some (value, rest)
  | n + 1, value, '%' :: a :: b :: rest =>
    (Numeral.hexValue? [a, b]).bind fun byte =>
      if byte / 64 = 2 then tagBytes? n (value * 256 + byte) rest else none
  | _, _, _ => none

/-- Reads a character that is written byte by byte, behind its first percent sign. -/
def tagEscape? : List Char → Option (Char × List Char)
  | a :: b :: rest =>
    (Numeral.hexValue? [a, b]).bind fun byte =>
      let further : Option Nat :=
        if byte < 0x80 then some 0
        else if byte / 32 = 6 then some 1
        else if byte / 16 = 14 then some 2
        else if byte / 8 = 30 then some 3
        else none
      further.bind fun n =>
        (tagBytes? n byte rest).bind fun (value, rest) =>
          (Numeral.charOf? value).map fun x => (x, rest)
  | _ => none

/-- Reads the characters of a tag. -/
def tagText? : Nat → List Char → Option (List Char × List Char)
  | 0, _ => none
  | _, [] => some ([], [])
  | fuel + 1, c :: rest =>
    if c = '%' then
      (tagEscape? rest).bind fun (x, rest) =>
        (tagText? fuel rest).map fun (text, rest) => (x :: text, rest)
    else if isTagChar c then (tagText? fuel rest).map fun (text, rest) => (c :: text, rest)
    else some ([], c :: rest)

/-- Reads the characters of a tag at a place. -/
def tagSuffix? (c : Cursor) : Option (List Char × Cursor) :=
  (tagText? (c.rest.length + 1) c.rest).map fun (text, rest) =>
    (text, c.skip (c.rest.length - rest.length))

/-- Reads a tag: a verbatim one in angle brackets, or a handle between exclamation marks and a
suffix. -/
def tag? (c : Cursor) : Option (Token × Cursor) := do
  let (tag, c) ←
    if c.ahead 1 = '<' then do
      let (text, c) ← tagSuffix? (c.skip 2)
      if text.isEmpty || c.peek ≠ '>' then none
      some (Token.tag "" (String.ofList text), c.skip 1)
    else do
      let name := (c.skip 1).word isNameChar
      let c := c.skip (name.length + 1)
      if c.peek = '!' then
        let (text, c) ← tagSuffix? (c.skip 1)
        if text.isEmpty then none
        some (Token.tag (String.ofList ('!' :: name ++ ['!'])) (String.ofList text), c)
      else
        let (text, c) ← tagSuffix? c
        let suffix := String.ofList (name ++ text)
        some (if suffix = "" then Token.tag "" "!" else Token.tag "!" suffix, c)
  if isBlankOrEnd c.peek then some (tag, c) else none

/-! ### Directives -/

/-- Reads a number of a version, of nine digits at most. -/
def versionNumber? (c : Cursor) : Option Cursor :=
  let digits := c.word Char.isDigit
  if digits.isEmpty || 9 < digits.length then none else some (c.skip digits.length)

/-- Reads a directive behind its percent sign. What a directive says is not used. -/
def directive? (c : Cursor) : Option Cursor := do
  let name := c.word isNameChar
  let c := c.skip name.length
  if name.isEmpty || !isBlankOrEnd c.peek then none
  let c ←
    if name = "YAML".toList then do
      let c ← versionNumber? (c.skipWhile isBlank)
      if c.peek ≠ '.' then none
      versionNumber? (c.skip 1)
    else if name = "TAG".toList then do
      let c := c.skipWhile isBlank
      if c.peek ≠ '!' then none
      let handle := (c.skip 1).word isNameChar
      let c := c.skip (handle.length + 1)
      let c ←
        if c.peek = '!' then some (c.skip 1) else if handle.isEmpty then some c else none
      let (text, c) ← tagSuffix? (c.skipWhile isBlank)
      if text.isEmpty || !isBlankOrEnd c.peek then none
      some c
    else some (c.skipWhile fun x => !isBreakOrEnd x)
  let c := c.skipComment
  if isBreakOrEnd c.peek then some c.skipBreak else none

/-! ### Scanning -/

/-- A place where a key may begin: the number of the tokens before it, and whether nothing else may
begin there. -/
structure KeyPlace where
  isPossible : Bool := false
  isRequired : Bool := false
  count : Nat := 0
  index : Nat := 0
  line : Nat := 0
  column : Nat := 0

/-- Where the scanning of a text stands. -/
structure Scanner where
  cursor : Cursor
  /-- The tokens so far, the last one first. -/
  tokens : List Token := []
  count : Nat := 0
  /-- The places of keys, one for each collection in brackets and one around them. -/
  place : KeyPlace := {}
  outerPlaces : List KeyPlace := []
  mayBeginKey : Bool := true
  /-- The columns of the collections by indentation, the innermost first. -/
  indent : Int := -1
  outerIndents : List Int := []
  /-- A colon right behind a text in quotes follows a key even without a blank behind it. -/
  quotedEnd : Nat := 0

namespace Scanner

/-- How deep collections in brackets are nested here. -/
def flowLevel (s : Scanner) : Nat :=
  s.outerPlaces.length

/-- The place is inside of a collection in brackets. -/
def inFlow (s : Scanner) : Bool :=
  !s.outerPlaces.isEmpty

/-- The scanner with a token more. -/
def emit (s : Scanner) (t : Token) : Scanner :=
  { s with tokens := t :: s.tokens, count := s.count + 1 }

/-- The scanner with a token more behind the first `count` ones. -/
def insert (s : Scanner) (count : Nat) (t : Token) : Scanner :=
  let behind := s.count - count
  { s with tokens := s.tokens.take behind ++ t :: s.tokens.drop behind, count := s.count + 1 }

/-- The scanner behind a number of characters. -/
def skip (s : Scanner) (count : Nat) : Scanner :=
  { s with cursor := s.cursor.skip count }

/-- No key begins at the place that is kept; nothing if one had to. -/
def dropPlace? (s : Scanner) : Option Scanner :=
  if s.place.isPossible && s.place.isRequired then none
  else some { s with place := { s.place with isPossible := false } }

/-- A key may begin here. -/
def keepPlace? (s : Scanner) : Option Scanner :=
  if s.mayBeginKey then
    s.dropPlace?.map fun s =>
      let c := s.cursor
      let required := s.inFlow && s.indent = c.column
      { s with place := ⟨true, required, s.count, c.index, c.line, c.column⟩ }
  else some s

/-- Forgets the places that are too far away for a key: on an earlier line, or more than 1024
characters before. -/
def dropFarPlaces? (s : Scanner) : Option Scanner :=
  let c := s.cursor
  let isFar (p : KeyPlace) : Bool := p.isPossible && (p.line < c.line || p.index + 1024 < c.index)
  let near (p : KeyPlace) : KeyPlace := if isFar p then { p with isPossible := false } else p
  if (s.place :: s.outerPlaces).any fun p => isFar p && p.isRequired then none
  else some { s with place := near s.place, outerPlaces := s.outerPlaces.map near }

/-- Begins a collection that is indented further than the one around it, behind the first `count`
tokens. -/
def beginBlock (s : Scanner) (column count : Nat) (t : Token) : Scanner :=
  if s.inFlow || column ≤ s.indent then s
  else
    { s.insert count t with
      indent := column
      outerIndents := s.indent :: s.outerIndents }

/-- Ends the collections that are indented further than a column. -/
def endBlocks (column : Int) : List Int → Scanner → Scanner
  | [], s => s
  | outer :: outers, s =>
    if s.inFlow || s.indent ≤ column then s
    else endBlocks column outers { s.emit .blockEnd with indent := outer, outerIndents := outers }

/-- Ends collections at a column. -/
def endBlocksAt (s : Scanner) (column : Int) : Scanner :=
  endBlocks column s.outerIndents s

/-- Passes blanks, comments and line ends before a token. A tab may not stand where a key can
begin. -/
def skipLayout : Nat → Scanner → Scanner
  | 0, s => s
  | fuel + 1, s =>
    let c := s.cursor
    if c.peek = ' ' ∨ (c.peek = '\t' ∧ (s.inFlow ∨ !s.mayBeginKey)) then
      skipLayout fuel (s.skip 1)
    else if isBreak c.peek then
      skipLayout fuel { s with cursor := c.skipBreak, mayBeginKey := s.mayBeginKey || !s.inFlow }
    else if c.peek = '#' then
      skipLayout fuel { s with cursor := c.skipWhile fun x => !isBreakOrEnd x }
    else s

/-- Reads a token of some characters that no key can precede. -/
def mark? (s : Scanner) (length : Nat) (mayBeginKey : Bool) (t : Token) : Option Scanner :=
  s.dropPlace?.map fun s => { (s.skip length).emit t with mayBeginKey := mayBeginKey }

/-- Reads a mark between documents. -/
def documentMark? (s : Scanner) (t : Token) : Option Scanner :=
  (s.endBlocksAt (-1)).mark? 3 false t

/-- Reads a bracket that opens a collection. They cannot be nested more than 255 deep. -/
def openFlow? (s : Scanner) (t : Token) : Option Scanner :=
  s.keepPlace?.bind fun s =>
    if s.flowLevel = 255 then none
    else
      some { (s.skip 1).emit t with
        place := {}
        outerPlaces := s.place :: s.outerPlaces
        mayBeginKey := true }

/-- Reads a bracket that closes a collection. -/
def closeFlow? (s : Scanner) (t : Token) : Option Scanner :=
  (s.mark? 1 false t).map fun s =>
    match s.outerPlaces with
    | [] => s
    | place :: outer => { s with place := place, outerPlaces := outer }

/-- Reads a hyphen before an entry of a sequence. -/
def entry? (s : Scanner) : Option Scanner :=
  if s.inFlow || !s.mayBeginKey then none
  else (s.beginBlock s.cursor.column s.count .sequenceStart).mark? 1 true .entry

/-- Reads a question mark before a key. -/
def key? (s : Scanner) : Option Scanner :=
  if s.inFlow then s.mark? 1 false .key
  else if !s.mayBeginKey then none
  else (s.beginBlock s.cursor.column s.count .mappingStart).mark? 1 true .key

/-- Reads a colon before a value. A text that can be a key becomes one. -/
def value? (s : Scanner) : Option Scanner :=
  let p := s.place
  if p.isPossible then
    let s := (s.insert p.count .key).beginBlock p.column p.count .mappingStart
    some { (s.skip 1).emit .value with
      place := { p with isPossible := false }
      mayBeginKey := false }
  else if s.inFlow then some { (s.skip 1).emit .value with mayBeginKey := false }
  else if !s.mayBeginKey then none
  else
    let s := s.beginBlock s.cursor.column s.count .mappingStart
    some { (s.skip 1).emit .value with mayBeginKey := true }

/-- Reads a part of a node with `read`, which may be or precede a key. -/
def part? (s : Scanner) (read : Cursor → Option (Token × Cursor)) : Option Scanner :=
  s.keepPlace?.bind fun s =>
    (read s.cursor).map fun (t, c) => { s.emit t with cursor := c, mayBeginKey := false }

/-- Reads a plain text. Behind a line end a key may begin. -/
def plainScalar? (s : Scanner) : Option Scanner :=
  s.keepPlace?.bind fun s =>
    (plain? s.inFlow (s.indent + 1) (s.cursor.rest.length + 1) s.cursor {} []).map
      fun (text, broken, c) =>
        { s.emit (.scalar true text) with cursor := c, mayBeginKey := broken }

/-- Reads a text in quotes. -/
def quotedScalar? (s : Scanner) (quote : Char) : Option Scanner :=
  let read (c : Cursor) : Option (Token × Cursor) :=
    (quoted? quote (c.rest.length + 1) (c.skip 1) []).map fun (text, c) => (.scalar false text, c)
  (s.part? read).map fun s => { s with quotedEnd := s.cursor.index }

/-- Reads a text as a block. -/
def blockScalar? (s : Scanner) (literal : Bool) : Option Scanner :=
  s.keepPlace?.bind fun s =>
    (block? literal s.indent (s.cursor.skip 1)).map fun (text, c) =>
      { s.emit (.scalar false text) with cursor := c, mayBeginKey := true }

/-- Reads the end of the text, which ends its last line. -/
def finish? (s : Scanner) : Option Scanner :=
  ((s.endBlocksAt (-1)).dropPlace?).map fun s => s.emit .streamEnd

/-- Reads the next token; the scanner stands right before it. -/
def token? (s : Scanner) : Option Scanner :=
  let c := s.cursor
  let next := c.ahead 1
  if c.column = 0 ∧ c.peek = '%' then
    (s.endBlocksAt (-1)).dropPlace?.bind fun s =>
      (directive? (c.skip 1)).map fun c =>
        { s.emit .directive with cursor := c, mayBeginKey := false }
  else if c.isAtMark '-' then s.documentMark? .documentStart
  else if c.isAtMark '.' then s.documentMark? .documentEnd
  else
    match c.peek with
    | '[' => s.openFlow? .openBracket
    | '\x7b' => s.openFlow? .openBrace
    | ']' => s.closeFlow? .closeBracket
    | '\x7d' => s.closeFlow? .closeBrace
    | ',' => s.mark? 1 true .comma
    | '-' => if isBlankOrEnd next then s.entry? else s.plainScalar?
    | '?' => if isBlankOrEnd next then s.key? else s.plainScalar?
    | ':' =>
      if isBlankOrEnd next || (s.inFlow && (isFlowIndicator next || c.index = s.quotedEnd)) then
        s.value?
      else s.plainScalar?
    | '*' => s.part? fun c => (anchorName? (c.skip 1)).map fun (name, c) => (.alias name, c)
    | '&' => s.part? fun c => (anchorName? (c.skip 1)).map fun (name, c) => (.anchor name, c)
    | '!' => s.part? tag?
    | '\'' => s.quotedScalar? '\''
    | '"' => s.quotedScalar? '"'
    | '|' => if s.inFlow then s.plainScalar? else s.blockScalar? true
    | '>' => if s.inFlow then s.plainScalar? else s.blockScalar? false
    | '%' => none
    | '@' => none
    | '\x60' => none
    | _ => s.plainScalar?

/-- Reads the tokens up to the end of the text. -/
def run? : Nat → Scanner → Option (List Token)
  | 0, _ => none
  | fuel + 1, s =>
    (dropFarPlaces? (skipLayout (s.cursor.rest.length + 1) s)).bind fun s =>
      let s := s.endBlocksAt s.cursor.column
      if s.cursor.isAtEnd then s.finish?.map fun s => s.tokens.reverse
      else s.token?.bind (run? fuel)

end Scanner

/-- The tokens of a text. -/
def scan? (text : String) : Option (List Token) :=
  Scanner.run? (text.length + 2) { cursor := { rest := text.toList } }

end TokenLifecycle.Yaml
