import TokenLifecycle.Json.Body

/-!
# JSON documents

A document keeps numbers and strings as they are written, and objects keep their members in order,
repeated names included. What a number, a string or a repeated name means is for those who read the
document.

A document is read token by token, with the containers part way through held in a list, so any
depth of nesting is read.
-/

namespace TokenLifecycle.Json

/-- A JSON document. Strings and names are bodies, as written between the quotes. -/
inductive Doc
  | null
  | bool (value : Bool)
  | number (number : Number)
  | string (body : Bytes)
  | array (items : List Doc)
  | object (members : List (Bytes × Doc))

namespace Doc

/-- The tokens that a list of parts is written with, a comma between any two. -/
def joinTokens : List (List Token) → List Token
  | [] => []
  | [part] => part
  | part :: next :: rest => part ++ .comma :: joinTokens (next :: rest)

mutual

/-- The tokens that a document is written with. -/
def tokens : Doc → List Token
  | .null => [.null]
  | .bool b => [.bool b]
  | .number n => [.number n]
  | .string s => [.string s]
  | .array items => .openBracket :: joinTokens (itemTokens items) ++ [.closeBracket]
  | .object members => .openBrace :: joinTokens (memberTokens members) ++ [.closeBrace]

/-- The tokens of each item of an array. -/
def itemTokens : List Doc → List (List Token)
  | [] => []
  | d :: rest => d.tokens :: itemTokens rest

/-- The tokens of each member of an object. -/
def memberTokens : List (Bytes × Doc) → List (List Token)
  | [] => []
  | (k, d) :: rest => (.string k :: .colon :: d.tokens) :: memberTokens rest

end

/-- The text of a document, without spaces. -/
def bytes (d : Doc) : Bytes :=
  d.tokens.flatMap Token.bytes

/-- A container part way through, with what it holds so far in reverse. -/
inductive Frame
  | array (done : List Doc)
  | object (done : List (Bytes × Doc)) (name : Bytes)

/-- What is expected next, within the containers around it. -/
inductive Reader
  | value (outer : List Frame)
  | firstItem (outer : List Frame)
  | afterItem (done : List Doc) (outer : List Frame)
  | firstName (outer : List Frame)
  | nextName (done : List (Bytes × Doc)) (outer : List Frame)
  | colon (done : List (Bytes × Doc)) (name : Bytes) (outer : List Frame)
  | afterMember (done : List (Bytes × Doc)) (outer : List Frame)
  | finished (d : Doc)

namespace Reader

/-- Hands a finished document to the innermost container. -/
def deliver (d : Doc) : List Frame → Reader
  | [] => .finished d
  | .array done :: outer => .afterItem (d :: done) outer
  | .object done name :: outer => .afterMember ((name, d) :: done) outer

/-- Reads the first token of a value. -/
def begin (outer : List Frame) : Token → Option Reader
  | .null => some (deliver .null outer)
  | .bool b => some (deliver (.bool b) outer)
  | .number n => some (deliver (.number n) outer)
  | .string s => some (deliver (.string s) outer)
  | .openBracket => some (.firstItem outer)
  | .openBrace => some (.firstName outer)
  | _ => none

/-- Reads one token. -/
def next : Reader → Token → Option Reader
  | .value outer, t => begin outer t
  | .firstItem outer, .closeBracket => some (deliver (.array []) outer)
  | .firstItem outer, t => begin (.array [] :: outer) t
  | .afterItem done outer, .comma => some (.value (.array done :: outer))
  | .afterItem done outer, .closeBracket => some (deliver (.array done.reverse) outer)
  | .firstName outer, .closeBrace => some (deliver (.object []) outer)
  | .firstName outer, .string k => some (.colon [] k outer)
  | .nextName done outer, .string k => some (.colon done k outer)
  | .colon done k outer, .colon => some (.value (.object done k :: outer))
  | .afterMember done outer, .comma => some (.nextName done outer)
  | .afterMember done outer, .closeBrace => some (deliver (.object done.reverse) outer)
  | _, _ => none

/-- Reads tokens one after the other. -/
def run (r : Reader) (ts : List Token) : Option Reader :=
  ts.foldlM next r

end Reader

/-- The document that the tokens spell, if they spell exactly one. -/
def ofTokens? (ts : List Token) : Option Doc :=
  match Reader.run (.value []) ts with
  | some (.finished d) => some d
  | _ => none

/-- The document that a text spells. -/
def ofBytes? (bs : Bytes) : Option Doc :=
  (scan bs).bind ofTokens?

/-! ### Building documents -/

/-- A text as a string. -/
def text (s : String) : Doc :=
  .string (Body.ofText s)

/-- An integer as a number. -/
def int (n : Int) : Doc :=
  .number ⟨n < 0, Text.ascii (Numeral.ofNat n.natAbs), [], none⟩

/-- A natural number as a number. -/
def nat (n : Nat) : Doc :=
  int n

/-- A value that may be missing, as itself or `null`. -/
def option {α : Type} (write : α → Doc) : Option α → Doc
  | none => .null
  | some a => write a

/-- An object with the given names and values, in order. -/
def ofMembers (members : List (String × Doc)) : Doc :=
  .object (members.map fun (k, d) => (Body.ofText k, d))

/-! ### Reading scalars -/

/-- The text of a string. -/
def text? : Doc → Option String
  | .string body => Body.text? body
  | _ => none

/-- The truth value of a literal. -/
def bool? : Doc → Option Bool
  | .bool b => some b
  | _ => none

/-- The integer that a number spells, when it has neither fraction nor exponent. The numeral `-0`
does not count as an integer. -/
def int? : Doc → Option Int
  | .number ⟨negative, whole, [], none⟩ =>
    let n : Nat := whole.foldl (fun n b => 10 * n + (b.toNat - 48)) 0
    if negative then (if n = 0 then none else some (-(n : Int))) else some n
  | _ => none

/-- The value in a document, and `none` inside for `null`. -/
def option? {α : Type} (read : Doc → Option α) : Doc → Option (Option α)
  | .null => some none
  | d => (read d).map some

/-- A signed 64-bit word. -/
def int64? (d : Doc) : Option Int64 :=
  d.int?.bind Numeral.toInt64?

/-- An unsigned 64-bit word. -/
def uint64? (d : Doc) : Option UInt64 :=
  d.int?.bind Numeral.toUInt64?

/-- An unsigned 32-bit word. -/
def uint32? (d : Doc) : Option UInt32 :=
  d.int?.bind Numeral.toUInt32?

/-- An unsigned byte. -/
def uint8? (d : Doc) : Option UInt8 :=
  d.int?.bind Numeral.toUInt8?

end Doc

end TokenLifecycle.Json
