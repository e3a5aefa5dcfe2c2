import TokenLifecycle.Log.Filter.Pattern
import TokenLifecycle.Log.Filter.Threshold
import TokenLifecycle.Numeral.Binary64
import TokenLifecycle.Text.Alphanumeric
import TokenLifecycle.Text.Blank
import TokenLifecycle.Text.Utf8

/-!
# Directives

A directive sets a threshold for a target, for spans of a name, or for spans with a field, in the
form `target[span{field=value}]=level` where every part may be missing.
-/

namespace TokenLifecycle.Log

open Numeral (Binary64)

/-- What the value of a field is compared with. -/
inductive FieldValue
  | bool (value : Bool)
  | real (value : Binary64)
  | nan
  | natural (value : Nat)
  | integer (value : Int)
  | pattern (text : String)
  deriving DecidableEq, Repr

namespace FieldValue

/-- Reads a value as the first kind that fits. -/
def ofText? (s : String) : Option FieldValue :=
  if s = "true" then some (.bool true)
  else if s = "false" then some (.bool false)
  else
    match Numeral.uint64? s, Numeral.int64? s, Binary64.ofText? s with
    | some n, _, _ => some (.natural n.toNat)
    | none, some n, _ => some (.integer n.toInt)
    | none, none, some .nan => some .nan
    | none, none, some x => some (.real x)
    | none, none, none => if Pattern.isPattern s then some (.pattern s) else none

/-- A value as it is written. -/
def render : FieldValue → String
  | bool b => if b then "true" else "false"
  | real x => x.positional
  | nan => "NaN"
  | natural n => Numeral.ofNat n
  | integer n => Numeral.ofInt n
  | pattern s => s

/-- The place of a value's kind in the order of values. -/
def rank : FieldValue → Nat
  | bool _ => 0
  | real _ => 1
  | nan => 2
  | natural _ => 3
  | integer _ => 4
  | pattern _ => 5

/-- Orders floating-point numbers. -/
def compareReals (x y : Binary64) : Ordering :=
  let place (x : Binary64) : Int := if x.isFinite then 0 else if x.isNegative then -1 else 1
  let scaled (x y : Binary64) : Int :=
    let m : Int := (x.ratio.1 * y.ratio.2 : Nat)
    if x.isNegative then -m else m
  (compare (place x) (place y)).then (compare (scaled x y) (scaled y x))

/-- Orders values by kind, and within a kind by size. -/
def compare (v w : FieldValue) : Ordering :=
  match v, w with
  | bool a, bool b => Ord.compare a b
  | real a, real b => compareReals a b
  | natural a, natural b => Ord.compare a b
  | integer a, integer b => Ord.compare a b
  | pattern a, pattern b => Ord.compare a b
  | v, w => Ord.compare v.rank w.rank

end FieldValue

/-- A field that a span has to have, with a value or without. -/
structure Field where
  name : String
  value : Option FieldValue
  deriving DecidableEq, Repr

namespace Field

/-- Reads a field: a name, and a value behind the first equals sign and before a second one. -/
def ofText? (s : String) : Option Field :=
  match s.splitOn "=" with
  | name :: value :: _ => (FieldValue.ofText? value).map fun v => ⟨name, some v⟩
  | _ => some ⟨s, none⟩

/-- A field as it is written. -/
def render (f : Field) : String :=
  match f.value with
  | some v => f.name ++ "=" ++ v.render
  | none => f.name

/-- Orders fields: those with a value last, then by name and value. -/
def compare (f g : Field) : Ordering :=
  match f.value, g.value with
  | some _, none => .gt
  | none, some _ => .lt
  | none, none => Ord.compare f.name g.name
  | some v, some w => (Ord.compare f.name g.name).then (v.compare w)

end Field

/-- A directive. -/
structure Directive where
  target : Option String
  span : Option String
  field : Option Field
  threshold : Threshold
  deriving DecidableEq, Repr

namespace Directive

/-- The directive concerns spans. -/
def isDynamic (d : Directive) : Bool :=
  d.span.isSome || d.field.isSome

/-- The directive can be decided from a target and the names of fields. -/
def isStatic (d : Directive) : Bool :=
  d.span.isNone && !(d.field.any fun f => f.value.isSome)

/-- A directive as it is written. -/
def render (d : Directive) : String :=
  let brackets :=
    if d.isDynamic then
      "[" ++ d.span.getD "" ++ (d.field.elim "" fun f => "\x7b" ++ f.render ++ "\x7d") ++ "]"
    else ""
  let subject := d.target.getD "" ++ brackets
  if d.target.isSome || d.isDynamic then subject ++ "=" ++ d.threshold.name else d.threshold.name

/-- Orders what may be missing, the missing first. -/
def compareOption {α : Type} (cmp : α → α → Ordering) : Option α → Option α → Ordering
  | none, none => .eq
  | none, some _ => .lt
  | some _, none => .gt
  | some a, some b => cmp a b

/-- Orders directives from the general to the specific one: by whether there is a target and by its
size, by whether there are a span and a field, and then by their texts. -/
def compare (d e : Directive) : Ordering :=
  let size (d : Directive) : Option Nat := d.target.map (·.utf8ByteSize)
  (compareOption Ord.compare (size d) (size e)).then <|
  (Ord.compare d.span.isSome e.span.isSome).then <|
  (Ord.compare d.field.isSome e.field.isSome).then <|
  (compareOption Ord.compare d.target e.target).then <|
  (compareOption Ord.compare d.span e.span).then
  (compareOption Field.compare d.field e.field)

/-! ### Reading -/

/-- Why a text is no directive. -/
inductive Fault
  | malformed
  /-- A position of the trimmed text falls inside a character of the text. -/
  | misaligned
  deriving DecidableEq, Repr

/-- The text between two positions. Positions are counted in the text without its leading blanks,
but applied to all of it. -/
def slice (bs : Bytes) (start stop : Nat) : Except Fault String :=
  let isBoundary (i : Nat) : Bool :=
    match bs[i]? with
    | some b => b < 0x80 || 0xC0 ≤ b
    | none => i == bs.length
  if isBoundary start && isBoundary stop then
    .ok ((Text.ofBytes? ((bs.take stop).drop start)).getD "")
  else .error .misaligned

/-- What is being read; a number is the position where the part began. -/
inductive Progress
  | start
  | word (start : Nat)
  | span (start : Nat)
  | field (start : Nat)
  | fieldsClosed
  | bracketClosed
  | level (start : Nat)
  deriving DecidableEq, Repr

/-- The directive so far with what the field says. -/
def withField (d : Directive) (s : String) : Except Fault Directive :=
  if s = "" then .error .malformed
  else
    match Field.ofText? s with
    | some f => .ok { d with field := some f }
    | none => .error .malformed

/-- Reads the character at a position. -/
def next (bs : Bytes) (position : Nat) (c : Char) (progress : Progress) (d : Directive) :
    Except Fault (Progress × Directive) :=
  match progress with
  | .start =>
    if c = '[' then .ok (.span (position + 1), d)
    else if c = '-' ∨ c = ':' ∨ c = '_' ∨ Text.isAlphanumeric c then .ok (.word position, d)
    else .error .malformed
  | .word start =>
    if c = '=' then
      (slice bs start position).map fun s => (.level (position + 1), { d with target := some s })
    else if c = '[' then
      (slice bs start position).map fun s => (.span (position + 1), { d with target := some s })
    else .ok (.word start, d)
  | .span start =>
    if c = ']' then
      (slice bs start position).map fun s => (.bracketClosed, { d with span := some s })
    else if c = '\x7b' then
      (slice bs start position).map fun s =>
        (.field (position + 1), { d with span := if s = "" then none else some s })
    else .ok (.span start, d)
  | .field start =>
    if c = '\x7d' then
      ((slice bs start position).bind d.withField).map fun d => (.fieldsClosed, d)
    else .ok (.field start, d)
  | .fieldsClosed => if c = ']' then .ok (.bracketClosed, d) else .error .malformed
  | .bracketClosed => if c = '=' then .ok (.level (position + 1), d) else .error .malformed
  | .level start => .ok (.level start, d)

/-- The directive when all has been read. A word alone is a level if it can be one. -/
def finish (bs : Bytes) (progress : Progress) (d : Directive) : Except Fault Directive :=
  match progress with
  | .word start =>
    (slice bs start bs.length).map fun s =>
      match Threshold.ofText? s with
      | some t => { d with threshold := t }
      | none => { d with target := some s }
  | .level start =>
    (slice bs start bs.length).bind fun s =>
      if s = "" then .ok d
      else
        match Threshold.ofText? s with
        | some t => .ok { d with threshold := t }
        | none => .error .malformed
  | .bracketClosed => .ok d
  | _ => .error .malformed

/-- Reads characters from a position on. -/
def readFrom (bs : Bytes) :
    Nat → List Char → Progress → Directive → Except Fault Directive
  | _, [], progress, d => finish bs progress d
  | position, c :: rest, progress, d =>
    match next bs position c progress d with
    | .ok (progress, d) => readFrom bs (position + c.utf8Size) rest progress d
    | .error f => .error f

/-- Reads a directive. -/
def ofText (s : String) : Except Fault Directive :=
  readFrom (Text.bytes s) 0 (Text.trim s).toList .start ⟨none, none, none, .trace⟩

end Directive

end TokenLifecycle.Log
