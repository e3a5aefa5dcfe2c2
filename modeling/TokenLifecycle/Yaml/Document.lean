import TokenLifecycle.Yaml.Value

/-!
# YAML documents

The documents that the tokens of a text make up. A node may have an anchor, and a reference to the
anchor stands for the node once that is complete.
-/

namespace TokenLifecycle.Yaml

/-- The anchors of a text: the number of the last node with a name, and the nodes by number. -/
structure Anchors where
  names : List (String × Nat) := []
  nodes : List (Nat × Value) := []
  next : Nat := 1

namespace Anchors

/-- The anchors with a name for a node that begins, and its number. -/
def define (a : Anchors) (name : String) : Nat × Anchors :=
  (a.next, { a with names := (name, a.next) :: a.names, next := a.next + 1 })

/-- The anchors with a node that is complete. -/
def complete (a : Anchors) (number : Option Nat) (v : Value) : Anchors :=
  match number with
  | some n => { a with nodes := (n, v) :: a.nodes }
  | none => a

/-- The node that a reference stands for. -/
def get? (a : Anchors) (name : String) : Option Value :=
  (a.names.lookup name).map fun n => (a.nodes.lookup n).getD .invalid

end Anchors

/-- What stands before a node: its anchor and its tag. -/
structure Properties where
  anchor : Option Nat := none
  tag : Option (String × String) := none

/-- Reads an anchor and a tag in any order. -/
def properties (a : Anchors) : List Token → Properties × Anchors × List Token
  | .anchor name :: .tag handle suffix :: ts =>
    let (n, a) := a.define name
    (⟨some n, some (handle, suffix)⟩, a, ts)
  | .tag handle suffix :: .anchor name :: ts =>
    let (n, a) := a.define name
    (⟨some n, some (handle, suffix)⟩, a, ts)
  | .anchor name :: ts =>
    let (n, a) := a.define name
    (⟨some n, none⟩, a, ts)
  | .tag handle suffix :: ts => (⟨none, some (handle, suffix)⟩, a, ts)
  | ts => ({}, a, ts)

/-- What a reader gives: something, the tokens behind it, and the anchors. -/
abbrev Read (α : Type) := Option (α × List Token × Anchors)

/-- Goes on where something has been read. -/
def Read.map {α β : Type} (r : Read α) (f : α → β) : Read β :=
  Option.map (fun (x, rest) => (f x, rest)) r

mutual

/-- Reads a node. `block` allows collections by indentation, and `bare` sequences that are not
indented. -/
def node? : Nat → Bool → Bool → List Token → Anchors → Read Value
  | 0, _, _, _, _ => none
  | fuel + 1, block, bare, ts, a =>
    match ts with
    | .alias name :: ts => (a.get? name).map fun v => (v, ts, a)
    | ts =>
      let (p, a, ts) := properties a ts
      let content : Read Value :=
        match ts with
        | .entry :: _ =>
          if bare then (bareEntries? fuel ts a).map .sequence else empty p ts a
        | .scalar isPlain s :: ts => some (.ofScalar isPlain p.tag s, ts, a)
        | .openBracket :: ts => (items? fuel true ts a).map .sequence
        | .openBrace :: ts => (members? fuel true ts a).map .ofPairs
        | .sequenceStart :: rest =>
          if block then (entries? fuel rest a).map .sequence else empty p ts a
        | .mappingStart :: rest =>
          if block then (pairs? fuel rest a).map .ofPairs else empty p ts a
        | ts => empty p ts a
      content.bind fun (v, ts, a) => some (v, ts, a.complete p.anchor v)
where
  /-- A node that has properties only. -/
  empty (p : Properties) (ts : List Token) (a : Anchors) : Read Value :=
    if p.anchor.isSome || p.tag.isSome then some (.ofScalar true p.tag "", ts, a) else none

/-- Reads the entries of a sequence by indentation. -/
def entries? : Nat → List Token → Anchors → Read (List Value)
  | 0, _, _ => none
  | fuel + 1, ts, a =>
    match ts with
    | .blockEnd :: ts => some ([], ts, a)
    | .entry :: .entry :: ts => (entries? fuel (.entry :: ts) a).map (.null :: ·)
    | .entry :: .blockEnd :: ts => some ([.null], ts, a)
    | .entry :: ts =>
      (node? fuel true false ts a).bind fun (v, ts, a) => (entries? fuel ts a).map (v :: ·)
    | _ => none

/-- Reads the entries of a sequence that is not indented. -/
def bareEntries? : Nat → List Token → Anchors → Read (List Value)
  | 0, _, _ => none
  | fuel + 1, ts, a =>
    match ts with
    | .entry :: ts =>
      let isEmpty := match ts with
        | .entry :: _ => true
        | .key :: _ => true
        | .value :: _ => true
        | .blockEnd :: _ => true
        | _ => false
      if isEmpty then (bareEntries? fuel ts a).map (.null :: ·)
      else
        (node? fuel true false ts a).bind fun (v, ts, a) => (bareEntries? fuel ts a).map (v :: ·)
    | ts => some ([], ts, a)

/-- Reads keys and values in turn of a mapping by indentation. -/
def pairs? : Nat → List Token → Anchors → Read (List Value)
  | 0, _, _ => none
  | fuel + 1, ts, a =>
    match ts with
    | .blockEnd :: ts => some ([], ts, a)
    | .key :: ts =>
      (blockPart? fuel ts a).bind fun (k, ts, a) => (pairValue? fuel ts a).map (k :: ·)
    | .value :: _ => (pairValue? fuel ts a).map (.null :: ·)
    | _ => none

/-- Reads a value of a mapping by indentation, if there is one, and what follows it. -/
def pairValue? : Nat → List Token → Anchors → Read (List Value)
  | 0, _, _ => none
  | fuel + 1, ts, a =>
    match ts with
    | .value :: ts => (blockPart? fuel ts a).bind fun (v, ts, a) => (pairs? fuel ts a).map (v :: ·)
    | ts => (pairs? fuel ts a).map (.null :: ·)

/-- Reads a key or a value of a mapping by indentation. -/
def blockPart? : Nat → List Token → Anchors → Read Value
  | 0, _, _ => none
  | fuel + 1, ts, a =>
    match ts with
    | .key :: _ => some (.null, ts, a)
    | .value :: _ => some (.null, ts, a)
    | .blockEnd :: _ => some (.null, ts, a)
    | ts => node? fuel true true ts a

/-- Reads the items of a sequence in brackets. An item may be a single pair of a key and a value. -/
def items? : Nat → Bool → List Token → Anchors → Read (List Value)
  | 0, _, _, _ => none
  | fuel + 1, first, ts, a =>
    let item (ts : List Token) : Read (List Value) :=
      match ts with
      | .closeBracket :: ts => some ([], ts, a)
      | .key :: ts =>
        (singlePair? fuel ts a).bind fun (v, ts, a) => (items? fuel false ts a).map (v :: ·)
      | ts =>
        (node? fuel false false ts a).bind fun (v, ts, a) => (items? fuel false ts a).map (v :: ·)
    match first, ts with
    | _, .closeBracket :: ts => some ([], ts, a)
    | true, ts => item ts
    | false, .comma :: ts => item ts
    | false, _ => none

/-- Reads a pair within a sequence in brackets. A token that ends it in place of its key is
passed. -/
def singlePair? : Nat → List Token → Anchors → Read Value
  | 0, _, _ => none
  | fuel + 1, ts, a =>
    let key : Read Value :=
      match ts with
      | .value :: ts => some (.null, ts, a)
      | .comma :: ts => some (.null, ts, a)
      | .closeBracket :: ts => some (.null, ts, a)
      | ts => node? fuel false false ts a
    key.bind fun (k, ts, a) =>
      let value : Read Value :=
        match ts with
        | .value :: ts =>
          match ts with
          | .comma :: _ => some (.null, ts, a)
          | .closeBracket :: _ => some (.null, ts, a)
          | ts => node? fuel false false ts a
        | ts => some (.null, ts, a)
      value.map fun v => .ofPairs [k, v]

/-- Reads keys and values in turn of a mapping in braces. -/
def members? : Nat → Bool → List Token → Anchors → Read (List Value)
  | 0, _, _, _ => none
  | fuel + 1, first, ts, a =>
    let member (ts : List Token) : Read (List Value) :=
      match ts with
      | .closeBrace :: ts => some ([], ts, a)
      | .key :: ts =>
        let isEmpty := match ts with
          | .value :: _ => true
          | .comma :: _ => true
          | .closeBrace :: _ => true
          | _ => false
        if isEmpty then (memberValue? fuel ts a).map (.null :: ·)
        else
          (node? fuel false false ts a).bind fun (k, ts, a) =>
            (memberValue? fuel ts a).map (k :: ·)
      | .value :: _ => (memberValue? fuel ts a).map (.null :: ·)
      | ts =>
        (node? fuel false false ts a).bind fun (k, ts, a) =>
          (members? fuel false ts a).map fun vs => k :: .null :: vs
    match first, ts with
    | _, .closeBrace :: ts => some ([], ts, a)
    | true, ts => member ts
    | false, .comma :: ts => member ts
    | false, _ => none

/-- Reads a value of a mapping in braces, if there is one, and what follows it. -/
def memberValue? : Nat → List Token → Anchors → Read (List Value)
  | 0, _, _ => none
  | fuel + 1, ts, a =>
    match ts with
    | .value :: rest =>
      match rest with
      | .comma :: _ => (members? fuel false rest a).map (.null :: ·)
      | .closeBrace :: _ => (members? fuel false rest a).map (.null :: ·)
      | rest =>
        (node? fuel false false rest a).bind fun (v, ts, a) =>
          (members? fuel false ts a).map (v :: ·)
    | ts => (members? fuel false ts a).map (.null :: ·)

end

/-! ### Documents -/

/-- Reads what a document that begins with its mark holds. -/
def marked? (fuel : Nat) (ts : List Token) (a : Anchors) : Read Value :=
  match ts with
  | .directive :: _ => some (.null, ts, a)
  | .documentStart :: _ => some (.null, ts, a)
  | .documentEnd :: _ => some (.null, ts, a)
  | .streamEnd :: _ => some (.null, ts, a)
  | ts => node? fuel true false ts a

/-- The tokens behind directives and the mark of a document. -/
def behindMark? : List Token → Option (List Token)
  | .directive :: ts => behindMark? ts
  | .documentStart :: ts => some ts
  | _ => none

/-- Reads documents up to the end of the text. Only the first one may go without its mark. -/
def documents? : Nat → Bool → List Token → Anchors → Option (List Value)
  | 0, _, _, _ => none
  | fuel + 1, first, ts, a =>
    let ts := if first then ts else ts.dropWhile (· = .documentEnd)
    let isMarked := match ts with
      | .directive :: _ => true
      | .documentStart :: _ => true
      | _ => !first
    let document : Read Value :=
      if isMarked then (behindMark? ts).bind fun ts => marked? fuel ts a
      else node? fuel true false ts a
    match ts with
    | .streamEnd :: _ => some []
    | _ =>
      document.bind fun (v, ts, a) =>
        let ts := match ts with
          | .documentEnd :: ts => ts
          | ts => ts
        (documents? fuel false ts { a with names := [] }).map (v :: ·)

/-- The documents that a text spells. -/
def ofText? (text : String) : Option (List Value) :=
  (scan? text).bind fun ts => documents? (4 * ts.length + 4) true ts {}

end TokenLifecycle.Yaml
