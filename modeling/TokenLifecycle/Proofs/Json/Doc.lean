import Mathlib.Tactic
import TokenLifecycle.Json.Doc
import TokenLifecycle.Proofs.Json.Token
import TokenLifecycle.Proofs.Numeral.Decimal

/-!
# Documents read back

The reader hands a document to the container around it as soon as its last token is read. So every
document whose tokens are well-formed is read back from its text, however deep it is nested.
-/

namespace TokenLifecycle.Json.Doc

namespace Reader

theorem run_cons (r : Reader) (t : Token) (ts : List Token) :
    run r (t :: ts) = (r.next t).bind fun r => run r ts := by
  simp only [run, List.foldlM_cons]
  rfl

/-- The first token of a document does not close an array. -/
theorem run_firstItem (d : Doc) (outer : List Frame) (rest : List Token) :
    run (.firstItem outer) (d.tokens ++ rest) =
      run (.value (.array [] :: outer)) (d.tokens ++ rest) := by
  cases d <;> simp [tokens, run_cons, next, begin]

mutual

/-- Reading the tokens of a document hands it to the container around it. -/
theorem run_tokens (d : Doc) (outer : List Frame) (rest : List Token) :
    run (.value outer) (d.tokens ++ rest) = run (deliver d outer) rest := by
  match d with
  | .null => simp [tokens, run_cons, next, begin]
  | .bool _ => simp [tokens, run_cons, next, begin]
  | .number _ => simp [tokens, run_cons, next, begin]
  | .string _ => simp [tokens, run_cons, next, begin]
  | .array [] => simp [tokens, itemTokens, joinTokens, run_cons, next, begin]
  | .array (d :: items) =>
      have first (front : List Token) :
          run (.firstItem outer) (joinTokens (itemTokens (d :: items)) ++ front) =
            run (.value (.array [] :: outer)) (joinTokens (itemTokens (d :: items)) ++ front) := by
        cases items with
        | nil => exact run_firstItem d outer front
        | cons next items =>
            simp only [itemTokens, joinTokens, List.append_assoc]
            exact run_firstItem d outer _
      have items := run_items (d :: items) (by simp) [] outer rest
      simp [tokens, run_cons, next, begin, first, items]
  | .object [] => simp [tokens, memberTokens, joinTokens, run_cons, next, begin]
  | .object ((k, d) :: members) =>
      have first (front : List Token) :
          run (.firstName outer) (joinTokens (memberTokens ((k, d) :: members)) ++ front) =
            run (.nextName [] outer) (joinTokens (memberTokens ((k, d) :: members)) ++ front) := by
        cases members with
        | nil => simp [memberTokens, joinTokens, run_cons, next]
        | cons member members => simp [memberTokens, joinTokens, run_cons, next]
      have members := run_members ((k, d) :: members) (by simp) [] outer rest
      simp [tokens, run_cons, next, begin, first, members]

/-- Reading the remaining items of an array closes it. -/
theorem run_items (items : List Doc) (nonempty : items ≠ []) (done : List Doc)
    (outer : List Frame) (rest : List Token) :
    run (.value (.array done :: outer)) (joinTokens (itemTokens items) ++ .closeBracket :: rest) =
      run (deliver (.array (done.reverse ++ items)) outer) rest := by
  match items with
  | [d] => simp [itemTokens, joinTokens, run_tokens d, deliver, run_cons, next]
  | d :: e :: items =>
      have later := run_items (e :: items) (by simp) (d :: done) outer rest
      simp only [itemTokens, joinTokens, List.append_assoc, run_tokens d] at later ⊢
      simp [deliver, run_cons, next, later]

/-- Reading the remaining members of an object closes it. -/
theorem run_members (members : List (Bytes × Doc)) (nonempty : members ≠ [])
    (done : List (Bytes × Doc)) (outer : List Frame) (rest : List Token) :
    run (.nextName done outer) (joinTokens (memberTokens members) ++ .closeBrace :: rest) =
      run (deliver (.object (done.reverse ++ members)) outer) rest := by
  match members with
  | [(k, d)] => simp [memberTokens, joinTokens, run_tokens d, deliver, run_cons, next]
  | (k, d) :: member :: members =>
      have later := run_members (member :: members) (by simp) ((k, d) :: done) outer rest
      obtain ⟨name, e⟩ := member
      simp only [memberTokens, joinTokens, List.append_assoc, List.cons_append] at later ⊢
      simp [deliver, run_cons, next, run_tokens d] at later ⊢
      simp [later]

end

end Reader

/-- The tokens of a document spell it. -/
theorem ofTokens?_tokens (d : Doc) : ofTokens? d.tokens = some d := by
  have read := Reader.run_tokens d [] []
  rw [List.append_nil] at read
  rw [ofTokens?, read]
  rfl

/-! ### Tokens side by side -/

theorem separate_append_mark (front : List Token) {rest : List Token} {mark : Token}
    (other : mark.isNumber = false) (front_separate : front.IsChain Token.Separate)
    (rest_separate : rest.IsChain Token.Separate) :
    (front ++ mark :: rest).IsChain Token.Separate := by
  refine front_separate.append ?_ ?_
  · exact List.isChain_cons.mpr ⟨fun _ _ => .inl other, rest_separate⟩
  · intro _ _ next first
    obtain rfl := Option.some.inj first
    exact .inr other

theorem separate_joinTokens {parts : List (List Token)}
    (separate : ∀ part ∈ parts, part.IsChain Token.Separate) :
    (joinTokens parts).IsChain Token.Separate := by
  fun_induction joinTokens parts with
  | case1 => exact .nil
  | case2 part => exact separate part List.mem_cons_self
  | case3 part next rest ih =>
      exact separate_append_mark part rfl (separate part List.mem_cons_self)
        (ih fun part member => separate part (List.mem_cons_of_mem _ member))

theorem itemTokens_eq_map (items : List Doc) : itemTokens items = items.map tokens := by
  induction items with
  | nil => rfl
  | cons d items ih => rw [itemTokens, ih, List.map_cons]

theorem memberTokens_eq_map (members : List (Bytes × Doc)) :
    memberTokens members = members.map fun (k, d) => .string k :: .colon :: d.tokens := by
  induction members with
  | nil => rfl
  | cons member members ih => rw [memberTokens, ih, List.map_cons]

private theorem separate_array {items : List Doc}
    (separate : ∀ d ∈ items, d.tokens.IsChain Token.Separate) :
    (Doc.array items).tokens.IsChain Token.Separate := by
  rw [tokens]
  refine separate_append_mark (_ :: _) rfl ?_ .nil
  refine separate_append_mark [] rfl .nil (separate_joinTokens ?_)
  simpa [itemTokens_eq_map] using separate

private theorem separate_object {members : List (Bytes × Doc)}
    (separate : ∀ member ∈ members, member.2.tokens.IsChain Token.Separate) :
    (Doc.object members).tokens.IsChain Token.Separate := by
  rw [tokens]
  refine separate_append_mark (_ :: _) rfl ?_ .nil
  refine separate_append_mark [] rfl .nil (separate_joinTokens ?_)
  intro part inside
  rw [memberTokens_eq_map, List.mem_map] at inside
  obtain ⟨⟨k, d⟩, member, rfl⟩ := inside
  exact separate_append_mark [.string k] rfl (.singleton _) (separate _ member)

/-- No number directly follows another one in the tokens of a document. -/
theorem separate_tokens (d : Doc) : d.tokens.IsChain Token.Separate := by
  match d with
  | .null => exact .singleton _
  | .bool _ => exact .singleton _
  | .number _ => exact .singleton _
  | .string _ => exact .singleton _
  | .array items => exact separate_array fun d _ => separate_tokens d
  | .object members => exact separate_object fun member _ => separate_tokens member.2
termination_by d
decreasing_by
  · have := List.sizeOf_lt_of_mem ‹d ∈ items›
    simp only [array.sizeOf_spec]
    omega
  · have := List.sizeOf_lt_of_mem ‹member ∈ members›
    obtain ⟨k, d⟩ := member
    simp only [object.sizeOf_spec, Prod.mk.sizeOf_spec] at *
    omega

/-! ### Documents and their texts -/

/-- A document whose numbers and strings are written as they are scanned. -/
def WellFormed (d : Doc) : Prop :=
  ∀ t ∈ d.tokens, t.WellFormed

/-- A well-formed document is read back from its text. -/
theorem ofBytes?_bytes {d : Doc} (formed : d.WellFormed) : ofBytes? d.bytes = some d := by
  rw [ofBytes?, bytes, Token.scan_bytes formed d.separate_tokens]
  exact ofTokens?_tokens d

theorem mem_joinTokens {parts : List (List Token)} {t : Token} (member : t ∈ joinTokens parts) :
    t = .comma ∨ ∃ part ∈ parts, t ∈ part := by
  fun_induction joinTokens parts with
  | case1 => simp at member
  | case2 part => exact .inr ⟨part, List.mem_cons_self, member⟩
  | case3 part next rest ih =>
      rcases List.mem_append.mp member with front | back
      · exact .inr ⟨part, List.mem_cons_self, front⟩
      · rcases List.mem_cons.mp back with comma | later
        · exact .inl comma
        · rcases ih later with comma | ⟨part, inside, member⟩
          · exact .inl comma
          · exact .inr ⟨part, List.mem_cons_of_mem _ inside, member⟩

theorem wellFormed_string_ofText (s : String) : (Token.string (Body.ofText s)).WellFormed :=
  Body.scanString_escape (Text.bytes s)

theorem wellFormed_text (s : String) : (Doc.text s).WellFormed := by
  intro t member
  obtain rfl : t = .string (Body.ofText s) := by simpa [text, tokens] using member
  exact wellFormed_string_ofText s

theorem wellFormed_null : Doc.null.WellFormed := by
  intro t member
  obtain rfl : t = .null := by simpa [tokens] using member
  trivial

/-- An array is well-formed when its items are. -/
theorem wellFormed_array {items : List Doc} (formed : ∀ d ∈ items, d.WellFormed) :
    (Doc.array items).WellFormed := by
  intro t inside
  simp only [tokens, itemTokens_eq_map, List.cons_append, List.mem_cons, List.mem_append,
    List.not_mem_nil, or_false] at inside
  rcases inside with rfl | joined | rfl
  · trivial
  · rcases mem_joinTokens joined with rfl | ⟨part, member, inside⟩
    · trivial
    · obtain ⟨d, given, rfl⟩ := List.mem_map.mp member
      exact formed d given t inside
  · trivial

/-- What holds of marks, of written names and of the tokens of the members holds of the tokens of an
object. -/
theorem forall_mem_tokens_ofMembers {P : Token → Prop} {members : List (String × Doc)}
    (marks : P .openBrace ∧ P .colon ∧ P .comma ∧ P .closeBrace)
    (names : ∀ name, P (.string (Body.ofText name)))
    (values : ∀ member ∈ members, ∀ t ∈ member.2.tokens, P t) :
    ∀ t ∈ (ofMembers members).tokens, P t := by
  obtain ⟨open_brace, colon, comma, close_brace⟩ := marks
  intro t inside
  simp only [ofMembers, tokens, memberTokens_eq_map, List.map_map, List.cons_append,
    List.mem_cons, List.mem_append, List.not_mem_nil, or_false] at inside
  rcases inside with rfl | joined | rfl
  · exact open_brace
  · rcases mem_joinTokens joined with rfl | ⟨part, member, inside⟩
    · exact comma
    · obtain ⟨⟨name, d⟩, given, rfl⟩ := List.mem_map.mp member
      rcases List.mem_cons.mp inside with rfl | inside
      · exact names name
      · rcases List.mem_cons.mp inside with rfl | inside
        · exact colon
        · exact values _ given t inside
  · exact close_brace

/-- An object is well-formed when its members are. -/
theorem wellFormed_ofMembers {members : List (String × Doc)}
    (formed : ∀ member ∈ members, member.2.WellFormed) : (ofMembers members).WellFormed :=
  forall_mem_tokens_ofMembers ⟨trivial, trivial, trivial, trivial⟩ wellFormed_string_ofText formed

/-! ### Integers -/

private theorem toNat_ofNat_toNat {c : Char} (digit : Numeral.isDigit c = true) :
    (UInt8.ofNat c.toNat).toNat = c.toNat := by
  simp only [Numeral.isDigit, Bool.and_eq_true, decide_eq_true_eq] at digit
  have high : c.toNat ≤ 57 := digit.2
  simp only [UInt8.toNat_ofNat']
  omega

private theorem isDigit_ofNat {c : Char} (digit : Numeral.isDigit c = true) :
    isDigit (UInt8.ofNat c.toNat) = true := by
  have same := toNat_ofNat_toNat digit
  simp only [Numeral.isDigit, Bool.and_eq_true, decide_eq_true_eq] at digit
  have low : 48 ≤ c.toNat := digit.1
  have high : c.toNat ≤ 57 := digit.2
  simp only [isDigit, Bool.and_eq_true, decide_eq_true_eq, UInt8.le_iff_toNat_le, same]
  exact ⟨low, high⟩

private theorem ascii_ofNat (n : Nat) :
    Text.ascii (Numeral.ofNat n) = (Numeral.digits n).map fun c => UInt8.ofNat c.toNat := by
  simp [Text.ascii, Numeral.ofNat]

theorem wellFormed_int (n : Int) : (Doc.int n).WellFormed := by
  intro t member
  simp only [int, tokens, List.mem_singleton] at member
  subst member
  refine ⟨?_, ?_, ?_, ?_, ?_⟩
  · simpa [ascii_ofNat] using Numeral.digits_ne_nil n.natAbs
  · intro b inside
    simp only [ascii_ofNat, List.mem_map] at inside
    obtain ⟨c, digit, rfl⟩ := inside
    exact isDigit_ofNat (Numeral.isDigit_of_mem_digits digit)
  · intro rest shape
    simp only [ascii_ofNat] at shape
    by_cases zero : n.natAbs = 0
    · rw [zero, Numeral.digits] at shape
      simp_all
    · cases digits : Numeral.digits n.natAbs with
      | nil => exact absurd digits (Numeral.digits_ne_nil _)
      | cons first others =>
          rw [digits, List.map_cons, List.cons.injEq] at shape
          have digit := Numeral.isDigit_of_mem_digits (digits ▸ List.mem_cons_self)
          have code : first.toNat = 48 := by
            rw [← toNat_ofNat_toNat digit, shape.1]
            rfl
          have leading : first = '0' := Char.toNat_inj.mp code
          have front := Numeral.head?_digits_ne_zero (Nat.pos_of_ne_zero zero)
          rw [digits, leading] at front
          exact absurd rfl front
  · intro b inside
    simp at inside
  · intro e given
    simp at given

/-- An integer is read back from the number that is written for it. -/
@[simp] theorem int?_int (n : Int) : int? (int n) = some n := by
  have fold (cs : List Char) (digits : ∀ c ∈ cs, Numeral.isDigit c = true) (start : Nat) :
      (cs.map fun c => UInt8.ofNat c.toNat).foldl (fun n b => 10 * n + (b.toNat - 48)) start =
        cs.foldl (fun n c => 10 * n + Numeral.digitValue c) start := by
    induction cs generalizing start with
    | nil => rfl
    | cons c cs ih =>
        simp only [List.map_cons, List.foldl_cons,
          toNat_ofNat_toNat (digits c List.mem_cons_self)]
        exact ih (fun c member => digits c (List.mem_cons_of_mem _ member)) _
  have value := fold (Numeral.digits n.natAbs) (fun c => Numeral.isDigit_of_mem_digits) 0
  have whole := Numeral.value_digits n.natAbs
  rw [Numeral.value] at whole
  rw [whole] at value
  simp only [int, int?, ascii_ofNat, value]
  split
  · split <;> simp only [decide_eq_true_eq, Option.some.injEq] at * <;> omega
  · simp only [decide_eq_true_eq, Option.some.injEq] at *
    omega

@[simp] theorem int64?_int_toInt (n : Int64) : int64? (int n.toInt) = some n := by
  rw [int64?, int?_int, Option.bind_some, Numeral.toInt64?_toInt]

@[simp] theorem text?_text (s : String) : text? (text s) = some s :=
  Body.text?_ofText s

@[simp] theorem option?_text {α : Type} (read : Doc → Option α) (s : String) :
    option? read (text s) = (read (text s)).map some :=
  rfl

/-- A text that may be missing is missing where the document has no text. -/
theorem text?_of_option? {d : Doc} {s : Option String}
    (read : d.option? text? = some s) : d.text? = s := by
  cases d with
  | string body =>
      obtain ⟨text, found, same⟩ := Option.map_eq_some_iff.mp read
      exact found.trans same
  | null => exact Option.some.inj read
  | _ => cases read

end TokenLifecycle.Json.Doc
