import TokenLifecycle.Json.Doc

/-!
# JSON in ASCII

The text of a document for channels of seven bits: every character beyond ASCII is written as an
escape, or as two where it lies beyond sixteen bits.
-/

namespace TokenLifecycle.Json.Doc

/-- The escape of a number below `2 ^ 16`. -/
def escapeUnit (n : Nat) : Bytes :=
  [92, 117, Body.hexDigit (n / 4096 % 16), Body.hexDigit (n / 256 % 16),
    Body.hexDigit (n / 16 % 16), Body.hexDigit (n % 16)]

/-- A code point in ASCII. -/
def escapePoint (n : Nat) : Bytes :=
  if n < 128 then [UInt8.ofNat n]
  else if n < 0x10000 then escapeUnit n
  else
    escapeUnit (0xD800 + (n - 0x10000) / 1024) ++ escapeUnit (0xDC00 + (n - 0x10000) % 1024)

/-- The text of a document in ASCII; nothing when a string in it is no text. -/
def ascii? (d : Doc) : Option String :=
  (Text.ofBytes? d.bytes).map fun s =>
    String.ofList ((s.toList.flatMap fun c => escapePoint c.toNat).map fun b => Char.ofNat b.toNat)

end TokenLifecycle.Json.Doc
