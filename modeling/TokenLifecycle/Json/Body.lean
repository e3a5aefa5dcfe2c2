import TokenLifecycle.Json.Token

/-!
# Bodies of JSON strings

The written form between the quotes, and the text it stands for.
-/

namespace TokenLifecycle.Json.Body

/-- The digit of a number below sixteen, in lower case. -/
def hexDigit (n : Nat) : UInt8 :=
  UInt8.ofNat (if n < 10 then 48 + n else 87 + n)

/-- The written form of one byte: quotes, backslashes and control characters are escaped. -/
def escapeByte (b : UInt8) : Bytes :=
  if b = 34 then [92, 34]
  else if b = 92 then [92, 92]
  else if b = 8 then [92, 98]
  else if b = 9 then [92, 116]
  else if b = 10 then [92, 110]
  else if b = 12 then [92, 102]
  else if b = 13 then [92, 114]
  else if b < 32 then
    [92, 117, 48, 48, hexDigit (b.toNat / 16), hexDigit (b.toNat % 16)]
  else [b]

/-- The written form of a string of bytes. -/
def escape (bs : Bytes) : Bytes :=
  bs.flatMap escapeByte

/-- The UTF-8 bytes of a code point below `0x110000`. -/
def encodePoint (n : Nat) : Bytes :=
  if n < 0x80 then [UInt8.ofNat n]
  else if n < 0x800 then [UInt8.ofNat (0xC0 + n / 64), UInt8.ofNat (0x80 + n % 64)]
  else if n < 0x10000 then
    [UInt8.ofNat (0xE0 + n / 4096), UInt8.ofNat (0x80 + n / 64 % 64), UInt8.ofNat (0x80 + n % 64)]
  else
    [UInt8.ofNat (0xF0 + n / 262144), UInt8.ofNat (0x80 + n / 4096 % 64),
      UInt8.ofNat (0x80 + n / 64 % 64), UInt8.ofNat (0x80 + n % 64)]

/-- What becomes of a body that is read as a text. -/
inductive Reading
  /-- The bytes it stands for. -/
  | bytes (bs : Bytes)
  /-- An unpaired surrogate, found when all of the body had been read. -/
  | faultAtEnd
  /-- An unpaired surrogate with more of the body behind it. -/
  | faultInside
  deriving DecidableEq, Repr

/-- The same reading with bytes put before it. -/
def Reading.after (front : Bytes) : Reading → Reading
  | .bytes bs => .bytes (front ++ bs)
  | r => r

/-- Resolves the escapes of a well-formed body. A leading surrogate needs a trailing one right
behind it. A leading surrogate that ends the body is noticed at the closing quote; every other
unpaired surrogate is noticed inside the string. -/
def read : Bytes → Reading
  | [] => .bytes []
  | 92 :: 117 :: a :: b :: c :: d :: rest =>
    match hexQuad? a b c d with
    | none => .faultInside
    | some n =>
      if 0xDC00 ≤ n ∧ n ≤ 0xDFFF then .faultInside
      else if 0xD800 ≤ n ∧ n ≤ 0xDBFF then
        match rest with
        | [] => .faultAtEnd
        | 92 :: 117 :: a' :: b' :: c' :: d' :: rest =>
          match hexQuad? a' b' c' d' with
          | none => .faultInside
          | some m =>
            if 0xDC00 ≤ m ∧ m ≤ 0xDFFF then
              (read rest).after (encodePoint (0x10000 + (n - 0xD800) * 1024 + (m - 0xDC00)))
            else .faultInside
        | _ => .faultInside
      else (read rest).after (encodePoint n)
  | 92 :: e :: rest =>
    match simpleEscape? e with
    | none => .faultInside
    | some b => (read rest).after [b]
  | b :: rest => (read rest).after [b]

/-- The text that a body stands for. -/
def text? (body : Bytes) : Option String :=
  match read body with
  | .bytes bs => Text.ofBytes? bs
  | _ => none

/-- The body that is written for a text. -/
def ofText (s : String) : Bytes :=
  escape (Text.bytes s)

end TokenLifecycle.Json.Body
