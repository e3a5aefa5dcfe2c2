import TokenLifecycle.Text.Base64
import TokenLifecycle.Token.Header

/-!
# The compact form of tokens

A token is a header, a payload and a signature, each in base 64, with points between them. The
signature covers the first two parts as they are written.
-/

namespace TokenLifecycle.Compact

open Json (Doc)

/-- The point between the parts. -/
def point : UInt8 := 46

/-- A part as it is written. -/
def part (bs : Bytes) : Bytes :=
  Text.Base64.encode Text.Base64.address bs

/-- The bytes that a part stands for. -/
def content? (part : Bytes) : Option Bytes :=
  Text.Base64.decode? Text.Base64.address part

/-- What a signature covers: the header and the payload. -/
def message (h : Header) (payload : Doc) : Bytes :=
  part h.doc.bytes ++ point :: part payload.bytes

/-- A message with its signature as a text. -/
def text (message signature : Bytes) : String :=
  String.ofList ((message ++ point :: part signature).map fun b => Char.ofNat b.toNat)

/-- Splits at the last point. -/
def splitLast? (bs : Bytes) : Option (Bytes × Bytes) :=
  let last := (bs.reverse.takeWhile (· ≠ point)).reverse
  if point ∈ bs then some (bs.take (bs.length - last.length - 1), last) else none

/-- A token in its parts. -/
structure Parts where
  header : Bytes
  payload : Bytes
  signature : Bytes
  deriving DecidableEq, Repr

/-- The message that the signature of the parts covers. -/
def Parts.message (p : Parts) : Bytes :=
  p.header ++ point :: p.payload

/-- The parts of a token: the last two points separate them. -/
def parts? (token : String) : Option Parts := do
  let (message, signature) ← splitLast? (Text.bytes token)
  let (header, payload) ← splitLast? message
  return ⟨header, payload, signature⟩

end TokenLifecycle.Compact
