import TokenLifecycle.Text.Base64
import TokenLifecycle.Text.Blank

/-!
# Armoured values

A value in base 64 between a line that begins and a line that ends it, with text before and after,
and possibly header lines that a blank line separates from the value.
-/

namespace TokenLifecycle.Crypto

/-- An armoured value and the label of its lines. -/
structure Pem where
  label : String
  content : Bytes

namespace Pem

/-- Splits the text at a marker. The marker is looked for character by character; where one does
not fit, the search starts over behind it. -/
def splitAt? (marker : List Char) (text : List Char) : Option (List Char × List Char) :=
  go marker [] text
where
  go : List Char → List Char → List Char → Option (List Char × List Char)
    | [], passed, text => some ((passed.drop marker.length).reverse, text)
    | _ :: _, _, [] => none
    | m :: awaited, passed, c :: text =>
      if c = m then go awaited (c :: passed) text else go marker (c :: passed) text

/-- The text without leading spaces, tabs and line ends. -/
def skipSpace (cs : List Char) : List Char :=
  cs.dropWhile fun c => c = ' ' ∨ c = '\t' ∨ c = '\n' ∨ c = '\x0d'

/-- The lines of a text. A line end at the end of the text begins no further line. -/
def lines (cs : List Char) : List (List Char) :=
  match cs.splitOn '\n' with
  | [] => []
  | parts => if parts.getLast? = some [] then parts.dropLast else parts

/-- Splits a body at the first blank line into headers and data. -/
def splitHeaders (body : List Char) : List Char × List Char :=
  match splitAt? ['\n', '\n'] body with
  | some split => split
  | none => (splitAt? ['\x0d', '\n', '\x0d', '\n'] body).getD ([], body)

/-- The first armoured value in a text. -/
def ofText? (text : String) : Option Pem := do
  let (_, rest) ← splitAt? "-----BEGIN ".toList text.toList
  let (label, rest) ← splitAt? "-----".toList rest
  let (body, rest) ← splitAt? "-----END ".toList (skipSpace rest)
  let (closing, _) ← splitAt? "-----".toList rest
  if label.isEmpty ∨ label ≠ closing then none
  let (headers, data) := splitHeaders body
  let digits := data.filter fun c => !Text.isBlank c
  let content ← Text.Base64.decodePadded? Text.Base64.standard (Text.bytes (String.ofList digits))
  if (lines headers).all (·.contains ':') then some ⟨String.ofList label, content⟩ else none

end Pem

end TokenLifecycle.Crypto
