import TokenLifecycle.Text.Invisible

/-!
# Quoted texts

A text between double quotes, with escapes for quotes, backslashes, and characters that are not
visible on their own: controls, blanks other than the space, marks that combine with the character
before them, and characters that only govern the layout.
-/

namespace TokenLifecycle.Text

/-- The spelling of a character between quotes. -/
def quoteChar (c : Char) : List Char :=
  match c with
  | '\x00' => ['\\', '0']
  | '\t' => ['\\', 't']
  | '\n' => ['\\', 'n']
  | '\x0d' => ['\\', 'r']
  | '"' => ['\\', '"']
  | '\\' => ['\\', '\\']
  | c =>
    if isInvisible c then
      ['\\', 'u', '\x7b'] ++ Nat.toDigits 16 c.toNat ++ ['\x7d']
    else [c]

/-- A text between quotes. -/
def quoted (s : String) : String :=
  String.ofList ('"' :: s.toList.flatMap quoteChar ++ ['"'])

/-- A path between quotes. Apostrophes are escaped too. -/
def quotedPath (s : String) : String :=
  let spell (c : Char) : List Char := if c = '\'' then ['\\', '\''] else quoteChar c
  String.ofList ('"' :: s.toList.flatMap spell ++ ['"'])

end TokenLifecycle.Text
