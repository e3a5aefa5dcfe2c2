import TokenLifecycle.Text.Category

/-!
# Letters and digits

The characters that belong to an alphabet, and those that do or stand for a number.
-/

namespace TokenLifecycle.Text

/-- The character belongs to an alphabet. -/
def isAlphabetic (c : Char) : Bool :=
  if c.toNat < 128 then c.isAlpha
  else isWithin letterRanges c || isWithin letterMarkRanges c

/-- The character stands for a number or a part of one. -/
def isNumeric (c : Char) : Bool :=
  isWithin decimalDigitRanges c || isWithin otherNumberRanges c

/-- The character is a letter or a digit. -/
def isAlphanumeric (c : Char) : Bool :=
  if c.toNat < 128 then c.isAlphanum else isAlphabetic c || isNumeric c

end TokenLifecycle.Text
