import AccumulatorMachine.Text.Ranges

/-!
# Blank characters

Tokens are separated, and integers are surrounded, by the characters with the
Unicode property White_Space.  The property has twenty-five members.
-/

namespace AccumulatorMachine.Text

/-- The characters with the property White_Space. -/
def blankRanges : List (Nat × Nat) :=
  [(0x09, 0x0D), (0x20, 0x20), (0x85, 0x85), (0xA0, 0xA0),
    (0x1680, 0x1680), (0x2000, 0x200A), (0x2028, 0x2029),
    (0x202F, 0x202F), (0x205F, 0x205F), (0x3000, 0x3000)]

/-- Whether a character separates tokens. -/
def isBlank (c : Char) : Bool :=
  inRanges blankRanges c.toNat

/-- Drop the blank characters at both ends. -/
def trim (s : List Char) : List Char :=
  ((s.dropWhile isBlank).reverse.dropWhile isBlank).reverse

theorem ascendingFrom_blankRanges : ascendingFrom 0 blankRanges = true := by
  decide

example : countRanges blankRanges = 25 := by
  decide

end AccumulatorMachine.Text
