import AccumulatorMachine.Fault
import AccumulatorMachine.Text.Alphanumeric

/-!
# Address expressions

An address is written as a base and an offset, such as `&vars+20`, and may stand
inside other text.  Only the offset counts.  Of several expressions in one text
the rightmost wins.
-/

namespace AccumulatorMachine.Address

/-- The digits of the offset, if the characters directly after an ampersand are
a base, a plus sign and at least one digit. -/
def offsetDigits (s : List Char) : Option (List Char) :=
  match s.takeWhile Text.isWordChar, s.dropWhile Text.isWordChar with
  | _ :: _, '+' :: rest =>
      match rest.takeWhile Char.isDigit with
      | [] => none
      | digits => some digits
  | _, _ => none

/-- The offset digits of the rightmost expression in a text. -/
def lastOffset : List Char → Option (List Char)
  | [] => none
  | c :: rest =>
      match lastOffset rest with
      | some digits => some digits
      | none => if c = '&' then offsetDigits rest else none

/-- The offset of the rightmost expression in a text, as a word. -/
def read (s : String) : Except Fault Int32 :=
  match lastOffset s.toList with
  | none => .error (Fault.about .badAddress s)
  | some digits =>
      let offset := Nat.ofDigitChars 10 digits 0
      if offset ≤ 2147483647 then .ok (Int32.ofNat offset)
      else .error (Fault.about .overflow s)

end AccumulatorMachine.Address
