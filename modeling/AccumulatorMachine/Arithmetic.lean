import AccumulatorMachine.Fault
import AccumulatorMachine.Text.Blank

/-!
# Arithmetic on texts

The accumulator and all cells hold text.  A text counts as a number when, apart
from surrounding blanks, it is an optional sign followed by decimal digits and
its value fits in a signed word of 32 bits.  Sums, differences and products wrap
around; quotients are truncated toward zero.
-/

namespace AccumulatorMachine

/-- Whether a value fits in a signed word of 32 bits. -/
def fitsWord (value : Int) : Bool :=
  decide (-2147483648 ≤ value ∧ value ≤ 2147483647)

/-- The decimal text of a word. -/
def wordText (word : Int32) : String :=
  toString word.toInt

/-- A text between quotation marks. -/
def quoted (s : String) : String :=
  "\"" ++ s ++ "\""

namespace Integer

/-- Continue reading digits from the left, where `value` has been read so far.
The first character that is not a digit, or that takes the value out of the
word range, decides the kind of the fault. -/
def readDigits (negative : Bool) (value : Int) : List Char → Except Fault.Kind Int
  | [] => .ok value
  | c :: rest =>
      if c.isDigit then
        let digit : Int := c.toNat - '0'.toNat
        let next := if negative then 10 * value - digit else 10 * value + digit
        if fitsWord next then readDigits negative next rest
        else .error .overflow
      else .error .typeMismatch

/-- At least one digit has to follow the sign. -/
def readMagnitude (negative : Bool) (digits : List Char) : Except Fault.Kind Int :=
  if digits.isEmpty then .error .typeMismatch
  else readDigits negative 0 digits

/-- Read an optional sign and the digits after it. -/
def readSigned : List Char → Except Fault.Kind Int
  | '-' :: digits => readMagnitude true digits
  | '+' :: digits => readMagnitude false digits
  | digits => readMagnitude false digits

/-- Read a text as a word.  A fault quotes the whole text, blanks included. -/
def read (s : String) : Except Fault Int32 :=
  match readSigned (Text.trim s.toList) with
  | .ok value => .ok (Int32.ofInt value)
  | .error kind => .error (Fault.about kind (quoted s))

end Integer

/-- The operations that combine the accumulator with an operand. -/
inductive ArithOp where
  | add
  | sub
  | mul
  | div
  | cmp
  deriving DecidableEq, Repr, Inhabited

namespace ArithOp

/-- The sign of a comparison as a word. -/
def sign (lhs rhs : Int32) : Int32 :=
  if lhs < rhs then -1 else if lhs = rhs then 0 else 1

/-- A quotient truncated toward zero.  The least word divided by minus one has
no quotient in range. -/
def quotient (lhs rhs : Int32) : Except Fault Int32 :=
  if lhs = Int32.minValue ∧ rhs = -1 then .error (Fault.of .overflow)
  else .ok (lhs / rhs)

/-- Combine two texts.  There is no value exactly for a division by zero.  The
divisor is looked at before the dividend; everywhere else the left text is read
first. -/
def apply (op : ArithOp) (lhs rhs : String) : Except Fault (Option String) :=
  match op with
  | add => do
      let l ← Integer.read lhs
      let r ← Integer.read rhs
      return some (wordText (l + r))
  | sub => do
      let l ← Integer.read lhs
      let r ← Integer.read rhs
      return some (wordText (l - r))
  | mul => do
      let l ← Integer.read lhs
      let r ← Integer.read rhs
      return some (wordText (l * r))
  | cmp => do
      let l ← Integer.read lhs
      let r ← Integer.read rhs
      return some (wordText (sign l r))
  | div => do
      let r ← Integer.read rhs
      if r = 0 then
        return none
      else
        let l ← Integer.read lhs
        let q ← quotient l r
        return some (wordText q)

end ArithOp

end AccumulatorMachine
