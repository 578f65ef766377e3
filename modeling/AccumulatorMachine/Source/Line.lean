import AccumulatorMachine.Fault
import AccumulatorMachine.Text.Tokens

/-!
# Source lines

A line is the list of its tokens.  The first token is the command word and the
others are operands.
-/

namespace AccumulatorMachine

/-- One line of source. -/
structure Line where
  tokens : List String
  deriving DecidableEq, Repr, Inhabited

namespace Line

/-- Cut a text into the tokens of a line. -/
def ofString (s : String) : Line :=
  ⟨Text.tokens s⟩

/-- The first token, or the empty text. -/
def command (line : Line) : String :=
  line.tokens.headD ""

/-- Nothing to run: no command word, or a comment. -/
def isBlank (line : Line) : Bool :=
  match line.command.toList with
  | [] => true
  | c :: _ => c == '#'

/-- Whether the line opens a procedure definition. -/
def isHeader (line : Line) : Bool :=
  "procdef".toList.isPrefixOf line.command.toList

/-- The token at an index, which has to be there. -/
def operand (line : Line) (index : Nat) : Except Fault String :=
  match line.tokens[index]? with
  | some token => .ok token
  | none => .error (Fault.about .missingOperand line.command)

/-- All tokens from an index on, written together. -/
def operandsJoined (line : Line) (index : Nat) : Except Fault String :=
  if index < line.tokens.length then
    .ok (String.join (line.tokens.drop index))
  else .error (Fault.about .missingOperand line.command)

/-- The tokens with one space between neighbours. -/
def text (line : Line) : String :=
  " ".intercalate line.tokens

end Line

end AccumulatorMachine
