import AccumulatorMachine.Instruction.Mnemonic
import AccumulatorMachine.Store.Flags

/-!
# Instructions

A command together with its operands.  An operand that may name a cell is kept
as it is written, because string mode decides only at run time what it stands
for.  The target of a conditional jump is kept as text, because it is read only
when the jump is taken.
-/

namespace AccumulatorMachine

/-- The instructions of the machine. -/
inductive Instruction where
  | beginModule
  | endModule
  | define (name : String) (address : Int32)
  | load (operand : String)
  | save (name : String)
  | arith (op : ArithOp) (operand : String)
  | setFlag (flag : Flag)
  | resetFlag (flag : Flag)
  | call (name : String)
  | endProcedure
  | jump (target : Int32)
  | branch (condition : Condition) (target : Option String)
  | dump
  | print
  | help
  deriving DecidableEq, Repr, Inhabited

namespace Instruction

/-- The command of an instruction. -/
def mnemonic : Instruction → Mnemonic
  | beginModule => .beginModule
  | endModule => .endModule
  | define _ _ => .define
  | load _ => .load
  | save _ => .save
  | arith op _ => .arith op
  | setFlag _ => .setFlag
  | resetFlag _ => .resetFlag
  | call _ => .call
  | endProcedure => .endProcedure
  | jump _ => .jump
  | branch condition _ => .branch condition
  | dump => .dump
  | print => .print
  | help => .help

/-- The operands of an instruction between parentheses, if its command has
any. -/
def operandText : Instruction → String
  | define name address => "(" ++ name ++ ", &" ++ wordText address ++ ")"
  | load operand => "(" ++ operand ++ ")"
  | save name => "(" ++ name ++ ")"
  | arith _ operand => "(" ++ operand ++ ")"
  | setFlag flag => "(" ++ flag.name ++ ")"
  | resetFlag flag => "(" ++ flag.name ++ ")"
  | call name => "(" ++ name ++ ")"
  | jump target => "(" ++ wordText target ++ ")"
  | branch _ target => "(" ++ target.getD "" ++ ")"
  | beginModule | endModule | endProcedure | dump | print | help => ""

/-- An instruction in listings: the word in capital letters and the operands,
such as `DEF(x, &4)`. -/
def text (instruction : Instruction) : String :=
  instruction.mnemonic.word.map Char.toUpper ++ instruction.operandText

end Instruction

end AccumulatorMachine
