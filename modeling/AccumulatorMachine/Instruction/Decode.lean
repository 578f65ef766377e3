import AccumulatorMachine.Instruction.Address
import AccumulatorMachine.Instruction.Basic
import AccumulatorMachine.Source.Line

/-!
# Decoding

The command word of a line has been found in the table; here its operands are
checked and read.  Operands that a command does not use are ignored.
-/

namespace AccumulatorMachine

namespace Line

/-- The first operand as a word. -/
def wordOperand (line : Line) : Except Fault Int32 := do
  Integer.read (← line.operand 1)

/-- The first operand as the number of a flag. -/
def flagOperand (line : Line) : Except Fault Flag := do
  Flag.ofIndex (← line.wordOperand)

end Line

/-- Read the operands of a line for a command. -/
def Mnemonic.decode (mnemonic : Mnemonic) (line : Line) : Except Fault Instruction :=
  match mnemonic with
  | beginModule => .ok .beginModule
  | endModule => .ok .endModule
  | define => do
      let name ← line.operand 1
      let address ← Address.read (← line.operandsJoined 2)
      return .define name address
  | load => return .load (← line.operand 1)
  | save => return .save (← line.operand 1)
  | arith op => return .arith op (← line.operand 1)
  | setFlag => return .setFlag (← line.flagOperand)
  | resetFlag => return .resetFlag (← line.flagOperand)
  | call => return .call (← line.operand 1)
  | endProcedure => .ok .endProcedure
  | jump => return .jump (← line.wordOperand)
  | branch condition => .ok (.branch condition line.tokens[1]?)
  | dump => .ok .dump
  | print => .ok .print
  | help => .ok .help

/-- Decoding keeps the command. -/
theorem Mnemonic.mnemonic_of_decode {mnemonic : Mnemonic} {line : Line}
    {instruction : Instruction} (decoded : mnemonic.decode line = .ok instruction) :
    instruction.mnemonic = mnemonic := by
  cases mnemonic with
  | define =>
      obtain ⟨name, _, rest⟩ := bind_eq_ok_iff.mp decoded
      obtain ⟨joined, _, rest⟩ := bind_eq_ok_iff.mp rest
      obtain ⟨address, _, rest⟩ := bind_eq_ok_iff.mp rest
      cases rest
      rfl
  | load | save | arith | call | setFlag | resetFlag | jump =>
      obtain ⟨operand, _, rest⟩ := bind_eq_ok_iff.mp decoded
      cases rest
      rfl
  | _ =>
      cases decoded
      rfl

/-- The instruction on a line, if its command word is in the table. -/
def Line.instruction? (line : Line) : Option (Except Fault Instruction) :=
  (Mnemonic.ofWord? line.command).map fun mnemonic => mnemonic.decode line

end AccumulatorMachine
