import AccumulatorMachine.Instruction.Decode
import AccumulatorMachine.Machine.Report

/-!
# The work of a cycle

A cycle fetches the line at the counter and works on the machine one register
after another.  An instruction does its own work first and says how control goes
on; then control is transferred, and at last the counter moves on.  Assignments
and written lines take effect at once, so a fault leaves the machine and the log
as the cycle has made them up to that moment.
-/

namespace AccumulatorMachine

/-- An entry of the log. -/
inductive Entry where
  | output (text : String)
  | fault (fault : Fault)
  deriving DecidableEq, Repr, Inhabited

/-- The text of a log entry. -/
def Entry.text : Entry → String
  | output text => text
  | fault cause => cause.text

/-- How a program ends without a fault. -/
inductive Ending where
  /-- The counter has passed the last line. -/
  | stopped
  /-- An `end` has taken effect. -/
  | halted
  deriving DecidableEq, Repr, Inhabited

/-- A machine at work, with everything logged so far. -/
structure Bench where
  machine : Machine
  log : Array Entry
  deriving DecidableEq, Repr

/-- Work at a bench, which may be broken off by a fault. -/
abbrev Work := Update Bench

namespace Work

variable {α : Type}

/-- Look at the machine. -/
def machine : Work Machine :=
  fun bench => .ok bench.machine bench

/-- Change the machine. -/
def assign (change : Machine → Machine) : Work Unit :=
  fun bench => .ok () { bench with machine := change bench.machine }

/-- Operate on the cells. -/
def onCells (update : Update Cells α) : Work α :=
  Update.within (fun bench => bench.machine.cells)
    (fun bench cells => { bench with machine := { bench.machine with cells } }) update

/-- Operate on the procedures. -/
def onProcedures (update : Update Procedures α) : Work α :=
  Update.within (fun bench => bench.machine.procedures)
    (fun bench procedures => { bench with machine := { bench.machine with procedures } }) update

/-- Operate on the call stack. -/
def onCalls (update : Update CallStack α) : Work α :=
  Update.within (fun bench => bench.machine.calls)
    (fun bench calls => { bench with machine := { bench.machine with calls } }) update

/-- Write lines to the log. -/
def write (lines : List String) : Work Unit :=
  fun bench => .ok () { bench with log := bench.log ++ (lines.map Entry.output).toArray }

/-- Go on with a value that has to be there. -/
def demand (value : Except Fault α) : Work α :=
  fun bench =>
    match value with
    | .ok value => .ok value bench
    | .error fault => .error fault bench

/-- Attach a line number to the fault that breaks the work off. -/
def located (number : Nat) (work : Work α) : Work α :=
  fun bench =>
    match work.run bench with
    | .ok value bench => .ok value bench
    | .error fault bench => .error (fault.atLine number) bench

end Work

/-- How control goes on after the own work of an instruction. -/
inductive Flow where
  | next
  /-- Go on, and report that the command could not give a value. -/
  | status (code : Nat)
  | jump (number : Int32)
  | call (entry : Nat)
  | back
  | halt
  deriving DecidableEq, Repr, Inhabited

namespace Cycle

open Work

/-- The value nearest to a given one in a signed word of 64 bits. -/
def saturate (value : Int) : Int :=
  max (-9223372036854775808) (min value 9223372036854775807)

/-- The own work of a conditional jump. -/
def branch (machine : Machine) (condition : Condition) (target : Option String) :
    Except Fault Flow := do
  let value ← Integer.read machine.accumulator
  if !condition.holds value then
    return .next
  else
    match target with
    | some token => return .jump (← Integer.read token)
    | none => .error (Fault.about .missingOperand (Mnemonic.branch condition).word)

/-- The own work of an instruction. -/
def dispatch (instruction : Instruction) : Work Flow := do
  let machine ← Work.machine
  match instruction with
  | .beginModule => do
      assign fun m => { m with phase := .running }
      return .next
  | .endModule => return .halt
  | .define name address => do
      onCells (Cells.bindM address name)
      return .next
  | .load operand => do
      assign fun m => { m with accumulator := machine.resolve operand }
      return .next
  | .save name => do
      assign fun m => { m with cells := m.cells.put name machine.accumulator }
      return .next
  | .arith op operand => do
      match ← demand (op.apply machine.accumulator (machine.resolve operand)) with
      | some value => do
          assign fun m => { m with accumulator := value }
          return .next
      | none => return .status 1
  | .setFlag flag => do
      assign fun m => { m with flags := m.flags.put flag true }
      return .next
  | .resetFlag flag => do
      assign fun m => { m with flags := m.flags.put flag false }
      return .next
  | .call name => return .call (← demand (machine.procedures.entry name))
  | .endProcedure => return .back
  | .jump target => return .jump target
  | .branch condition target => demand (branch machine condition target)
  | .dump => do
      write (Report.dumpLines machine)
      return .next
  | .print => do
      write [Report.accumulatorLine machine]
      return .next
  | .help => do
      write Report.helpLines
      return .next

/-- Control is transferred by the registers that a flow names. -/
def redirect (mnemonic : Mnemonic) (flow : Flow) : Work Unit := do
  let machine ← Work.machine
  match flow with
  | .next => return ()
  | .status code => write [Report.statusLine mnemonic code]
  -- One less because lines are counted from one, and one less because the
  -- counter moves on at the end of the cycle.
  | .jump number => assign fun m => { m with counter := saturate (number.toInt - 2) }
  | .call entry => do
      onCalls (BoundedStack.pushM machine.counter)
      assign fun m => { m with counter := entry }
  | .back => do
      let caller ← onCalls BoundedStack.popM
      assign fun m => { m with counter := caller }
  | .halt => assign fun m => { m with phase := .ending }

/-- Run a line by its command word. -/
def command (address : Nat) (line : Line) (begun : Bool) : Work Unit :=
  match Mnemonic.ofWord? line.command with
  | none => do
      write [Report.unidentifiedLine (address + 1) line.command]
      assign Machine.next
  | some mnemonic =>
      if !begun && mnemonic.index != 0 then
        throw (Fault.about .noBegin mnemonic.word)
      else do
        let instruction ← demand (mnemonic.decode line)
        let flow ← dispatch instruction
        redirect mnemonic flow
        assign Machine.next

/-- Register the procedure whose header stands at an address. -/
def header (address : Nat) (line : Line) : Work Unit := do
  let name ← demand (line.operand 1)
  onProcedures (Procedures.registerM name address)
  assign fun m => { m with inBody := true }
  assign Machine.next

/-- Pass over a line of a procedure body. -/
def body (line : Line) : Work Unit := do
  if Mnemonic.ofWord? line.command = some .endProcedure then
    assign fun m => { m with inBody := false }
  assign Machine.next

/-- Handle a line of the program. -/
def line (address : Nat) (line : Line) : Work (Option Ending) := do
  let machine ← Work.machine
  if line.isBlank then
    assign Machine.next
    return none
  else
    match machine.phase with
    | .ending => return some .halted
    | .running => do
        command address line true
        return none
    | .scanning => do
        if line.isHeader then
          header address line
        else if machine.inBody then
          body line
        else
          command address line false
        return none

/-- Fetch the line at an address and handle it. -/
def fetch (address : Nat) : Work (Option Ending) := do
  let machine ← Work.machine
  match machine.program.line? address with
  | some found => line address found
  | none => throw (Fault.of .internalError)

end Cycle

/-- One cycle.  It gives an ending if the program has ended. -/
def cycle : Work (Option Ending) := do
  let machine ← Work.machine
  match machine.counter with
  | .negSucc _ =>
      throw (Fault.about .undefinedLine (toString (machine.counter + 1)))
  | .ofNat address =>
      if machine.program.size ≤ address then
        return some (if machine.phase = .ending then .halted else .stopped)
      else
        Work.located (address + 1) (Cycle.fetch address)

end AccumulatorMachine
