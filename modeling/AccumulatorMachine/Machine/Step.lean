import AccumulatorMachine.Machine.Cycle

/-!
# One step of a machine

What a cycle does, as a function of the machine.  A step handles the line at the
counter: it fails with a fault, finds that the program has ended, or gives the
next state of the machine and the lines it writes.  Only the third outcome
carries a machine.  That a cycle indeed leaves everything alone in the other two
is shown in the theory of cycles.
-/

namespace AccumulatorMachine

/-- The outcome of a step that does not fail. -/
inductive Transition where
  | finish (ending : Ending)
  | advance (next : Machine) (lines : List String)
  deriving DecidableEq, Repr

namespace Transition

/-- A step that writes nothing. -/
def silent (next : Machine) : Transition :=
  .advance next []

end Transition

namespace Machine

/-- Go on with the following line and a new accumulator. -/
def accumulate (machine : Machine) (value : String) : Machine :=
  { machine.next with accumulator := value }

/-- A jump that is taken only if the accumulator meets a condition.  The
accumulator has to be a number in any case, the target only if the jump is
taken. -/
def branch (machine : Machine) (condition : Condition) (target : Option String) :
    Except Fault Machine := do
  let value ← Integer.read machine.accumulator
  if condition.holds value then
    match target with
    | some token => return machine.goto (← Integer.read token)
    | none => .error (Fault.about .missingOperand (Mnemonic.branch condition).word)
  else
    return machine.next

/-- Enter a procedure behind its header. -/
def call (machine : Machine) (name : String) : Except Fault Machine := do
  let entry ← machine.procedures.entry name
  let calls ← machine.calls.push machine.counter
  return { machine with calls, counter := entry + 1 }

/-- Go on behind the last call that has not returned. -/
def endProcedure (machine : Machine) : Except Fault Machine := do
  let (caller, calls) ← machine.calls.pop
  return { machine with calls, counter := caller + 1 }

/-- Run an instruction. -/
def perform (machine : Machine) : Instruction → Except Fault Transition
  | .beginModule => .ok (.silent { machine.next with phase := .running })
  | .endModule => .ok (.silent { machine.next with phase := .ending })
  | .define name address => do
      let cells ← machine.cells.bind address name
      return .silent { machine.next with cells }
  | .load operand => .ok (.silent (machine.accumulate (machine.resolve operand)))
  | .save name =>
      .ok (.silent { machine.next with cells := machine.cells.put name machine.accumulator })
  | .arith op operand => do
      match ← op.apply machine.accumulator (machine.resolve operand) with
      | some value => return .silent (machine.accumulate value)
      | none => return .advance machine.next [Report.statusLine (.arith op) 1]
  | .setFlag flag => .ok (.silent { machine.next with flags := machine.flags.put flag true })
  | .resetFlag flag => .ok (.silent { machine.next with flags := machine.flags.put flag false })
  | .call name => return .silent (← machine.call name)
  | .endProcedure => return .silent (← machine.endProcedure)
  | .jump target => .ok (.silent (machine.goto target))
  | .branch condition target => return .silent (← machine.branch condition target)
  | .dump => .ok (.advance machine.next (Report.dumpLines machine))
  | .print => .ok (.advance machine.next [Report.accumulatorLine machine])
  | .help => .ok (.advance machine.next Report.helpLines)

/-- Register the procedure whose header stands at an address, and skip its
body. -/
def openProcedure (machine : Machine) (address : Nat) (line : Line) :
    Except Fault Machine := do
  let name ← line.operand 1
  let procedures ← machine.procedures.register name address
  return { machine.next with procedures, inBody := true }

/-- Skip a line of a procedure body; `endproc` closes the body. -/
def skipBody (machine : Machine) (line : Line) : Machine :=
  { machine.next with inBody := line.command != Mnemonic.endProcedure.word }

/-- Run a line by its command word.  Unknown words are reported and skipped.
`admitted` says which commands may run. -/
def runLine (machine : Machine) (address : Nat) (line : Line)
    (admitted : Mnemonic → Bool) : Except Fault Transition :=
  match Mnemonic.ofWord? line.command with
  | none =>
      .ok (.advance machine.next [Report.unidentifiedLine (address + 1) line.command])
  | some mnemonic =>
      if admitted mnemonic then do
        machine.perform (← mnemonic.decode line)
      else .error (Fault.about .noBegin mnemonic.word)

/-- Handle a line that is not blank. -/
def handleLine (machine : Machine) (address : Nat) (line : Line) :
    Except Fault Transition :=
  match machine.phase with
  | .ending => .ok (.finish .halted)
  | .running => machine.runLine address line fun _ => true
  | .scanning =>
      if line.isHeader then return .silent (← machine.openProcedure address line)
      else if machine.inBody then .ok (.silent (machine.skipBody line))
      else machine.runLine address line fun mnemonic => mnemonic == .beginModule

/-- Handle the line at the counter.  Faults of the line carry its number. -/
def step (machine : Machine) : Except Fault Transition :=
  match machine.counter with
  | .negSucc _ =>
      .error (Fault.about .undefinedLine (toString (machine.counter + 1)))
  | .ofNat address =>
      match machine.program.line? address with
      | none => .ok (.finish (if machine.phase = .ending then .halted else .stopped))
      | some line =>
          if line.isBlank then .ok (.silent machine.next)
          else (machine.handleLine address line).mapError (·.atLine (address + 1))

end Machine

end AccumulatorMachine
