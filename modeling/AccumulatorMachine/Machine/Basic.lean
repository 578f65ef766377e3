import AccumulatorMachine.Source.Program
import AccumulatorMachine.Store.BoundedStack
import AccumulatorMachine.Store.Cells
import AccumulatorMachine.Store.Flags
import AccumulatorMachine.Store.Procedures

/-!
# The machine

The state of an accumulator machine with a program.  A machine starts by
scanning its program for procedure headers, runs once `begin` is reached, and
stops at the next line to be run after `end`.
-/

namespace AccumulatorMachine

/-- How far a run has come. -/
inductive Phase where
  /-- `begin` has not been reached. -/
  | scanning
  /-- Lines are run. -/
  | running
  /-- `end` has been run, and the next line to be run ends the program. -/
  | ending
  deriving DecidableEq, Repr, Inhabited

/-- The addresses of the calls that have not returned. -/
abbrev CallStack := BoundedStack Int .returnWithoutCall

/-- The state of a machine. -/
structure Machine where
  /-- The program, to which lines can be added at any time. -/
  program : Program
  /-- The address of the next line; a jump may make it negative. -/
  counter : Int
  /-- What the accumulator holds after a load. -/
  initialAccumulator : String
  accumulator : String
  flags : Flags
  phase : Phase
  /-- The scan has met a procedure header whose `endproc` it has not met yet. -/
  inBody : Bool
  cells : Cells
  procedures : Procedures
  calls : CallStack
  /-- A break has been asked for and not yet been noticed. -/
  interrupted : Bool
  deriving DecidableEq, Repr

namespace Machine

/-- A machine that is about to run a program from its first line. -/
def start (accumulator : String) (program : Program) : Machine where
  program := program
  counter := 0
  initialAccumulator := accumulator
  accumulator := accumulator
  flags := Flags.clear
  phase := .scanning
  inBody := false
  cells := Cells.empty
  procedures := Procedures.empty
  calls := BoundedStack.empty
  interrupted := false

/-- A machine without a program. -/
def withAccumulator (accumulator : String) : Machine :=
  start accumulator Program.empty

/-- A machine without a program and with an empty accumulator. -/
def new : Machine := withAccumulator ""

instance : Inhabited Machine := ⟨new⟩

/-- Replace the program and reset every register for a fresh run. -/
def load (machine : Machine) (program : Program) : Machine :=
  { machine with
    program
    counter := 0
    accumulator := machine.initialAccumulator
    flags := Flags.clear
    phase := .scanning
    inBody := false
    cells := Cells.empty
    procedures := Procedures.empty
    calls := BoundedStack.empty
    interrupted := false }

/-- A load forgets everything but the initial accumulator. -/
theorem load_eq_start (machine : Machine) (program : Program) :
    machine.load program = start machine.initialAccumulator program := rfl

/-- Append a line of source to the program. -/
def enterM (s : String) : Update Machine Unit :=
  Update.within Machine.program (fun machine program => { machine with program })
    (Program.enterM s)

/-- The machine with a line more, unless the line is refused. -/
def enter (machine : Machine) (s : String) : Except Fault Machine :=
  ((enterM s).attempt machine).map Prod.snd

/-- A line that is refused leaves the machine as it is. -/
theorem atomic_enterM (s : String) : (enterM s).Atomic :=
  (Program.atomic_enterM s).within fun _ => rfl

theorem enter_eq (machine : Machine) (s : String) :
    machine.enter s =
      (machine.program.enter s).map fun program => { machine with program } := by
  unfold enter enterM Program.enter
  rw [Update.attempt_within]
  cases (Program.enterM s).attempt machine.program <;> rfl

theorem enter_of_fits {s : String} (fits : s.utf8ByteSize ≤ Program.lineBuffer)
    (machine : Machine) :
    machine.enter s =
      .ok { machine with program := machine.program.push (Line.ofString s) } := by
  rw [enter_eq, Program.enter_of_fits fits]
  rfl

theorem enter_of_long {s : String} (long : Program.lineBuffer < s.utf8ByteSize)
    (machine : Machine) :
    machine.enter s =
      .error ((Fault.of .lineBufferOverflow).atLine (machine.program.size + 1)) := by
  rw [enter_eq, Program.enter_of_long long]
  rfl

/-- Nothing but the program is changed by a line that is entered. -/
theorem eq_of_enter {machine entered : Machine} {s : String}
    (accepted : machine.enter s = .ok entered) :
    entered = { machine with program := machine.program.push (Line.ofString s) } := by
  by_cases fits : s.utf8ByteSize ≤ Program.lineBuffer
  · rw [enter_of_fits fits] at accepted
    exact (Except.ok.inj accepted).symm
  · rw [enter_of_long (Nat.lt_of_not_le fits)] at accepted
    cases accepted

theorem enterM_of_accepted {machine entered : Machine} {s : String}
    (accepted : machine.enter s = .ok entered) : (enterM s).run machine = .ok () entered :=
  Update.run_of_attempt_ok accepted

theorem enterM_of_refused {machine : Machine} {s : String} {fault : Fault}
    (refused : machine.enter s = .error fault) :
    (enterM s).run machine = .error fault machine :=
  (atomic_enterM s).run_of_attempt_error refused

/-- Ask for a break. -/
def interrupt (machine : Machine) : Machine :=
  { machine with interrupted := true }

/-- What an operand stands for: the value of the cell with that name, unless
there is none or string mode is on. -/
def resolve (machine : Machine) (token : String) : String :=
  if machine.flags.stringMode then token
  else (machine.cells.get? token).getD token

/-- Go on to the following line. -/
def next (machine : Machine) : Machine :=
  { machine with counter := machine.counter + 1 }

/-- Go on to a line given by its number. -/
def goto (machine : Machine) (number : Int32) : Machine :=
  { machine with counter := number.toInt - 1 }

end Machine

end AccumulatorMachine
