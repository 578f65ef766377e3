import AccumulatorMachine.Machine.Cycle

/-!
# Runs of a machine

A run is a sequence of cycles.  It is cut into slices with a budget of cycles,
because a break is noticed only at the beginning of a slice.  Everything that is
written goes to a log, and the fault that ends a run is the last entry of its
log.
-/

namespace AccumulatorMachine

/-- How a slice ends without a fault. -/
inductive Event where
  /-- The budget is spent and the program has not ended. -/
  | running
  | ended (ending : Ending)
  deriving DecidableEq, Repr, Inhabited

/-- What a run leaves: the machine, all that was logged, and how it ended. -/
structure Outcome where
  machine : Machine
  log : Array Entry
  result : Except Fault Event

namespace Outcome

/-- A run that ends with a fault logs the fault. -/
def failed (machine : Machine) (log : Array Entry) (fault : Fault) : Outcome :=
  ⟨machine, log.push (.fault fault), .error fault⟩

end Outcome

namespace Machine

/-- The fault of a break at the current line. -/
def breakFault (machine : Machine) : Fault :=
  match machine.counter with
  | .ofNat address => (Fault.of .interrupted).atLine (address + 1)
  | .negSucc _ => Fault.of .interrupted

/-- Work in cycles until the budget is spent, adding to a log. -/
def steps (machine : Machine) (log : Array Entry) : Nat → Outcome
  | 0 => ⟨machine, log, .ok .running⟩
  | cycles + 1 =>
      match cycle.run ⟨machine, log⟩ with
      | .error fault bench => .failed bench.machine bench.log fault
      | .ok (some ending) bench => ⟨bench.machine, bench.log, .ok (.ended ending)⟩
      | .ok none bench => bench.machine.steps bench.log cycles

/-- Run a slice, adding to a log.  A break that has been asked for ends the
slice before its first cycle, whatever the budget. -/
def slice (machine : Machine) (log : Array Entry) (cycles : Nat) : Outcome :=
  if machine.interrupted then
    .failed { machine with interrupted := false } log machine.breakFault
  else machine.steps log cycles

/-- Run a slice with a budget of cycles. -/
def execute (machine : Machine) (cycles : Nat) : Outcome :=
  machine.slice #[] cycles

/-- The budget of a slice in a run to the end. -/
def sliceCycles : Nat := 5000

/-- Run slices until the program ends or fails, adding to a log, and at most a
number of them. -/
def runFrom (machine : Machine) (log : Array Entry) : Nat → Outcome
  | 0 => ⟨machine, log, .ok .running⟩
  | remaining + 1 =>
      let outcome := machine.slice log sliceCycles
      match outcome.result with
      | .ok .running => outcome.machine.runFrom outcome.log remaining
      | _ => outcome

/-- Run to the end, with a bound on the slices. -/
def run (machine : Machine) (bound : Nat) : Outcome :=
  machine.runFrom #[] bound

end Machine

end AccumulatorMachine
