import AccumulatorMachine.Proofs.Schedules

/-!
# Requests

Everything that can be asked of a machine from outside: a program is loaded, a
line is entered, a break is asked for, a slice is executed, or the program is run
to its end.  A machine is reachable if some sequence of requests leads to it.

A request other than a load acts in three elementary ways only: it appends a line
to the program, it raises or drops the break request, or it makes steps.  So a
property that these three preserve is preserved by every sequence of requests, as
long as the property holds whenever a program has been loaded.
-/

namespace AccumulatorMachine

inductive Request where
  | load (program : Program)
  | enter (s : String)
  | interrupt
  | execute (cycles : Nat)
  /-- Run to the end, with at most `further` slices after the first one. -/
  | run (further : Nat)
  deriving DecidableEq, Repr

/-- What a request leads to.  A load and a break request log nothing and never
fail. -/
def Request.outcome (machine : Machine) : Request → Outcome
  | load program => ⟨machine.load program, #[], .ok .running⟩
  | enter s => (Call.enter s).outcome machine
  | interrupt => ⟨machine.interrupt, #[], .ok .running⟩
  | execute cycles => machine.execute cycles
  | run further => machine.run (further + 1)

namespace Machine

/-- The machine after requests, whether they fail or not. -/
def afterRequests (machine : Machine) (requests : List Request) : Machine :=
  requests.foldl (fun current request => (request.outcome current).machine) machine

theorem afterRequests_cons (machine : Machine) (request : Request)
    (requests : List Request) :
    machine.afterRequests (request :: requests) =
      (request.outcome machine).machine.afterRequests requests := rfl

/-- Requests lead from a machine without a program to this one. -/
def Reachable (machine : Machine) : Prop :=
  ∃ accumulator requests, machine = (withAccumulator accumulator).afterRequests requests

/-- An entered line is appended to the program, and a refused one changes
nothing. -/
theorem enter_outcome (machine : Machine) (s : String) :
    (Request.enter s).outcome machine =
      if s.utf8ByteSize ≤ Program.lineBuffer then
        ⟨{ machine with program := machine.program.push (Line.ofString s) }, #[],
          .ok .running⟩
      else
        ⟨machine, #[],
          .error ((Fault.of .lineBufferOverflow).atLine (machine.program.size + 1))⟩ := by
  by_cases fits : s.utf8ByteSize ≤ Program.lineBuffer
  · rw [if_pos fits]
    exact Call.outcome_of_accepted (enter_of_fits fits machine)
  · rw [if_neg fits]
    exact Call.outcome_of_refused (enter_of_long (Nat.lt_of_not_le fits) machine)

/-- A property of machines that every elementary action preserves. -/
structure Closed (property : Machine → Prop) : Prop where
  push : ∀ {machine : Machine} (line : Line), property machine →
    property { machine with program := machine.program.push line }
  signal : ∀ {machine : Machine} (asked : Bool), property machine →
    property { machine with interrupted := asked }
  step : ∀ {machine next : Machine} {lines : List String}, property machine →
    machine.step = .ok (.advance next lines) → property next

namespace Closed

variable {property : Machine → Prop} {machine : Machine}

theorem steps (closed : Closed property) (holds : property machine) (log : Array Entry)
    (cycles : Nat) : property (machine.steps log cycles).machine :=
  steps_preserve closed.step holds log cycles

theorem slice (closed : Closed property) (holds : property machine) (log : Array Entry)
    (cycles : Nat) : property (machine.slice log cycles).machine := by
  unfold Machine.slice
  split
  · exact closed.signal false holds
  · exact closed.steps holds log cycles

theorem runFrom (closed : Closed property) (holds : property machine) (log : Array Entry)
    (bound : Nat) : property (machine.runFrom log bound).machine := by
  induction bound generalizing machine log with
  | zero => exact holds
  | succ bound inductionHypothesis =>
      have sliced := closed.slice holds log sliceCycles
      rw [Machine.runFrom]
      split
      · exact inductionHypothesis sliced _
      · exact sliced

theorem outcome (closed : Closed property) (holds : property machine) {request : Request}
    (loaded : ∀ program, request = .load program → property (machine.load program)) :
    property (request.outcome machine).machine := by
  cases request with
  | load program => exact loaded program rfl
  | enter s =>
      rw [enter_outcome]
      split
      · exact closed.push _ holds
      · exact holds
  | interrupt => exact closed.signal true holds
  | execute cycles => exact closed.slice holds #[] cycles
  | run further => exact closed.runFrom holds #[] (further + 1)

/-- Sequences of requests preserve a closed property that holds after each of
their loads. -/
theorem afterRequests (closed : Closed property) (holds : property machine)
    {requests : List Request}
    (loaded : ∀ program, Request.load program ∈ requests →
      ∀ machine : Machine, property (machine.load program)) :
    property (machine.afterRequests requests) := by
  induction requests generalizing machine with
  | nil => exact holds
  | cons request requests inductionHypothesis =>
      rw [afterRequests_cons]
      apply inductionHypothesis
      · apply closed.outcome holds
        rintro program rfl
        exact loaded program List.mem_cons_self machine
      · intro program member
        exact loaded program (List.mem_cons_of_mem request member)

/-- A closed property that holds after every load holds of all reachable
machines. -/
theorem of_reachable (closed : Closed property)
    (loaded : ∀ (machine : Machine) (program : Program), property (machine.load program))
    (reachable : Reachable machine) : property machine := by
  obtain ⟨accumulator, requests, rfl⟩ := reachable
  apply closed.afterRequests
  · exact loaded (withAccumulator accumulator) Program.empty
  · intro program _ machine
    exact loaded machine program

end Closed

end Machine

end AccumulatorMachine
