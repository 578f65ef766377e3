import AccumulatorMachine.Machine.Run
import AccumulatorMachine.Proofs.Faults

/-!
# Cycles as steps

A cycle assigns one register after another and may be broken off between two
assignments.  Nevertheless it is all or nothing: its effect on the bench is that
of a step, which is a function of the machine alone.  In particular a cycle that
fails has neither changed the machine nor written anything.
-/

namespace AccumulatorMachine

/-! ## Work at a bench -/

namespace Bench

/-- The bench after a step: a step that fails or ends the program leaves the
bench as it is. -/
def take (bench : Bench) :
    Except Fault Transition → EStateM.Result Fault Bench (Option Ending)
  | .error fault => .error fault bench
  | .ok (.finish ending) => .ok (some ending) bench
  | .ok (.advance next lines) =>
      .ok none ⟨next, bench.log ++ (lines.map Entry.output).toArray⟩

theorem take_silent (bench : Bench) (next : Machine) :
    bench.take (.ok (.silent next)) = .ok none ⟨next, bench.log⟩ := by
  simp [take, Transition.silent]

end Bench

namespace Work

variable {α β : Type} (bench : Bench)

theorem machine_bind_run (next : Machine → Work β) :
    (machine >>= next).run bench = (next bench.machine).run bench := rfl

theorem demand_ok_bind_run (value : α) (next : α → Work β) :
    (demand (.ok value) >>= next).run bench = (next value).run bench := rfl

section

variable {σ : Type} {part : Bench → σ} {replace : Bench → σ → Bench}
  (restored : ∀ bench, replace bench (part bench) = bench)

include restored

/-- An atomic operation on a part of the bench puts in the part that it has made, or breaks
the work off and leaves the bench as it is. -/
theorem within_bind_run {update : Update σ α} (atomic : update.Atomic) (next : α → Work β) :
    (Update.within part replace update >>= next).run bench =
      match update.attempt (part bench) with
      | .ok (value, state) => (next value).run (replace bench state)
      | .error fault => .error fault bench := by
  have done := (atomic.within restored).run_eq bench
  rw [Update.attempt_within] at done
  simp only [EStateM.run, bind, EStateM.bind] at done ⊢
  rw [done]
  cases update.attempt (part bench) <;> rfl

theorem within_unit_bind_run {update : Update σ Unit} (atomic : update.Atomic)
    (next : Unit → Work β) :
    (Update.within part replace update >>= next).run bench =
      match (update.attempt (part bench)).map Prod.snd with
      | .ok state => (next ()).run (replace bench state)
      | .error fault => .error fault bench := by
  rw [within_bind_run bench restored atomic]
  cases update.attempt (part bench) <;> rfl

end

theorem onCells_bindM_run (address : Int32) (name : String) (next : Unit → Work β) :
    (onCells (Cells.bindM address name) >>= next).run bench =
      match bench.machine.cells.bind address name with
      | .ok cells => (next ()).run { bench with machine := { bench.machine with cells } }
      | .error fault => .error fault bench := by
  rw [onCells, within_unit_bind_run bench (fun _ => rfl) (Cells.atomic_bindM address name),
    Cells.bind]
  cases ((Cells.bindM address name).attempt bench.machine.cells).map Prod.snd <;> rfl

theorem onProcedures_registerM_run (name : String) (entry : Nat) (next : Unit → Work β) :
    (onProcedures (Procedures.registerM name entry) >>= next).run bench =
      match bench.machine.procedures.register name entry with
      | .ok procedures =>
          (next ()).run { bench with machine := { bench.machine with procedures } }
      | .error fault => .error fault bench := by
  rw [onProcedures, within_unit_bind_run bench (fun _ => rfl)
    (Procedures.atomic_registerM name entry), Procedures.register]
  cases ((Procedures.registerM name entry).attempt bench.machine.procedures).map Prod.snd <;> rfl

theorem onCalls_pushM_run (caller : Int) (next : Unit → Work β) :
    (onCalls (BoundedStack.pushM caller) >>= next).run bench =
      match bench.machine.calls.push caller with
      | .ok calls => (next ()).run { bench with machine := { bench.machine with calls } }
      | .error fault => .error fault bench := by
  rw [onCalls, within_unit_bind_run bench (fun _ => rfl) (BoundedStack.atomic_pushM caller),
    BoundedStack.push]
  cases ((BoundedStack.pushM caller).attempt bench.machine.calls).map Prod.snd <;> rfl

theorem onCalls_popM_run (next : Int → Work β) :
    (onCalls BoundedStack.popM >>= next).run bench =
      match bench.machine.calls.pop with
      | .ok (caller, calls) =>
          (next caller).run { bench with machine := { bench.machine with calls } }
      | .error fault => .error fault bench := by
  rw [onCalls, within_bind_run bench (fun _ => rfl) BoundedStack.atomic_popM, BoundedStack.pop]
  cases BoundedStack.popM.attempt bench.machine.calls <;> rfl

/-- Attaching a line number to the fault of some work keeps it all or nothing. -/
theorem located_run {work : Work (Option Ending)} {bench : Bench}
    {result : Except Fault Transition} (number : Nat)
    (done : work.run bench = bench.take result) :
    (located number work).run bench =
      bench.take (result.mapError fun fault => fault.atLine number) := by
  unfold located
  simp only [EStateM.run] at done ⊢
  rw [done]
  cases result with
  | error fault => rfl
  | ok transition => cases transition <;> rfl

end Work

/-! ## The parts of a cycle -/

namespace Cycle

open Work

/-- Jumps name lines by words of 32 bits, so no jump leaves the range of the
counter. -/
theorem saturate_jump (number : Int32) :
    saturate (number.toInt - 2) = number.toInt - 2 := by
  have lower := number.le_toInt
  have upper := number.toInt_lt
  unfold saturate
  omega

theorem goto_eq (machine : Machine) (number : Int32) :
    ({ machine with counter := saturate (number.toInt - 2) } : Machine).next =
      machine.goto number := by
  rw [saturate_jump]
  simp only [Machine.next, Machine.goto]
  congr 1
  omega

/-- The whole of a cycle from the own work of its instruction on. -/
def finish (instruction : Instruction) : Work (Option Ending) := do
  let flow ← dispatch instruction
  redirect instruction.mnemonic flow
  assign Machine.next
  return none

theorem jump_run (mnemonic : Mnemonic) (number : Int32) (bench : Bench) :
    (do
      redirect mnemonic (.jump number)
      assign Machine.next
      return none : Work (Option Ending)).run bench =
      bench.take (.ok (.silent (bench.machine.goto number))) := by
  rw [bench.take_silent, ← goto_eq]
  rfl

/-- The registers that an instruction assigns one after another are those of
its transition, and whatever can fail fails before the first of them. -/
theorem finish_eq_perform (instruction : Instruction) (bench : Bench) :
    (finish instruction).run bench =
      bench.take (bench.machine.perform instruction) := by
  cases instruction with
  | define name address =>
      simp only [finish, dispatch, bind_assoc, machine_bind_run, onCells_bindM_run,
        Machine.perform]
      cases bench.machine.cells.bind address name with
      | error fault => rfl
      | ok cells => exact (bench.take_silent _).symm
  | arith op operand =>
      simp only [finish, dispatch, bind_assoc, machine_bind_run, Machine.perform]
      cases op.apply bench.machine.accumulator (bench.machine.resolve operand) with
      | error fault => rfl
      | ok value =>
          cases value with
          | none => rfl
          | some value => exact (bench.take_silent _).symm
  | call name =>
      simp only [finish, dispatch, bind_assoc, machine_bind_run, Machine.perform,
        Machine.call]
      cases bench.machine.procedures.entry name with
      | error fault => rfl
      | ok entry =>
          simp only [demand_ok_bind_run, pure_bind, redirect, bind_assoc, machine_bind_run,
            onCalls_pushM_run]
          cases bench.machine.calls.push bench.machine.counter with
          | error fault => rfl
          | ok calls => exact (bench.take_silent _).symm
  | endProcedure =>
      simp only [finish, dispatch, redirect, bind_assoc, pure_bind, machine_bind_run,
        onCalls_popM_run, Machine.perform, Machine.endProcedure]
      cases bench.machine.calls.pop with
      | error fault => rfl
      | ok popped => exact (bench.take_silent _).symm
  | jump target => exact jump_run .jump target bench
  | branch condition target =>
      simp only [finish, dispatch, branch, bind_assoc, machine_bind_run, Machine.perform,
        Machine.branch]
      cases Integer.read bench.machine.accumulator with
      | error fault => rfl
      | ok value =>
          cases met : condition.holds value with
          | false =>
              simp only [ok_bind, met, Bool.not_false, if_true, Bool.false_eq_true, if_false]
              exact (bench.take_silent _).symm
          | true =>
              simp only [ok_bind, met, Bool.not_true, if_true, Bool.false_eq_true, if_false]
              cases target with
              | none => rfl
              | some token =>
                  dsimp only
                  cases Integer.read token with
                  | error fault => rfl
                  | ok number => exact jump_run (.branch condition) number bench
  | dump | print | help => rfl
  | _ => exact (bench.take_silent _).symm

theorem admitted_eq (begun : Bool) (mnemonic : Mnemonic) :
    (!begun && mnemonic.index != 0) = !(begun || mnemonic == .beginModule) := by
  have same : (mnemonic.index != 0) = !(mnemonic == .beginModule) := by
    rw [Bool.eq_iff_iff]
    simp [Mnemonic.index_eq_zero_iff]
  rw [same, Bool.not_or]

theorem command_eq_runLine (address : Nat) (line : Line) (begun : Bool) (bench : Bench) :
    (do
      command address line begun
      return none : Work (Option Ending)).run bench =
      bench.take (bench.machine.runLine address line
        fun mnemonic => begun || mnemonic == .beginModule) := by
  unfold command Machine.runLine
  cases Mnemonic.ofWord? line.command with
  | none => rfl
  | some mnemonic =>
      simp only [admitted_eq]
      by_cases allowed : (begun || mnemonic == .beginModule) = true
      · simp only [allowed, Bool.not_true, Bool.false_eq_true, if_false, if_true, bind_assoc]
        cases decoded : mnemonic.decode line with
        | error fault => rfl
        | ok instruction =>
            rw [← Mnemonic.mnemonic_of_decode decoded]
            exact finish_eq_perform instruction bench
      · rw [Bool.not_eq_true] at allowed
        simp only [allowed, Bool.not_false, Bool.false_eq_true, if_false, if_true]
        rfl

theorem header_eq_openProcedure (address : Nat) (line : Line) (bench : Bench) :
    (do
      header address line
      return none : Work (Option Ending)).run bench =
      bench.take (do
        return .silent (← bench.machine.openProcedure address line)) := by
  simp only [header, Machine.openProcedure, bind_assoc]
  cases line.operand 1 with
  | error fault => rfl
  | ok name =>
      simp only [demand_ok_bind_run, ok_bind, onProcedures_registerM_run]
      cases bench.machine.procedures.register name address with
      | error fault => rfl
      | ok procedures => exact (bench.take_silent _).symm

theorem body_eq_skipBody (line : Line) (bench : Bench)
    (inside : bench.machine.inBody = true) :
    (do
      body line
      return none : Work (Option Ending)).run bench =
      bench.take (.ok (.silent (bench.machine.skipBody line))) := by
  rw [bench.take_silent]
  unfold body Machine.skipBody
  by_cases closing : Mnemonic.ofWord? line.command = some .endProcedure
  · have closed : (line.command != Mnemonic.endProcedure.word) = false := by
      simp [← Mnemonic.ofWord?_eq_some_iff.mp closing]
    rw [if_pos closing, closed]
    rfl
  · have unclosed : (line.command != Mnemonic.endProcedure.word) = true := by
      rw [bne_iff_ne]
      intro same
      exact closing (Mnemonic.ofWord?_eq_some_iff.mpr same.symm)
    rw [if_neg closing, unclosed, ← inside]
    rfl

theorem line_eq_handleLine (address : Nat) (text : Line) (bench : Bench) :
    (line address text).run bench =
      bench.take (if text.isBlank then .ok (.silent bench.machine.next)
        else bench.machine.handleLine address text) := by
  simp only [line, machine_bind_run]
  by_cases blank : text.isBlank = true
  · rw [if_pos blank, if_pos blank]
    exact (bench.take_silent _).symm
  · rw [if_neg blank, if_neg blank]
    unfold Machine.handleLine
    cases phase : bench.machine.phase with
    | ending => rfl
    | running => exact command_eq_runLine address text true bench
    | scanning =>
        by_cases opening : text.isHeader = true
        · simp only [opening, if_true]
          exact header_eq_openProcedure address text bench
        · simp only [opening]
          cases inBody : bench.machine.inBody with
          | true => exact body_eq_skipBody text bench inBody
          | false => exact command_eq_runLine address text false bench

end Cycle

/-- A cycle does at the bench what a step says, and nothing else. -/
theorem cycle_eq_step (bench : Bench) :
    cycle.run bench = bench.take bench.machine.step := by
  unfold cycle Machine.step
  rw [Work.machine_bind_run]
  cases bench.machine.counter with
  | negSucc position => rfl
  | ofNat address =>
      by_cases past : bench.machine.program.size ≤ address
      · have absent : bench.machine.program.line? address = none :=
          Array.getElem?_eq_none past
        simp only [past, absent, if_true]
        rfl
      · obtain ⟨text, found⟩ : ∃ text, bench.machine.program.line? address = some text :=
          ⟨_, Array.getElem?_eq_getElem (Nat.lt_of_not_le past)⟩
        have fetched : (Cycle.fetch address).run bench =
            (Cycle.line address text).run bench := by
          simp only [Cycle.fetch, Work.machine_bind_run, found]
        have located := Work.located_run (address + 1)
          (fetched.trans (Cycle.line_eq_handleLine address text bench))
        simp only [past, found, if_false]
        rw [located]
        by_cases blank : text.isBlank = true
        · rw [if_pos blank, if_pos blank]
          rfl
        · rw [if_neg blank, if_neg blank]

/-- A cycle that ends the program leaves everything as it is. -/
theorem eq_of_cycle_ended {bench later : Bench} {ending : Ending}
    (ended : cycle.run bench = .ok (some ending) later) : later = bench := by
  rw [cycle_eq_step] at ended
  unfold Bench.take at ended
  split at ended
  · cases ended
  · cases ended
    rfl
  · cases ended

/-- A cycle that goes on makes a step. -/
theorem exists_step_of_cycle {bench later : Bench}
    (advanced : cycle.run bench = .ok none later) :
    ∃ (next : Machine) (lines : List String),
      bench.machine.step = .ok (.advance next lines) ∧
        later = ⟨next, bench.log ++ (lines.map Entry.output).toArray⟩ := by
  rw [cycle_eq_step] at advanced
  unfold Bench.take at advanced
  split at advanced
  · cases advanced
  · cases advanced
  · next next lines stepped =>
      cases advanced
      exact ⟨next, lines, stepped, rfl⟩

/-- A cycle that makes no step leaves everything as it is. -/
theorem left_cycle (bench : Bench) :
    cycle.left bench =
      match bench.machine.step with
      | .ok (.advance next lines) => ⟨next, bench.log ++ (lines.map Entry.output).toArray⟩
      | _ => bench := by
  rw [Update.left, cycle_eq_step]
  cases bench.machine.step with
  | error fault => rfl
  | ok transition => cases transition <;> rfl

/-- A budget that is not yet spent is spent on steps. -/
theorem Machine.steps_succ (machine : Machine) (log : Array Entry) (cycles : Nat) :
    machine.steps log (cycles + 1) =
      match machine.step with
      | .error fault => .failed machine log fault
      | .ok (.finish ending) => ⟨machine, log, .ok (.ended ending)⟩
      | .ok (.advance next lines) =>
          next.steps (log ++ (lines.map Entry.output).toArray) cycles := by
  rw [steps, cycle_eq_step]
  cases machine.step with
  | error fault => rfl
  | ok transition => cases transition <;> rfl

end AccumulatorMachine
