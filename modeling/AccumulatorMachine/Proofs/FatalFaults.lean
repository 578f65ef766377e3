import AccumulatorMachine.Proofs.Schedules

/-!
# Fatal faults

A run that fails stops in front of the line that failed.  The cycle that is
broken off has changed and written nothing, and the fault is logged once, with
the number of that line.  The machine stays there: as long as no program is
loaded, entering more lines does not help, and every further slice fails in the
same way.
-/

namespace AccumulatorMachine

theorem Program.partOf_push (program : Program) (line : Line) :
    program.PartOf (program.push line) := by
  intro address found present
  simp only [line?, push] at present ⊢
  obtain ⟨inside, _⟩ := Array.getElem?_eq_some_iff.mp present
  rw [Array.getElem?_push_lt inside, ← present, Array.getElem?_eq_getElem inside]

namespace Machine

/-- The machine after calls, whether they fail or not. -/
def afterCalls (machine : Machine) (calls : List Call) : Machine :=
  calls.foldl (fun current call => (call.outcome current).machine) machine

/-! ## Up to the fault -/

/-- A run that fails has taken some steps, and the next one fails. -/
theorem exists_of_steps_eq_error {machine : Machine} {log : Array Entry} {cycles : Nat}
    {fault : Fault} (failed : (machine.steps log cycles).result = .error fault) :
    ∃ taken, taken < cycles ∧ ∃ last reached,
      machine.steps log taken = ⟨last, reached, .ok .running⟩ ∧
        last.step = .error fault ∧
          machine.steps log cycles = .failed last reached fault := by
  induction cycles generalizing machine log with
  | zero => cases failed
  | succ cycles inductionHypothesis =>
      rw [steps_succ] at failed ⊢
      cases stepped : machine.step with
      | error cause =>
          rw [stepped] at failed
          cases failed
          exact ⟨0, Nat.zero_lt_succ cycles, machine, log, rfl, stepped, rfl⟩
      | ok transition =>
          rw [stepped] at failed
          cases transition with
          | finish ending => cases failed
          | advance next lines =>
              obtain ⟨taken, fewer, last, reached, running, stuck, whole⟩ :=
                inductionHypothesis failed
              refine ⟨taken + 1, Nat.succ_lt_succ fewer, last, reached, ?_, stuck, whole⟩
              rw [steps_succ, stepped]
              exact running

/-! ## After the fault -/

/-- A machine that can do nothing but fail. -/
structure Stuck (fault : Fault) (machine : Machine) : Prop where
  calm : machine.interrupted = false
  step_eq : machine.step = .error fault

namespace Stuck

variable {machine : Machine} {fault : Fault}

theorem execute (stuck : Stuck fault machine) {cycles : Nat} (some : 1 ≤ cycles) :
    machine.execute cycles = ⟨machine, #[.fault fault], .error fault⟩ := by
  obtain ⟨fewer, rfl⟩ := Nat.exists_eq_add_of_le' some
  rw [execute_of_calm stuck.calm, steps_succ, stuck.step_eq]
  rfl

/-- A line more does not matter to a machine that is stuck, because it stands
behind the line that fails. -/
theorem enter (stuck : Stuck fault machine) {s : String} {entered : Machine}
    (accepted : machine.enter s = .ok entered) :
    Stuck fault entered ∧ entered.withSetting machine.setting = machine := by
  rw [eq_of_enter accepted]
  have sameStep := step_of_partOf
    { machine.setting with program := machine.program.push (Line.ofString s) }
    (machine.program.partOf_push _) (by simp [stuck.step_eq])
  rw [stuck.step_eq] at sameStep
  exact ⟨⟨stuck.calm, sameStep⟩, rfl⟩

theorem call (stuck : Stuck fault machine) (call : Call) :
    Stuck fault (call.outcome machine).machine ∧
      (call.outcome machine).machine.withSetting machine.setting = machine := by
  cases call with
  | enter s =>
      cases accepted : machine.enter s with
      | error refusal =>
          rw [Call.outcome_of_refused accepted]
          exact ⟨stuck, rfl⟩
      | ok entered =>
          rw [Call.outcome_of_accepted accepted]
          exact stuck.enter accepted
  | execute cycles =>
      rw [Call.outcome]
      cases cycles with
      | zero =>
          rw [execute_of_calm stuck.calm]
          exact ⟨stuck, rfl⟩
      | succ cycles =>
          rw [stuck.execute (Nat.le_add_left 1 cycles)]
          exact ⟨stuck, rfl⟩

/-- Whatever is called, a stuck machine stays stuck with the same registers. -/
theorem afterCalls (stuck : Stuck fault machine) (calls : List Call) :
    Stuck fault (machine.afterCalls calls) ∧
      (machine.afterCalls calls).withSetting machine.setting = machine := by
  induction calls generalizing machine with
  | nil => exact ⟨stuck, rfl⟩
  | cons call calls inductionHypothesis =>
      obtain ⟨stillStuck, sameRegisters⟩ := stuck.call call
      obtain ⟨finallyStuck, finalRegisters⟩ := inductionHypothesis stillStuck
      refine ⟨finallyStuck, ?_⟩
      calc
        (machine.afterCalls (call :: calls)).withSetting machine.setting =
            (((call.outcome machine).machine.afterCalls calls).withSetting
              (call.outcome machine).machine.setting).withSetting machine.setting :=
          (withSetting_withSetting _ _ _).symm
        _ = (call.outcome machine).machine.withSetting machine.setting := by
          rw [finalRegisters]
        _ = machine := sameRegisters

end Stuck

/-- Fatal faults are atomic, located, logged once and sticky.  The slice that
fails leaves the machine as the steps before the failing one have left it, and
the failing cycle itself has touched neither the machine nor the log, to which
only the fault is added.  The fault carries the number of the line at the
counter, or names the line when the counter is negative.  After any calls that
follow, the registers are the same and every slice with a budget fails again
with the same fault and logs nothing else. -/
theorem fatal_fault (machine : Machine) (calm : machine.interrupted = false)
    (cycles : Nat) (fault : Fault)
    (failed : (machine.execute cycles).result = .error fault) :
    ∃ taken, taken < cycles ∧ ∃ last log,
      (machine.execute taken = ⟨last, log, .ok .running⟩ ∧
        cycle.run ⟨last, log⟩ = .error fault ⟨last, log⟩ ∧
        machine.execute cycles = ⟨last, log.push (.fault fault), .error fault⟩) ∧
      (0 ≤ last.counter → last.counter < last.program.size ∧
        fault.line = some (last.counter.toNat + 1)) ∧
      (last.counter < 0 →
        fault = ⟨.undefinedLine, none, toString (last.counter + 1)⟩) ∧
      ∀ calls : List Call,
        (last.afterCalls calls).withSetting last.setting = last ∧
        ∀ budget, 1 ≤ budget →
          (last.afterCalls calls).execute budget =
            ⟨last.afterCalls calls, #[.fault fault], .error fault⟩ := by
  rw [execute_of_calm calm] at failed
  obtain ⟨taken, fewer, last, log, running, stepFailed, whole⟩ :=
    exists_of_steps_eq_error failed
  have lastCalm : last.interrupted = false := by
    have kept := machine.interrupted_steps #[] taken
    rw [running] at kept
    exact kept.trans calm
  have stuck : Stuck fault last := ⟨lastCalm, stepFailed⟩
  refine ⟨taken, fewer, last, log, ⟨?_, ?_, ?_⟩, ?_, ?_, ?_⟩
  · rw [execute_of_calm calm]
    exact running
  · rw [cycle_eq_step, stepFailed]
    rfl
  · rw [execute_of_calm calm]
    exact whole
  · intro nonnegative
    rcases step_eq_error stepFailed with ⟨address, located, inside, number⟩ | ⟨negative, _⟩
    · rw [located]
      exact ⟨Int.ofNat_lt.mpr inside, number⟩
    · omega
  · intro negative
    rcases step_eq_error stepFailed with ⟨address, located, _, _⟩ | ⟨_, named⟩
    · omega
    · exact named
  · intro calls
    obtain ⟨stillStuck, sameRegisters⟩ := stuck.afterCalls calls
    exact ⟨sameRegisters, fun budget some => stillStuck.execute some⟩

/-- A program that fails at its third line. -/
def misadded : Program :=
  ⟨#[⟨["begin"]⟩, ⟨["print"]⟩, ⟨["add", "x"]⟩]⟩

/-- A program that jumps in front of its first line. -/
def misjumped : Program :=
  ⟨#[⟨["begin"]⟩, ⟨["jmp", "0"]⟩]⟩

theorem fatal_fault_examples :
    ((new.load misadded).interrupted = false ∧
      ((new.load misadded).execute 9).result = .error ⟨.typeMismatch, some 3, "\"\""⟩ ∧
      ∃ taken, taken < 9 ∧ ∃ last log,
        (new.load misadded).execute taken = ⟨last, log, .ok .running⟩ ∧
        (new.load misadded).execute 9 =
          ⟨last, log.push (.fault ⟨.typeMismatch, some 3, "\"\""⟩),
            .error ⟨.typeMismatch, some 3, "\"\""⟩⟩) ∧
    ((new.load misjumped).interrupted = false ∧
      ((new.load misjumped).execute 9).result = .error ⟨.undefinedLine, none, "0"⟩ ∧
      ∃ taken, taken < 9 ∧ ∃ last log,
        (new.load misjumped).execute taken = ⟨last, log, .ok .running⟩ ∧
        ∀ calls budget, 1 ≤ budget →
          (last.afterCalls calls).execute budget =
            ⟨last.afterCalls calls, #[.fault ⟨.undefinedLine, none, "0"⟩],
              .error ⟨.undefinedLine, none, "0"⟩⟩) := by
  refine ⟨⟨rfl, rfl, ?_⟩, ⟨rfl, rfl, ?_⟩⟩
  · obtain ⟨taken, fewer, last, log, ⟨running, _, whole⟩, _⟩ :=
      fatal_fault (new.load misadded) rfl 9 ⟨.typeMismatch, some 3, "\"\""⟩ rfl
    exact ⟨taken, fewer, last, log, running, whole⟩
  · obtain ⟨taken, fewer, last, log, ⟨running, _⟩, _, _, sticky⟩ :=
      fatal_fault (new.load misjumped) rfl 9 ⟨.undefinedLine, none, "0"⟩ rfl
    exact ⟨taken, fewer, last, log, running, fun calls => (sticky calls).2⟩

end Machine

end AccumulatorMachine
