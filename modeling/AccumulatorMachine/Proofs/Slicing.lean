import AccumulatorMachine.Proofs.Cycle
import AccumulatorMachine.Proofs.Step
import AccumulatorMachine.Session

/-!
# Slicing

A machine to which nobody has sent a break does not notice how its run is cut
into slices.  A slice that leaves the program running can be followed by another
one, and the two together do what one slice with both budgets does; a slice that
ends the run does the same with any larger budget.  So all ways of driving a
machine to the end agree: they are one long slice.
-/

namespace AccumulatorMachine

namespace Outcome

/-- An outcome whose log continues an earlier one. -/
def after (log : Array Entry) (outcome : Outcome) : Outcome :=
  { outcome with log := log ++ outcome.log }

/-- Go on from an outcome, unless the run is over. -/
def andThen (outcome : Outcome) (further : Machine → Array Entry → Outcome) : Outcome :=
  match outcome.result with
  | .ok .running => further outcome.machine outcome.log
  | _ => outcome

theorem andThen_of_running {outcome : Outcome} (running : outcome.result = .ok .running)
    (further : Machine → Array Entry → Outcome) :
    outcome.andThen further = further outcome.machine outcome.log := by
  rw [andThen, running]

theorem andThen_of_finished {outcome : Outcome} (finished : outcome.result ≠ .ok .running)
    (further : Machine → Array Entry → Outcome) :
    outcome.andThen further = outcome := by
  unfold andThen
  split
  · next running => exact absurd running finished
  · rfl

end Outcome

namespace Machine

/-! ## Steps -/

/-- A budget is spent in parts. -/
theorem steps_add (machine : Machine) (log : Array Entry) (first second : Nat) :
    machine.steps log (first + second) =
      (machine.steps log first).andThen fun later log => later.steps log second := by
  induction first generalizing machine log with
  | zero =>
      rw [Nat.zero_add]
      rfl
  | succ first inductionHypothesis =>
      rw [Nat.add_right_comm, steps_succ, steps_succ]
      cases machine.step with
      | error fault => rfl
      | ok transition =>
          cases transition with
          | finish ending => rfl
          | advance next lines => exact inductionHypothesis next _

/-- A run that is over does not go on with a larger budget. -/
theorem steps_of_le {machine : Machine} {log : Array Entry} {smaller larger : Nat}
    (finished : (machine.steps log smaller).result ≠ .ok .running)
    (bound : smaller ≤ larger) :
    machine.steps log larger = machine.steps log smaller := by
  obtain ⟨extra, rfl⟩ := Nat.exists_eq_add_of_le bound
  rw [steps_add, Outcome.andThen_of_finished finished]

/-- A run is over in only one way. -/
theorem steps_unique {machine : Machine} {log : Array Entry} {first second : Nat}
    (firstOver : (machine.steps log first).result ≠ .ok .running)
    (secondOver : (machine.steps log second).result ≠ .ok .running) :
    machine.steps log first = machine.steps log second := by
  rcases Nat.le_total first second with firstSmaller | secondSmaller
  · exact (steps_of_le firstOver firstSmaller).symm
  · exact steps_of_le secondOver secondSmaller

/-- What has been logged before a run does not influence it. -/
theorem steps_append (machine : Machine) (earlier log : Array Entry) (cycles : Nat) :
    machine.steps (earlier ++ log) cycles = (machine.steps log cycles).after earlier := by
  induction cycles generalizing machine log with
  | zero => rfl
  | succ cycles inductionHypothesis =>
      rw [steps_succ, steps_succ]
      cases machine.step with
      | error fault =>
          simp only [Outcome.failed, Outcome.after, Array.push_append]
      | ok transition =>
          cases transition with
          | finish ending => rfl
          | advance next lines =>
              dsimp only
              rw [Array.append_assoc]
              exact inductionHypothesis next _

theorem after_steps (machine : Machine) (log : Array Entry) (cycles : Nat) :
    (machine.steps #[] cycles).after log = machine.steps log cycles := by
  rw [← steps_append, Array.append_empty]

/-- What every step preserves, a run preserves. -/
theorem steps_preserve {property : Machine → Prop}
    (kept : ∀ {machine next : Machine} {lines : List String}, property machine →
      machine.step = .ok (.advance next lines) → property next)
    {machine : Machine} (holds : property machine) (log : Array Entry) (cycles : Nat) :
    property (machine.steps log cycles).machine := by
  induction cycles generalizing machine log with
  | zero => exact holds
  | succ cycles inductionHypothesis =>
      rw [steps_succ]
      cases stepped : machine.step with
      | error fault => exact holds
      | ok transition =>
          cases transition with
          | finish ending => exact holds
          | advance next lines => exact inductionHypothesis (kept holds stepped) _

/-- A run leaves the setting of the machine as it is. -/
theorem setting_steps (machine : Machine) (log : Array Entry) (cycles : Nat) :
    (machine.steps log cycles).machine.setting = machine.setting := by
  have kept {current next : Machine} {lines : List String}
      (same : current.setting = machine.setting)
      (advanced : current.step = .ok (.advance next lines)) :
      next.setting = machine.setting :=
    (setting_of_step advanced).trans same
  exact steps_preserve kept rfl log cycles

theorem interrupted_steps (machine : Machine) (log : Array Entry) (cycles : Nat) :
    (machine.steps log cycles).machine.interrupted = machine.interrupted :=
  congrArg Setting.interrupted (machine.setting_steps log cycles)

/-! ## Slices -/

theorem slice_of_calm {machine : Machine} (calm : machine.interrupted = false)
    (log : Array Entry) (cycles : Nat) :
    machine.slice log cycles = machine.steps log cycles := by
  rw [slice, if_neg (by simp [calm])]

theorem slice_of_pending {machine : Machine} (pending : machine.interrupted = true)
    (log : Array Entry) (cycles : Nat) :
    machine.slice log cycles =
      .failed { machine with interrupted := false } log machine.breakFault :=
  if_pos pending

theorem execute_of_calm {machine : Machine} (calm : machine.interrupted = false)
    (cycles : Nat) :
    machine.execute cycles = machine.steps #[] cycles :=
  slice_of_calm calm #[] cycles

/-- Without breaks, slices are one long slice. -/
theorem runFrom_of_calm {machine : Machine} (calm : machine.interrupted = false)
    (log : Array Entry) (bound : Nat) :
    machine.runFrom log bound = machine.steps log (bound * sliceCycles) := by
  induction bound generalizing machine log with
  | zero =>
      rw [Nat.zero_mul]
      rfl
  | succ bound inductionHypothesis =>
      have unfolded : machine.runFrom log (bound + 1) =
          (machine.slice log sliceCycles).andThen fun later log => later.runFrom log bound :=
        rfl
      rw [unfolded, slice_of_calm calm, Nat.succ_mul, Nat.add_comm, steps_add]
      by_cases running : (machine.steps log sliceCycles).result = .ok .running
      · have laterCalm : (machine.steps log sliceCycles).machine.interrupted = false :=
          (machine.interrupted_steps log sliceCycles).trans calm
        rw [Outcome.andThen_of_running running, Outcome.andThen_of_running running]
        exact inductionHypothesis laterCalm _
      · rw [Outcome.andThen_of_finished running, Outcome.andThen_of_finished running]

/-- Running to the end is one long slice. -/
theorem run_of_calm {machine : Machine} (calm : machine.interrupted = false)
    (bound : Nat) :
    machine.run bound = machine.steps #[] (bound * sliceCycles) :=
  runFrom_of_calm calm #[] bound

end Machine

namespace Session

open Machine

/-! ## Slices of a session -/

section

variable {cycles done : Nat} {presses : Presses} {session : Session} {log : Array Entry}

theorem look_of_raised (raised : session.raised = true) :
    session.look = ⟨session.machine.interrupt, false⟩ :=
  if_pos raised

theorem look_of_lowered (lowered : session.raised = false) : session.look = session :=
  if_neg (by simp [lowered])

/-- A break that is noticed ends the run in front of a slice. -/
theorem slices_of_seen (seen : (session.raised || presses done log.size) = true)
    (remaining : Nat) :
    slices cycles presses session log done (remaining + 1) =
      (Outcome.failed { session.machine with interrupted := false } log
        session.machine.breakFault).listened (presses (done + 1) (log.size + 1)) := by
  rw [slices, look_of_raised seen, ← Array.size_push]
  rfl

section

variable (calm : session.machine.interrupted = false)
  (unseen : (session.raised || presses done log.size) = false)

include unseen in
theorem look_of_unseen :
    (session.press (presses done log.size)).look = ⟨session.machine, false⟩ := by
  rw [look_of_lowered unseen, press, unseen]

include calm unseen

/-- A slice that is not broken and leaves the program running is followed by the next
one, with the flag down. -/
theorem slices_of_running (running : (session.machine.steps log cycles).result = .ok .running)
    (remaining : Nat) :
    slices cycles presses session log done (remaining + 1) =
      slices cycles presses ⟨(session.machine.steps log cycles).machine, false⟩
        (session.machine.steps log cycles).log (done + 1) remaining := by
  rw [slices, look_of_unseen unseen]
  dsimp only
  rw [slice_of_calm calm, running]

/-- A slice that is not broken and ends the run leaves the flag at what the key has
done to it since. -/
theorem slices_of_finished
    (finished : (session.machine.steps log cycles).result ≠ .ok .running) (remaining : Nat) :
    slices cycles presses session log done (remaining + 1) =
      (session.machine.steps log cycles).listened
        (presses (done + 1) (session.machine.steps log cycles).log.size) := by
  rw [slices, look_of_unseen unseen]
  dsimp only
  rw [slice_of_calm calm]
  split
  · next running => exact absurd running finished
  · rfl

end

end

/-- Slices of any length are one long slice, if the key is never touched. -/
theorem slices_never {machine : Machine} (calm : machine.interrupted = false)
    (cycles : Nat) (log : Array Entry) (done remaining : Nat) :
    slices cycles Presses.never ⟨machine, false⟩ log done remaining =
      (machine.steps log (remaining * cycles)).listened false := by
  induction remaining generalizing machine log done with
  | zero =>
      rw [Nat.zero_mul]
      rfl
  | succ remaining inductionHypothesis =>
      rw [Nat.succ_mul, Nat.add_comm (remaining * cycles), steps_add]
      by_cases running : (machine.steps log cycles).result = .ok .running
      · have laterCalm : (machine.steps log cycles).machine.interrupted = false :=
          (machine.interrupted_steps log cycles).trans calm
        rw [slices_of_running calm rfl running, Outcome.andThen_of_running running]
        exact inductionHypothesis laterCalm _ _
      · rw [slices_of_finished calm rfl running, Outcome.andThen_of_finished running]
        rfl

end Session

namespace Machine

/-! ## Drivers -/

/-- Slicing does not matter: two slices in a row are one slice with the sum of
their budgets, an ended slice keeps its outcome under larger budgets, and every
terminating way to run to the end gives the outcome of a large enough slice,
with or without a break flag to look at and whatever the length of the slices. -/
theorem slicing_immaterial (machine : Machine) (calm : machine.interrupted = false) :
    (∀ first second : Nat,
      ((machine.execute first).result = .ok .running →
        machine.execute (first + second) =
          ((machine.execute first).machine.execute second).after
            (machine.execute first).log) ∧
      ((machine.execute first).result ≠ .ok .running →
        machine.execute (first + second) = machine.execute first)) ∧
    ∀ bound : Nat, (machine.run bound).result ≠ .ok .running →
      (∃ enough, ∀ cycles, enough ≤ cycles →
        machine.execute cycles = machine.run bound) ∧
      Session.run ⟨machine, false⟩ Presses.never bound =
        (machine.run bound).listened false ∧
      ∀ cycles, 0 < cycles → ∃ enough, ∀ slices, enough ≤ slices →
        Session.slices cycles Presses.never ⟨machine, false⟩ #[] 0 slices =
          (machine.run bound).listened false := by
  constructor
  · intro first second
    rw [execute_of_calm calm, execute_of_calm calm]
    constructor
    · intro running
      have laterCalm : (machine.steps #[] first).machine.interrupted = false :=
        (machine.interrupted_steps #[] first).trans calm
      rw [execute_of_calm laterCalm, after_steps, steps_add,
        Outcome.andThen_of_running running]
    · intro finished
      exact steps_of_le finished (Nat.le_add_right first second)
  · intro bound ended
    have whole : machine.run bound = machine.steps #[] (bound * sliceCycles) :=
      run_of_calm calm bound
    have finished : (machine.steps #[] (bound * sliceCycles)).result ≠ .ok .running := by
      rw [← whole]
      exact ended
    refine ⟨⟨bound * sliceCycles, ?_⟩, ?_, ?_⟩
    · intro cycles large
      rw [execute_of_calm calm, whole]
      exact steps_of_le finished large
    · rw [whole]
      exact Session.slices_never calm sliceCycles #[] 0 bound
    · intro cycles positive
      refine ⟨bound * sliceCycles, ?_⟩
      intro slices large
      have enough : bound * sliceCycles ≤ slices * cycles :=
        Nat.le_trans large (Nat.le_mul_of_pos_right slices positive)
      rw [Session.slices_never calm, whole, steps_of_le finished enough]

/-- A program with a loop, which prints the numbers from two down to one. -/
def countdown : Program :=
  ⟨#[⟨["begin"]⟩, ⟨["ld", "2"]⟩, ⟨["print"]⟩, ⟨["sub", "1"]⟩, ⟨["jap", "3"]⟩, ⟨["end"]⟩]⟩

theorem slicing_immaterial_countdown :
    (new.load countdown).interrupted = false ∧
      ((new.load countdown).execute 4).result = .ok .running ∧
      ((new.load countdown).run 1).result ≠ .ok .running ∧
      (new.load countdown).execute (4 + 3) =
        (((new.load countdown).execute 4).machine.execute 3).after
          ((new.load countdown).execute 4).log ∧
      (∃ enough, ∀ cycles, enough ≤ cycles →
        (new.load countdown).execute cycles = (new.load countdown).run 1) ∧
      ∃ enough, ∀ slices, enough ≤ slices →
        Session.slices 1 Presses.never ⟨new.load countdown, false⟩ #[] 0 slices =
          ((new.load countdown).run 1).listened false := by
  have calm : (new.load countdown).interrupted = false := rfl
  have running : ((new.load countdown).execute 4).result = .ok .running := rfl
  have halted : ((new.load countdown).run 1).result = .ok (.ended .halted) := rfl
  have finished : ((new.load countdown).run 1).result ≠ .ok .running := by
    rw [halted]
    intro impossible
    cases impossible
  obtain ⟨split, drivers⟩ := slicing_immaterial (new.load countdown) calm
  obtain ⟨large, _, anyLength⟩ := drivers 1 finished
  exact ⟨calm, running, finished, (split 4 3).1 running, large, anyLength 1 Nat.one_pos⟩

end Machine

end AccumulatorMachine
