import AccumulatorMachine.Proofs.ControlInvariant

/-!
# After the end

Once `end` has been run, nothing is run any more.  The machine passes over the
blank lines behind the `end` and halts in front of the first other line, or behind
the last one.  Lines that are entered later do not change this: they can only move
the place where the machine halts, and none of them is ever run.

Two kinds of call can still fail then.  A line that does not fit in the line buffer
is refused, as always, and a break that was asked for before is noticed by the next
slice.  Neither of them touches a register.
-/

namespace AccumulatorMachine

/-- Calls that neither load a program nor ask for a break. -/
def Request.isQuiet : Request → Bool
  | load _ | interrupt => false
  | enter _ | execute _ | run _ => true

/-- Only blank lines stand from one address up to another. -/
def Program.BlankBetween (program : Program) (first last : Int) : Prop :=
  ∀ passed : Nat, first ≤ passed → (passed : Int) < last →
    ∃ line : Line, program.line? passed = some line ∧ line.isBlank = true

theorem Program.BlankBetween.mono {program larger : Program} {first last : Int}
    (blank : program.BlankBetween first last) (part : program.PartOf larger) :
    larger.BlankBetween first last := by
  intro passed lower upper
  obtain ⟨line, found, isBlank⟩ := blank passed lower upper
  exact ⟨line, part passed line found, isBlank⟩

namespace Machine

/-- The `end` at an address has been run, and nothing but blank lines has been
passed since. -/
structure EndedAt (address : Nat) (machine : Machine) : Prop where
  phase_eq : machine.phase = .ending
  endLine : ∃ line : Line, machine.program.line? address = some line ∧ line.command = "end"
  counter_gt : (address : Int) < machine.counter
  counter_le : machine.counter ≤ machine.program.size
  blank : machine.program.BlankBetween (address + 1) machine.counter

/-- The counter is at a line that is not blank, or behind the last line. -/
def AtRest (machine : Machine) : Prop :=
  machine.counter = machine.program.size ∨
    ∃ (position : Nat) (line : Line), machine.counter = position ∧
      machine.program.line? position = some line ∧ line.isBlank = false

/-! ## Steps -/

namespace EndedAt

variable {address : Nat} {machine : Machine}

theorem exists_position (ended : EndedAt address machine) :
    ∃ position : Nat, machine.counter = position ∧ position ≤ machine.program.size := by
  have behind := ended.counter_gt
  have inside := ended.counter_le
  exact ⟨machine.counter.toNat, by omega, by omega⟩

/-- A step passes a blank line or halts, and runs nothing. -/
theorem step (ended : EndedAt address machine) :
    (machine.step = .ok (.finish .halted) ∧ AtRest machine) ∨
      (machine.step = .ok (.silent machine.next) ∧
        ∃ (position : Nat) (line : Line), machine.counter = position ∧
          machine.program.line? position = some line ∧ line.isBlank = true) := by
  obtain ⟨position, located, inside⟩ := ended.exists_position
  rw [step_at located]
  cases found : machine.program.line? position with
  | none =>
      have outside : machine.program.size ≤ position := Array.getElem?_eq_none_iff.mp found
      left
      dsimp only
      rw [if_pos ended.phase_eq]
      exact ⟨rfl, Or.inl (by omega)⟩
  | some line =>
      dsimp only
      cases blank : line.isBlank with
      | true =>
          right
          exact ⟨rfl, position, line, located, found, blank⟩
      | false =>
          left
          have handled : machine.handleLine position line = .ok (.finish .halted) := by
            rw [handleLine, ended.phase_eq]
          rw [handled]
          exact ⟨rfl, Or.inr ⟨position, line, located, found, blank⟩⟩

theorem next (ended : EndedAt address machine) {position : Nat} {line : Line}
    (located : machine.counter = position)
    (found : machine.program.line? position = some line) (blank : line.isBlank = true) :
    EndedAt address machine.next where
  phase_eq := ended.phase_eq
  endLine := ended.endLine
  counter_gt := by
    have behind := ended.counter_gt
    change (address : Int) < machine.counter + 1
    omega
  counter_le := by
    have inside := Program.lt_size_of_line? found
    change machine.counter + 1 ≤ (machine.program.size : Int)
    omega
  blank := by
    intro passed lower upper
    by_cases earlier : (passed : Int) < machine.counter
    · exact ended.blank passed lower earlier
    · have last : passed = position := by
        change (passed : Int) < machine.counter + 1 at upper
        omega
      rw [last]
      exact ⟨line, found, blank⟩

theorem push (ended : EndedAt address machine) (line : Line) :
    EndedAt address { machine with program := machine.program.push line } where
  phase_eq := ended.phase_eq
  endLine := by
    obtain ⟨endLine, found, word⟩ := ended.endLine
    exact ⟨endLine, machine.program.partOf_push line address endLine found, word⟩
  counter_gt := ended.counter_gt
  counter_le := by
    have inside := ended.counter_le
    rw [Program.size_push]
    exact Int.le_trans inside (by omega)
  blank := ended.blank.mono (machine.program.partOf_push line)

theorem signal (ended : EndedAt address machine) (asked : Bool) :
    EndedAt address { machine with interrupted := asked } :=
  ⟨ended.phase_eq, ended.endLine, ended.counter_gt, ended.counter_le, ended.blank⟩

end EndedAt

/-- Only an `end` takes a machine into the ending phase. -/
theorem endedAt_of_step {machine next : Machine} {lines : List String}
    (before : machine.phase ≠ .ending) (advanced : machine.step = .ok (.advance next lines))
    (ending : next.phase = .ending) : ∃ address, EndedAt address next := by
  obtain ⟨address, line, located, found, transfer⟩ := transfer_of_step advanced
  have sameProgram := program_of_step advanced
  have phaseOf {control : Control} (same : next.control = control) :
      control.phase = .ending := (congrArg Control.phase same).symm.trans ending
  cases transfer with
  | onward same | header _ _ _ _ same | body _ _ same | jumped _ _ _ _ same
  | called _ _ _ _ _ _ same | returned _ _ _ same =>
      exact absurd (phaseOf same) before
  | begun _ _ same => cases phaseOf same
  | ended _ word same =>
      have counter : next.counter = machine.counter + 1 := congrArg Control.counter same
      have inside := Program.lt_size_of_line? found
      refine ⟨address, ending, ⟨line, ?_, word⟩, ?_, ?_, ?_⟩
      · rw [sameProgram]
        exact found
      · omega
      · rw [sameProgram]
        omega
      · intro passed lower upper
        omega

theorem endedAt_closed :
    Closed fun machine : Machine =>
      machine.phase = .ending → ∃ address, EndedAt address machine where
  push line holds ending := by
    obtain ⟨address, ended⟩ := holds ending
    exact ⟨address, ended.push line⟩
  signal asked holds ending := by
    obtain ⟨address, ended⟩ := holds ending
    exact ⟨address, ended.signal asked⟩
  step {machine next lines} holds advanced ending := by
    by_cases before : machine.phase = .ending
    · obtain ⟨address, ended⟩ := holds before
      rcases ended.step with ⟨halted, _⟩ | ⟨passed, position, line, located, found, blank⟩
      · rw [halted] at advanced
        cases advanced
      · rw [passed] at advanced
        cases advanced
        exact ⟨address, ended.next located found blank⟩
    · exact endedAt_of_step before advanced ending

/-! ## Slices -/

/-- What steps do after the end: they pass blank lines, and if they halt, they
halt at rest. -/
structure Idle (address : Nat) (machine : Machine) (log : Array Entry) (outcome : Outcome) :
    Prop where
  endedAt : EndedAt address outcome.machine
  machine_eq : outcome.machine = { machine with counter := outcome.machine.counter }
  log_eq : outcome.log = log
  counter_ge : machine.counter ≤ outcome.machine.counter
  result : outcome.result = .ok .running ∨
    outcome.result = .ok (.ended .halted) ∧ AtRest outcome.machine

theorem EndedAt.steps {address : Nat} {machine : Machine} (ended : EndedAt address machine)
    (log : Array Entry) (cycles : Nat) :
    Idle address machine log (machine.steps log cycles) := by
  induction cycles generalizing machine log with
  | zero => exact ⟨ended, rfl, rfl, Int.le_refl _, Or.inl rfl⟩
  | succ cycles inductionHypothesis =>
      rw [steps_succ]
      rcases ended.step with ⟨halted, rest⟩ | ⟨passed, position, line, located, found, blank⟩
      · rw [halted]
        exact ⟨ended, rfl, rfl, Int.le_refl _, Or.inr ⟨rfl, rest⟩⟩
      · rw [passed]
        have later := inductionHypothesis (ended.next located found blank)
          (log ++ (([] : List String).map Entry.output).toArray)
        have written : log ++ (([] : List String).map Entry.output).toArray = log :=
          Array.append_empty
        refine ⟨later.endedAt, later.machine_eq, later.log_eq.trans written, ?_, later.result⟩
        have onward : machine.counter + 1 ≤ _ := later.counter_ge
        exact Int.le_trans (by omega) onward

/-- With a cycle for each line up to the last one, and one more, the run halts. -/
theorem EndedAt.steps_halt {address : Nat} {machine : Machine}
    (ended : EndedAt address machine) (log : Array Entry) {cycles : Nat}
    (enough : machine.program.size + 1 - machine.counter ≤ cycles) :
    (machine.steps log cycles).result = .ok (.ended .halted) := by
  induction cycles generalizing machine log with
  | zero =>
      have inside := ended.counter_le
      omega
  | succ cycles inductionHypothesis =>
      rw [steps_succ]
      rcases ended.step with ⟨halted, _⟩ | ⟨passed, position, line, located, found, blank⟩
      · rw [halted]
      · rw [passed]
        apply inductionHypothesis (ended.next located found blank)
        change machine.program.size + 1 - (machine.counter + 1) ≤ (cycles : Int)
        omega

/-! ## Calls -/

/-- What later machines keep of an earlier one: every register but the counter,
which does not go back.  A break is not asked for anew. -/
structure Lasting (earlier later : Machine) : Prop where
  registers_eq : later =
    { earlier with
      program := later.program
      counter := later.counter
      interrupted := later.interrupted }
  counter_ge : earlier.counter ≤ later.counter
  calm : earlier.interrupted = false → later.interrupted = false

theorem Lasting.refl (machine : Machine) : Lasting machine machine :=
  ⟨rfl, Int.le_refl _, id⟩

theorem Lasting.trans {first second third : Machine} (earlier : Lasting first second)
    (later : Lasting second third) : Lasting first third where
  registers_eq := by
    rw [later.registers_eq, earlier.registers_eq]
  counter_ge := Int.le_trans earlier.counter_ge later.counter_ge
  calm := later.calm ∘ earlier.calm

/-- How a machine answers a slice or a run after the end.  A pending break is noticed,
and nothing else is logged then.  Otherwise blank lines are passed, and a machine that
halts stands at the next other line, or behind the last line. -/
inductive IdleReply (machine : Machine) : Outcome → Prop
  | broken :
      machine.interrupted = true →
      IdleReply machine
        ⟨{ machine with interrupted := false }, #[.fault machine.breakFault],
          .error machine.breakFault⟩
  | running {counter : Int} :
      machine.interrupted = false →
      machine.program.BlankBetween machine.counter counter →
      IdleReply machine ⟨{ machine with counter }, #[], .ok .running⟩
  | halted {counter : Int} :
      machine.interrupted = false →
      machine.program.BlankBetween machine.counter counter →
      AtRest { machine with counter } →
      IdleReply machine ⟨{ machine with counter }, #[], .ok (.ended .halted)⟩

/-- How a machine answers a quiet call after the end. -/
inductive QuietReply (machine : Machine) : Request → Outcome → Prop
  | accepted {s : String} :
      s.utf8ByteSize ≤ Program.lineBuffer →
      QuietReply machine (.enter s)
        ⟨{ machine with program := machine.program.push (Line.ofString s) }, #[],
          .ok .running⟩
  | refused {s : String} :
      Program.lineBuffer < s.utf8ByteSize →
      QuietReply machine (.enter s)
        ⟨machine, #[], .error ⟨.lineBufferOverflow, some (machine.program.size + 1), ""⟩⟩
  | execute {cycles : Nat} {reply : Outcome} :
      IdleReply machine reply → QuietReply machine (.execute cycles) reply
  | run {further : Nat} {reply : Outcome} :
      IdleReply machine reply → QuietReply machine (.run further) reply

theorem enter_after_end {address : Nat} {machine : Machine} (ended : EndedAt address machine)
    (s : String) :
    EndedAt address ((Request.enter s).outcome machine).machine ∧
      Lasting machine ((Request.enter s).outcome machine).machine ∧
        QuietReply machine (.enter s) ((Request.enter s).outcome machine) := by
  rw [enter_outcome]
  by_cases fits : s.utf8ByteSize ≤ Program.lineBuffer
  · rw [if_pos fits]
    exact ⟨ended.push _, ⟨rfl, Int.le_refl _, id⟩, QuietReply.accepted fits⟩
  · rw [if_neg fits]
    exact ⟨ended, Lasting.refl machine, QuietReply.refused (Nat.lt_of_not_le fits)⟩

/-- Without a pending break a slice of any length only idles. -/
theorem steps_after_end {address : Nat} {machine : Machine} (ended : EndedAt address machine)
    (calm : machine.interrupted = false) (cycles : Nat) :
    EndedAt address (machine.steps #[] cycles).machine ∧
      Lasting machine (machine.steps #[] cycles).machine ∧
        IdleReply machine (machine.steps #[] cycles) := by
  obtain ⟨laterEnded, machine_eq, log_eq, counter_ge, result⟩ := ended.steps #[] cycles
  have laterCalm := (machine.interrupted_steps #[] cycles).trans calm
  have sameProgram : (machine.steps #[] cycles).machine.program = machine.program :=
    congrArg Setting.program (machine.setting_steps #[] cycles)
  have blank : machine.program.BlankBetween machine.counter
      (machine.steps #[] cycles).machine.counter := by
    intro passed lower upper
    have behind := ended.counter_gt
    rw [← sameProgram]
    exact laterEnded.blank passed (by omega) upper
  refine ⟨laterEnded, ⟨?_, counter_ge, fun _ => laterCalm⟩, ?_⟩
  · rw [machine_eq]
  · generalize machine.steps #[] cycles = reply at machine_eq log_eq result blank
    obtain ⟨later, log, answer⟩ := reply
    dsimp only at machine_eq log_eq result blank
    subst log_eq
    rcases result with rfl | ⟨rfl, rest⟩
    · rw [machine_eq]
      exact IdleReply.running calm blank
    · rw [machine_eq] at rest ⊢
      exact IdleReply.halted calm blank rest

/-- A slice or a run, whatever its length, only idles after the end or notices a pending
break. -/
theorem idle_after_end {address : Nat} {machine : Machine} (ended : EndedAt address machine)
    {reply : Outcome} {cycles : Nat}
    (idled : machine.interrupted = false → reply = machine.steps #[] cycles)
    (broken : machine.interrupted = true →
      reply = .failed { machine with interrupted := false } #[] machine.breakFault) :
    EndedAt address reply.machine ∧ Lasting machine reply.machine ∧
      IdleReply machine reply := by
  cases pending : machine.interrupted with
  | false =>
      rw [idled pending]
      exact steps_after_end ended pending cycles
  | true =>
      rw [broken pending]
      exact ⟨ended.signal false, ⟨rfl, Int.le_refl _, fun _ => rfl⟩, IdleReply.broken pending⟩

theorem run_of_pending {machine : Machine} (pending : machine.interrupted = true)
    (further : Nat) :
    machine.run (further + 1) =
      .failed { machine with interrupted := false } #[] machine.breakFault := by
  rw [run, runFrom, slice_of_pending pending]
  rfl

/-- What one quiet call does after the end. -/
theorem quiet_call_after_end {address : Nat} {machine : Machine}
    (ended : EndedAt address machine) {call : Request} (quiet : call.isQuiet = true) :
    EndedAt address (call.outcome machine).machine ∧
      Lasting machine (call.outcome machine).machine ∧
        QuietReply machine call (call.outcome machine) := by
  cases call with
  | load program => cases quiet
  | interrupt => cases quiet
  | enter s => exact enter_after_end ended s
  | execute cycles =>
      obtain ⟨laterEnded, lasting, idle⟩ := idle_after_end ended
        (fun calm => execute_of_calm calm cycles)
        (fun pending => slice_of_pending pending #[] cycles)
      exact ⟨laterEnded, lasting, QuietReply.execute idle⟩
  | run further =>
      obtain ⟨laterEnded, lasting, idle⟩ := idle_after_end ended
        (fun calm => run_of_calm calm (further + 1))
        (fun pending => run_of_pending pending further)
      exact ⟨laterEnded, lasting, QuietReply.run idle⟩

theorem quiet_calls_after_end {address : Nat} {machine : Machine}
    (ended : EndedAt address machine) {calls : List Request}
    (quiet : ∀ call ∈ calls, call.isQuiet = true) :
    EndedAt address (machine.afterRequests calls) ∧
      Lasting machine (machine.afterRequests calls) := by
  induction calls generalizing machine with
  | nil => exact ⟨ended, Lasting.refl machine⟩
  | cons call calls inductionHypothesis =>
      obtain ⟨laterEnded, lasting, _⟩ :=
        quiet_call_after_end ended (quiet call List.mem_cons_self)
      obtain ⟨finallyEnded, finallyLasting⟩ := inductionHypothesis laterEnded
        fun other member => quiet other (List.mem_cons_of_mem call member)
      exact ⟨finallyEnded, lasting.trans finallyLasting⟩

/-- An `end` is final.  A reachable machine in the ending phase has run the `end`
at some address.  After any sequence of entered lines, slices and runs it has kept
all registers but the counter; the counter has not gone back, is behind the last
line at most, and has only blank lines between the `end` and itself.  From there a
cycle runs nothing, it passes a blank line or halts; every further call is answered as
`QuietReply` says, and in no other way; and unless a break is pending, a run halts
within one cycle for each line from the counter on and one more. -/
theorem end_is_final {ended : Machine} (reachable : Reachable ended)
    (ending : ended.phase = .ending) :
    ∃ address : Nat, ∀ (calls : List Request) (machine : Machine),
      (∀ call ∈ calls, call.isQuiet = true) → machine = ended.afterRequests calls →
      EndedAt address machine ∧ Lasting ended machine ∧
      (∀ log,
        cycle.run ⟨machine, log⟩ = .ok (some .halted) ⟨machine, log⟩ ∨
          (∃ (position : Nat) (line : Line), machine.counter = position ∧
            machine.program.line? position = some line ∧ line.isBlank = true) ∧
          cycle.run ⟨machine, log⟩ = .ok none ⟨machine.next, log⟩) ∧
      (∀ call : Request, call.isQuiet = true →
        QuietReply machine call (call.outcome machine)) ∧
      ∀ cycles further : Nat, machine.interrupted = false →
        (cycles : Int) = machine.program.size - machine.counter + 1 →
        cycles ≤ (further + 1) * sliceCycles →
        (machine.execute cycles).result = .ok (.ended .halted) ∧
          (Request.run further).outcome machine = machine.execute cycles := by
  have loaded (machine : Machine) (program : Program) :
      (machine.load program).phase = .ending →
        ∃ address, EndedAt address (machine.load program) := by
    intro loadedEnding
    cases loadedEnding
  obtain ⟨address, endedAt⟩ := endedAt_closed.of_reachable loaded reachable ending
  refine ⟨address, ?_⟩
  rintro calls machine quiet rfl
  obtain ⟨laterEnded, lasting⟩ := quiet_calls_after_end endedAt quiet
  refine ⟨laterEnded, lasting, ?_, ?_, ?_⟩
  · intro log
    rw [cycle_eq_step]
    rcases laterEnded.step with ⟨halted, _⟩ | ⟨passed, blank⟩
    · rw [halted]
      exact Or.inl rfl
    · rw [passed, Bench.take_silent]
      exact Or.inr ⟨blank, rfl⟩
  · intro call quietCall
    exact (quiet_call_after_end laterEnded quietCall).2.2
  · intro cycles further calm count enough
    have halted : ((ended.afterRequests calls).steps #[] cycles).result =
        .ok (.ended .halted) :=
      laterEnded.steps_halt #[] (by omega)
    rw [execute_of_calm calm, Request.outcome, run_of_calm calm]
    refine ⟨halted, steps_of_le ?_ enough⟩
    intro running
    rw [halted] at running
    cases running

/-- A module with a comment and a command behind its end, just after the `end`. -/
def afterModule : Machine :=
  new.afterRequests
    [.load ⟨#[⟨["begin"]⟩, ⟨["end"]⟩, ⟨["#", "note"]⟩, ⟨["print"]⟩]⟩, .execute 2]

theorem end_is_final_afterModule :
    Reachable afterModule ∧ afterModule.phase = .ending ∧
      ∃ address, EndedAt address (afterModule.afterRequests [.enter "ld 7", .execute 1]) ∧
        Lasting afterModule (afterModule.afterRequests [.enter "ld 7", .execute 1]) ∧
        ((afterModule.afterRequests [.enter "ld 7", .execute 1]).execute 3).result =
          .ok (.ended .halted) ∧
        (Request.run 0).outcome (afterModule.afterRequests [.enter "ld 7", .execute 1]) =
          (afterModule.afterRequests [.enter "ld 7", .execute 1]).execute 3 := by
  have reachable : Reachable afterModule := ⟨"", _, rfl⟩
  obtain ⟨address, final⟩ := end_is_final reachable rfl
  obtain ⟨endedAt, lasting, _, _, run⟩ :=
    final [.enter "ld 7", .execute 1] _ (by decide) rfl
  exact ⟨reachable, rfl, address, endedAt, lasting, run 3 0 rfl rfl (by decide)⟩

/-- A machine that has halted behind the last line. -/
def haltedModule : Machine :=
  new.afterRequests [.load ⟨#[⟨["begin"]⟩, ⟨["end"]⟩]⟩, .run 0]

/-- Calls after the end are not free of faults: a line that is too long is refused,
and a pending break is noticed. -/
theorem calls_after_end_can_fail :
    (Reachable haltedModule ∧ haltedModule.phase = .ending ∧
      ((Request.enter (String.ofList (List.replicate 1025 'x'))).outcome haltedModule).result =
        .error ⟨.lineBufferOverflow, some 3, ""⟩) ∧
    (Reachable haltedModule.interrupt ∧ haltedModule.interrupt.phase = .ending ∧
      (Request.execute 1).outcome haltedModule.interrupt =
        ⟨haltedModule, #[.fault ⟨.interrupted, some 3, ""⟩],
          .error ⟨.interrupted, some 3, ""⟩⟩) := by
  have tooLong : ¬ (String.ofList (List.replicate 1025 'x')).utf8ByteSize ≤
      Program.lineBuffer := by
    decide +kernel
  refine ⟨⟨⟨"", _, rfl⟩, rfl, ?_⟩, ⟨"", [_, .run 0, .interrupt], rfl⟩, rfl, rfl⟩
  rw [enter_outcome, if_neg tooLong]
  rfl

end Machine

end AccumulatorMachine
