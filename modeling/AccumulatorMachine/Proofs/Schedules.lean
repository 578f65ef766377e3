import AccumulatorMachine.Proofs.Slicing

/-!
# Entering a program while it runs

Lines can be entered while a machine is already running the lines before them.
A machine that knows only the first part of a program takes the same steps as a
machine that knows all of it, until it finds that the program has ended; then it
waits for more lines without having changed anything.  So every schedule of
entering lines and running slices ends like the run of the whole program.
-/

namespace AccumulatorMachine

/-! ## Parts of a program -/

namespace Program

/-- The program whose lines are given as texts. -/
def ofTexts (texts : List String) : Program :=
  ⟨(texts.map Line.ofString).toArray⟩

/-- Every line of the first program stands at the same address in the second. -/
def PartOf (part whole : Program) : Prop :=
  ∀ address line, part.line? address = some line → whole.line? address = some line

theorem partOf_ofTexts_append (known further : List String) :
    (ofTexts known).PartOf (ofTexts (known ++ further)) := by
  intro address line found
  simp only [line?, ofTexts, List.getElem?_toArray, List.map_append] at found ⊢
  obtain ⟨inside, _⟩ := List.getElem?_eq_some_iff.mp found
  rw [List.getElem?_append_left inside]
  exact found

theorem enter_ofTexts {known : List String} {s : String}
    (fits : s.utf8ByteSize ≤ lineBuffer) :
    (ofTexts known).enter s = .ok (ofTexts (known ++ [s])) := by
  rw [enter_of_fits fits]
  simp [push, ofTexts]

end Program

namespace Machine

/-! ## Steps in a larger program -/

/-- Behind the last line a step finds that the program has ended. -/
theorem step_of_absent {machine : Machine} {address : Nat}
    (located : machine.counter = address)
    (absent : machine.program.line? address = none) :
    ∃ ending, machine.step = .ok (.finish ending) := by
  rw [step_at located, absent]
  exact ⟨_, rfl⟩

/-- A step that does not end a part of a program is a step of the whole. -/
theorem step_of_partOf {machine : Machine} (setting : Setting)
    (part : machine.program.PartOf setting.program)
    (unended : ∀ ending, machine.step ≠ .ok (.finish ending)) :
    (machine.withSetting setting).step =
      machine.step.map (Transition.withSetting setting) := by
  apply machine.step_withSetting setting
  intro address located
  cases found : machine.program.line? address with
  | none =>
      obtain ⟨ending, ended⟩ := step_of_absent located found
      exact absurd ended (unended ending)
  | some line => exact part address line found

end Machine

namespace Outcome

/-- The same outcome in another setting, where an ended run is not yet over. -/
def suspended (setting : Setting) (outcome : Outcome) : Outcome where
  machine := outcome.machine.withSetting setting
  log := outcome.log
  result := outcome.result.map fun _ => .running

end Outcome

namespace Machine

/-- Whatever a machine does with a part of a program, it does with the whole as
well, where it is then not yet over unless it has failed. -/
theorem exists_steps_suspended {machine : Machine} {setting : Setting}
    (part : machine.program.PartOf setting.program) (log : Array Entry) (cycles : Nat) :
    ∃ taken, (machine.withSetting setting).steps log taken =
      (machine.steps log cycles).suspended setting := by
  induction cycles generalizing machine log with
  | zero => exact ⟨0, rfl⟩
  | succ cycles inductionHypothesis =>
      rw [steps_succ]
      cases stepped : machine.step with
      | error fault =>
          have sameStep := step_of_partOf setting part (by simp [stepped])
          refine ⟨1, ?_⟩
          rw [steps_succ, sameStep, stepped]
          rfl
      | ok transition =>
          cases transition with
          | finish ending =>
              -- the whole program may go on from here, so it takes no step for this one
              exact ⟨0, rfl⟩
          | advance next lines =>
              have sameStep := step_of_partOf setting part (by simp [stepped])
              have samePart : next.program.PartOf setting.program := by
                have kept := congrArg Setting.program (setting_of_step stepped)
                rw [show next.program = machine.program from kept]
                exact part
              obtain ⟨taken, reached⟩ := inductionHypothesis samePart
                (log ++ (lines.map Entry.output).toArray)
              refine ⟨taken + 1, ?_⟩
              rw [steps_succ, sameStep, stepped]
              exact reached

end Machine

/-! ## Schedules -/

/-- A call on a machine. -/
inductive Call where
  | enter (s : String)
  | execute (cycles : Nat)
  deriving DecidableEq, Repr

namespace Call

/-- The outcome of a call.  Entering a line logs nothing, and a line that is not
refused leaves the program running. -/
def outcome (machine : Machine) : Call → Outcome
  | enter s =>
      match (Machine.enterM s).run machine with
      | .ok _ entered => ⟨entered, #[], .ok .running⟩
      | .error fault left => ⟨left, #[], .error fault⟩
  | execute cycles => machine.execute cycles

theorem outcome_of_accepted {machine entered : Machine} {s : String}
    (accepted : machine.enter s = .ok entered) :
    (enter s).outcome machine = ⟨entered, #[], .ok .running⟩ := by
  rw [outcome, Machine.enterM_of_accepted accepted]

theorem outcome_of_refused {machine : Machine} {s : String} {fault : Fault}
    (refused : machine.enter s = .error fault) :
    (enter s).outcome machine = ⟨machine, #[], .error fault⟩ := by
  rw [outcome, Machine.enterM_of_refused refused]

/-- The lines that are entered by calls. -/
def entered : List Call → List String
  | [] => []
  | enter s :: calls => s :: entered calls
  | execute _ :: calls => entered calls

end Call

/-- Make calls one after another, adding to a log, and run to the end with a
bound on the slices.  The first call that fails is the last one. -/
def Machine.play (machine : Machine) (log : Array Entry) (bound : Nat) :
    List Call → Outcome
  | [] => (machine.run bound).after log
  | call :: calls =>
      let outcome := (call.outcome machine).after log
      match outcome.result with
      | .ok _ => outcome.machine.play outcome.log bound calls
      | .error _ => outcome

namespace Outcome

/-- What a schedule may give when the run of the whole program has a given
outcome: the same without a fault, and the same but for the lines that have not
been entered in case of a fault. -/
def Agrees (whole outcome : Outcome) : Prop :=
  match outcome.result with
  | .ok _ => outcome = whole
  | .error fault =>
      whole = ⟨outcome.machine.withSetting whole.machine.setting, outcome.log, .error fault⟩

theorem agrees_refl (outcome : Outcome) : Agrees outcome outcome := by
  obtain ⟨machine, log, result⟩ := outcome
  cases result <;> rfl

theorem Agrees.eq_of_ok {whole outcome : Outcome} (agrees : Agrees whole outcome)
    {event : Event} (ended : whole.result = .ok event) : outcome = whole := by
  unfold Agrees at agrees
  split at agrees
  · exact agrees
  · rw [agrees] at ended
    cases ended

theorem Agrees.of_error {whole outcome : Outcome} (agrees : Agrees whole outcome)
    {fault : Fault} (failed : whole.result = .error fault) :
    outcome.result = .error fault ∧ outcome.log = whole.log ∧
      outcome.machine.withSetting whole.machine.setting = whole.machine := by
  unfold Agrees at agrees
  split at agrees
  · next event ended =>
      rw [agrees, failed] at ended
      cases ended
  · next cause result =>
      have sameFault : cause = fault := by
        rw [agrees] at failed
        exact Except.error.inj failed
      refine ⟨sameFault ▸ result, ?_, ?_⟩
      · exact (congrArg Outcome.log agrees).symm
      · exact (congrArg Outcome.machine agrees).symm

end Outcome

namespace Machine

/-- The state of a schedule in which some lines of a program have been entered:
a machine with the whole program comes through the same state. -/
structure Behind (whole : Machine) (known : List String) (machine : Machine)
    (log : Array Entry) : Prop where
  setting_eq : machine.setting = { whole.setting with program := Program.ofTexts known }
  reached : ∃ taken, whole.steps #[] taken =
    ⟨machine.withSetting whole.setting, log, .ok .running⟩

namespace Behind

variable {whole machine : Machine} {known : List String} {log : Array Entry}

theorem program_eq (behind : Behind whole known machine log) :
    machine.program = Program.ofTexts known :=
  congrArg Setting.program behind.setting_eq

theorem calm (behind : Behind whole known machine log)
    (wholeCalm : whole.interrupted = false) : machine.interrupted = false :=
  (congrArg Setting.interrupted behind.setting_eq).trans wholeCalm

theorem enter {s : String} (behind : Behind whole known machine log)
    (fits : s.utf8ByteSize ≤ Program.lineBuffer) :
    ∃ entered, machine.enter s = .ok entered ∧
      Behind whole (known ++ [s]) entered log := by
  refine ⟨{ machine with program := Program.ofTexts (known ++ [s]) }, ?_, ?_, ?_⟩
  · rw [enter_eq, behind.program_eq, Program.enter_ofTexts fits]
    rfl
  · exact congrArg
      (fun setting => { setting with program := Program.ofTexts (known ++ [s]) })
      behind.setting_eq
  · exact behind.reached

/-- A slice of the part is matched by steps of the whole. -/
theorem exists_steps (behind : Behind whole known machine log)
    (part : (Program.ofTexts known).PartOf whole.program) (cycles : Nat) :
    ∃ taken, whole.steps #[] taken = (machine.steps log cycles).suspended whole.setting := by
  obtain ⟨before, reached⟩ := behind.reached
  have partOfWhole : machine.program.PartOf whole.setting.program := by
    rw [behind.program_eq]
    exact part
  obtain ⟨further, suspended⟩ := exists_steps_suspended partOfWhole log cycles
  refine ⟨before + further, ?_⟩
  rw [steps_add, reached]
  exact suspended

/-- A slice that does not fail keeps the part behind the whole. -/
theorem steps (behind : Behind whole known machine log)
    (part : (Program.ofTexts known).PartOf whole.program) {cycles : Nat} {event : Event}
    (unfailed : (machine.steps log cycles).result = .ok event) :
    Behind whole known (machine.steps log cycles).machine (machine.steps log cycles).log where
  setting_eq := (machine.setting_steps log cycles).trans behind.setting_eq
  reached := by
    obtain ⟨taken, suspended⟩ := behind.exists_steps part cycles
    refine ⟨taken, suspended.trans ?_⟩
    rw [Outcome.suspended, unfailed]
    rfl

/-- Once all lines have been entered, the part is the whole. -/
theorem exists_steps_of_complete (behind : Behind whole known machine log)
    (complete : whole.program = Program.ofTexts known) (cycles : Nat) :
    ∃ taken, cycles ≤ taken ∧ whole.steps #[] taken = machine.steps log cycles := by
  obtain ⟨before, reached⟩ := behind.reached
  have sameSetting : machine.setting = whole.setting := by
    rw [behind.setting_eq, ← complete]
    rfl
  refine ⟨before + cycles, Nat.le_add_left cycles before, ?_⟩
  rw [steps_add, reached, ← sameSetting, withSetting_setting]
  rfl

end Behind

/-- A schedule that has the rest of the program still to enter agrees with the
run of the whole program. -/
theorem agrees_play {whole : Machine} (calm : whole.interrupted = false)
    {needed bound : Nat} (finished : (whole.steps #[] needed).result ≠ .ok .running)
    (enough : needed ≤ bound * sliceCycles)
    {calls : List Call} {known : List String} {machine : Machine} {log : Array Entry}
    (complete : whole.program = Program.ofTexts (known ++ Call.entered calls))
    (fit : ∀ s ∈ Call.entered calls, s.utf8ByteSize ≤ Program.lineBuffer)
    (behind : Behind whole known machine log) :
    Outcome.Agrees (whole.steps #[] needed) (machine.play log bound calls) := by
  induction calls generalizing known machine log with
  | nil =>
      rw [Call.entered, List.append_nil] at complete
      obtain ⟨taken, large, same⟩ :=
        behind.exists_steps_of_complete complete (bound * sliceCycles)
      have played : machine.play log bound [] = whole.steps #[] needed := by
        rw [play, run_of_calm (behind.calm calm), after_steps, ← same]
        exact steps_of_le finished (Nat.le_trans enough large)
      rw [played]
      exact Outcome.agrees_refl _
  | cons call calls inductionHypothesis =>
      cases call with
      | enter s =>
          obtain ⟨entered, accepted, laterBehind⟩ :=
            behind.enter (fit s List.mem_cons_self)
          have played : machine.play log bound (.enter s :: calls) =
              entered.play log bound calls := by
            simp only [play, Call.outcome_of_accepted accepted, Outcome.after,
              Array.append_empty]
          rw [played]
          refine inductionHypothesis ?_ ?_ laterBehind
          · rw [complete, List.append_assoc]
            rfl
          · intro other member
            exact fit other (List.mem_cons_of_mem s member)
      | execute cycles =>
          have part : (Program.ofTexts known).PartOf whole.program := by
            rw [complete]
            exact Program.partOf_ofTexts_append known _
          have sliced : ((Call.execute cycles).outcome machine).after log =
              machine.steps log cycles := by
            rw [Call.outcome, execute_of_calm (behind.calm calm), after_steps]
          rw [play]
          simp only [sliced]
          cases result : (machine.steps log cycles).result with
          | ok event =>
              exact inductionHypothesis complete fit (behind.steps part result)
          | error fault =>
              -- the whole program fails here as well, and a run is over in only one way
              obtain ⟨taken, suspended⟩ := behind.exists_steps part cycles
              rw [Outcome.suspended, result] at suspended
              have failed : (whole.steps #[] taken).result ≠ .ok .running := by
                rw [suspended]
                intro impossible
                cases impossible
              have same := steps_unique finished failed
              rw [suspended] at same
              rw [Outcome.Agrees, result, setting_steps]
              exact same

/-- A machine that is about to run all lines of a text. -/
def batch (texts : List String) : Machine :=
  new.load (Program.ofTexts texts)

/-- Entering a program while it runs agrees with running it as a whole.  A
schedule enters the lines of a batch in order, runs slices before, between and
after them, and finally runs to the end.  If the batch ends without a fault,
every schedule gives the same outcome.  If the batch fails, in every schedule
the first call that fails gives the same fault, the log up to this call is the
same, and so is the machine but for lines that have not been entered. -/
theorem play_agrees_with_batch (texts : List String)
    (fit : ∀ s ∈ texts, s.utf8ByteSize ≤ Program.lineBuffer)
    (calls : List Call) (inOrder : Call.entered calls = texts) (slices : Nat) :
    (∀ ending, ((batch texts).run slices).result = .ok (.ended ending) →
      ∃ enough, ∀ bound, enough ≤ bound →
        new.play #[] bound calls = (batch texts).run slices) ∧
    (∀ fault, ((batch texts).run slices).result = .error fault →
      ∃ enough, ∀ bound, enough ≤ bound →
        (new.play #[] bound calls).result = .error fault ∧
        (new.play #[] bound calls).log = ((batch texts).run slices).log ∧
        (new.play #[] bound calls).machine.withSetting (batch texts).setting =
          ((batch texts).run slices).machine) := by
  have calm : (batch texts).interrupted = false := rfl
  have whole : (batch texts).run slices =
      (batch texts).steps #[] (slices * sliceCycles) :=
    run_of_calm calm slices
  have complete : (batch texts).program =
      Program.ofTexts ([] ++ Call.entered calls) := by
    rw [inOrder]
    rfl
  have agrees (finished : ((batch texts).run slices).result ≠ .ok .running)
      {bound : Nat} (enough : slices ≤ bound) :
      Outcome.Agrees ((batch texts).run slices) (new.play #[] bound calls) := by
    rw [whole] at finished ⊢
    exact agrees_play calm finished (Nat.mul_le_mul_right sliceCycles enough) complete
      (inOrder ▸ fit) ⟨rfl, 0, rfl⟩
  constructor
  · intro ending ended
    refine ⟨slices, fun bound enough => ?_⟩
    exact (agrees (by simp [ended]) enough).eq_of_ok ended
  · intro fault failed
    refine ⟨slices, fun bound enough => ?_⟩
    have sameSetting : ((batch texts).run slices).machine.setting =
        (batch texts).setting := by
      rw [whole, setting_steps]
    rw [← sameSetting]
    exact (agrees (by simp [failed]) enough).of_error failed

/-- Schedules in which a jump waits for its target, with and without a fault
there. -/
theorem play_agrees_with_batch_jump :
    ((∀ s ∈ ["begin", "jmp 4", "print", "end", "ld 1"],
        s.utf8ByteSize ≤ Program.lineBuffer) ∧
      ((batch ["begin", "jmp 4", "print", "end", "ld 1"]).run 1).result =
        .ok (.ended .halted) ∧
      ∃ enough, ∀ bound, enough ≤ bound →
        new.play #[] bound
            [.execute 3, .enter "begin", .enter "jmp 4", .execute 9, .enter "print",
              .execute 1, .enter "end", .enter "ld 1", .execute 2] =
          (batch ["begin", "jmp 4", "print", "end", "ld 1"]).run 1) ∧
    ((∀ s ∈ ["begin", "jmp 4", "print", "add x"],
        s.utf8ByteSize ≤ Program.lineBuffer) ∧
      ((batch ["begin", "jmp 4", "print", "add x"]).run 1).result =
        .error ⟨.typeMismatch, some 4, "\"\""⟩ ∧
      ∃ enough, ∀ bound, enough ≤ bound →
        (new.play #[] bound
            [.enter "begin", .enter "jmp 4", .execute 9, .enter "print", .enter "add x",
              .execute 1]).result = .error ⟨.typeMismatch, some 4, "\"\""⟩) := by
  have waitingFits : ∀ s ∈ ["begin", "jmp 4", "print", "end", "ld 1"],
      s.utf8ByteSize ≤ Program.lineBuffer := by
    decide
  have failingFits : ∀ s ∈ ["begin", "jmp 4", "print", "add x"],
      s.utf8ByteSize ≤ Program.lineBuffer := by
    decide
  refine ⟨⟨waitingFits, rfl, ?_⟩, ⟨failingFits, rfl, ?_⟩⟩
  · exact (play_agrees_with_batch _ waitingFits _ rfl 1).1 .halted rfl
  · obtain ⟨enough, same⟩ :=
      (play_agrees_with_batch _ failingFits
        [.enter "begin", .enter "jmp 4", .execute 9, .enter "print", .enter "add x",
          .execute 1] rfl 1).2 ⟨.typeMismatch, some 4, "\"\""⟩ rfl
    exact ⟨enough, fun bound large => (same bound large).1⟩

end Machine

end AccumulatorMachine
