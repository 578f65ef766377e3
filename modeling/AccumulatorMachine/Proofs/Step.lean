import AccumulatorMachine.Proofs.Faults

/-!
# What a step can do

Two facts about steps on which the theory of runs rests.

* The program, the initial accumulator and the break request are a setting in
  which a machine works: a step reads no more of it than the line at the counter,
  and leaves it as it is.
* A step that goes on does so in one of five ways, which are listed once and for
  all in `Machine.Advance`.  One of them is to perform an instruction, and what the
  instructions do then is listed in `Machine.Performed`.
-/

namespace AccumulatorMachine

/-! ## The setting of a machine -/

/-- What a machine carries along while it steps. -/
structure Setting where
  program : Program
  initialAccumulator : String
  interrupted : Bool

namespace Machine

/-- The setting of a machine. -/
def setting (machine : Machine) : Setting where
  program := machine.program
  initialAccumulator := machine.initialAccumulator
  interrupted := machine.interrupted

/-- The same machine in another setting. -/
def withSetting (machine : Machine) (setting : Setting) : Machine :=
  { machine with
    program := setting.program
    initialAccumulator := setting.initialAccumulator
    interrupted := setting.interrupted }

theorem withSetting_setting (machine : Machine) :
    machine.withSetting machine.setting = machine := rfl

theorem setting_withSetting (machine : Machine) (setting : Setting) :
    (machine.withSetting setting).setting = setting := rfl

theorem withSetting_withSetting (machine : Machine) (first second : Setting) :
    (machine.withSetting first).withSetting second = machine.withSetting second := rfl

end Machine

/-- The same transition in another setting. -/
def Transition.withSetting (setting : Setting) : Transition → Transition
  | .finish ending => .finish ending
  | .advance next lines => .advance (next.withSetting setting) lines

namespace Machine

variable (machine : Machine) (setting : Setting)

theorem call_withSetting (name : String) :
    (machine.withSetting setting).call name =
      (machine.call name).map (withSetting · setting) := by
  apply bind_eq_map_bind
  intro entry
  apply bind_eq_map_bind
  intro calls
  rfl

theorem endProcedure_withSetting :
    (machine.withSetting setting).endProcedure =
      machine.endProcedure.map (withSetting · setting) := by
  apply bind_eq_map_bind
  intro popped
  rfl

theorem branch_withSetting (condition : Condition) (target : Option String) :
    (machine.withSetting setting).branch condition target =
      (machine.branch condition target).map (withSetting · setting) := by
  apply bind_eq_map_bind
  intro value
  by_cases met : condition.holds value = true
  · rw [if_pos met, if_pos met]
    cases target with
    | none => rfl
    | some token =>
        apply bind_eq_map_bind
        intro number
        rfl
  · rw [if_neg met, if_neg met]
    rfl

/-- A result that only says where to go on silently. -/
theorem silent_withSetting {first second : Except Fault Machine}
    (same : first = second.map (withSetting · setting)) :
    (do return Transition.silent (← first)) =
      Except.map (Transition.withSetting setting)
        (do return Transition.silent (← second)) := by
  rw [same]
  cases second <;> rfl

/-- No instruction looks at the setting. -/
theorem perform_withSetting (instruction : Instruction) :
    (machine.withSetting setting).perform instruction =
      (machine.perform instruction).map (Transition.withSetting setting) := by
  cases instruction with
  | define name address =>
      apply bind_eq_map_bind
      intro cells
      rfl
  | arith op operand =>
      apply bind_eq_map_bind
      intro value
      cases value with
      | none => rfl
      | some value => rfl
  | call name =>
      exact silent_withSetting setting (machine.call_withSetting setting name)
  | endProcedure =>
      exact silent_withSetting setting (machine.endProcedure_withSetting setting)
  | branch condition target =>
      exact silent_withSetting setting
        (machine.branch_withSetting setting condition target)
  | _ => rfl

theorem runLine_withSetting (address : Nat) (line : Line) (admitted : Mnemonic → Bool) :
    (machine.withSetting setting).runLine address line admitted =
      (machine.runLine address line admitted).map (Transition.withSetting setting) := by
  unfold runLine
  cases Mnemonic.ofWord? line.command with
  | none => rfl
  | some mnemonic =>
      dsimp only
      by_cases allowed : admitted mnemonic = true
      · rw [if_pos allowed, if_pos allowed]
        exact bind_eq_map_bind (machine.perform_withSetting setting)
      · rw [if_neg allowed, if_neg allowed]
        rfl

theorem openProcedure_withSetting (address : Nat) (line : Line) :
    (machine.withSetting setting).openProcedure address line =
      (machine.openProcedure address line).map (withSetting · setting) := by
  apply bind_eq_map_bind
  intro name
  apply bind_eq_map_bind
  intro procedures
  rfl

theorem handleLine_withSetting (address : Nat) (line : Line) :
    (machine.withSetting setting).handleLine address line =
      (machine.handleLine address line).map (Transition.withSetting setting) := by
  have samePhase : (machine.withSetting setting).phase = machine.phase := rfl
  have sameBody : (machine.withSetting setting).inBody = machine.inBody := rfl
  unfold handleLine
  rw [samePhase, sameBody]
  cases machine.phase with
  | ending => rfl
  | running => exact machine.runLine_withSetting setting address line _
  | scanning =>
      dsimp only
      by_cases opening : line.isHeader = true
      · rw [if_pos opening, if_pos opening]
        exact silent_withSetting setting
          (machine.openProcedure_withSetting setting address line)
      · rw [if_neg opening, if_neg opening]
        cases machine.inBody with
        | true => rfl
        | false => exact machine.runLine_withSetting setting address line _

/-- The machine makes no difference between two lines at an address. -/
def HandlesAlike (address : Nat) (first second : Line) : Prop :=
  second.isBlank = first.isBlank ∧
    (first.isBlank = false → machine.handleLine address second = machine.handleLine address first)

/-- In another setting a machine steps in the same way, provided that it makes no
difference between the lines at its counter. -/
theorem step_withSetting_of_handlesAlike
    (alike : ∀ address : Nat, machine.counter = address →
      Option.Rel (machine.HandlesAlike address) (machine.program.line? address)
        (setting.program.line? address)) :
    (machine.withSetting setting).step =
      machine.step.map (Transition.withSetting setting) := by
  have sameCounter : (machine.withSetting setting).counter = machine.counter := rfl
  unfold step
  rw [sameCounter]
  cases located : machine.counter with
  | negSucc position => rfl
  | ofNat address =>
      have lines : Option.Rel (machine.HandlesAlike address)
          (machine.program.line? address) ((machine.withSetting setting).program.line? address) :=
        alike address located
      dsimp only
      generalize machine.program.line? address = found at lines ⊢
      generalize (machine.withSetting setting).program.line? address = otherFound at lines ⊢
      cases lines with
      | none => rfl
      | @some line other handled =>
          obtain ⟨sameBlank, sameHandling⟩ := handled
          dsimp only
          rw [sameBlank]
          cases blank : line.isBlank with
          | true => rfl
          | false =>
              rw [handleLine_withSetting, sameHandling blank]
              cases machine.handleLine address line <;> rfl

/-- In another setting a machine steps in the same way, provided that the line
at its counter is the same. -/
theorem step_withSetting
    (sameLine : ∀ address : Nat, machine.counter = address →
      setting.program.line? address = machine.program.line? address) :
    (machine.withSetting setting).step =
      machine.step.map (Transition.withSetting setting) := by
  apply machine.step_withSetting_of_handlesAlike setting
  intro address located
  rw [sameLine address located]
  cases machine.program.line? address with
  | none => exact Option.Rel.none
  | some line => exact Option.Rel.some ⟨rfl, fun _ => rfl⟩

variable {machine}

/-- A step leaves the setting as it is. -/
theorem setting_of_step {next : Machine} {lines : List String}
    (advanced : machine.step = .ok (.advance next lines)) :
    next.setting = machine.setting := by
  have inOwnSetting :=
    machine.step_withSetting machine.setting (fun _ _ => rfl)
  rw [withSetting_setting, advanced] at inOwnSetting
  injection inOwnSetting with sameTransition
  injection sameTransition with sameMachine
  rw [sameMachine, setting_withSetting]

/-! ## The ways of going on -/

/-- A step at a counter that is not negative. -/
theorem step_at {address : Nat} (located : machine.counter = address) :
    machine.step =
      match machine.program.line? address with
      | none => .ok (.finish (if machine.phase = .ending then .halted else .stopped))
      | some line =>
          if line.isBlank then .ok (.silent machine.next)
          else (machine.handleLine address line).mapError (·.atLine (address + 1)) := by
  unfold step
  rewrite [located]
  rfl

/-- The ways in which a step handles a line and goes on. -/
inductive Advance (machine : Machine) (address : Nat) (line : Line) :
    Machine → List String → Prop
  /-- A blank line is passed over. -/
  | blank :
      line.isBlank = true →
      Advance machine address line machine.next []
  /-- A header is registered during the scan. -/
  | header {name : String} {procedures : Procedures} :
      line.isBlank = false →
      machine.phase = .scanning →
      line.isHeader = true →
      line.operand 1 = .ok name →
      machine.procedures.register name address = .ok procedures →
      Advance machine address line
        { machine.next with procedures, inBody := true } []
  /-- A line of a body is skipped during the scan. -/
  | body :
      line.isBlank = false →
      machine.phase = .scanning →
      machine.inBody = true →
      line.isHeader = false →
      Advance machine address line (machine.skipBody line) []
  /-- An unknown word is reported. -/
  | unknown :
      line.isBlank = false →
      machine.phase = .running ∨
        machine.phase = .scanning ∧ machine.inBody = false ∧ line.isHeader = false →
      Mnemonic.ofWord? line.command = none →
      Advance machine address line machine.next
        [Report.unidentifiedLine (address + 1) line.command]
  /-- An instruction is performed. -/
  | command {mnemonic : Mnemonic} {instruction : Instruction} {next : Machine}
      {lines : List String} :
      line.isBlank = false →
      machine.phase = .running ∨
        machine.phase = .scanning ∧ machine.inBody = false ∧ line.isHeader = false ∧
          mnemonic = .beginModule →
      Mnemonic.ofWord? line.command = some mnemonic →
      mnemonic.decode line = .ok instruction →
      machine.perform instruction = .ok (.advance next lines) →
      Advance machine address line next lines

/-- A command that goes on is one that the table knows, that is admitted and
that decodes. -/
theorem runLine_eq_advance {address : Nat} {line : Line} {admitted : Mnemonic → Bool}
    {next : Machine} {lines : List String}
    (advanced : machine.runLine address line admitted = .ok (.advance next lines)) :
    (Mnemonic.ofWord? line.command = none ∧ next = machine.next ∧
        lines = [Report.unidentifiedLine (address + 1) line.command]) ∨
      ∃ mnemonic instruction, Mnemonic.ofWord? line.command = some mnemonic ∧
        admitted mnemonic = true ∧ mnemonic.decode line = .ok instruction ∧
          machine.perform instruction = .ok (.advance next lines) := by
  unfold runLine at advanced
  cases found : Mnemonic.ofWord? line.command with
  | none =>
      rw [found] at advanced
      cases advanced
      exact Or.inl ⟨rfl, rfl, rfl⟩
  | some mnemonic =>
      rw [found] at advanced
      dsimp only at advanced
      by_cases allowed : admitted mnemonic = true
      · rw [if_pos allowed] at advanced
        obtain ⟨instruction, decoded, performed⟩ := bind_eq_ok_iff.mp advanced
        exact Or.inr ⟨mnemonic, instruction, rfl, allowed, decoded, performed⟩
      · rw [if_neg allowed] at advanced
        cases advanced

theorem advance_of_handleLine {address : Nat} {line : Line} {next : Machine}
    {lines : List String} (filled : line.isBlank = false)
    (advanced : machine.handleLine address line = .ok (.advance next lines)) :
    Advance machine address line next lines := by
  unfold handleLine at advanced
  cases phase : machine.phase with
  | ending =>
      rw [phase] at advanced
      cases advanced
  | running =>
      rw [phase] at advanced
      rcases runLine_eq_advance advanced with
        ⟨absent, rfl, rfl⟩ | ⟨mnemonic, instruction, found, _, decoded, performed⟩
      · exact Advance.unknown filled (Or.inl phase) absent
      · exact Advance.command filled (Or.inl phase) found decoded performed
  | scanning =>
      rw [phase] at advanced
      dsimp only at advanced
      cases opening : line.isHeader with
      | true =>
          rw [if_pos opening] at advanced
          obtain ⟨opened, registering, silent⟩ := bind_eq_ok_iff.mp advanced
          obtain ⟨name, operand, registering⟩ := bind_eq_ok_iff.mp registering
          obtain ⟨procedures, registered, same⟩ := bind_eq_ok_iff.mp registering
          cases same
          cases silent
          exact Advance.header filled phase opening operand registered
      | false =>
          rw [if_neg (by simp [opening])] at advanced
          cases inBody : machine.inBody with
          | true =>
              rw [if_pos inBody] at advanced
              cases advanced
              exact Advance.body filled phase inBody opening
          | false =>
              rw [if_neg (by simp [inBody])] at advanced
              rcases runLine_eq_advance advanced with
                ⟨absent, rfl, rfl⟩ |
                  ⟨mnemonic, instruction, found, first, decoded, performed⟩
              · exact Advance.unknown filled (Or.inr ⟨phase, inBody, opening⟩) absent
              · exact Advance.command filled
                  (Or.inr ⟨phase, inBody, opening, by simpa using first⟩) found decoded
                  performed

/-- A step that goes on handles the line at the counter. -/
theorem advance_of_step {next : Machine} {lines : List String}
    (advanced : machine.step = .ok (.advance next lines)) :
    ∃ (address : Nat) (line : Line), machine.counter = address ∧
      machine.program.line? address = some line ∧
        Advance machine address line next lines := by
  unfold step at advanced
  split at advanced
  · cases advanced
  · next address located =>
      split at advanced
      · cases advanced
      · next line found =>
          refine ⟨address, line, located, found, ?_⟩
          cases blank : line.isBlank with
          | true =>
              rw [if_pos blank] at advanced
              cases advanced
              exact Advance.blank blank
          | false =>
              rw [if_neg (by simp [blank])] at advanced
              cases handled : machine.handleLine address line with
              | error fault =>
                  rw [handled] at advanced
                  cases advanced
              | ok transition =>
                  rw [handled] at advanced
                  cases advanced
                  exact advance_of_handleLine blank handled

/-! ## The work of the instructions -/

/-- What an instruction that does not fail makes of a machine, and the lines that it
writes. -/
inductive Performed (machine : Machine) : Instruction → Machine → List String → Prop
  | beginModule : Performed machine .beginModule { machine.next with phase := .running } []
  | endModule : Performed machine .endModule { machine.next with phase := .ending } []
  | define {name : String} {address : Int32} {cells : Cells} :
      machine.cells.bind address name = .ok cells →
      Performed machine (.define name address) { machine.next with cells } []
  | load {operand : String} :
      Performed machine (.load operand) (machine.accumulate (machine.resolve operand)) []
  | save {name : String} :
      Performed machine (.save name)
        { machine.next with cells := machine.cells.put name machine.accumulator } []
  | arith {op : ArithOp} {operand value : String} :
      op.apply machine.accumulator (machine.resolve operand) = .ok (some value) →
      Performed machine (.arith op operand) (machine.accumulate value) []
  /-- The operation has no value. -/
  | status {op : ArithOp} {operand : String} :
      op.apply machine.accumulator (machine.resolve operand) = .ok none →
      Performed machine (.arith op operand) machine.next [Report.statusLine (.arith op) 1]
  | setFlag {flag : Flag} :
      Performed machine (.setFlag flag)
        { machine.next with flags := machine.flags.put flag true } []
  | resetFlag {flag : Flag} :
      Performed machine (.resetFlag flag)
        { machine.next with flags := machine.flags.put flag false } []
  | call {name : String} {entry : Nat} {calls : CallStack} :
      machine.procedures.entry name = .ok entry →
      machine.calls.push machine.counter = .ok calls →
      Performed machine (.call name) { machine with calls, counter := entry + 1 } []
  | endProcedure {caller : Int} {calls : CallStack} :
      machine.calls.pop = .ok (caller, calls) →
      Performed machine .endProcedure { machine with calls, counter := caller + 1 } []
  | jump {target : Int32} : Performed machine (.jump target) (machine.goto target) []
  /-- The condition of a jump is not met. -/
  | pass {condition : Condition} {target : Option String} {value : Int32} :
      Integer.read machine.accumulator = .ok value →
      condition.holds value = false →
      Performed machine (.branch condition target) machine.next []
  | branch {condition : Condition} {token : String} {value number : Int32} :
      Integer.read machine.accumulator = .ok value →
      condition.holds value = true →
      Integer.read token = .ok number →
      Performed machine (.branch condition (some token)) (machine.goto number) []
  | dump : Performed machine .dump machine.next (Report.dumpLines machine)
  | print : Performed machine .print machine.next [Report.accumulatorLine machine]
  | help : Performed machine .help machine.next Report.helpLines

theorem performed_of_branch {next : Machine} {condition : Condition}
    {target : Option String} (branched : machine.branch condition target = .ok next) :
    Performed machine (.branch condition target) next [] := by
  obtain ⟨value, read, branching⟩ := bind_eq_ok_iff.mp branched
  cases met : condition.holds value with
  | false =>
      rw [if_neg (by simp [met])] at branching
      cases branching
      exact Performed.pass read met
  | true =>
      rw [if_pos met] at branching
      cases target with
      | none => cases branching
      | some token =>
          obtain ⟨number, readTarget, same⟩ := bind_eq_ok_iff.mp branching
          cases same
          exact Performed.branch read met readTarget

theorem performed_of_perform {instruction : Instruction} {next : Machine}
    {lines : List String}
    (performed : machine.perform instruction = .ok (.advance next lines)) :
    Performed machine instruction next lines := by
  cases instruction with
  | beginModule =>
      cases performed
      exact Performed.beginModule
  | endModule =>
      cases performed
      exact Performed.endModule
  | define name address =>
      obtain ⟨cells, bound, same⟩ := bind_eq_ok_iff.mp performed
      cases same
      exact Performed.define bound
  | load operand =>
      cases performed
      exact Performed.load
  | save name =>
      cases performed
      exact Performed.save
  | arith op operand =>
      obtain ⟨value, applied, same⟩ := bind_eq_ok_iff.mp performed
      cases value with
      | none =>
          cases same
          exact Performed.status applied
      | some value =>
          cases same
          exact Performed.arith applied
  | setFlag flag =>
      cases performed
      exact Performed.setFlag
  | resetFlag flag =>
      cases performed
      exact Performed.resetFlag
  | call name =>
      obtain ⟨called, calling, same⟩ := bind_eq_ok_iff.mp performed
      obtain ⟨entry, known, calling⟩ := bind_eq_ok_iff.mp calling
      obtain ⟨calls, pushed, done⟩ := bind_eq_ok_iff.mp calling
      cases done
      cases same
      exact Performed.call known pushed
  | endProcedure =>
      obtain ⟨returned, returning, same⟩ := bind_eq_ok_iff.mp performed
      obtain ⟨⟨caller, calls⟩, popped, done⟩ := bind_eq_ok_iff.mp returning
      cases done
      cases same
      exact Performed.endProcedure popped
  | jump target =>
      cases performed
      exact Performed.jump
  | branch condition target =>
      obtain ⟨branched, branching, same⟩ := bind_eq_ok_iff.mp performed
      cases same
      exact performed_of_branch branching
  | dump =>
      cases performed
      exact Performed.dump
  | print =>
      cases performed
      exact Performed.print
  | help =>
      cases performed
      exact Performed.help

end Machine

end AccumulatorMachine
