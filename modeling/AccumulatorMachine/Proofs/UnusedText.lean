import AccumulatorMachine.Proofs.Lockstep

/-!
# Text that a line does not use

A blank line is passed over whatever it says.  Of any other line the machine looks at
the command word and at no more operands than the command needs: at the name and the
joined rest of a definition, at the first operand of the commands that have one and of
a procedure header, and at none of the others.  Lines that agree in this much are
equivalent, and a program cannot be told from one with equivalent lines.
-/

namespace AccumulatorMachine

namespace Line

/-- The command words that use their first operand and nothing else. -/
def operandWords : List String :=
  ["ld", "sav", "add", "sub", "mul", "div", "cmp", "setf", "rstf", "proc",
    "jmp", "jaz", "jap", "jan"]

/-- Two lines agree in the operands that a command word uses. -/
def SameOperands (word : String) (first second : Line) : Prop :=
  if word = "def" then
    first.tokens[1]? = second.tokens[1]? ∧
      (first.tokens.drop 2 = [] ↔ second.tokens.drop 2 = []) ∧
        String.join (first.tokens.drop 2) = String.join (second.tokens.drop 2)
  else if word ∈ operandWords ∨ "procdef".toList <+: word.toList then
    first.tokens[1]? = second.tokens[1]?
  else True

/-- Two lines are blank, or have the same command word and agree in the operands that
it uses. -/
def Equivalent (first second : Line) : Prop :=
  first.isBlank = true ∧ second.isBlank = true ∨
    first.isBlank = false ∧ second.isBlank = false ∧ first.command = second.command ∧
      SameOperands first.command first second

instance (word : String) (first second : Line) :
    Decidable (SameOperands word first second) :=
  inferInstanceAs (Decidable (ite _ _ _))

instance (first second : Line) : Decidable (Equivalent first second) :=
  inferInstanceAs (Decidable (_ ∨ _))

variable {first second : Line}

theorem operand_congr (sameCommand : first.command = second.command)
    (sameOperand : first.tokens[1]? = second.tokens[1]?) :
    first.operand 1 = second.operand 1 := by
  simp only [operand, sameCommand, sameOperand]

theorem operandsJoined_congr (sameCommand : first.command = second.command)
    (samePresence : first.tokens.drop 2 = [] ↔ second.tokens.drop 2 = [])
    (sameText : String.join (first.tokens.drop 2) = String.join (second.tokens.drop 2)) :
    first.operandsJoined 2 = second.operandsJoined 2 := by
  have sameLength : 2 < first.tokens.length ↔ 2 < second.tokens.length := by
    simpa [List.drop_eq_nil_iff] using not_congr samePresence
  simp only [operandsJoined, sameLength, sameText, sameCommand]

/-- A command decodes equivalent lines to the same instruction, or refuses them with
the same fault. -/
theorem decode_congr {mnemonic : Mnemonic} (known : mnemonic.word = first.command)
    (sameCommand : first.command = second.command)
    (same : SameOperands first.command first second) :
    mnemonic.decode first = mnemonic.decode second := by
  rw [← known] at same
  cases mnemonic with
  | define =>
      obtain ⟨sameName, samePresence, sameText⟩ := same
      simp only [Mnemonic.decode, operand_congr sameCommand sameName,
        operandsJoined_congr sameCommand samePresence sameText]
  | load | save | call | setFlag | resetFlag | jump =>
      have sameOperand : first.tokens[1]? = second.tokens[1]? := same
      simp only [Mnemonic.decode, flagOperand, wordOperand,
        operand_congr sameCommand sameOperand]
  | arith op =>
      have sameOperand : first.tokens[1]? = second.tokens[1]? := by
        cases op <;> exact same
      simp only [Mnemonic.decode, operand_congr sameCommand sameOperand]
  | branch condition =>
      have sameOperand : first.tokens[1]? = second.tokens[1]? := by
        cases condition <;> exact same
      simp only [Mnemonic.decode, sameOperand]
  | beginModule | endModule | endProcedure | dump | print | help => rfl

/-- A header is never the line of a definition, so its first operand is compared. -/
theorem operand_eq_of_isHeader (opening : first.isHeader = true)
    (sameCommand : first.command = second.command)
    (same : SameOperands first.command first second) :
    first.operand 1 = second.operand 1 := by
  have prefixed : "procdef".toList <+: first.command.toList :=
    List.isPrefixOf_iff_prefix.mp opening
  have undefined : first.command ≠ "def" := by
    intro word
    rw [word] at prefixed
    revert prefixed
    decide
  rw [SameOperands, if_neg undefined, if_pos (Or.inr prefixed)] at same
  exact operand_congr sameCommand same

end Line

/-- Two programs of the same length whose lines are equivalent one by one. -/
def Program.Equivalent (first second : Program) : Prop :=
  Linewise Line.Equivalent first second

instance (first second : Program) : Decidable (first.Equivalent second) :=
  inferInstanceAs (Decidable (List.Forall₂ _ _ _))

namespace Machine

variable {machine : Machine} {address : Nat} {first second : Line}

theorem runLine_congr (sameCommand : first.command = second.command)
    (same : Line.SameOperands first.command first second) (admitted : Mnemonic → Bool) :
    machine.runLine address first admitted = machine.runLine address second admitted := by
  unfold runLine
  rw [← sameCommand]
  cases known : Mnemonic.ofWord? first.command with
  | none => rfl
  | some mnemonic =>
      have word : mnemonic.word = first.command := Mnemonic.ofWord?_eq_some_iff.mp known
      simp only [Line.decode_congr word sameCommand same]

theorem handleLine_congr (sameCommand : first.command = second.command)
    (same : Line.SameOperands first.command first second) :
    machine.handleLine address first = machine.handleLine address second := by
  have sameHeader : second.isHeader = first.isHeader := by
    simp only [Line.isHeader, sameCommand]
  unfold handleLine
  cases machine.phase with
  | ending => rfl
  | running => exact runLine_congr sameCommand same _
  | scanning =>
      dsimp only
      rw [sameHeader, runLine_congr sameCommand same]
      cases opening : first.isHeader with
      | true =>
          have sameName := Line.operand_eq_of_isHeader opening sameCommand same
          simp only [if_true, openProcedure, sameName]
      | false => simp only [Bool.false_eq_true, if_false, skipBody, sameCommand]

theorem handlesAlike_of_equivalent (machine : Machine) (address : Nat)
    (equivalent : first.Equivalent second) : machine.HandlesAlike address first second := by
  rcases equivalent with ⟨blank, otherBlank⟩ | ⟨filled, otherFilled, sameCommand, same⟩
  · exact ⟨otherBlank.trans blank.symm, by simp [blank]⟩
  · exact ⟨otherFilled.trans filled.symm, fun _ => (handleLine_congr sameCommand same).symm⟩

/-! ## Runs of equivalent programs -/

def withProgram (machine : Machine) (program : Program) : Machine :=
  { machine with program }

/-- The second machine is the first one with an equivalent program. -/
structure Reworded (other : Program) (first second : Machine) : Prop where
  equivalent : first.program.Equivalent other
  machine_eq : second = first.withProgram other

theorem keptByStep_reworded (other : Program) :
    KeptByStep (Reworded other) Eq fun _ => True := by
  rintro first second ⟨equivalent, machine_eq⟩ _
  have handled (address : Nat) :
      Program.Linewise (first.HandlesAlike address) first.program other :=
    List.Forall₂.imp (fun _ _ => handlesAlike_of_equivalent first address) equivalent
  have sameStep := first.step_withSetting_of_handlesAlike
    { first.setting with program := other } fun address _ => (handled address).line? address
  have otherSetting : first.withProgram other =
      first.withSetting { first.setting with program := other } := rfl
  rw [machine_eq, otherSetting, sameStep]
  cases stepped : first.step with
  | error fault => exact Matches.error fault
  | ok transition =>
      cases transition with
      | finish ending => exact Matches.ok (.finish ending)
      | advance next lines =>
          have sameSetting : next.setting = first.setting := setting_of_step stepped
          have sameProgram : next.program = first.program :=
            congrArg Setting.program sameSetting
          have nextReworded : Reworded other next
              (next.withSetting { first.setting with program := other }) := by
            rw [← sameSetting]
            exact ⟨sameProgram ▸ equivalent, rfl⟩
          exact Matches.ok (.advance nextReworded (List.forall₂_same.mpr fun _ _ => rfl))

/-- Text that no instruction uses cannot influence a run: programs whose lines are
equivalent one by one, loaded with the same initial accumulator, give the same result
and the same log after any number of cycles, and leave machines that differ in nothing
but their programs. -/
theorem unused_text_immaterial {program other : Program}
    (equivalent : program.Equivalent other) {machine otherMachine : Machine}
    (sameInitial : otherMachine.initialAccumulator = machine.initialAccumulator)
    (cycles : Nat) :
    ((otherMachine.load other).execute cycles).result =
        ((machine.load program).execute cycles).result ∧
      ((otherMachine.load other).execute cycles).log =
        ((machine.load program).execute cycles).log ∧
      ((otherMachine.load other).execute cycles).machine =
        ((machine.load program).execute cycles).machine.withProgram other := by
  have calm : (machine.load program).interrupted = false := rfl
  have otherCalm : (otherMachine.load other).interrupted = false := rfl
  have reworded : Reworded other (machine.load program) (otherMachine.load other) := by
    refine ⟨equivalent, ?_⟩
    rw [load_eq_start, load_eq_start, sameInitial]
    rfl
  rw [execute_of_calm calm, execute_of_calm otherCalm]
  have related := (keptByStep_reworded other).steps reworded List.Forall₂.nil cycles
    fun _ _ _ => trivial
  exact ⟨related.result_eq, related.log_eq.symm, related.machine.machine_eq⟩

/-- A procedure, a definition, an unknown word and a fault, with nothing but what is used. -/
def terse : Program :=
  ⟨#[⟨["procdef", "p"]⟩, ⟨["endproc"]⟩, ⟨[]⟩, ⟨["begin"]⟩, ⟨["def", "x", "&v+1"]⟩,
    ⟨["ld", "5"]⟩, ⟨["sav", "x"]⟩, ⟨["proc", "p"]⟩, ⟨["dump"]⟩, ⟨["mystery"]⟩,
    ⟨["add", "y"]⟩]⟩

/-- The same program with text added wherever it is not used. -/
def verbose : Program :=
  ⟨#[⟨["procdef", "p", "(", ")"]⟩, ⟨["endproc", "p"]⟩, ⟨["#", "main", "part"]⟩,
    ⟨["begin", "here"]⟩, ⟨["def", "x", "&v", "+", "1"]⟩, ⟨["ld", "5", "#", "five"]⟩,
    ⟨["sav", "x", "y"]⟩, ⟨["proc", "p", "1"]⟩, ⟨["dump", "all"]⟩, ⟨["mystery", "word"]⟩,
    ⟨["add", "y", "1"]⟩]⟩

theorem unused_text_immaterial_verbose :
    terse.Equivalent verbose ∧ verbose ≠ terse ∧
      ((new.load terse).execute 20).result =
        .error ((Fault.about .typeMismatch "\"y\"").atLine 11) ∧
      ((new.load verbose).execute 20).result = ((new.load terse).execute 20).result ∧
      ((new.load verbose).execute 20).log = ((new.load terse).execute 20).log ∧
      ((new.load verbose).execute 20).machine =
        ((new.load terse).execute 20).machine.withProgram verbose := by
  have equivalent : terse.Equivalent verbose := by decide
  exact ⟨equivalent, by decide, rfl, unused_text_immaterial equivalent rfl 20⟩

end Machine

end AccumulatorMachine
