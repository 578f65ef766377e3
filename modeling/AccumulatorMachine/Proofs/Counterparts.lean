import AccumulatorMachine.Proofs.Lockstep
import AccumulatorMachine.Proofs.Reports

/-!
# Counterparts of a machine

The counterpart of a machine has another program and other cells, and is the same in
every other register.  Most of what a step does is done to both in the same way, because
few instructions look at cells.  Here this common part of a step is treated once, for
any relation between machines and their counterparts that depends on programs, cells
and flags only; the instructions that do work on cells or flags, or show them, are left
to the relation in question.
-/

namespace AccumulatorMachine

/-- Whether an instruction changes cells or flags or shows them. -/
def Instruction.handlesCells : Instruction → Bool
  | define _ _ | save _ | setFlag _ | resetFlag _ | dump => true
  | _ => false

namespace Machine

/-- The same machine with another program and other cells. -/
def counterpart (machine : Machine) (program : Program) (cells : Cells) : Machine :=
  { machine with program, cells }

/-- Every machine that has the program, the cells and the flags of this one is related to
its counterpart. -/
def RelatedAs (related : Machine → Machine → Prop) (machine : Machine) (program : Program)
    (cells : Cells) : Prop :=
  ∀ next : Machine, next.program = machine.program → next.cells = machine.cells →
    next.flags = machine.flags → related next (next.counterpart program cells)

section

variable {related : Machine → Machine → Prop} {alike : String → String → Prop}
  {machine : Machine} {program : Program} {cells : Cells}
  (kept : machine.RelatedAs related program cells) (plainly : ∀ s, Plain s → alike s s)

include plainly in
theorem forall₂_of_plain {lines : List String} (plain : ∀ s ∈ lines, Plain s) :
    List.Forall₂ alike lines lines :=
  List.forall₂_same.mpr fun s member => plainly s (plain s member)

include plainly in
/-- Two dumps are alike if their cells are. -/
theorem dumpLines_counterpart
    (shown : List.Forall₂ alike (machine.cells.toList.map Cell.text)
      (cells.toList.map Cell.text)) :
    List.Forall₂ alike (Report.dumpLines machine)
      (Report.dumpLines (machine.counterpart program cells)) := by
  rw [Report.dumpLines_eq, Report.dumpLines_eq]
  exact List.rel_append
    (List.rel_append (forall₂_of_plain plainly fun _ => Report.plain_of_mem_dumpHead) shown)
    (forall₂_of_plain plainly fun _ => Report.plain_of_mem_dumpTail)

theorem resolve_counterpart
    (resolved : machine.flags.stringMode = true ∨ ∀ name, cells.get? name = machine.cells.get? name)
    (token : String) :
    (machine.counterpart program cells).resolve token = machine.resolve token := by
  unfold resolve
  rcases resolved with stringMode | sameValues
  · simp [counterpart, stringMode]
  · simp [counterpart, sameValues]

include kept in
theorem call_counterpart (name : String) :
    Matches related (machine.call name) ((machine.counterpart program cells).call name) :=
  Matches.bind_same fun _ => Matches.bind_same fun _ => Matches.ok (kept _ rfl rfl rfl)

include kept in
theorem endProcedure_counterpart :
    Matches related machine.endProcedure
      (machine.counterpart program cells).endProcedure :=
  Matches.bind_same fun (_, _) => Matches.ok (kept _ rfl rfl rfl)

include kept in
theorem branch_counterpart (condition : Condition) (target : Option String) :
    Matches related (machine.branch condition target)
      ((machine.counterpart program cells).branch condition target) := by
  apply Matches.bind_same
  intro value
  by_cases met : condition.holds value = true
  · rw [if_pos met, if_pos met]
    cases target with
    | none => exact Matches.error _
    | some token => exact Matches.bind_same fun _ => Matches.ok (kept _ rfl rfl rfl)
  · rw [if_neg met, if_neg met]
    exact Matches.ok (kept _ rfl rfl rfl)

include kept plainly in
/-- An instruction that does not handle cells does the same to both machines, provided
that operands stand for the same in both. -/
theorem perform_counterpart {instruction : Instruction}
    (resolved : ∀ token, (machine.counterpart program cells).resolve token = machine.resolve token)
    (apart : instruction.handlesCells = false) :
    Matches (Transition.Related related alike) (machine.perform instruction)
      ((machine.counterpart program cells).perform instruction) := by
  have silently {left right : Except Fault Machine} (matching : Matches related left right) :
      Matches (Transition.Related related alike) (do return .silent (← left))
        (do return .silent (← right)) :=
    matching.bind fun _ _ related => Matches.ok (.silent related)
  have onward (lines : List String) (plain : ∀ s ∈ lines, Plain s) :
      Transition.Related related alike (.advance machine.next lines)
        (.advance (machine.counterpart program cells).next lines) :=
    .advance (kept _ rfl rfl rfl) (forall₂_of_plain plainly plain)
  cases instruction with
  | beginModule | endModule | jump => exact Matches.ok (.silent (kept _ rfl rfl rfl))
  | load operand =>
      rw [perform, perform, resolved]
      exact Matches.ok (.silent (kept _ rfl rfl rfl))
  | arith op operand =>
      rw [perform, perform, resolved]
      apply Matches.bind_same
      intro value
      cases value with
      | none => exact Matches.ok (onward _ (by simp [Report.plain_statusLine]))
      | some value => exact Matches.ok (.silent (kept _ rfl rfl rfl))
  | call name => exact silently (call_counterpart kept name)
  | endProcedure => exact silently (endProcedure_counterpart kept)
  | branch condition target => exact silently (branch_counterpart kept condition target)
  | print => exact Matches.ok (onward _ (by simp [Report.plain_accumulatorLine]))
  | help => exact Matches.ok (onward _ fun _ => Report.plain_of_mem_helpLines)
  | define | save | setFlag | resetFlag | dump => cases apart

include kept plainly in
theorem runLine_counterpart {address : Nat} {line : Line} {admitted : Mnemonic → Bool}
    (performed : ∀ mnemonic instruction, Mnemonic.ofWord? line.command = some mnemonic →
      admitted mnemonic = true → mnemonic.decode line = .ok instruction →
      Matches (Transition.Related related alike) (machine.perform instruction)
        ((machine.counterpart program cells).perform instruction)) :
    Matches (Transition.Related related alike) (machine.runLine address line admitted)
      ((machine.counterpart program cells).runLine address line admitted) := by
  unfold runLine
  cases known : Mnemonic.ofWord? line.command with
  | none =>
      refine Matches.ok (.advance (kept _ rfl rfl rfl) (forall₂_of_plain plainly ?_))
      simp [Report.plain_unidentifiedLine]
  | some mnemonic =>
      dsimp only
      by_cases allowed : admitted mnemonic = true
      · rw [if_pos allowed, if_pos allowed]
        cases decoded : mnemonic.decode line with
        | error fault => exact Matches.error fault
        | ok instruction => exact performed mnemonic instruction known allowed decoded
      · rw [if_neg allowed, if_neg allowed]
        exact Matches.error _

include kept in
theorem openProcedure_counterpart (address : Nat) (line : Line) :
    Matches related (machine.openProcedure address line)
      ((machine.counterpart program cells).openProcedure address line) :=
  Matches.bind_same fun _ => Matches.bind_same fun _ => Matches.ok (kept _ rfl rfl rfl)

include kept plainly in
/-- A machine and its counterpart handle the same line alike if they perform the
instruction on it alike. -/
theorem handleLine_counterpart {address : Nat} {line : Line}
    (performed : ∀ mnemonic instruction, Mnemonic.ofWord? line.command = some mnemonic →
      (machine.phase = .running ∨
        machine.phase = .scanning ∧ machine.inBody = false ∧ mnemonic = .beginModule) →
      mnemonic.decode line = .ok instruction →
      Matches (Transition.Related related alike) (machine.perform instruction)
        ((machine.counterpart program cells).perform instruction)) :
    Matches (Transition.Related related alike) (machine.handleLine address line)
      ((machine.counterpart program cells).handleLine address line) := by
  have samePhase : (machine.counterpart program cells).phase = machine.phase := rfl
  have sameBody : (machine.counterpart program cells).inBody = machine.inBody := rfl
  unfold handleLine
  rw [samePhase, sameBody]
  cases phase : machine.phase with
  | ending => exact Matches.ok (.finish .halted)
  | running =>
      apply runLine_counterpart kept plainly
      intro mnemonic instruction known _
      exact performed mnemonic instruction known (Or.inl phase)
  | scanning =>
      dsimp only
      by_cases header : line.isHeader = true
      · rw [if_pos header, if_pos header]
        exact (openProcedure_counterpart kept address line).bind
          fun _ _ related => Matches.ok (.silent related)
      · rw [if_neg header, if_neg header]
        cases mark : machine.inBody with
        | true => exact Matches.ok (.silent (kept _ rfl rfl rfl))
        | false =>
            apply runLine_counterpart kept plainly
            intro mnemonic instruction known admitted
            exact performed mnemonic instruction known
              (Or.inr ⟨phase, mark, eq_of_beq admitted⟩)

/-- Two lines are both blank, or a machine and its counterpart handle them alike. -/
def HandlesInStep (related : Machine → Machine → Prop) (alike : String → String → Prop)
    (machine other : Machine) (address : Nat) (first second : Line) : Prop :=
  first.isBlank = true ∧ second.isBlank = true ∨
    first.isBlank = false ∧ second.isBlank = false ∧
      Matches (Transition.Related related alike) (machine.handleLine address first)
        (other.handleLine address second)

include kept in
theorem step_counterpart
    (handled : ∀ address : Nat, machine.counter = address →
      Option.Rel (HandlesInStep related alike machine (machine.counterpart program cells) address)
        (machine.program.line? address) (program.line? address)) :
    Matches (Transition.Related related alike) machine.step
      (machine.counterpart program cells).step := by
  cases located : machine.counter with
  | negSucc below =>
      have otherLocated : (machine.counterpart program cells).counter = .negSucc below :=
        located
      unfold step
      rw [located, otherLocated]
      exact Matches.error _
  | ofNat address =>
      have otherLocated : (machine.counterpart program cells).counter = address := located
      have lines := handled address located
      have sameLine : (machine.counterpart program cells).program.line? address =
          program.line? address := rfl
      rw [step_at located, step_at otherLocated, sameLine]
      generalize machine.program.line? address = found at lines ⊢
      generalize program.line? address = otherFound at lines ⊢
      cases lines with
      | none => exact Matches.ok (.finish _)
      | some same =>
          rcases same with ⟨blank, otherBlank⟩ | ⟨filled, otherFilled, matching⟩
          · simp only [blank, otherBlank, if_true]
            exact Matches.ok (.silent (kept _ rfl rfl rfl))
          · simp only [filled, otherFilled, Bool.false_eq_true, if_false]
            exact matching.mapError _

end

end Machine

end AccumulatorMachine
