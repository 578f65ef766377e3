import AccumulatorMachine.Proofs.Counterparts
import AccumulatorMachine.Proofs.Effects

/-!
# String mode

In string mode an operand stands for itself, so no instruction reads a cell.  Cells
can still be defined and saved to, but what they hold is invisible to the program: two
machines that differ only there run in lockstep until string mode is left.  The only
place where the values show is the list of cells in a dump.
-/

namespace AccumulatorMachine

/-- Whether a definition is refused depends on the labels alone. -/
theorem Cells.bind_matches {first second : Cells} (same : second.labels = first.labels)
    (address : Int32) (name : String) :
    Matches (fun left right : Cells => right.labels = left.labels)
      (first.bind address name) (second.bind address name) := by
  have anyLabel (cells : Cells) :
      cells.toList.any (fun cell => cell.name == name || cell.address == address) =
        cells.labels.any fun label => label.2 == name || label.1 == address := by
    rw [labels, List.any_map]
    rfl
  rw [bind_eq, bind_eq, anyLabel, anyLabel, same]
  split
  · exact Matches.error _
  · apply Matches.ok
    simp only [labels, List.map_append] at same ⊢
    rw [same]

/-- Two lines that are the same, or that show cells with the same label. -/
inductive AlikeLine : String → String → Prop
  | same (s : String) : AlikeLine s s
  | cell {first second : Cell} : second.label = first.label →
      AlikeLine first.text second.text

namespace Machine

def withCells (machine : Machine) (cells : Cells) : Machine :=
  { machine with cells }

/-- Two machines in string mode that are the same but for the values of their cells. -/
structure Alike (first second : Machine) : Prop where
  machine_eq : second = first.withCells second.cells
  labels_eq : second.cells.labels = first.cells.labels
  stringMode : first.flags.stringMode = true

/-! ## One step -/

section

variable {machine : Machine} {cells : Cells} {alike : String → String → Prop}
  (labels : cells.labels = machine.cells.labels)
  (stringMode : machine.flags.stringMode = true) (reflexive : ∀ s, alike s s)

include labels stringMode in
theorem relatedAs_alike : machine.RelatedAs Alike machine.program cells := by
  intro next sameProgram sameCells sameFlags
  refine ⟨?_, ?_, ?_⟩
  · rw [← sameProgram]
    rfl
  · rw [sameCells]
    exact labels
  · rw [sameFlags]
    exact stringMode

include labels stringMode reflexive in
/-- No instruction reads a cell in string mode, and none but a dump shows one. -/
theorem perform_alike {instruction : Instruction}
    (unreset : ∀ flag, instruction ≠ .resetFlag flag)
    (dumped : instruction = .dump →
      List.Forall₂ alike (Report.dumpLines machine)
        (Report.dumpLines (machine.withCells cells))) :
    Matches (Transition.Related Alike alike) (machine.perform instruction)
      ((machine.withCells cells).perform instruction) := by
  cases instruction with
  | define name address =>
      refine (Cells.bind_matches labels address name).bind fun left right sameLabels => ?_
      exact Matches.ok (.silent ⟨rfl, sameLabels, stringMode⟩)
  | save name =>
      have sameLabels : (cells.put name machine.accumulator).labels =
          (machine.cells.put name machine.accumulator).labels := by
        rw [Cells.labels_put, Cells.labels_put, labels]
      exact Matches.ok (.silent ⟨rfl, sameLabels, stringMode⟩)
  | setFlag flag =>
      cases flag
      exact Matches.ok (.silent ⟨rfl, labels, rfl⟩)
  | resetFlag flag => exact absurd rfl (unreset flag)
  | dump => exact Matches.ok (.advance ⟨rfl, labels, stringMode⟩ (dumped rfl))
  | _ =>
      exact perform_counterpart (relatedAs_alike labels stringMode) (fun s _ => reflexive s)
        (resolve_counterpart (Or.inl stringMode)) rfl

include labels stringMode reflexive in
theorem step_alike
    (unreset : ∀ flag, machine.current? ≠ some (.resetFlag flag))
    (dumped : machine.current? = some .dump →
      List.Forall₂ alike (Report.dumpLines machine)
        (Report.dumpLines (machine.withCells cells))) :
    Matches (Transition.Related Alike alike) machine.step
      (machine.withCells cells).step := by
  have kept := relatedAs_alike labels stringMode
  apply step_counterpart kept
  intro address located
  cases found : machine.program.line? address with
  | none => exact Option.Rel.none
  | some line =>
      apply Option.Rel.some
      cases blank : line.isBlank with
      | true => exact Or.inl ⟨blank, blank⟩
      | false =>
          refine Or.inr ⟨blank, blank, ?_⟩
          apply handleLine_counterpart kept fun s _ => reflexive s
          intro mnemonic instruction known phase decoded
          have current : machine.current? = some instruction :=
            current?_of_decoded located found phase known decoded
          refine perform_alike labels stringMode reflexive ?_ ?_
          · rintro flag rfl
            exact unreset flag current
          · rintro rfl
            exact dumped current

include labels in
theorem dumpLines_alike :
    List.Forall₂ AlikeLine (Report.dumpLines machine)
      (Report.dumpLines (machine.withCells cells)) := by
  have sameLabels : List.Forall₂ (fun first second : Cell => second.label = first.label)
      machine.cells.toList cells.toList := by
    have equal : List.Forall₂ Eq cells.labels machine.cells.labels := by
      rw [labels, List.forall₂_eq_eq_eq]
    rw [Cells.labels, Cells.labels, List.forall₂_map_left_iff,
      List.forall₂_map_right_iff] at equal
    exact equal.flip
  have shown : List.Forall₂ AlikeLine (machine.cells.toList.map Cell.text)
      (cells.toList.map Cell.text) := by
    rw [List.forall₂_map_left_iff, List.forall₂_map_right_iff]
    exact sameLabels.imp fun _ _ => AlikeLine.cell
  exact dumpLines_counterpart (fun s _ => AlikeLine.same s) shown

end

/-! ## Runs -/

theorem keptByStep_alike :
    KeptByStep Alike AlikeLine fun machine =>
      ∀ flag, machine.current? ≠ some (.resetFlag flag) := by
  rintro first second ⟨machine_eq, labels, stringMode⟩ unreset
  rw [machine_eq]
  exact step_alike labels stringMode AlikeLine.same unreset fun _ => dumpLines_alike labels

theorem keptByStep_eq :
    KeptByStep Alike Eq fun machine =>
      (∀ flag, machine.current? ≠ some (.resetFlag flag)) ∧
        machine.current? ≠ some .dump := by
  rintro first second ⟨machine_eq, labels, stringMode⟩ ⟨unreset, undumped⟩
  rw [machine_eq]
  exact step_alike labels stringMode (fun _ => rfl) unreset
    fun dumps => absurd dumps undumped

/-- The run of a machine comes to an instruction after a number of cycles. -/
def PerformsAt (machine : Machine) (taken : Nat) (instruction : Instruction) : Prop :=
  (machine.execute taken).result = .ok .running ∧
    (machine.execute taken).machine.current? = some instruction

theorem Alike.interrupted_eq {first second : Machine} (alike : Alike first second) :
    second.interrupted = first.interrupted := by
  rw [alike.machine_eq]
  rfl

/-- A break that is pending breaks both runs at the same line. -/
theorem execute_alike_of_pending {first second : Machine} (alike : Alike first second)
    (pending : first.interrupted = true) (taken : Nat) :
    Outcome.Related Alike AlikeLine (first.execute taken) (second.execute taken) := by
  have otherPending : second.interrupted = true := alike.interrupted_eq.trans pending
  have sameFault : second.breakFault = first.breakFault := by
    rw [alike.machine_eq]
    rfl
  have sameMachine : { second with interrupted := false } =
      withCells { first with interrupted := false } second.cells := by
    rw [alike.machine_eq]
    rfl
  rw [execute, execute, slice_of_pending pending, slice_of_pending otherPending, sameFault]
  refine ⟨⟨sameMachine, alike.labels_eq, alike.stringMode⟩, ?_, rfl⟩
  exact List.Forall₂.cons (Entry.Related.fault first.breakFault) List.Forall₂.nil

theorem execute_alike_of_calm {first second : Machine} (alike : Alike first second)
    (calm : first.interrupted = false) {taken : Nat}
    (unreset : ∀ earlier < taken, ∀ flag, ¬ first.PerformsAt earlier (.resetFlag flag)) :
    Outcome.Related Alike AlikeLine (first.execute taken) (second.execute taken) := by
  rw [execute_of_calm calm, execute_of_calm (alike.interrupted_eq.trans calm)]
  refine keptByStep_alike.steps alike List.Forall₂.nil taken ?_
  intro earlier smaller running flag current
  apply unreset earlier smaller flag
  rw [PerformsAt, execute_of_calm calm]
  exact ⟨running, current⟩

/-- A cycle that does not dump adds the same to both logs. -/
theorem log_execute_succ {first second : Machine} (calm : first.interrupted = false)
    (otherCalm : second.interrupted = false) {taken : Nat}
    (related : Outcome.Related Alike AlikeLine (first.execute taken) (second.execute taken))
    (unreset : ∀ flag, ¬ first.PerformsAt taken (.resetFlag flag))
    (undumped : ¬ first.PerformsAt taken .dump) :
    ∃ added, (first.execute (taken + 1)).log = (first.execute taken).log ++ added ∧
      (second.execute (taken + 1)).log = (second.execute taken).log ++ added := by
  unfold PerformsAt at unreset undumped
  simp only [execute_of_calm calm, execute_of_calm otherCalm] at *
  rw [steps_add, steps_add]
  by_cases running : (first.steps #[] taken).result = .ok .running
  · have otherRunning : (second.steps #[] taken).result = .ok .running :=
      related.result_eq.trans running
    rw [Outcome.andThen_of_running running, Outcome.andThen_of_running otherRunning]
    -- what was logged before may differ, so the cycle is compared from empty logs
    have sameStep : Outcome.Related Alike Eq ((first.steps #[] taken).machine.steps #[] 1)
        ((second.steps #[] taken).machine.steps #[] 1) := by
      refine keptByStep_eq.steps related.machine List.Forall₂.nil 1 ?_
      intro earlier smaller _
      obtain rfl : earlier = 0 := Nat.lt_one_iff.mp smaller
      exact ⟨fun flag current => unreset flag ⟨running, current⟩,
        fun current => undumped ⟨running, current⟩⟩
    refine ⟨((first.steps #[] taken).machine.steps #[] 1).log, ?_, ?_⟩
    · rw [← after_steps]
      rfl
    · rw [← after_steps, sameStep.log_eq]
      rfl
  · have otherOver : (second.steps #[] taken).result ≠ .ok .running := by
      rw [related.result_eq]
      exact running
    rw [Outcome.andThen_of_finished running, Outcome.andThen_of_finished otherOver]
    exact ⟨#[], Array.append_empty.symm, Array.append_empty.symm⟩

/-- In string mode the values of cells are invisible to the program: until a flag is
reset, machines that differ only there return the same after each number of cycles and
still differ only there.  Their logs are the same except for the lines in which a dump
shows a cell. -/
theorem string_mode_hides_cells {first second : Machine} (alike : Alike first second)
    (count : Nat)
    (unreset : ∀ taken < count, ∀ flag, ¬ first.PerformsAt taken (.resetFlag flag)) :
    (∀ taken ≤ count,
      Outcome.Related Alike AlikeLine (first.execute taken) (second.execute taken)) ∧
    ∀ taken < count, ¬ first.PerformsAt taken .dump →
      ∃ added, (first.execute (taken + 1)).log = (first.execute taken).log ++ added ∧
        (second.execute (taken + 1)).log = (second.execute taken).log ++ added := by
  cases interrupted : first.interrupted with
  | true =>
      have otherInterrupted : second.interrupted = true :=
        alike.interrupted_eq.trans interrupted
      -- both runs are broken before their first cycle, whatever the budget
      refine ⟨fun taken _ => execute_alike_of_pending alike interrupted taken, ?_⟩
      intro taken _ _
      rw [execute, execute, execute, execute]
      simp only [slice_of_pending interrupted, slice_of_pending otherInterrupted]
      exact ⟨#[], Array.append_empty.symm, Array.append_empty.symm⟩
  | false =>
      have related (taken : Nat) (within : taken ≤ count) :
          Outcome.Related Alike AlikeLine (first.execute taken) (second.execute taken) :=
        execute_alike_of_calm alike interrupted fun earlier smaller =>
          unreset earlier (Nat.lt_of_lt_of_le smaller within)
      refine ⟨related, ?_⟩
      intro taken smaller undumped
      exact log_execute_succ interrupted (alike.interrupted_eq.trans interrupted)
        (related taken (Nat.le_of_lt smaller)) (unreset taken smaller) undumped

/-- A machine in string mode in front of a load, a dump and an addition that fails. -/
def maskedMachine : Machine :=
  new.afterRequests
    [.load ⟨#[⟨["begin"]⟩, ⟨["def", "x", "&v+1"]⟩, ⟨["setf", "0"]⟩, ⟨["ld", "x"]⟩,
      ⟨["dump"]⟩, ⟨["add", "x"]⟩]⟩, .execute 3]

theorem string_mode_hides_cells_maskedMachine :
    Alike maskedMachine (maskedMachine.withCells ⟨[⟨1, "x", "7"⟩]⟩) ∧
      (∀ taken < 3, ∀ flag, ¬ maskedMachine.PerformsAt taken (.resetFlag flag)) ∧
      maskedMachine.PerformsAt 0 (.load "x") ∧ maskedMachine.PerformsAt 1 .dump ∧
      ¬ maskedMachine.PerformsAt 2 .dump ∧
      Outcome.Related Alike AlikeLine (maskedMachine.execute 3)
        ((maskedMachine.withCells ⟨[⟨1, "x", "7"⟩]⟩).execute 3) ∧
      ∃ added, (maskedMachine.execute 3).log = (maskedMachine.execute 2).log ++ added ∧
        ((maskedMachine.withCells ⟨[⟨1, "x", "7"⟩]⟩).execute 3).log =
          ((maskedMachine.withCells ⟨[⟨1, "x", "7"⟩]⟩).execute 2).log ++ added := by
  have alike : Alike maskedMachine (maskedMachine.withCells ⟨[⟨1, "x", "7"⟩]⟩) :=
    ⟨rfl, rfl, rfl⟩
  have loads : (maskedMachine.execute 0).machine.current? = some (.load "x") := rfl
  have dumps : (maskedMachine.execute 1).machine.current? = some .dump := rfl
  have adds : (maskedMachine.execute 2).machine.current? = some (.arith .add "x") := rfl
  have unreset : ∀ taken < 3, ∀ flag,
      ¬ maskedMachine.PerformsAt taken (.resetFlag flag) := by
    rintro taken smaller flag ⟨_, current⟩
    match taken, smaller with
    | 0, _ =>
        rw [loads] at current
        cases current
    | 1, _ =>
        rw [dumps] at current
        cases current
    | 2, _ =>
        rw [adds] at current
        cases current
  have undumped : ¬ maskedMachine.PerformsAt 2 .dump := by
    rintro ⟨_, current⟩
    rw [adds] at current
    cases current
  obtain ⟨related, unseen⟩ := string_mode_hides_cells alike 3 unreset
  exact ⟨alike, unreset, ⟨rfl, loads⟩, ⟨rfl, dumps⟩, undumped, related 3 (Nat.le_refl 3),
    unseen 2 (by decide) undumped⟩

end Machine

end AccumulatorMachine
