import Mathlib.Data.Set.Function
import AccumulatorMachine.Proofs.Counterparts
import AccumulatorMachine.Proofs.Effects

/-!
# Addresses as labels

An address is compared in one place only, when a definition is checked against the
cells that exist, and shown in one place only, in a dump.  So offsets can be exchanged for
others by any map that keeps different offsets different: a program in which every
definition has the new offset runs in lockstep with the old one.
-/

namespace AccumulatorMachine

def Cell.relabel (f : Int32 → Int32) (cell : Cell) : Cell :=
  { cell with address := f cell.address }

/-! ## Cells -/

namespace Cells

def relabel (f : Int32 → Int32) (cells : Cells) : Cells :=
  ⟨cells.toList.map (Cell.relabel f)⟩

/-- All addresses are offsets, which are never negative. -/
def AtOffsets (cells : Cells) : Prop :=
  ∀ cell ∈ cells.toList, 0 ≤ cell.address

variable {f : Int32 → Int32} {cells : Cells}

theorem get?_relabel (name : String) : (cells.relabel f).get? name = cells.get? name := by
  simp only [get?, relabel, List.find?_map, Option.map_map]
  rfl

theorem put_relabel (name value : String) :
    (cells.relabel f).put name value = (cells.put name value).relabel f := by
  simp only [put, relabel, mk.injEq]
  induction cells.toList with
  | nil => rfl
  | cons cell later inductionHypothesis =>
      have sameName : (cell.relabel f).name = cell.name := rfl
      rw [List.map_cons, writeFirst, writeFirst, sameName]
      by_cases named : cell.name = name
      · rw [if_pos named, if_pos named]
        rfl
      · rw [if_neg named, if_neg named, inductionHypothesis, List.map_cons]

theorem AtOffsets.put (offsets : cells.AtOffsets) (name value : String) :
    (cells.put name value).AtOffsets := by
  intro cell member
  rcases mem_put member with kept | ⟨earlier, present, rfl⟩
  · exact offsets cell kept
  · exact offsets earlier present

/-- A definition is refused for the new offset exactly if it is for the old one: that the
map keeps different offsets different is used here and nowhere else. -/
theorem bind_relabel (injective : Set.InjOn f {offset | 0 ≤ offset})
    (offsets : cells.AtOffsets) {address : Int32} (offset : 0 ≤ address) (name : String) :
    Matches (fun left right => left.AtOffsets ∧ right = left.relabel f)
      (cells.bind address name) ((cells.relabel f).bind (f address) name) := by
  have sameCheck :
      (cells.relabel f).toList.any
          (fun cell => cell.name == name || cell.address == f address) =
        cells.toList.any (fun cell => cell.name == name || cell.address == address) := by
    rw [relabel, List.any_map, Bool.eq_iff_iff, List.any_eq_true, List.any_eq_true]
    refine exists_congr fun cell => and_congr_right fun member => ?_
    have sameAddress : f cell.address = f address ↔ cell.address = address :=
      injective.eq_iff (offsets cell member) offset
    simp [Cell.relabel, sameAddress]
  rw [bind_eq, bind_eq, sameCheck]
  split
  · exact Matches.error _
  · refine Matches.ok ⟨?_, ?_⟩
    · intro cell member
      rcases List.mem_append.mp member with earlier | last
      · exact offsets cell earlier
      · rw [List.mem_singleton.mp last]
        exact offset
    · simp [relabel, Cell.relabel]

end Cells

/-! ## Lines -/

theorem Address.nonneg_of_read {s : String} {address : Int32}
    (read : Address.read s = .ok address) : 0 ≤ address := by
  unfold Address.read at read
  split at read
  · cases read
  · dsimp only at read
    split at read
    · next small =>
        cases read
        rw [Int32.le_iff_toInt_le, Int32.toInt_ofNat_of_lt (by omega)]
        simp
    · cases read

/-- Two lines are definitions of the same name at corresponding offsets, or the same line,
which is then not a definition that decodes. -/
inductive Line.Relabelled (f : Int32 → Int32) : Line → Line → Prop
  | definition {first second : Line} {name : String} {address : Int32} :
      first.instruction? = some (.ok (.define name address)) →
      second.instruction? = some (.ok (.define name (f address))) →
      Relabelled f first second
  | same {line : Line} :
      (∀ name address, line.instruction? ≠ some (.ok (.define name address))) →
      Relabelled f line line

namespace Line

variable {line : Line} {name : String} {address : Int32}

theorem decode_of_instruction?
    (instruction : line.instruction? = some (.ok (.define name address))) :
    line.command = Mnemonic.define.word ∧
      Mnemonic.define.decode line = .ok (.define name address) := by
  obtain ⟨mnemonic, known, decoded⟩ := Option.map_eq_some_iff.mp instruction
  have isDefine : mnemonic = .define := (Mnemonic.mnemonic_of_decode decoded).symm
  subst isDefine
  exact ⟨(Mnemonic.ofWord?_eq_some_iff.mp known).symm, decoded⟩

theorem nonneg_of_decode (decoded : Mnemonic.define.decode line = .ok (.define name address)) :
    0 ≤ address := by
  obtain ⟨_, _, rest⟩ := bind_eq_ok_iff.mp decoded
  obtain ⟨_, _, rest⟩ := bind_eq_ok_iff.mp rest
  obtain ⟨_, read, rest⟩ := bind_eq_ok_iff.mp rest
  cases rest
  exact Address.nonneg_of_read read

theorem isBlank_of_instruction? {line : Line} {result : Except Fault Instruction}
    (instruction : line.instruction? = some result) : line.isBlank = false := by
  cases blank : line.isBlank with
  | false => rfl
  | true =>
      rw [instruction?, ofWord?_of_isBlank blank] at instruction
      cases instruction

end Line

/-- The first line shows a cell and the second one shows it at its new address, or it is no
line that shows a cell, and both are the same. -/
inductive RelabelledLine (f : Int32 → Int32) : String → String → Prop
  | cell (cell : Cell) : RelabelledLine f cell.text (cell.relabel f).text
  | other {s : String} : (∀ cell : Cell, s ≠ cell.text) → RelabelledLine f s s

namespace Machine

/-- The second machine is the first one with relabelled cells and a program that is
relabelled in the same way. -/
structure Relabelled (f : Int32 → Int32) (other : Program) (first second : Machine) : Prop where
  lines : first.program.Linewise (Line.Relabelled f) other
  atOffsets : first.cells.AtOffsets
  machine_eq : second = first.counterpart other (first.cells.relabel f)

/-! ## One step -/

/-- A definition is performed, skipped in a body, or refused before the module begins. -/
theorem handleLine_of_define {machine : Machine} {position : Nat} {line : Line}
    {name : String} {address : Int32}
    (defines : line.instruction? = some (.ok (.define name address))) :
    machine.handleLine position line =
      match machine.phase with
      | .ending => .ok (.finish .halted)
      | .running => machine.perform (.define name address)
      | .scanning =>
          if machine.inBody then .ok (.silent { machine.next with inBody := true })
          else .error (Fault.about .noBegin Mnemonic.define.word) := by
  obtain ⟨command, decoded⟩ := Line.decode_of_instruction? defines
  have known : Mnemonic.ofWord? line.command = some .define :=
    Mnemonic.ofWord?_eq_some_iff.mpr command.symm
  have noHeader : line.isHeader = false := by
    rw [Line.isHeader, command]
    rfl
  have inside : (line.command != Mnemonic.endProcedure.word) = true := by
    rw [command]
    rfl
  unfold handleLine
  cases machine.phase with
  | ending => rfl
  | running => simp only [runLine, known, decoded, if_true, ok_bind]
  | scanning =>
      cases machine.inBody with
      | true => simp only [noHeader, Bool.false_eq_true, if_false, if_true, skipBody, inside]
      | false =>
          simp only [noHeader, Bool.false_eq_true, if_false, runLine, known]
          rfl

section

variable {f : Int32 → Int32} (injective : Set.InjOn f {offset | 0 ≤ offset})
  {machine : Machine} {other : Program}
  (lines : machine.program.Linewise (Line.Relabelled f) other)
  (atOffsets : machine.cells.AtOffsets)

include lines atOffsets in
theorem relatedAs_relabelled :
    machine.RelatedAs (Relabelled f other) other (machine.cells.relabel f) := by
  intro next sameProgram sameCells _
  rw [← sameCells] at atOffsets ⊢
  exact ⟨sameProgram ▸ lines, atOffsets, rfl⟩

theorem plainly_relabelled (s : String) (plain : Plain s) : RelabelledLine f s s :=
  RelabelledLine.other plain.ne_cell

include injective lines atOffsets in
theorem perform_define_relabelled {address : Int32} (offset : 0 ≤ address) (name : String) :
    Matches (Transition.Related (Relabelled f other) (RelabelledLine f))
      (machine.perform (.define name address))
      ((machine.counterpart other (machine.cells.relabel f)).perform
        (.define name (f address))) := by
  refine (Cells.bind_relabel injective atOffsets offset name).bind ?_
  rintro left right ⟨leftOffsets, rfl⟩
  exact Matches.ok (.silent ⟨lines, leftOffsets, rfl⟩)

include lines atOffsets in
theorem perform_relabelled {instruction : Instruction}
    (apart : ∀ name address, instruction ≠ .define name address) :
    Matches (Transition.Related (Relabelled f other) (RelabelledLine f))
      (machine.perform instruction)
      ((machine.counterpart other (machine.cells.relabel f)).perform instruction) := by
  have kept := relatedAs_relabelled lines atOffsets
  cases instruction with
  | define name address => exact absurd rfl (apart name address)
  | save name =>
      refine Matches.ok (.silent ⟨lines, atOffsets.put name machine.accumulator, ?_⟩)
      simp only [counterpart, Cells.put_relabel]
      rfl
  | setFlag | resetFlag => exact Matches.ok (.silent ⟨lines, atOffsets, rfl⟩)
  | dump =>
      refine Matches.ok (.advance (kept _ rfl rfl rfl) ?_)
      apply dumpLines_counterpart plainly_relabelled
      rw [Cells.relabel, List.map_map, List.forall₂_map_left_iff, List.forall₂_map_right_iff]
      exact List.forall₂_same.mpr fun cell _ => RelabelledLine.cell cell
  | _ =>
      exact perform_counterpart kept plainly_relabelled
        (resolve_counterpart (Or.inr Cells.get?_relabel)) rfl

include injective lines atOffsets in
theorem handleLine_definition {position : Nat} {first second : Line} {name : String}
    {address : Int32} (defines : first.instruction? = some (.ok (.define name address)))
    (otherDefines : second.instruction? = some (.ok (.define name (f address)))) :
    Matches (Transition.Related (Relabelled f other) (RelabelledLine f))
      (machine.handleLine position first)
      ((machine.counterpart other (machine.cells.relabel f)).handleLine position second) := by
  have samePhase :
      (machine.counterpart other (machine.cells.relabel f)).phase = machine.phase := rfl
  have sameBody :
      (machine.counterpart other (machine.cells.relabel f)).inBody = machine.inBody := rfl
  rw [handleLine_of_define defines, handleLine_of_define otherDefines, samePhase, sameBody]
  cases machine.phase with
  | ending => exact Matches.ok (.finish .halted)
  | running =>
      have offset := Line.nonneg_of_decode (Line.decode_of_instruction? defines).2
      exact perform_define_relabelled injective lines atOffsets offset name
  | scanning =>
      cases machine.inBody with
      | true =>
          exact Matches.ok (.silent (relatedAs_relabelled lines atOffsets _ rfl rfl rfl))
      | false => exact Matches.error _

include lines atOffsets in
theorem handleLine_same {position : Nat} {line : Line}
    (apart : ∀ name address, line.instruction? ≠ some (.ok (.define name address))) :
    Matches (Transition.Related (Relabelled f other) (RelabelledLine f))
      (machine.handleLine position line)
      ((machine.counterpart other (machine.cells.relabel f)).handleLine position line) := by
  apply handleLine_counterpart (relatedAs_relabelled lines atOffsets) plainly_relabelled
  intro mnemonic instruction known _ decoded
  apply perform_relabelled lines atOffsets
  rintro name address rfl
  apply apart name address
  rw [Line.instruction?, known, Option.map_some, decoded]

end

theorem keptByStep_relabelled {f : Int32 → Int32}
    (injective : Set.InjOn f {offset | 0 ≤ offset}) (other : Program) :
    KeptByStep (Relabelled f other) (RelabelledLine f) fun _ => True := by
  rintro first second ⟨lines, atOffsets, machine_eq⟩ _
  rw [machine_eq]
  apply step_counterpart (relatedAs_relabelled lines atOffsets)
  intro position _
  have found := lines.line? position
  generalize first.program.line? position = left at found ⊢
  generalize other.line? position = right at found ⊢
  cases found with
  | none => exact Option.Rel.none
  | @some line _ relabelled =>
      apply Option.Rel.some
      cases relabelled with
      | definition defines otherDefines =>
          exact Or.inr ⟨Line.isBlank_of_instruction? defines,
            Line.isBlank_of_instruction? otherDefines,
            handleLine_definition injective lines atOffsets defines otherDefines⟩
      | same apart =>
          cases blank : line.isBlank with
          | true => exact Or.inl ⟨blank, blank⟩
          | false => exact Or.inr ⟨blank, blank, handleLine_same lines atOffsets apart⟩

/-! ## Runs -/

/-- Address offsets only label cells: exchanging them in all definitions of a program by a
map that is injective on offsets changes nothing in a run but the addresses of the cells,
and nothing in its log but the addresses that a dump shows. -/
theorem addresses_only_label {f : Int32 → Int32}
    (injective : Set.InjOn f {offset | 0 ≤ offset}) {program other : Program}
    (relabelled : program.Linewise (Line.Relabelled f) other) (machine : Machine)
    (cycles : Nat) :
    Outcome.Related (Relabelled f other) (RelabelledLine f)
      ((machine.load program).execute cycles) ((machine.load other).execute cycles) := by
  have calm : (machine.load program).interrupted = false := rfl
  have otherCalm : (machine.load other).interrupted = false := rfl
  have atStart : Relabelled f other (machine.load program) (machine.load other) :=
    ⟨relabelled, nofun, rfl⟩
  rw [execute_of_calm calm, execute_of_calm otherCalm]
  exact (keptByStep_relabelled injective other).steps atStart List.Forall₂.nil cycles
    fun _ _ _ => trivial

/-- A program that defines two cells, fills and shows them, and defines one of their
addresses again. -/
def definingTwice (first second : String) : Program :=
  ⟨#[⟨["begin"]⟩, ⟨["def", "x", first]⟩, ⟨["def", "y", second]⟩, ⟨["ld", "5"]⟩,
    ⟨["sav", "x"]⟩, ⟨["dump"]⟩, ⟨["def", "z", first]⟩]⟩

/-- The offsets in reverse order. -/
def reversed (offset : Int32) : Int32 :=
  2147483647 - offset

theorem addresses_only_label_reversed :
    Set.InjOn reversed {offset | 0 ≤ offset} ∧
      (definingTwice "&v+1" "&v+2").Linewise (Line.Relabelled reversed)
        (definingTwice "&v+2147483646" "&w+2147483645") ∧
      ((new.load (definingTwice "&v+1" "&v+2")).execute 9).result =
        .error ((Fault.about .duplicateDefinition "z").atLine 7) ∧
      Outcome.Related
        (Relabelled reversed (definingTwice "&v+2147483646" "&w+2147483645"))
        (RelabelledLine reversed)
        ((new.load (definingTwice "&v+1" "&v+2")).execute 9)
        ((new.load (definingTwice "&v+2147483646" "&w+2147483645")).execute 9) := by
  have injective : Set.InjOn reversed {offset | 0 ≤ offset} := by
    intro first _ second _ same
    simpa [reversed, Int32.sub_eq_add_neg] using same
  have relabelled : (definingTwice "&v+1" "&v+2").Linewise (Line.Relabelled reversed)
      (definingTwice "&v+2147483646" "&w+2147483645") :=
    .cons (.same nofun) (.cons (.definition rfl rfl) (.cons (.definition rfl rfl)
      (.cons (.same nofun) (.cons (.same nofun) (.cons (.same nofun)
        (.cons (.definition rfl rfl) .nil))))))
  exact ⟨injective, relabelled, rfl, addresses_only_label injective relabelled new 9⟩

end Machine

end AccumulatorMachine
