import AccumulatorMachine.Proofs.Cells
import AccumulatorMachine.Proofs.Loading
import AccumulatorMachine.Proofs.Reports
import AccumulatorMachine.Proofs.Slicing
import AccumulatorMachine.Proofs.TokenLayout

/-!
# Texts without blanks

Tokens are cut out between blanks, so a loaded program has no blank in any of its
tokens.  What a machine keeps is made of tokens and of decimal numbers only: no blank
ever enters the accumulator or a cell.  The lines that it writes, and the faults that
break it off, put such texts between fixed words.  Some of these words have spaces,
but none has a line feed, so that what is written is always a single line.
-/

namespace AccumulatorMachine

namespace Text

/-- No character is a line feed. -/
def OneLine (s : String) : Prop :=
  '\n' ∉ s.toList

namespace Solid

theorem empty : Solid "" := by
  intro c member
  simp at member

theorem ofList {chars : List Char} (letters : chars.all (fun c => !isBlank c) = true) :
    Solid (String.ofList chars) := by
  simpa [Solid] using letters

theorem append {s t : String} (first : Solid s) (second : Solid t) : Solid (s ++ t) := by
  intro c member
  rw [String.toList_append, List.mem_append] at member
  exact member.elim (first c) (second c)

theorem join {texts : List String} (solid : ∀ s ∈ texts, Solid s) :
    Solid (String.join texts) := by
  intro c member
  rw [String.toList_join, List.mem_flatMap] at member
  obtain ⟨s, inside, member⟩ := member
  exact solid s inside c member

theorem oneLine {s : String} (solid : Solid s) : OneLine s := by
  intro member
  have blank : isBlank '\n' = true := rfl
  rw [solid _ member] at blank
  cases blank

end Solid

namespace OneLine

theorem ofList {chars : List Char} (absent : '\n' ∉ chars) : OneLine (String.ofList chars) := by
  rwa [OneLine, String.toList_ofList]

theorem append {s t : String} (first : OneLine s) (second : OneLine t) : OneLine (s ++ t) := by
  rw [OneLine, String.toList_append, List.mem_append]
  exact not_or.mpr ⟨first, second⟩

theorem quoted {s : String} (oneLine : OneLine s) : OneLine (quoted s) :=
  ((ofList (by decide)).append oneLine).append (ofList (by decide))

end OneLine

/-! ## Numbers -/

theorem isBlank_of_isDigit {c : Char} (digit : c.isDigit = true) : isBlank c = false := by
  simp only [Char.isDigit, ge_iff_le, Bool.and_eq_true, decide_eq_true_eq] at digit
  have least : 48 ≤ c.toNat := digit.1
  have greatest : c.toNat ≤ 57 := digit.2
  simp [isBlank, blankRanges, inRanges]
  omega

theorem solid_natText (n : Nat) : Solid (toString n) := by
  intro c member
  rw [Nat.toString_eq_ofList_toDigits, String.toList_ofList] at member
  exact isBlank_of_isDigit (Nat.isDigit_of_mem_toDigits (by decide) (by decide) member)

theorem solid_intText (i : Int) : Solid (toString i) := by
  cases i with
  | ofNat n => exact solid_natText n
  | negSucc n =>
      have sign : Solid "-" := Solid.ofList rfl
      exact sign.append (solid_natText (n + 1))

end Text

theorem solid_wordText (word : Int32) : Text.Solid (wordText word) :=
  Text.solid_intText word.toInt

/-! ## Tokens -/

namespace Program

/-- No token of the program has a blank. -/
def Solid (program : Program) : Prop :=
  ∀ line ∈ program.lines, ∀ token ∈ line.tokens, Text.Solid token

theorem solid_ofSource {source : String} {program : Program}
    (accepted : ofSource source = .ok program) : program.Solid := by
  obtain ⟨_, rfl⟩ := ofSource_eq_ok_iff.mp accepted
  intro line member
  rw [List.mem_toArray] at member
  obtain ⟨s, _, rfl⟩ := List.mem_map.mp member
  exact fun token inside => (Text.token_of_mem_tokens inside).2

end Program

/-! ## What a machine keeps -/

/-- Only a number is ever computed. -/
theorem ArithOp.exists_wordText_of_apply {op : ArithOp} {lhs rhs value : String}
    (computed : op.apply lhs rhs = .ok (some value)) : ∃ word, value = wordText word := by
  cases op with
  | add | sub | mul | cmp =>
      obtain ⟨left, _, rest⟩ := bind_eq_ok_iff.mp computed
      obtain ⟨right, _, same⟩ := bind_eq_ok_iff.mp rest
      cases same
      exact ⟨_, rfl⟩
  | div =>
      obtain ⟨divisor, _, rest⟩ := bind_eq_ok_iff.mp computed
      split at rest
      · cases rest
      · obtain ⟨dividend, _, rest⟩ := bind_eq_ok_iff.mp rest
        obtain ⟨quotient, _, same⟩ := bind_eq_ok_iff.mp rest
        cases same
        exact ⟨_, rfl⟩

/-- No name and no value of a cell has a blank. -/
def Cells.Solid (cells : Cells) : Prop :=
  ∀ cell ∈ cells.toList, Text.Solid cell.name ∧ Text.Solid cell.value

namespace Cells.Solid

variable {cells : Cells}

theorem bind (solid : cells.Solid) {address : Int32} {name : String} {next : Cells}
    (solidName : Text.Solid name) (bound : cells.bind address name = .ok next) : next.Solid := by
  rw [Cells.bind_eq] at bound
  split at bound
  · cases bound
  · cases bound
    intro cell member
    rcases List.mem_append.mp member with earlier | added
    · exact solid cell earlier
    · rw [List.mem_singleton.mp added]
      exact ⟨solidName, Text.Solid.empty⟩

theorem put (solid : cells.Solid) (name : String) {value : String}
    (solidValue : Text.Solid value) : (cells.put name value).Solid := by
  intro cell member
  rcases mem_put member with kept | ⟨earlier, inside, rfl⟩
  · exact solid cell kept
  · exact ⟨(solid earlier inside).1, solidValue⟩

theorem get? (solid : cells.Solid) {name value : String} (found : cells.get? name = some value) :
    Text.Solid value := by
  obtain ⟨cell, present, rfl⟩ := Option.map_eq_some_iff.mp found
  exact (solid cell (List.mem_of_find?_eq_some present)).2

end Cells.Solid

namespace Machine

/-- No token, no cell and no value has a blank. -/
structure Solid (machine : Machine) : Prop where
  program : machine.program.Solid
  accumulator : Text.Solid machine.accumulator
  cells : machine.cells.Solid

variable {machine next : Machine} {lines : List String}

theorem solid_load {program : Program} (solid : program.Solid) : (new.load program).Solid where
  program := solid
  accumulator := Text.Solid.empty
  cells := by simp [Cells.Solid, load, Cells.empty]

namespace Solid

theorem resolve (solid : machine.Solid) {token : String} (solidToken : Text.Solid token) :
    Text.Solid (machine.resolve token) := by
  unfold Machine.resolve
  split
  · exact solidToken
  · cases found : machine.cells.get? token with
    | none => exact solidToken
    | some value => exact solid.cells.get? found

theorem perform (solid : machine.Solid) {instruction : Instruction}
    (given : ∀ token ∈ instruction.operands, Text.Solid token)
    (performed : Performed machine instruction next lines) : next.Solid := by
  have ⟨program, accumulator, cells⟩ := solid
  cases performed with
  | @define name address _ bound =>
      exact ⟨program, accumulator, cells.bind (given name List.mem_cons_self) bound⟩
  | @load operand =>
      exact ⟨program, solid.resolve (given operand List.mem_cons_self), cells⟩
  | @save name => exact ⟨program, accumulator, cells.put name accumulator⟩
  | arith computed =>
      obtain ⟨word, rfl⟩ := ArithOp.exists_wordText_of_apply computed
      exact ⟨program, solid_wordText word, cells⟩
  | _ => exact ⟨program, accumulator, cells⟩

theorem line (solid : machine.Solid) {address : Nat} {line : Line}
    (found : machine.program.line? address = some line) :
    ∀ token ∈ line.tokens, Text.Solid token :=
  solid.program line (Array.mem_of_getElem? found)

theorem step (solid : machine.Solid) (advanced : machine.step = .ok (.advance next lines)) :
    next.Solid := by
  obtain ⟨address, line, _, found, advance⟩ := advance_of_step advanced
  cases advance with
  | command _ _ _ decoded performed =>
      have given := Mnemonic.operands_of_decode decoded
      exact solid.perform (fun token member => solid.line found token (given token member))
        (performed_of_perform performed)
  | _ => exact ⟨solid.program, solid.accumulator, solid.cells⟩

end Solid

end Machine

/-! ## What a machine writes -/

theorem Mnemonic.oneLine_word (mnemonic : Mnemonic) : Text.OneLine mnemonic.word := by
  cases mnemonic with
  | arith op => cases op <;> exact Text.OneLine.ofList (by decide)
  | branch condition => cases condition <;> exact Text.OneLine.ofList (by decide)
  | _ => exact Text.OneLine.ofList (by decide)

theorem Mnemonic.oneLine_description (mnemonic : Mnemonic) :
    Text.OneLine mnemonic.description := by
  cases mnemonic with
  | arith op => cases op <;> exact Text.OneLine.ofList (by decide)
  | branch condition => cases condition <;> exact Text.OneLine.ofList (by decide)
  | _ => exact Text.OneLine.ofList (by decide)

namespace Report

open Text

variable {machine : Machine}

theorem oneLine_accumulatorLine (solid : machine.Solid) : OneLine (accumulatorLine machine) :=
  (OneLine.ofList (by decide)).append solid.accumulator.oneLine.quoted

theorem oneLine_statusLine (mnemonic : Mnemonic) (code : Nat) :
    OneLine (statusLine mnemonic code) :=
  ((((OneLine.ofList (by decide)).append mnemonic.oneLine_word.quoted).append
    (OneLine.ofList (by decide))).append (solid_natText code).oneLine.quoted).append
      (OneLine.ofList (by decide))

theorem oneLine_unidentifiedLine (number : Nat) {word : String} (solid : Solid word) :
    OneLine (unidentifiedLine number word) :=
  (((OneLine.ofList (by decide)).append (solid_natText number).oneLine).append
    (OneLine.ofList (by decide))).append solid.oneLine.quoted

theorem oneLine_cellText {cell : Cell} (solidName : Solid cell.name)
    (solidValue : Solid cell.value) : OneLine cell.text :=
  (((((OneLine.ofList (by decide)).append (solid_wordText cell.address).oneLine).append
    (OneLine.ofList (by decide))).append solidName.oneLine.quoted).append
      (OneLine.ofList (by decide))).append solidValue.oneLine

theorem oneLine_flagLine (entry : Flag × Bool) : OneLine (flagLine entry) := by
  obtain ⟨flag, up⟩ := entry
  cases flag
  cases up
  · exact ((OneLine.ofList (by decide)).append (OneLine.ofList (by decide))).append
      (OneLine.ofList (by decide))
  · exact ((OneLine.ofList (by decide)).append (OneLine.ofList (by decide))).append
      (OneLine.ofList (by decide))

theorem oneLine_row (mnemonic : Mnemonic) : OneLine mnemonic.row :=
  (mnemonic.oneLine_word.append (OneLine.ofList (by decide))).append
    mnemonic.oneLine_description

theorem oneLine_of_mem_helpLines {s : String} (member : s ∈ helpLines) : OneLine s := by
  simp only [helpLines, List.cons_append, List.nil_append, List.mem_cons, List.mem_append,
    List.mem_map, List.not_mem_nil, or_false] at member
  rcases member with rfl | rfl | rfl | ⟨mnemonic, _, rfl⟩ | rfl
  · exact OneLine.ofList (by decide)
  · exact OneLine.ofList (by decide)
  · exact (OneLine.ofList (by decide)).append (solid_natText _).oneLine
  · exact oneLine_row mnemonic
  · exact OneLine.ofList (by decide)

theorem oneLine_of_mem_dumpLines (solid : machine.Solid) {s : String}
    (member : s ∈ dumpLines machine) : OneLine s := by
  simp only [dumpLines, List.cons_append, List.nil_append, List.mem_cons, List.mem_append,
    List.mem_map, List.not_mem_nil, or_false] at member
  rcases member with rfl | rfl | rfl | rfl | ((⟨cell, inside, rfl⟩ | rfl) | ⟨entry, _, rfl⟩) | rfl
  · exact OneLine.ofList (by decide)
  · exact (OneLine.ofList (by decide)).append solid.accumulator.oneLine
  · exact (OneLine.ofList (by decide)).append (solid_intText _).oneLine
  · exact OneLine.ofList (by decide)
  · exact oneLine_cellText (solid.cells cell inside).1 (solid.cells cell inside).2
  · exact OneLine.ofList (by decide)
  · exact oneLine_flagLine entry
  · exact OneLine.ofList (by decide)

end Report

namespace Machine.Solid

variable {machine next : Machine} {lines : List String}

theorem perform_oneLine (solid : machine.Solid) {instruction : Instruction}
    (performed : Performed machine instruction next lines) : ∀ s ∈ lines, Text.OneLine s := by
  intro s member
  cases performed with
  | status _ =>
      rw [List.mem_singleton.mp member]
      exact Report.oneLine_statusLine _ _
  | dump => exact Report.oneLine_of_mem_dumpLines solid member
  | print =>
      rw [List.mem_singleton.mp member]
      exact Report.oneLine_accumulatorLine solid
  | help => exact Report.oneLine_of_mem_helpLines member
  | _ => cases member

theorem command (solid : machine.Solid) {address : Nat} {line : Line}
    (found : machine.program.line? address = some line) : Text.Solid line.command := by
  have tokens := solid.line found
  unfold Line.command
  cases same : line.tokens with
  | nil => exact Text.Solid.empty
  | cons token others => exact tokens token (by simp [same])

theorem step_oneLine (solid : machine.Solid)
    (advanced : machine.step = .ok (.advance next lines)) : ∀ s ∈ lines, Text.OneLine s := by
  obtain ⟨address, line, _, found, advance⟩ := advance_of_step advanced
  cases advance with
  | command _ _ _ _ performed => exact solid.perform_oneLine (performed_of_perform performed)
  | unknown _ _ _ =>
      intro s member
      rw [List.mem_singleton.mp member]
      exact Report.oneLine_unidentifiedLine _ (solid.command found)
  | _ => exact fun s member => nomatch member

theorem subject_oneLine (solid : machine.Solid) {address : Nat} {line : Line}
    (found : machine.program.line? address = some line) {s : String}
    (subject : machine.Subject line s) : Text.OneLine s := by
  have tokens := solid.line found
  cases subject with
  | nothing => exact Text.Solid.empty.oneLine
  | callStack => exact Text.OneLine.ofList (by decide)
  | mnemonic mnemonic => exact mnemonic.oneLine_word
  | flag index => exact (solid_wordText index).oneLine
  | command => exact (solid.command found).oneLine
  | operand member => exact (tokens _ member).oneLine
  | operands =>
      have rest : ∀ token ∈ line.tokens.drop 2, Text.Solid token :=
        fun token member => tokens token (List.mem_of_mem_drop member)
      exact (Text.Solid.join rest).oneLine
  | number member => exact (tokens _ member).oneLine.quoted
  | value member => exact (solid.resolve (tokens _ member)).oneLine.quoted
  | accumulator => exact solid.accumulator.oneLine.quoted

end Machine.Solid

/-! ## What faults say -/

theorem Fault.oneLine_text {fault : Fault} (oneLine : Text.OneLine fault.detail) :
    Text.OneLine fault.text := by
  have title : Text.OneLine fault.kind.title := by
    cases fault.kind <;> exact Text.OneLine.ofList (by decide)
  have linePart : Text.OneLine fault.linePart := by
    unfold linePart
    split
    · exact (Text.OneLine.ofList (by decide)).append (Text.solid_natText _).oneLine
    · exact Text.Solid.empty.oneLine
  have detailPart : Text.OneLine fault.detailPart := by
    unfold detailPart
    split
    · exact Text.Solid.empty.oneLine
    · exact (Text.OneLine.ofList (by decide)).append oneLine
  exact (title.append linePart).append detailPart

theorem Machine.Solid.fault_oneLine {machine : Machine} (solid : machine.Solid) {fault : Fault}
    (failed : machine.step = .error fault) : Text.OneLine fault.text := by
  apply Fault.oneLine_text
  rcases cause_of_step_eq_error failed with
    ⟨address, line, cause, _, found, outcome, rfl⟩ | ⟨_, rfl⟩
  · obtain ⟨_, _, subject⟩ := machine.ordinary_handleLine line address cause outcome
    exact solid.subject_oneLine found subject
  · exact (Text.solid_intText _).oneLine

end AccumulatorMachine
