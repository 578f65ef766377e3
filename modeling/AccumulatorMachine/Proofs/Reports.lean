import AccumulatorMachine.Machine.Report

/-!
# How written lines begin

A line that shows a cell begins with an ampersand.  All other lines that a machine writes
are plain: they begin with a character that opens neither a cell nor the words at the end
of a run, so none of them can be taken for one of these.

The characters of a literal are reached by `String.toList_ofList`, because a literal is
`String.ofList` of its characters.
-/

namespace AccumulatorMachine

/-- The text begins neither like a cell in a dump nor like the words after a run. -/
def Plain (s : String) : Prop :=
  ∃ c, s.toList.head? = some c ∧ c ≠ '&' ∧ c ≠ 'R'

namespace Plain

theorem ofList {c : Char} (rest : List Char) (apart : c ≠ '&' ∧ c ≠ 'R') :
    Plain (String.ofList (c :: rest)) :=
  ⟨c, by simp, apart⟩

theorem append {s : String} (plain : Plain s) (t : String) : Plain (s ++ t) := by
  obtain ⟨c, begins, apart⟩ := plain
  exact ⟨c, by simp [List.head?_append, begins], apart⟩

theorem ne_cell {s : String} (plain : Plain s) (cell : Cell) : s ≠ cell.text := by
  obtain ⟨c, begins, noCell, _⟩ := plain
  rintro rfl
  have opened : cell.text.toList.head? = some '&' := by
    simp [Cell.text]
  exact noCell (Option.some.inj (begins.symm.trans opened))

end Plain

namespace Report

theorem plain_accumulatorLine (machine : Machine) : Plain (accumulatorLine machine) :=
  (Plain.ofList _ (by decide)).append _

theorem plain_statusLine (mnemonic : Mnemonic) (code : Nat) :
    Plain (statusLine mnemonic code) :=
  ((((Plain.ofList _ (by decide)).append _).append _).append _).append _

theorem plain_unidentifiedLine (number : Nat) (word : String) :
    Plain (unidentifiedLine number word) :=
  (((Plain.ofList _ (by decide)).append _).append _).append _

theorem plain_flagLine (entry : Flag × Bool) : Plain (flagLine entry) := by
  obtain ⟨flag, up⟩ := entry
  cases flag
  exact ((Plain.ofList _ (by decide)).append _).append _

theorem plain_row (mnemonic : Mnemonic) : Plain mnemonic.row := by
  have plainWord : Plain mnemonic.word := by
    cases mnemonic with
    | arith op => cases op <;> exact Plain.ofList _ (by decide)
    | branch condition => cases condition <;> exact Plain.ofList _ (by decide)
    | _ => exact Plain.ofList _ (by decide)
  exact (plainWord.append _).append _

theorem plain_of_mem_helpLines {s : String} (member : s ∈ helpLines) : Plain s := by
  simp only [helpLines, List.cons_append, List.nil_append, List.mem_cons, List.mem_append,
    List.mem_map, List.not_mem_nil, or_false] at member
  rcases member with rfl | rfl | rfl | ⟨mnemonic, _, rfl⟩ | rfl
  · exact Plain.ofList _ (by decide)
  · exact Plain.ofList _ (by decide)
  · exact (Plain.ofList _ (by decide)).append _
  · exact plain_row mnemonic
  · exact Plain.ofList _ (by decide)

/-- The lines of a dump above the cells. -/
def dumpHead (machine : Machine) : List String :=
  ["----- DUMP -----",
    "ACC   : " ++ machine.accumulator,
    "PC    : " ++ toString machine.counter,
    "DATA  : "]

/-- The lines of a dump below the cells. -/
def dumpTail (machine : Machine) : List String :=
  ["FLAGS : "] ++ machine.flags.entries.map flagLine ++ ["--- END-DUMP ---"]

theorem dumpLines_eq (machine : Machine) :
    dumpLines machine =
      dumpHead machine ++ machine.cells.toList.map Cell.text ++ dumpTail machine := by
  simp [dumpLines, dumpHead, dumpTail]

theorem plain_of_mem_dumpHead {machine : Machine} {s : String}
    (member : s ∈ dumpHead machine) : Plain s := by
  simp only [dumpHead, List.mem_cons, List.not_mem_nil, or_false] at member
  rcases member with rfl | rfl | rfl | rfl
  · exact Plain.ofList _ (by decide)
  · exact (Plain.ofList _ (by decide)).append _
  · exact (Plain.ofList _ (by decide)).append _
  · exact Plain.ofList _ (by decide)

theorem plain_of_mem_dumpTail {machine : Machine} {s : String}
    (member : s ∈ dumpTail machine) : Plain s := by
  simp only [dumpTail, List.cons_append, List.nil_append, List.mem_cons, List.mem_append,
    List.mem_map, List.not_mem_nil, or_false] at member
  rcases member with rfl | ⟨entry, _, rfl⟩ | rfl
  · exact Plain.ofList _ (by decide)
  · exact plain_flagLine entry
  · exact Plain.ofList _ (by decide)

end Report

end AccumulatorMachine
