import Mathlib.Data.List.DropRight
import AccumulatorMachine.Proofs.AddressGrammar

/-!
# Reading faults

The text of a fault is a title, then a line number if one is known, then a detail if there is
one.  A detail is any text: it may look like a line number, or like the text of another fault.
Still a fault can be read back from its text.  Titles and numbers have no semicolon, so the first
one opens the detail.  Titles have no digit, so digits before the detail are the line number.
-/

namespace AccumulatorMachine.Fault

open Address (takeWhile_run dropWhile_run isDigit_of_mem_toDigits)

/-! ## Titles -/

/-- Neither a semicolon nor a digit stands in the text. -/
def Unmarked (s : String) : Prop :=
  ∀ c ∈ s.toList, (c != ';') = true ∧ (!c.isDigit) = true

theorem Unmarked.ofList {chars : List Char}
    (unmarked : chars.all (fun c => c != ';' && !c.isDigit) = true) :
    Unmarked (String.ofList chars) := by
  simpa [Unmarked] using unmarked

theorem Unmarked.append {s t : String} (first : Unmarked s) (second : Unmarked t) :
    Unmarked (s ++ t) := by
  intro c member
  rw [String.toList_append, List.mem_append] at member
  exact member.elim (first c) (second c)

namespace Kind

/-- All kinds in the order of their numbers. -/
def all : List Kind :=
  [noBegin, missingOperand, badAddress, duplicateDefinition, undefinedProcedure,
    duplicateProcedure, returnWithoutCall, typeMismatch, overflow, flagOutOfRange,
    undefinedLine, outOfMemory, lineBufferOverflow, interrupted, internalError, fileNotFound]

/-- The kind with a given title. -/
def ofTitle? (title : String) : Option Kind :=
  all.find? fun kind => kind.title == title

theorem mem_all (kind : Kind) : kind ∈ all := by
  cases kind <;> decide

theorem ofTitle?_title (kind : Kind) : ofTitle? kind.title = some kind := by
  have decided : ∀ candidate ∈ all, ofTitle? candidate.title = some candidate := by
    decide
  exact decided kind (mem_all kind)

theorem unmarked_title (kind : Kind) : Unmarked kind.title := by
  cases kind <;> exact Unmarked.ofList rfl

end Kind

/-! ## The reader -/

/-- Read what stands before the detail: a title, or a title, the word `IN` between spaces and a
number. -/
def readHead? (head : List Char) : Option (Kind × Option Nat) :=
  match head.dropWhile fun c => !c.isDigit with
  | [] => (Kind.ofTitle? (String.ofList head)).map fun kind => (kind, none)
  | digits =>
      (Kind.ofTitle? (String.ofList ((head.takeWhile fun c => !c.isDigit).rdrop 4))).map
        fun kind => (kind, some (Nat.ofDigitChars 10 digits 0))

/-- Read the text of a fault.  The detail stands behind the first semicolon and a space. -/
def read? (s : String) : Option Fault :=
  (readHead? (s.toList.takeWhile fun c => c != ';')).map fun (kind, line) =>
    ⟨kind, line, String.ofList ((s.toList.dropWhile fun c => c != ';').drop 2)⟩

theorem readHead?_title (kind : Kind) : readHead? kind.title.toList = some (kind, none) := by
  have noDigits : kind.title.toList.dropWhile (fun c => !c.isDigit) = [] :=
    List.dropWhile_eq_nil_iff.mpr fun c member => (kind.unmarked_title c member).2
  unfold readHead?
  rw [noDigits]
  dsimp only
  rw [String.ofList_toList, Kind.ofTitle?_title, Option.map_some]

theorem readHead?_numbered (kind : Kind) (number : Nat) :
    readHead? ((kind.title ++ " IN ").toList ++ Nat.toDigits 10 number) =
      some (kind, some number) := by
  have unmarked : Unmarked (kind.title ++ " IN ") :=
    kind.unmarked_title.append (Unmarked.ofList rfl)
  have noDigits : ∀ c ∈ (kind.title ++ " IN ").toList, (!c.isDigit) = true :=
    fun c member => (unmarked c member).2
  have ends : ∀ c ∈ (Nat.toDigits 10 number).head?, (!c.isDigit) = false := by
    intro c first
    rw [isDigit_of_mem_toDigits c (List.mem_of_mem_head? first)]
    rfl
  have title : (kind.title ++ " IN ").toList.rdrop 4 = kind.title.toList := by
    simp [List.rdrop]
  have value : Nat.ofDigitChars 10 (Nat.toDigits 10 number) 0 = number :=
    Nat.ofDigitChars_ten_toDigits
  unfold readHead?
  rw [takeWhile_run noDigits ends, dropWhile_run noDigits ends, title]
  cases digits : Nat.toDigits 10 number with
  | nil => exact absurd digits Nat.toDigits_ne_nil
  | cons first others =>
      dsimp only
      rw [← digits, value, String.ofList_toList, Kind.ofTitle?_title, Option.map_some]

/-! ## Reading what was written -/

theorem readHead?_linePart (fault : Fault) :
    readHead? (fault.kind.title ++ fault.linePart).toList = some (fault.kind, fault.line) := by
  unfold linePart
  cases fault.line with
  | none =>
      rw [String.append_empty]
      exact readHead?_title fault.kind
  | some number =>
      dsimp only
      rw [← String.append_assoc, String.toList_append, Nat.toString_eq_repr, Nat.toList_repr]
      exact readHead?_numbered fault.kind number

theorem ne_semicolon_of_mem_linePart {fault : Fault} :
    ∀ c ∈ fault.linePart.toList, (c != ';') = true := by
  unfold linePart
  cases fault.line with
  | none => simp
  | some number =>
      intro c member
      have words : Unmarked " IN " := Unmarked.ofList rfl
      rw [String.toList_append, Nat.toString_eq_repr, Nat.toList_repr] at member
      rcases List.mem_append.mp member with member | member
      · exact (words c member).1
      · have digit := isDigit_of_mem_toDigits c member
        rw [bne_iff_ne]
        rintro rfl
        cases digit

theorem detailPart_cases (fault : Fault) :
    fault.detail = "" ∧ fault.detailPart.toList = [] ∨
      fault.detailPart.toList = ';' :: ' ' :: fault.detail.toList := by
  unfold detailPart
  split
  · next nothing => exact Or.inl ⟨nothing, rfl⟩
  · exact Or.inr (by simp)

theorem read?_text (fault : Fault) : read? fault.text = some fault := by
  have noSemicolon : ∀ c ∈ (fault.kind.title ++ fault.linePart).toList, (c != ';') = true := by
    intro c member
    rw [String.toList_append, List.mem_append] at member
    exact member.elim (fun inTitle => (fault.kind.unmarked_title c inTitle).1)
      (ne_semicolon_of_mem_linePart c)
  have ends : ∀ c ∈ fault.detailPart.toList.head?, (c != ';') = false := by
    rcases fault.detailPart_cases with ⟨_, nothing⟩ | something
    · simp [nothing]
    · simp [something]
  have detail : String.ofList (fault.detailPart.toList.drop 2) = fault.detail := by
    rcases fault.detailPart_cases with ⟨empty, nothing⟩ | something
    · rw [nothing, empty]
      rfl
    · rw [something, List.drop_succ_cons, List.drop_succ_cons, List.drop_zero,
        String.ofList_toList]
  rw [read?, text, String.toList_append, takeWhile_run noSemicolon ends,
    dropWhile_run noSemicolon ends, readHead?_linePart, detail, Option.map_some]

/-- A detail that reads like the text of another fault. -/
example : read? "NO BEGIN; OVERFLOW IN 3; x" = some ⟨.noBegin, none, "OVERFLOW IN 3; x"⟩ := by
  decide +kernel

theorem text_injective : Function.Injective text := by
  intro first second same
  have read := read?_text first
  rw [same, read?_text] at read
  exact (Option.some.inj read).symm

theorem braced_injective : Function.Injective braced := by
  intro first second same
  unfold braced at same
  rw [String.append_left_inj, String.append_right_inj] at same
  exact text_injective same

theorem eq_iff_parts {first second : Fault} :
    first = second ↔
      first.kind = second.kind ∧ first.line = second.line ∧ first.detail = second.detail := by
  obtain ⟨kind, line, detail⟩ := first
  obtain ⟨otherKind, otherLine, otherDetail⟩ := second
  rw [Fault.mk.injEq]

/-! ## Attaching lines -/

theorem foldl_atLine (fault : Fault) (numbers : List Nat) :
    numbers.foldl atLine fault = { fault with line := fault.line.or numbers.head? } := by
  induction numbers generalizing fault with
  | nil => rw [List.foldl_nil, List.head?_nil, Option.or_none]
  | cons number numbers inductionHypothesis =>
      rw [List.foldl_cons, inductionHypothesis, atLine, Option.or_assoc, List.head?_cons]
      rfl

theorem text_foldl_atLine (kind : Kind) (detail : String) (first : Nat) (later : List Nat) :
    ((first :: later).foldl atLine (about kind detail)).text =
      kind.title ++ " IN " ++ toString first ++ (about kind detail).detailPart := by
  have attached : (first :: later).foldl atLine (about kind detail) = ⟨kind, some first, detail⟩ :=
    foldl_atLine _ _
  have grouped : kind.title ++ " IN " ++ toString first =
      kind.title ++ (" IN " ++ toString first) := String.append_assoc
  rw [attached, grouped]
  rfl

/-- No two faults have the same text, in braces or without.  After line numbers were attached one
by one, the text is that of the fault with the first of them. -/
theorem text_unambiguous :
    (∀ first second : Fault, first.text = second.text ↔
        first.kind = second.kind ∧ first.line = second.line ∧ first.detail = second.detail) ∧
      (∀ first second : Fault, first.braced = second.braced ↔
        first.kind = second.kind ∧ first.line = second.line ∧ first.detail = second.detail) ∧
      (∀ (fault shown : Fault) (numbers : List Nat),
        shown.text = (numbers.foldl atLine fault).text ↔
          shown.kind = fault.kind ∧ shown.line = fault.line.or numbers.head? ∧
            shown.detail = fault.detail) ∧
      ∀ (kind : Kind) (detail : String) (first : Nat) (later : List Nat),
        ((first :: later).foldl atLine (about kind detail)).text =
            kind.title ++ " IN " ++ toString first ++ (about kind detail).detailPart ∧
          ((first :: later).foldl atLine (about kind detail)).braced =
            "Error \x7b " ++ (kind.title ++ " IN " ++ toString first ++
              (about kind detail).detailPart) ++ " \x7d" := by
  refine ⟨?_, ?_, ?_, ?_⟩
  · intro first second
    rw [text_injective.eq_iff, eq_iff_parts]
  · intro first second
    rw [braced_injective.eq_iff, eq_iff_parts]
  · intro fault shown numbers
    rw [text_injective.eq_iff, foldl_atLine, eq_iff_parts]
  · intro kind detail first later
    rw [braced, text_foldl_atLine]
    exact ⟨rfl, rfl⟩

end AccumulatorMachine.Fault
