import Mathlib.Data.List.Basic
import AccumulatorMachine.Source.Program

/-!
# Loading a source

A text is a sequence of rows that are each ended by a line feed, and a last row without one.
Lines are cut out in one walk from the right; here they are told row by row, so that a fact about
the lines of a text is an induction on its rows.

A source loads if all its lines fit, and otherwise the first that does not is reported.  Loading
sees the lines only.  So it goes through a source in parts, and does not care how lines end.
-/

namespace AccumulatorMachine

namespace Text

/-! ## Rows -/

/-- Drop a carriage return at the end. -/
def dropReturn (row : List Char) : List Char :=
  if row.getLast? = some '\r' then row.dropLast else row

/-- A text split at line feeds, without a carriage return directly before one of them. -/
def rows (s : String) : List String :=
  ((s.toList.splitOn '\n').dropLast.map dropReturn ++
    (s.toList.splitOn '\n').getLast?.toList).map String.ofList

@[elab_as_elim]
theorem rowInduction {motive : List Char → Prop}
    (last : ∀ row, '\n' ∉ row → motive row)
    (ended : ∀ row later, '\n' ∉ row → motive later → motive (row ++ '\n' :: later))
    (s : List Char) : motive s := by
  -- the row that has been read so far is part of the induction
  have behind : ∀ row, '\n' ∉ row → motive (row ++ s) := by
    induction s with
    | nil =>
        intro row absent
        rw [List.append_nil]
        exact last row absent
    | cons c s inductionHypothesis =>
        intro row absent
        by_cases feed : c = '\n'
        · subst feed
          exact ended row s absent (inductionHypothesis [] (by simp))
        · have further := inductionHypothesis (row ++ [c]) (by simp [absent, Ne.symm feed])
          rwa [List.append_assoc, List.singleton_append] at further
  exact behind [] (by simp)

section

variable {row : List Char} (absent : '\n' ∉ row)

include absent

theorem pieces_last (nonempty : row ≠ []) : pieces row = [row] := by
  induction row with
  | nil => exact absurd rfl nonempty
  | cons c row inductionHypothesis =>
      obtain ⟨different, absent⟩ := not_or.mp (mt List.mem_cons.mpr absent)
      rw [pieces, List.foldr_cons, ← pieces]
      by_cases single : row = []
      · subst single
        simp [pieces, pieces.place, Ne.symm different]
      · rw [inductionHypothesis absent single]
        simp [pieces.place, Ne.symm different]

theorem pieces_ended (later : List Char) :
    pieces (row ++ '\n' :: later) = (row ++ ['\n']) :: pieces later := by
  induction row with
  | nil => rfl
  | cons c row inductionHypothesis =>
      obtain ⟨different, absent⟩ := not_or.mp (mt List.mem_cons.mpr absent)
      rw [List.cons_append, pieces, List.foldr_cons, ← pieces, inductionHypothesis absent]
      simp [pieces.place, Ne.symm different]

theorem dropEnding_last : dropEnding row = row := by
  have unreversed : '\n' ∉ row.reverse := mt List.mem_reverse.mp absent
  unfold dropEnding
  split
  · next reversed => simp [reversed] at unreversed
  · next reversed => simp [reversed] at unreversed
  · rfl

omit absent in
theorem dropEnding_ended (row : List Char) : dropEnding (row ++ ['\n']) = dropReturn row := by
  unfold dropEnding dropReturn
  rw [List.reverse_append, List.reverse_singleton, List.singleton_append]
  rcases List.eq_nil_or_concat row with rfl | ⟨body, c, rfl⟩
  · rfl
  · rw [List.concat_eq_append]
    by_cases carriage : c = '\r'
    · subst carriage
      simp
    · simp [carriage]

theorem lines_last (nonempty : row ≠ []) : lines (String.ofList row) = [String.ofList row] := by
  rw [lines, String.toList_ofList, pieces_last absent nonempty, List.map_singleton,
    dropEnding_last absent]

theorem lines_ended (later : List Char) :
    lines (String.ofList (row ++ '\n' :: later)) =
      String.ofList (dropReturn row) :: lines (String.ofList later) := by
  rw [lines, String.toList_ofList, pieces_ended absent, List.map_cons, dropEnding_ended, lines,
    String.toList_ofList]

theorem rows_last : rows (String.ofList row) = [String.ofList row] := by
  rw [rows, String.toList_ofList, List.splitOn_eq_singleton absent]
  rfl

theorem rows_ended (later : List Char) :
    rows (String.ofList (row ++ '\n' :: later)) =
      String.ofList (dropReturn row) :: rows (String.ofList later) := by
  have others : later.splitOn '\n' ≠ [] := List.splitOn_ne_nil _ _
  rw [rows, String.toList_ofList, List.splitOn_append_cons_self_of_not_mem absent,
    List.dropLast_cons_of_ne_nil others, List.map_cons, List.cons_append, List.map_cons, rows,
    String.toList_ofList, List.getLast?_cons_of_ne_nil others]

end

/-- The rows are the lines, and an empty one at the end if the last line has its ending. -/
theorem rows_eq_lines_or (s : String) : rows s = lines s ∨ rows s = lines s ++ [""] := by
  rw [← @String.ofList_toList s]
  induction s.toList using rowInduction with
  | last row absent =>
      rw [rows_last absent]
      by_cases empty : row = []
      · subst empty
        exact Or.inr rfl
      · rw [lines_last absent empty]
        exact Or.inl rfl
  | ended row later absent inductionHypothesis =>
      rw [rows_ended absent, lines_ended absent, List.cons_append, List.cons.injEq,
        List.cons.injEq]
      exact inductionHypothesis.imp (⟨rfl, ·⟩) (⟨rfl, ·⟩)

/-- The text is empty, or its last line has its ending. -/
def Ended (s : String) : Prop :=
  s = "" ∨ s.toList.getLast? = some '\n'

theorem lines_append {first : String} (complete : Ended first) (second : String) :
    lines (first ++ second) = lines first ++ lines second := by
  rw [← @String.ofList_toList first, ← @String.ofList_toList second, ← String.ofList_append]
  have last : ∀ c ∈ first.toList.getLast?, c = '\n' := by
    rcases complete with rfl | feed
    · simp
    · simp [feed]
  generalize first.toList = chars at last ⊢
  induction chars using rowInduction with
  | last row absent =>
      rcases List.eq_nil_or_concat row with rfl | ⟨body, c, rfl⟩
      · have nothing : lines (String.ofList []) = [] := rfl
        rw [nothing, List.nil_append, List.nil_append]
      · rw [List.concat_eq_append] at last absent
        have feed : c = '\n' := last c (by simp)
        simp [feed] at absent
  | ended row later absent inductionHypothesis =>
      have laterLast : ∀ c ∈ later.getLast?, c = '\n' := by
        intro c member
        apply last
        rw [List.getLast?_append, List.getLast?_cons, Option.mem_def.mp member]
        simp
      rw [List.append_assoc, List.cons_append, lines_ended absent, lines_ended absent,
        inductionHypothesis laterLast, List.cons_append]

/-- Put a carriage return before a line feed. -/
def addReturn (c : Char) : List Char :=
  if c = '\n' then ['\r', '\n'] else [c]

/-- Put a carriage return before every line feed. -/
def addReturns (s : String) : String :=
  String.ofList (s.toList.flatMap addReturn)

theorem flatMap_addReturn {row : List Char} (absent : '\n' ∉ row) :
    row.flatMap addReturn = row := by
  have single : ∀ c ∈ row, addReturn c = [c] := by
    intro c member
    refine if_neg ?_
    rintro rfl
    exact absent member
  rw [List.flatMap_congr single, List.flatMap_singleton']

theorem dropReturn_of_absent {row : List Char} (absent : '\r' ∉ row) : dropReturn row = row :=
  if_neg fun last => absent (List.mem_of_getLast? last)

theorem dropReturn_concat (row : List Char) : dropReturn (row ++ ['\r']) = row := by
  simp [dropReturn]

theorem lines_addReturns {s : String} (absent : '\r' ∉ s.toList) :
    lines (addReturns s) = lines s := by
  rw [← @String.ofList_toList s, addReturns, String.toList_ofList]
  generalize s.toList = chars at absent ⊢
  induction chars using rowInduction with
  | last row noFeed => rw [flatMap_addReturn noFeed]
  | ended row later noFeed inductionHypothesis =>
      rw [List.mem_append, List.mem_cons, not_or, not_or] at absent
      obtain ⟨noReturn, _, absent⟩ := absent
      have returned : '\n' ∉ row ++ ['\r'] := by simp [noFeed]
      have rearranged : (row ++ '\n' :: later).flatMap addReturn =
          (row ++ ['\r']) ++ '\n' :: later.flatMap addReturn := by
        simp [flatMap_addReturn noFeed, addReturn]
      rw [rearranged, lines_ended returned, lines_ended noFeed, dropReturn_concat,
        dropReturn_of_absent noReturn, inductionHypothesis absent]

end Text

/-! ## Loading line by line -/

namespace Program

variable {program entered : Program} {texts : List String} {fault : Fault}

theorem enterAll_cons_of_fits {s : String} (fits : s.utf8ByteSize ≤ lineBuffer) :
    program.enterAll (s :: texts) = (program.push (Line.ofString s)).enterAll texts := by
  rw [enterAll, List.foldlM_cons, enter_of_fits fits]
  rfl

theorem enterAll_cons_of_long {s : String} (long : lineBuffer < s.utf8ByteSize) :
    program.enterAll (s :: texts) =
      .error ⟨.lineBufferOverflow, some (program.size + 1), ""⟩ := by
  rw [enterAll, List.foldlM_cons, enter_of_long long]
  rfl

theorem enterAll_eq_ok_iff :
    program.enterAll texts = .ok entered ↔
      (∀ s ∈ texts, s.utf8ByteSize ≤ lineBuffer) ∧
        entered = ⟨program.lines ++ (texts.map Line.ofString).toArray⟩ := by
  induction texts generalizing program with
  | nil =>
      simp [enterAll, pure, Except.pure, eq_comm]
  | cons s texts inductionHypothesis =>
      by_cases fits : s.utf8ByteSize ≤ lineBuffer
      · rw [enterAll_cons_of_fits fits, inductionHypothesis]
        simp [fits, push]
      · rw [enterAll_cons_of_long (Nat.lt_of_not_le fits)]
        simp [fits]

/-- The first text that does not fit in the line buffer has `count` texts before it. -/
def FirstLong (texts : List String) (count : Nat) : Prop :=
  ∃ before s later, texts = before ++ s :: later ∧ before.length = count ∧
    (∀ text ∈ before, text.utf8ByteSize ≤ lineBuffer) ∧ lineBuffer < s.utf8ByteSize

theorem exists_firstLong (long : ∃ s ∈ texts, lineBuffer < s.utf8ByteSize) :
    ∃ count, FirstLong texts count := by
  obtain ⟨s, member, long⟩ := long
  have present : (texts.find? fun text => lineBuffer < text.utf8ByteSize).isSome :=
    List.find?_isSome.mpr ⟨s, member, by simpa using long⟩
  obtain ⟨first, found⟩ := Option.isSome_iff_exists.mp present
  obtain ⟨firstLong, before, later, split, fit⟩ := List.find?_eq_some_iff_append.mp found
  exact ⟨before.length, before, first, later, split, rfl, by simpa using fit,
    by simpa using firstLong⟩

namespace FirstLong

variable {count : Nat}

theorem append (firstLong : FirstLong texts count) (further : List String) :
    FirstLong (texts ++ further) count := by
  obtain ⟨before, s, later, rfl, counted, rest⟩ := firstLong
  exact ⟨before, s, later ++ further, by simp, counted, rest⟩

theorem prepend (firstLong : FirstLong texts count) {earlier : List String}
    (fit : ∀ s ∈ earlier, s.utf8ByteSize ≤ lineBuffer) :
    FirstLong (earlier ++ texts) (earlier.length + count) := by
  obtain ⟨before, s, later, rfl, rfl, beforeFit, long⟩ := firstLong
  exact ⟨earlier ++ before, s, later, by simp, by simp,
    List.forall_mem_append.mpr ⟨fit, beforeFit⟩, long⟩

theorem enterAll (firstLong : FirstLong texts count) :
    program.enterAll texts =
      .error ⟨.lineBufferOverflow, some (program.size + count + 1), ""⟩ := by
  obtain ⟨before, s, later, rfl, rfl, fit, long⟩ := firstLong
  induction before generalizing program with
  | nil => exact enterAll_cons_of_long long
  | cons text before inductionHypothesis =>
      obtain ⟨first, others⟩ := List.forall_mem_cons.mp fit
      have size : (program.push (Line.ofString text)).size + before.length =
          program.size + (text :: before).length := by
        simp only [Program.size, push, Array.size_push, List.length_cons]
        omega
      rw [List.cons_append, enterAll_cons_of_fits first, inductionHypothesis others, size]

end FirstLong

/-- Loading fails at the first line that does not fit. -/
theorem enterAll_eq_error_iff :
    program.enterAll texts = .error fault ↔
      ∃ count, FirstLong texts count ∧
        fault = ⟨.lineBufferOverflow, some (program.size + count + 1), ""⟩ := by
  constructor
  · intro refused
    have long : ∃ s ∈ texts, lineBuffer < s.utf8ByteSize := by
      by_contra fit
      simp only [not_exists, not_and, Nat.not_lt] at fit
      rw [enterAll_eq_ok_iff.mpr ⟨fit, rfl⟩] at refused
      cases refused
    obtain ⟨count, firstLong⟩ := exists_firstLong long
    rw [firstLong.enterAll] at refused
    cases refused
    exact ⟨count, firstLong, rfl⟩
  · rintro ⟨count, firstLong, rfl⟩
    exact firstLong.enterAll

theorem ofSource_eq_ok_iff {source : String} :
    ofSource source = .ok program ↔
      (∀ s ∈ Text.lines source, s.utf8ByteSize ≤ lineBuffer) ∧
        program = ⟨((Text.lines source).map Line.ofString).toArray⟩ := by
  rw [ofSource, enterAll_eq_ok_iff]
  simp [empty]

theorem ofSource_eq_error_iff {source : String} :
    ofSource source = .error fault ↔
      ∃ count, FirstLong (Text.lines source) count ∧
        fault = ⟨.lineBufferOverflow, some (count + 1), ""⟩ := by
  rw [ofSource, enterAll_eq_error_iff]
  simp [empty, Program.size]

/-! ## Sources in parts -/

section

variable {first second : String} (complete : Text.Ended first) {upper lower : Program}

include complete

theorem ofSource_append_of_error (refused : ofSource first = .error fault) :
    ofSource (first ++ second) = .error fault := by
  obtain ⟨count, firstLong, rfl⟩ := ofSource_eq_error_iff.mp refused
  rw [ofSource_eq_error_iff, Text.lines_append complete]
  exact ⟨count, firstLong.append _, rfl⟩

theorem ofSource_append_of_ok (firstLoaded : ofSource first = .ok upper)
    (secondLoaded : ofSource second = .ok lower) :
    ofSource (first ++ second) = .ok ⟨upper.lines ++ lower.lines⟩ := by
  obtain ⟨firstFits, rfl⟩ := ofSource_eq_ok_iff.mp firstLoaded
  obtain ⟨secondFits, rfl⟩ := ofSource_eq_ok_iff.mp secondLoaded
  rw [ofSource_eq_ok_iff, Text.lines_append complete]
  exact ⟨List.forall_mem_append.mpr ⟨firstFits, secondFits⟩, by simp⟩

theorem ofSource_append_of_ok_error {number : Nat} (firstLoaded : ofSource first = .ok upper)
    (refused : ofSource second = .error ((Fault.of .lineBufferOverflow).atLine number)) :
    ofSource (first ++ second) =
      .error ((Fault.of .lineBufferOverflow).atLine (upper.size + number)) := by
  obtain ⟨firstFits, rfl⟩ := ofSource_eq_ok_iff.mp firstLoaded
  obtain ⟨count, firstLong, same⟩ := ofSource_eq_error_iff.mp refused
  have counted : number = count + 1 := Option.some.inj (congrArg Fault.line same)
  rw [ofSource_eq_error_iff, Text.lines_append complete]
  refine ⟨_, firstLong.prepend firstFits, ?_⟩
  simp [counted, Fault.of, Fault.atLine, Program.size, Nat.add_assoc]

end

/-- A source can be loaded in parts that end with a line: the first fault counts, with its line
number moved on by the lines before it, and without a fault the lines stand one after the other.
Whether lines end with a line feed or with a carriage return and a line feed makes no difference. -/
theorem ofSource_in_parts :
    (∀ first second : String, Text.Ended first →
      (∀ fault, ofSource first = .error fault → ofSource (first ++ second) = .error fault) ∧
      (∀ upper lower, ofSource first = .ok upper → ofSource second = .ok lower →
        ofSource (first ++ second) = .ok ⟨upper.lines ++ lower.lines⟩) ∧
      ∀ upper number, ofSource first = .ok upper →
        ofSource second = .error ((Fault.of .lineBufferOverflow).atLine number) →
        ofSource (first ++ second) =
          .error ((Fault.of .lineBufferOverflow).atLine (upper.size + number))) ∧
      ∀ source : String, '\r' ∉ source.toList →
        Text.lines (Text.addReturns source) = Text.lines source ∧
          ofSource (Text.addReturns source) = ofSource source := by
  constructor
  · intro first second complete
    exact ⟨fun _ => ofSource_append_of_error complete,
      fun _ _ => ofSource_append_of_ok complete,
      fun _ _ => ofSource_append_of_ok_error complete⟩
  · intro source absent
    have sameLines := Text.lines_addReturns absent
    exact ⟨sameLines, by rw [ofSource, sameLines, ofSource]⟩

def longRow : List Char :=
  List.replicate 1025 '9'

/-- A source whose second line does not fit. -/
def overfull : String :=
  String.ofList (['e', 'n', 'd'] ++ '\n' :: longRow)

theorem ofSource_in_parts_overfull :
    Text.Ended "begin\r\n\n# note\n" ∧
      ofSource overfull = .error ((Fault.of .lineBufferOverflow).atLine 2) ∧
      ofSource ("begin\r\n\n# note\n" ++ overfull) =
        .error ((Fault.of .lineBufferOverflow).atLine 5) ∧
      ofSource "begin\r\nend" = ofSource "begin\nend" := by
  have long : lineBuffer < (String.ofList longRow).utf8ByteSize := by decide +kernel
  have oneRow : '\n' ∉ longRow := fun member => nomatch List.eq_of_mem_replicate member
  have refused : ofSource overfull = .error ((Fault.of .lineBufferOverflow).atLine 2) := by
    rw [ofSource_eq_error_iff, overfull, Text.lines_ended (by decide),
      Text.lines_last oneRow (List.cons_ne_nil '9' (List.replicate 1024 '9'))]
    exact ⟨1, ⟨["end"], _, [], rfl, rfl, by decide, long⟩, rfl⟩
  have complete : Text.Ended "begin\r\n\n# note\n" := Or.inr rfl
  have loaded : ofSource "begin\r\n\n# note\n" =
      .ok ⟨#[⟨["begin"]⟩, ⟨[]⟩, ⟨["#", "note"]⟩]⟩ := rfl
  have absent : '\r' ∉ "begin\nend".toList := by decide
  obtain ⟨parts, returns⟩ := ofSource_in_parts
  obtain ⟨_, _, numbered⟩ := parts _ overfull complete
  have counted := numbered _ 2 loaded refused
  exact ⟨complete, refused, counted, (returns "begin\nend" absent).2⟩

end Program

end AccumulatorMachine
