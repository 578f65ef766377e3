import AccumulatorMachine.CommandLine
import AccumulatorMachine.Proofs.SolidText

/-!
# Reading the console

A run of a file is shown line by line: what was written, and at last either the fault in
bold letters or the farewell.  None of these lines has a line feed of its own and none of
those written during the run can be taken for the farewell.  So whoever reads the console
gets back what was logged, and knows from the last line whether there was a fault.
-/

namespace AccumulatorMachine

/-! ## Lines that are written -/

theorem Plain.ne_farewell {s : String} (plain : Plain s) : s ≠ "Reached end of program." := by
  obtain ⟨c, begins, _, noFarewell⟩ := plain
  rintro rfl
  have opened : "Reached end of program.".toList.head? = some 'R' := by
    rw [show "Reached end of program.".toList = _ from String.toList_ofList]
    rfl
  exact noFarewell (Option.some.inj (begins.symm.trans opened))

theorem Cell.text_ne_farewell (cell : Cell) : cell.text ≠ "Reached end of program." := by
  intro same
  have opened : cell.text.toList.head? = some '&' := by
    simp [Cell.text]
  rw [same, show "Reached end of program.".toList = _ from String.toList_ofList] at opened
  cases opened

namespace Machine

variable {machine next : Machine} {lines : List String}

theorem ne_farewell_of_dumpLines {s : String} (member : s ∈ Report.dumpLines machine) :
    s ≠ "Reached end of program." := by
  rw [Report.dumpLines_eq, List.mem_append, List.mem_append] at member
  rcases member with (above | shown) | below
  · exact (Report.plain_of_mem_dumpHead above).ne_farewell
  · obtain ⟨cell, _, rfl⟩ := List.mem_map.mp shown
    exact cell.text_ne_farewell
  · exact (Report.plain_of_mem_dumpTail below).ne_farewell

theorem Performed.ne_farewell {instruction : Instruction}
    (performed : Performed machine instruction next lines) :
    ∀ s ∈ lines, s ≠ "Reached end of program." := by
  intro s member
  cases performed with
  | status _ =>
      rw [List.mem_singleton.mp member]
      exact (Report.plain_statusLine _ _).ne_farewell
  | dump => exact ne_farewell_of_dumpLines member
  | print =>
      rw [List.mem_singleton.mp member]
      exact (Report.plain_accumulatorLine machine).ne_farewell
  | help => exact (Report.plain_of_mem_helpLines member).ne_farewell
  | _ => cases member

theorem ne_farewell_of_step (advanced : machine.step = .ok (.advance next lines)) :
    ∀ s ∈ lines, s ≠ "Reached end of program." := by
  obtain ⟨address, line, _, _, advance⟩ := advance_of_step advanced
  cases advance with
  | command _ _ _ _ performed => exact (performed_of_perform performed).ne_farewell
  | unknown _ _ _ =>
      intro s member
      rw [List.mem_singleton.mp member]
      exact (Report.plain_unidentifiedLine _ _).ne_farewell
  | _ => exact fun s member => nomatch member

end Machine

/-! ## The log of a run -/

/-- The log has lines of output that can be read one by one, and behind them the fault that
the run ended with, if it did. -/
structure Outcome.Legible (outcome : Outcome) (lines : List String) : Prop where
  oneLine : ∀ s ∈ lines, Text.OneLine s
  ne_farewell : ∀ s ∈ lines, s ≠ "Reached end of program."
  log_of_ok : ∀ event, outcome.result = .ok event →
    outcome.log.toList = lines.map Entry.output
  log_of_error : ∀ fault, outcome.result = .error fault →
    outcome.log.toList = lines.map Entry.output ++ [.fault fault] ∧ Text.OneLine fault.text

section

variable {machine : Machine} {lines : List String} (oneLine : ∀ s ∈ lines, Text.OneLine s)
  (apart : ∀ s ∈ lines, s ≠ "Reached end of program.")

include oneLine apart

theorem Outcome.Legible.ok (event : Event) :
    Legible ⟨machine, (lines.map Entry.output).toArray, .ok event⟩ lines where
  oneLine := oneLine
  ne_farewell := apart
  log_of_ok _ _ := rfl
  log_of_error _ impossible := nomatch impossible

theorem Outcome.Legible.failed {fault : Fault} (text : Text.OneLine fault.text) :
    Legible (.failed machine (lines.map Entry.output).toArray fault) lines where
  oneLine := oneLine
  ne_farewell := apart
  log_of_ok _ impossible := nomatch impossible
  log_of_error _ same := by
    cases same
    exact ⟨by simp [Outcome.failed], text⟩

theorem Machine.Solid.exists_legible (solid : machine.Solid) (cycles : Nat) :
    ∃ further, (machine.steps (lines.map Entry.output).toArray cycles).Legible further := by
  -- the log so far is part of the induction, since a step writes behind it
  induction cycles generalizing machine lines with
  | zero => exact ⟨lines, Outcome.Legible.ok oneLine apart .running⟩
  | succ cycles inductionHypothesis =>
      rw [steps_succ]
      cases stepped : machine.step with
      | error fault =>
          exact ⟨lines, Outcome.Legible.failed oneLine apart (solid.fault_oneLine stepped)⟩
      | ok transition =>
          cases transition with
          | finish ending => exact ⟨lines, Outcome.Legible.ok oneLine apart (.ended ending)⟩
          | advance next written =>
              have longer : (lines.map Entry.output).toArray ++
                  (written.map Entry.output).toArray =
                    ((lines ++ written).map Entry.output).toArray := by
                simp
              dsimp only
              rw [longer]
              refine inductionHypothesis ?_ ?_ (solid.step stepped)
              · exact List.forall_mem_append.mpr ⟨oneLine, solid.step_oneLine stepped⟩
              · exact List.forall_mem_append.mpr ⟨apart, ne_farewell_of_step stepped⟩

end

namespace CommandLine

/-! ## The console -/

/-- The outcome of a source: a run of its program, or the refusal of a line. -/
def outcomeOf (source : String) (bound : Nat) : Outcome :=
  match Program.ofSource source with
  | .error fault => .failed Machine.new #[] fault
  | .ok program => (Machine.new.load program).run bound

/-- The painter puts a text between the escape sequences that turn bold letters on
and off. -/
def IsBold (paint : Painter) : Prop :=
  ∀ s, paint s = "\x1b[1m" ++ s ++ "\x1b[0m"

theorem isBold_ansi : IsBold Painter.ansi :=
  fun _ => rfl

/-- The line that is shown last. -/
def lastLine (paint : Painter) : Except Fault Event → String
  | .ok _ => "Reached end of program."
  | .error fault => paint fault.text

section

variable {paint : Painter}

theorem runFile_content (name : String) {bytes : ByteArray} {source : String}
    (valid : String.fromUTF8? bytes = some source) (bound : Nat) :
    runFile paint name (.content bytes) bound =
      ofOutcome paint (outcomeOf source bound) := by
  have read : (SourceFile.content bytes).program name = Program.ofSource source := by
    simp only [SourceFile.program, valid]
  rw [runFile, read, outcomeOf]
  cases Program.ofSource source <;> rfl

theorem stdout_of_legible {outcome : Outcome} {lines : List String}
    (legible : outcome.Legible lines) :
    (ofOutcome paint outcome).stdout =
      String.join ((lines ++ [lastLine paint outcome.result]).map (· ++ "\n")) := by
  have written : (lines.map Entry.output).map (Entry.console paint) =
      lines.map (· ++ "\n") := by
    rw [List.map_map]
    rfl
  unfold ofOutcome console
  dsimp only
  rw [List.map_append, String.join_append]
  cases result : outcome.result with
  | ok event =>
      have parting : farewell = "Reached end of program." ++ "\n" := by decide
      rw [legible.log_of_ok event result, written, closing, parting]
      simp [lastLine]
  | error fault =>
      rw [(legible.log_of_error fault result).1, List.map_append, String.join_append, written,
        closing]
      simp [lastLine, Entry.console]

theorem splitOn_join {lines : List String} (oneLine : ∀ s ∈ lines, Text.OneLine s) :
    (String.join (lines.map (· ++ "\n"))).toList.splitOn '\n' =
      lines.map String.toList ++ [[]] := by
  induction lines with
  | nil => simp
  | cons s lines inductionHypothesis =>
      obtain ⟨first, others⟩ := List.forall_mem_cons.mp oneLine
      rw [List.map_cons, String.join_cons, String.toList_append, String.toList_append,
        show "\n".toList = ['\n'] from String.toList_ofList, List.append_assoc,
        List.singleton_append, List.splitOn_append_cons_self_of_not_mem first,
        inductionHypothesis others, List.map_cons, List.cons_append]

theorem oneLine_lastLine (bold : IsBold paint) {outcome : Outcome} {lines : List String}
    (legible : outcome.Legible lines) : Text.OneLine (lastLine paint outcome.result) := by
  cases result : outcome.result with
  | ok event => exact Text.OneLine.ofList (by decide)
  | error fault =>
      have text := (legible.log_of_error fault result).2
      rw [lastLine, bold]
      exact ((Text.OneLine.ofList (by decide)).append text).append
        (Text.OneLine.ofList (by decide))

/-- A line in bold letters is not the farewell. -/
theorem lastLine_eq_iff (bold : IsBold paint) (result : Except Fault Event) :
    lastLine paint result = "Reached end of program." ↔ (closing result).exitCode = 0 := by
  cases result with
  | ok event => exact ⟨fun _ => rfl, fun _ => rfl⟩
  | error fault =>
      refine ⟨?_, nofun⟩
      intro same
      have opened : (lastLine paint (.error fault)).toList.head? = some '\x1b' := by
        simp [lastLine, bold fault.text]
      rw [same, show "Reached end of program.".toList = _ from String.toList_ofList] at opened
      cases opened

end

theorem exists_legible_outcomeOf (source : String) (bound : Nat) :
    ∃ lines, (outcomeOf source bound).Legible lines ∧
      ∀ fault, Program.ofSource source = .error fault →
        lines = [] ∧ ∃ number, fault = (Fault.of .lineBufferOverflow).atLine number := by
  unfold outcomeOf
  cases accepted : Program.ofSource source with
  | ok program =>
      dsimp only
      rw [Machine.run_of_calm rfl]
      have solid := Machine.solid_load (Program.solid_ofSource accepted)
      obtain ⟨lines, legible⟩ := @Machine.Solid.exists_legible _ [] nofun nofun solid
        (bound * Machine.sliceCycles)
      exact ⟨lines, legible, nofun⟩
  | error fault =>
      obtain ⟨count, _, rfl⟩ := Program.ofSource_eq_error_iff.mp accepted
      have oneLine : Text.OneLine ((Fault.of .lineBufferOverflow).atLine (count + 1)).text :=
        Fault.oneLine_text Text.Solid.empty.oneLine
      refine ⟨[], @Outcome.Legible.failed _ [] nofun nofun _ oneLine, ?_⟩
      intro _ same
      cases same
      exact ⟨rfl, count + 1, rfl⟩

/-- The console of a run that comes to an end can be read back.  The lines are what was logged,
with a fault in bold letters or the farewell at the end. -/
theorem console_unambiguous {paint : Painter} (bold : IsBold paint) (name : String)
    {bytes : ByteArray} {source : String} {bound : Nat}
    (valid : String.fromUTF8? bytes = some source)
    (terminates : (outcomeOf source bound).result ≠ .ok .running) :
    ∃ (lines : List String) (last : String),
      ((∃ ending, (outcomeOf source bound).result = .ok (.ended ending) ∧
          (outcomeOf source bound).log.toList = lines.map Entry.output ∧
          last = "Reached end of program." ∧
          (runFile paint name (.content bytes) bound).exitCode = 0) ∨
        ∃ fault, (outcomeOf source bound).result = .error fault ∧
          (outcomeOf source bound).log.toList = lines.map Entry.output ++ [.fault fault] ∧
          last = "\x1b[1m" ++ fault.text ++ "\x1b[0m" ∧
          (runFile paint name (.content bytes) bound).exitCode = 1) ∧
      (∀ fault, Program.ofSource source = .error fault →
        lines = [] ∧ ∃ number, fault = (Fault.of .lineBufferOverflow).atLine number) ∧
      (∀ program cycles, Program.ofSource source = .ok program →
        ((Machine.new.load program).execute cycles).machine.Solid) ∧
      (runFile paint name (.content bytes) bound).stdout =
        String.join ((lines ++ [last]).map (· ++ "\n")) ∧
      (runFile paint name (.content bytes) bound).stdout.toList.splitOn '\n' =
        (lines ++ [last]).map String.toList ++ [[]] ∧
      (∀ s ∈ lines ++ [last], Text.OneLine s) ∧
      "Reached end of program." ∉ lines ∧
      (last = "Reached end of program." ↔
        (runFile paint name (.content bytes) bound).exitCode = 0) := by
  obtain ⟨lines, legible, refused⟩ := exists_legible_outcomeOf source bound
  rw [runFile_content name valid]
  generalize outcomeOf source bound = outcome at terminates legible ⊢
  have oneLine : ∀ s ∈ lines ++ [lastLine paint outcome.result], Text.OneLine s :=
    List.forall_mem_append.mpr ⟨legible.oneLine, by simpa using oneLine_lastLine bold legible⟩
  have exitCode : (ofOutcome paint outcome).exitCode = (closing outcome.result).exitCode := rfl
  rw [stdout_of_legible legible, splitOn_join oneLine, exitCode]
  refine ⟨lines, lastLine paint outcome.result, ?_, refused, ?_, rfl, rfl, oneLine,
    fun member => legible.ne_farewell _ member rfl, lastLine_eq_iff bold _⟩
  · cases result : outcome.result with
    | ok event =>
        cases event with
        | running => exact absurd result terminates
        | ended ending => exact Or.inl ⟨ending, rfl, legible.log_of_ok _ result, rfl, rfl⟩
    | error fault =>
        exact Or.inr ⟨fault, rfl, (legible.log_of_error fault result).1, bold fault.text, rfl⟩
  · intro program cycles accepted
    rw [Machine.execute_of_calm rfl]
    exact Machine.steps_preserve Machine.Solid.step
      (Machine.solid_load (Program.solid_ofSource accepted)) _ _

/-- A program with an unknown word that looks like the beginning of bold letters. -/
def emboldening : String := "begin\n\x1b[1m\nld a\nprint\nadd 1"

theorem console_unambiguous_emboldening :
    String.fromUTF8? emboldening.toUTF8 = some emboldening ∧
      (outcomeOf emboldening 1).result ≠ .ok .running ∧
      IsBold Painter.ansi ∧
      (runFile Painter.ansi "bold" (.content emboldening.toUTF8) 1).exitCode = 1 ∧
      (runFile Painter.ansi "bold" (.content emboldening.toUTF8) 1).stdout.toList.splitOn '\n' =
        ["UNIDENTIFIED TOKEN ON LINE 2: \"\x1b[1m\"", "ACC : \"a\"",
          "\x1b[1m" ++ Fault.text ⟨.typeMismatch, some 5, "\"a\""⟩ ++ "\x1b[0m"].map
            String.toList ++ [[]] := by
  have valid : String.fromUTF8? emboldening.toUTF8 = some emboldening :=
    dif_pos emboldening.isValidUTF8
  have logged : (outcomeOf emboldening 1).log.toList =
      ["UNIDENTIFIED TOKEN ON LINE 2: \"\x1b[1m\"", "ACC : \"a\""].map Entry.output ++
        [.fault ⟨.typeMismatch, some 5, "\"a\""⟩] := by
    decide +kernel
  have failed : (outcomeOf emboldening 1).result =
      .error ⟨.typeMismatch, some 5, "\"a\""⟩ := rfl
  have terminates : (outcomeOf emboldening 1).result ≠ .ok .running := by
    rw [failed]
    nofun
  obtain ⟨lines, last, ended, _, _, _, split, _, _⟩ :=
    console_unambiguous isBold_ansi "bold" valid terminates
  refine ⟨valid, terminates, isBold_ansi, ?_⟩
  rcases ended with ⟨_, ok, _⟩ | ⟨fault, error, log, rfl, exit⟩
  · rw [failed] at ok
    cases ok
  · rw [failed] at error
    cases error
    have written := List.append_cancel_right (logged.symm.trans log)
    obtain rfl := (List.map_inj_right fun _ _ => Entry.output.inj).mp written
    exact ⟨exit, split⟩

end CommandLine

end AccumulatorMachine
