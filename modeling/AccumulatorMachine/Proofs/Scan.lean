import AccumulatorMachine.Proofs.ControlInvariant

/-!
# The scan before `begin`

Before the module begins a machine goes through its program line by line, registers
the procedure headers and runs nothing.  What it has collected is described here by
the lines alone: the headers in front of the counter, whether one of them is still
open, and the unknown words outside of bodies.  The scan of a prefix of the program
yields exactly this, whatever headers stand inside bodies or bodies are never closed.
-/

namespace AccumulatorMachine

namespace Program

variable (program : Program) (address : Nat)

/-- The line at an address, where nothing stands behind the last line. -/
def lineAt : Line :=
  (program.line? address).getD ⟨[]⟩

/-- Whether a procedure header stands at an address. -/
def opensAt : Bool :=
  !(program.lineAt address).isBlank && (program.lineAt address).isHeader

/-- Whether an `endproc` stands at an address. -/
def closesAt : Bool :=
  !(program.lineAt address).isBlank && (program.lineAt address).command == "endproc"

/-- Some header in front of an address has no `endproc` between itself and the
address. -/
def InBody : Prop :=
  ∃ opened < address, program.opensAt opened = true ∧
    ∀ between < address, opened < between → program.closesAt between = false

instance : Decidable (program.InBody address) :=
  inferInstanceAs (Decidable (∃ opened < address, program.opensAt opened = true ∧
    ∀ between < address, opened < between → program.closesAt between = false))

/-- Whether an unknown word outside of a body stands at an address. -/
def unknownAt : Bool :=
  !(program.lineAt address).isBlank && !(program.lineAt address).isHeader &&
    !decide (program.InBody address) &&
      (Mnemonic.ofWord? (program.lineAt address).command).isNone

/-- The procedure whose header stands at an address. -/
def header? : Option (String × Nat) :=
  if program.opensAt address then
    (program.lineAt address).tokens[1]?.map fun name => (name, address)
  else none

/-- The procedures whose headers stand in front of an address. -/
def headers : List (String × Nat) :=
  (List.range address).filterMap program.header?

/-- The report of the word at an address. -/
def reportAt : String :=
  Report.unidentifiedLine (address + 1) (program.lineAt address).command

/-- The reports of unknown words outside of bodies in front of an address. -/
def reports : List String :=
  ((List.range address).filter program.unknownAt).map program.reportAt

variable {program address}

theorem lineAt_of_line? {line : Line} (found : program.line? address = some line) :
    program.lineAt address = line := by
  rw [lineAt, found, Option.getD_some]

theorem header?_eq_some_iff {name : String} {entry : Nat} :
    program.header? address = some (name, entry) ↔
      program.opensAt address = true ∧
        (program.lineAt address).tokens[1]? = some name ∧ address = entry := by
  unfold header?
  by_cases opening : program.opensAt address = true
  · rw [if_pos opening, Option.map_eq_some_iff]
    constructor
    · rintro ⟨found, operand, same⟩
      cases same
      exact ⟨opening, operand, rfl⟩
    · rintro ⟨_, operand, rfl⟩
      exact ⟨name, operand, rfl⟩
  · rw [if_neg opening]
    simp [opening]

theorem mem_headers_iff {count : Nat} {name : String} :
    (name, address) ∈ program.headers count ↔
      address < count ∧ program.opensAt address = true ∧
        (program.lineAt address).tokens[1]? = some name := by
  simp only [headers, List.mem_filterMap, List.mem_range, header?_eq_some_iff]
  constructor
  · rintro ⟨other, inside, opening, operand, rfl⟩
    exact ⟨inside, opening, operand⟩
  · rintro ⟨inside, opening, operand⟩
    exact ⟨address, inside, opening, operand, rfl⟩

/-! ## One line more -/

theorem headers_succ (count : Nat) :
    program.headers (count + 1) = program.headers count ++ (program.header? count).toList := by
  rw [headers, List.range_succ, List.filterMap_append]
  cases found : program.header? count with
  | none => simp [headers, found]
  | some header => simp [headers, found]

theorem reports_succ (count : Nat) :
    program.reports (count + 1) =
      program.reports count ++
        if program.unknownAt count then [program.reportAt count] else [] := by
  rw [reports, List.range_succ, List.filter_append, List.map_append]
  cases unknown : program.unknownAt count with
  | false => simp [reports, unknown]
  | true => simp [reports, unknown]

theorem inBody_succ (count : Nat) :
    program.InBody (count + 1) ↔
      program.opensAt count = true ∨
        program.closesAt count = false ∧ program.InBody count := by
  constructor
  · rintro ⟨opened, inside, opening, unclosed⟩
    by_cases last : opened = count
    · exact Or.inl (last ▸ opening)
    · refine Or.inr ⟨unclosed count (by omega) (by omega), opened, by omega, opening, ?_⟩
      intro between before after
      exact unclosed between (by omega) after
  · rintro (opening | ⟨unclosed, opened, inside, opening, earlier⟩)
    · refine ⟨count, by omega, opening, ?_⟩
      intro between before after
      omega
    · refine ⟨opened, by omega, opening, ?_⟩
      intro between before after
      by_cases last : between = count
      · exact last ▸ unclosed
      · exact earlier between (by omega) after

end Program

namespace Machine

/-- The state of a scan that has passed a number of lines. -/
structure Scanned (start : Machine) (count : Nat) (inBody : Bool) (machine : Machine)
    (log : Array Entry) : Prop where
  /-- Only three registers have changed since the start. -/
  machine_eq : machine =
    { start with
      counter := count
      inBody
      procedures := ⟨start.program.headers count⟩ }
  phase_start : start.phase = .scanning
  count_le : count ≤ start.program.size
  inBody_iff : inBody = true ↔ start.program.InBody count
  named : ∀ address < count, start.program.opensAt address = true →
    ∃ name, (start.program.lineAt address).tokens[1]? = some name
  nodup : ((start.program.headers count).map Prod.fst).Nodup
  log_eq : log = ((start.program.reports count).map Entry.output).toArray

namespace Scanned

variable {start machine next : Machine} {count : Nat} {inBody later : Bool}
  {log : Array Entry} {line : Line} {lines : List String}

/-- A further line of the scan, by what it opens, closes and reports. -/
theorem succ (scanned : Scanned start count inBody machine log)
    (found : start.program.line? count = some line)
    (next_eq : next =
      { machine with
        counter := machine.counter + 1
        inBody := later
        procedures := ⟨machine.procedures.toList ++ (start.program.header? count).toList⟩ })
    (later_iff : later = true ↔
      start.program.opensAt count = true ∨
        start.program.closesAt count = false ∧ inBody = true)
    (named : start.program.opensAt count = true →
      ∃ name, (start.program.lineAt count).tokens[1]? = some name)
    (fresh : ∀ header ∈ start.program.header? count,
      header.1 ∉ (start.program.headers count).map Prod.fst)
    (lines_eq : lines =
      if start.program.unknownAt count then [start.program.reportAt count] else []) :
    Scanned start (count + 1) later next (log ++ (lines.map Entry.output).toArray) where
  machine_eq := by
    rw [next_eq, scanned.machine_eq, Program.headers_succ]
    rfl
  phase_start := scanned.phase_start
  count_le := Program.lt_size_of_line? found
  inBody_iff := by
    rw [later_iff, Program.inBody_succ, scanned.inBody_iff]
  named address inside opening := by
    by_cases last : address = count
    · subst last
      exact named opening
    · exact scanned.named address (by omega) opening
  nodup := by
    rw [Program.headers_succ, List.map_append, List.nodup_append]
    refine ⟨scanned.nodup, ?_, ?_⟩
    · cases start.program.header? count with
      | none => simp
      | some header => simp
    · rintro earlier member new newMember rfl
      obtain ⟨header, isHeader, rfl⟩ := List.mem_map.mp newMember
      exact fresh header (Option.mem_toList.mp isHeader) member
  log_eq := by
    rw [scanned.log_eq, Program.reports_succ, lines_eq, List.map_append]
    simp

/-- A further line that is not a header. -/
theorem pass (scanned : Scanned start count inBody machine log)
    (found : start.program.line? count = some line)
    (unopened : start.program.opensAt count = false)
    (next_eq : next =
      { machine with counter := machine.counter + 1, inBody := later })
    (later_iff : later = true ↔ start.program.closesAt count = false ∧ inBody = true)
    (lines_eq : lines =
      if start.program.unknownAt count then [start.program.reportAt count] else []) :
    Scanned start (count + 1) later next (log ++ (lines.map Entry.output).toArray) := by
  have noHeader : start.program.header? count = none := by
    rw [Program.header?, unopened]
    rfl
  apply scanned.succ found
  · rw [next_eq, noHeader, Option.toList_none, List.append_nil]
  · rw [later_iff, unopened]
    simp
  · intro opening
    rw [unopened] at opening
    cases opening
  · intro header isHeader
    rw [noHeader] at isHeader
    cases isHeader
  · exact lines_eq

theorem phase_eq (scanned : Scanned start count inBody machine log) :
    machine.phase = .scanning := by
  rw [scanned.machine_eq]
  exact scanned.phase_start

theorem inBody_eq (scanned : Scanned start count inBody machine log) :
    machine.inBody = inBody := by
  rw [scanned.machine_eq]

theorem counter_eq (scanned : Scanned start count inBody machine log) :
    machine.counter = count := by
  rw [scanned.machine_eq]

theorem program_eq (scanned : Scanned start count inBody machine log) :
    machine.program = start.program := by
  rw [scanned.machine_eq]

theorem procedures_eq (scanned : Scanned start count inBody machine log) :
    machine.procedures = ⟨start.program.headers count⟩ := by
  rw [scanned.machine_eq]

theorem not_inBody (scanned : Scanned start count inBody machine log)
    (outside : inBody = false) : ¬ start.program.InBody count := by
  rw [← scanned.inBody_iff, outside]
  nofun

/-- A step that goes on handles the line behind the scanned ones. -/
theorem advance (scanned : Scanned start count inBody machine log)
    (advanced : machine.step = .ok (.advance next lines)) :
    ∃ line : Line, start.program.line? count = some line ∧
      Advance machine count line next lines := by
  obtain ⟨address, line, located, found, advance⟩ := advance_of_step advanced
  have same : address = count := by
    have counter := scanned.counter_eq
    omega
  subst same
  rw [scanned.program_eq] at found
  exact ⟨line, found, advance⟩

/-- A registered header has a name that no earlier header has. -/
theorem fresh_of_register (scanned : Scanned start count inBody machine log) {name : String}
    {procedures : Procedures}
    (registered : machine.procedures.register name count = .ok procedures) :
    name ∉ (start.program.headers count).map Prod.fst := by
  obtain ⟨absent, _⟩ := Procedures.register_eq_ok_iff.mp registered
  rw [scanned.procedures_eq, Procedures.get?, List.lookup_eq_none_iff] at absent
  intro member
  obtain ⟨header, isHeader, rfl⟩ := List.mem_map.mp member
  simpa using absent header isHeader

/-- A step that does not begin the module continues the scan. -/
theorem step (scanned : Scanned start count inBody machine log)
    (advanced : machine.step = .ok (.advance next lines))
    (still : next.phase = .scanning) :
    Scanned start (count + 1) next.inBody next (log ++ (lines.map Entry.output).toArray) := by
  obtain ⟨line, found, advance⟩ := scanned.advance advanced
  have atLine := Program.lineAt_of_line? found
  have phase := scanned.phase_eq
  have mark := scanned.inBody_eq
  cases advance with
  | blank blank =>
      apply scanned.pass found
      · simp [Program.opensAt, atLine, blank]
      · rfl
      · simp [Program.closesAt, atLine, blank, next, mark]
      · simp [Program.unknownAt, atLine, blank]
  | @header name procedures filled _ opening operand registered =>
      have opens : start.program.opensAt count = true := by
        simp [Program.opensAt, atLine, filled, opening]
      have named := Line.operand_eq_ok_iff.mp operand
      rw [← atLine] at named
      have isHeader : start.program.header? count = some (name, count) :=
        Program.header?_eq_some_iff.mpr ⟨opens, named, rfl⟩
      have fresh := scanned.fresh_of_register registered
      obtain ⟨_, rfl⟩ := Procedures.register_eq_ok_iff.mp registered
      apply scanned.succ found
      · rw [isHeader, Option.toList_some]
        rfl
      · simp [opens]
      · exact fun _ => ⟨name, named⟩
      · intro header sameHeader
        rw [isHeader] at sameHeader
        cases sameHeader
        exact fresh
      · simp [Program.unknownAt, atLine, opening]
  | body filled _ inside notHeader =>
      have inBodyTrue : inBody = true := mark.symm.trans inside
      have here : start.program.InBody count := scanned.inBody_iff.mp inBodyTrue
      apply scanned.pass found
      · simp [Program.opensAt, atLine, notHeader]
      · rfl
      · simp [Program.closesAt, atLine, filled, inBodyTrue, skipBody, Mnemonic.word]
      · simp [Program.unknownAt, atLine, here]
  | unknown filled allowed absent =>
      rcases allowed with running | ⟨_, outside, notHeader⟩
      · rw [phase] at running
        cases running
      · have inBodyFalse : inBody = false := mark.symm.trans outside
        have here := scanned.not_inBody inBodyFalse
        apply scanned.pass found
        · simp [Program.opensAt, atLine, notHeader]
        · rfl
        · simp [next, mark, inBodyFalse]
        · simp [Program.unknownAt, Program.reportAt, atLine, filled, notHeader, here, absent]
  | command filled allowed known decoded performed =>
      -- only `begin` is run here, and it ends the scan
      rcases allowed with running | ⟨_, _, _, rfl⟩
      · rw [phase] at running
        cases running
      · cases decoded
        cases performed
        cases still

/-- Steps that leave the machine scanning continue the scan. -/
theorem steps (scanned : Scanned start count inBody machine log) {cycles : Nat}
    {final : Machine} {finalLog : Array Entry}
    (ran : machine.steps log cycles = ⟨final, finalLog, .ok .running⟩)
    (still : final.phase = .scanning) :
    Scanned start (count + cycles) final.inBody final finalLog := by
  induction cycles generalizing machine log count inBody with
  | zero =>
      cases ran
      exact scanned.inBody_eq ▸ scanned
  | succ cycles inductionHypothesis =>
      rw [steps_succ] at ran
      cases stepped : machine.step with
      | error fault =>
          rw [stepped] at ran
          cases ran
      | ok transition =>
          rw [stepped] at ran
          cases transition with
          | finish ending => cases ran
          | advance next lines =>
              dsimp only at ran
              -- the phase never goes back, so the machine has been scanning all the time
              have scanning : next.phase = .scanning := by
                have forward : Forward next final := by
                  have kept := (forward_closed next).steps ⟨Nat.le_refl _, fun _ => rfl⟩
                    (log ++ (lines.map Entry.output).toArray) cycles
                  rwa [ran] at kept
                have early := forward.rank_le
                rw [still] at early
                cases phase : next.phase with
                | scanning => rfl
                | running =>
                    rw [phase] at early
                    cases early
                | ending =>
                    rw [phase] at early
                    cases early
              have onward := inductionHypothesis (scanned.step stepped scanning) ran
              rwa [Nat.add_right_comm] at onward

end Scanned

theorem scanned_load (machine : Machine) (program : Program) :
    Scanned (machine.load program) 0 false (machine.load program) #[] where
  machine_eq := rfl
  phase_start := rfl
  count_le := Nat.zero_le _
  inBody_iff := by
    constructor
    · nofun
    · rintro ⟨opened, impossible, _⟩
      exact absurd impossible (Nat.not_lt_zero opened)
  named address impossible := absurd impossible (Nat.not_lt_zero address)
  nodup := List.nodup_nil
  log_eq := rfl

/-! ## The line after the scanned ones -/

/-- How the scan fails at a line. -/
inductive ScanFault (program : Program) (count : Nat) (line : Line) : Fault → Prop
  | unnamed :
      line.isHeader = true →
      line.tokens[1]? = none →
      ScanFault program count line ⟨.missingOperand, some (count + 1), line.command⟩
  | repeated {name : String} :
      line.isHeader = true →
      line.tokens[1]? = some name →
      (∃ earlier < count, program.opensAt earlier = true ∧
        (program.lineAt earlier).tokens[1]? = some name) →
      ScanFault program count line ⟨.duplicateProcedure, some (count + 1), name⟩
  | early :
      line.isHeader = false →
      ¬ program.InBody count →
      (Mnemonic.ofWord? line.command).isSome = true →
      line.command ≠ "begin" →
      ScanFault program count line ⟨.noBegin, some (count + 1), line.command⟩

namespace Scanned

variable {start machine : Machine} {count : Nat} {inBody : Bool} {log : Array Entry}
  {line : Line}

theorem step_eq (scanned : Scanned start count inBody machine log)
    (found : start.program.line? count = some line) (filled : line.isBlank = false) :
    machine.step =
      Except.mapError (·.atLine (count + 1))
        (if line.isHeader then do return .silent (← machine.openProcedure count line)
        else if inBody then .ok (.silent (machine.skipBody line))
        else machine.runLine count line fun mnemonic => mnemonic == .beginModule) := by
  rw [step_at scanned.counter_eq, scanned.program_eq, found]
  dsimp only
  rw [if_neg (by simp [filled]), handleLine, scanned.phase_eq, scanned.inBody_eq]

theorem isSome_get?_iff (scanned : Scanned start count inBody machine log) {name : String} :
    (machine.procedures.get? name).isSome = true ↔
      ∃ earlier < count, start.program.opensAt earlier = true ∧
        (start.program.lineAt earlier).tokens[1]? = some name := by
  rw [scanned.procedures_eq]
  constructor
  · intro known
    obtain ⟨entry, found⟩ := Option.isSome_iff_exists.mp known
    obtain ⟨inside, opening, operand⟩ :=
      Program.mem_headers_iff.mp (Procedures.mem_of_get? found)
    exact ⟨entry, inside, opening, operand⟩
  · rintro ⟨earlier, inside, opening, operand⟩
    rw [Option.isSome_iff_ne_none, ne_eq, Procedures.get?, List.lookup_eq_none_iff]
    intro absent
    simpa using absent (name, earlier) (Program.mem_headers_iff.mpr ⟨inside, opening, operand⟩)

/-- A header fails without a name and with a name that is taken. -/
theorem error_iff_of_header (scanned : Scanned start count inBody machine log)
    (opening : line.isHeader = true) {fault : Fault} :
    Except.mapError (·.atLine (count + 1))
        (do return Transition.silent (← machine.openProcedure count line)) = .error fault ↔
      ScanFault start.program count line fault := by
  have onlyHeader (fails : ScanFault start.program count line fault) :
      line.tokens[1]? = none ∧ fault = ⟨.missingOperand, some (count + 1), line.command⟩ ∨
        ∃ name, line.tokens[1]? = some name ∧
          (machine.procedures.get? name).isSome = true ∧
            fault = ⟨.duplicateProcedure, some (count + 1), name⟩ := by
    cases fails with
    | unnamed _ missing => exact Or.inl ⟨missing, rfl⟩
    | repeated _ named taken =>
        exact Or.inr ⟨_, named, scanned.isSome_get?_iff.mpr taken, rfl⟩
    | early notHeader _ _ _ =>
        rw [opening] at notHeader
        cases notHeader
  cases operand : line.tokens[1]? with
  | none =>
      rw [operand] at onlyHeader
      have failed : machine.openProcedure count line =
          .error (Fault.about .missingOperand line.command) := by
        rw [openProcedure, Line.operand, operand]
        rfl
      rw [failed]
      constructor
      · intro same
        cases same
        exact ScanFault.unnamed opening operand
      · intro fails
        rcases onlyHeader fails with ⟨_, same⟩ | ⟨_, named, _⟩
        · rw [same]
          rfl
        · cases named
  | some name =>
      rw [operand] at onlyHeader
      by_cases known : (machine.procedures.get? name).isSome = true
      · have failed : machine.openProcedure count line =
            .error (Fault.about .duplicateProcedure name) := by
          rw [openProcedure, Line.operand, operand]
          simp only [ok_bind, Procedures.register_eq, if_pos known]
          rfl
        rw [failed]
        constructor
        · intro same
          cases same
          exact ScanFault.repeated opening operand (scanned.isSome_get?_iff.mp known)
        · intro fails
          rcases onlyHeader fails with ⟨missing, _⟩ | ⟨_, named, _, same⟩
          · cases missing
          · cases named
            rw [same]
            rfl
      · have opened : ∃ later, machine.openProcedure count line = .ok later := by
          rw [openProcedure, Line.operand, operand]
          simp only [ok_bind, Procedures.register_eq, if_neg known]
          exact ⟨_, rfl⟩
        obtain ⟨later, opened⟩ := opened
        rw [opened]
        constructor
        · intro impossible
          cases impossible
        · intro fails
          rcases onlyHeader fails with ⟨missing, _⟩ | ⟨_, named, taken, _⟩
          · cases missing
          · cases named
            exact absurd taken known

/-- Outside of bodies a command fails unless it is `begin`. -/
theorem error_iff_of_command (outside : ¬ start.program.InBody count)
    (notHeader : line.isHeader = false) {fault : Fault} :
    Except.mapError (·.atLine (count + 1))
        (machine.runLine count line fun mnemonic => mnemonic == .beginModule) =
          .error fault ↔
      ScanFault start.program count line fault := by
  have onlyEarly (fails : ScanFault start.program count line fault) :
      (Mnemonic.ofWord? line.command).isSome = true ∧ line.command ≠ "begin" ∧
        fault = ⟨.noBegin, some (count + 1), line.command⟩ := by
    cases fails with
    | unnamed opening _ | repeated opening _ _ =>
        rw [notHeader] at opening
        cases opening
    | early _ _ known other => exact ⟨known, other, rfl⟩
  unfold runLine
  cases found : Mnemonic.ofWord? line.command with
  | none =>
      constructor
      · intro impossible
        cases impossible
      · intro fails
        rw [found] at onlyEarly
        cases (onlyEarly fails).1
  | some mnemonic =>
      have word : mnemonic.word = line.command := Mnemonic.ofWord?_eq_some_iff.mp found
      dsimp only
      by_cases first : mnemonic = .beginModule
      · subst first
        constructor
        · intro impossible
          cases impossible
        · intro fails
          exact absurd word.symm (onlyEarly fails).2.1
      · rw [if_neg (by simpa using first), word]
        constructor
        · intro same
          cases same
          refine ScanFault.early notHeader outside (by rw [found]; rfl) ?_
          intro begins
          exact first (Mnemonic.word_injective (word.trans begins))
        · intro fails
          rw [(onlyEarly fails).2.2]
          rfl

theorem step_eq_error_iff (scanned : Scanned start count inBody machine log)
    (found : start.program.line? count = some line) (filled : line.isBlank = false)
    {fault : Fault} :
    machine.step = .error fault ↔ ScanFault start.program count line fault := by
  rw [scanned.step_eq found filled]
  cases opening : line.isHeader with
  | true =>
      rw [if_pos rfl]
      exact scanned.error_iff_of_header opening
  | false =>
      rw [if_neg nofun]
      cases inside : inBody with
      | false =>
          rw [if_neg nofun]
          exact error_iff_of_command (scanned.not_inBody inside) opening
      | true =>
          rw [if_pos rfl]
          constructor
          · intro impossible
            cases impossible
          · intro fails
            cases fails with
            | unnamed isHeader _ | repeated isHeader _ _ =>
                rw [opening] at isHeader
                cases isHeader
            | early _ outside _ _ => exact absurd (scanned.inBody_iff.mp inside) outside

/-- The scan ends at a `begin` outside of bodies. -/
theorem begins_iff (scanned : Scanned start count inBody machine log)
    (found : start.program.line? count = some line) (filled : line.isBlank = false) :
    (∃ next lines, machine.step = .ok (.advance next lines) ∧ next.phase = .running) ↔
      line.command = "begin" ∧ ¬ start.program.InBody count := by
  constructor
  · rintro ⟨next, lines, advanced, running⟩
    obtain ⟨handled, handledFound, advance⟩ := scanned.advance advanced
    cases found.symm.trans handledFound
    have phase := scanned.phase_eq
    cases advance with
    | blank blank =>
        rw [filled] at blank
        cases blank
    | header _ _ _ _ _ | body _ _ _ _ | unknown _ _ _ => cases phase.symm.trans running
    | command _ allowed known _ _ =>
        rcases allowed with already | ⟨_, outside, _, rfl⟩
        · cases phase.symm.trans already
        · have inBodyFalse : inBody = false := scanned.inBody_eq.symm.trans outside
          exact ⟨(Mnemonic.ofWord?_eq_some_iff.mp known).symm, scanned.not_inBody inBodyFalse⟩
  · rintro ⟨begins, outside⟩
    have notHeader : line.isHeader = false := by
      rw [Line.isHeader, begins]
      rfl
    have known : Mnemonic.ofWord? line.command = some .beginModule :=
      Mnemonic.ofWord?_eq_some_iff.mpr begins.symm
    have inBodyFalse : inBody = false := by
      rw [← Bool.not_eq_true, scanned.inBody_iff]
      exact outside
    refine ⟨{ machine.next with phase := .running }, [], ?_, rfl⟩
    rw [scanned.step_eq found filled, notHeader, inBodyFalse, if_neg nofun, if_neg nofun,
      runLine, known]
    rfl

end Scanned

theorem phase_steps_one_iff {machine : Machine} (before : machine.phase ≠ .running)
    (log : Array Entry) :
    (machine.steps log 1).machine.phase = .running ↔
      ∃ next lines, machine.step = .ok (.advance next lines) ∧ next.phase = .running := by
  rw [steps_succ]
  cases stepped : machine.step with
  | error fault => simp [Outcome.failed, before]
  | ok transition =>
      cases transition with
      | finish ending => simp [before]
      | advance next lines => simp [steps]

theorem result_steps_one_iff {machine : Machine} {log : Array Entry} {fault : Fault} :
    (machine.steps log 1).result = .error fault ↔ machine.step = .error fault := by
  rw [steps_succ]
  cases stepped : machine.step with
  | error cause => simp [Outcome.failed]
  | ok transition =>
      cases transition with
      | finish ending => simp
      | advance next lines => simp [steps]

/-- The scan collects exactly the procedure headers and runs nothing.  A program is
loaded into any machine and a number of cycles go by without an ending or a fault,
and the machine is still scanning.  Then it has passed just as many lines; it holds
its initial accumulator, no flag, no cell and no call; it knows exactly the headers
in front of the counter, all of which have names and no two the same; it is in a body
exactly if a header is still open; and it has logged, in order, the unknown words
outside of bodies.  The next line, unless it is blank, begins the module exactly if it
is a `begin` outside of bodies, and fails exactly as `ScanFault` says. -/
theorem scan_collects_headers {machine scanned : Machine} {program : Program} {count : Nat}
    {log : Array Entry}
    (ran : (machine.load program).execute count = ⟨scanned, log, .ok .running⟩)
    (scanning : scanned.phase = .scanning) :
    (scanned.counter = count ∧ count ≤ program.size) ∧
    (scanned.accumulator = machine.initialAccumulator ∧ scanned.flags = Flags.clear ∧
      scanned.cells = Cells.empty ∧ scanned.calls = BoundedStack.empty) ∧
    ((∀ name address, (name, address) ∈ scanned.procedures.toList ↔
        address < count ∧ program.opensAt address = true ∧
          (program.lineAt address).tokens[1]? = some name) ∧
      (∀ address < count, program.opensAt address = true →
        ∃ name, (program.lineAt address).tokens[1]? = some name) ∧
      (scanned.procedures.toList.map Prod.fst).Nodup) ∧
    (scanned.inBody = true ↔ program.InBody count) ∧
    log = ((program.reports count).map Entry.output).toArray ∧
    ∀ line, program.line? count = some line → line.isBlank = false →
      (((machine.load program).execute (count + 1)).machine.phase = .running ↔
        line.command = "begin" ∧ ¬ program.InBody count) ∧
      ∀ fault, ((machine.load program).execute (count + 1)).result = .error fault ↔
        ScanFault program count line fault := by
  have calm : (machine.load program).interrupted = false := rfl
  rw [execute_of_calm calm] at ran
  have scan : Scanned (machine.load program) count scanned.inBody scanned log := by
    have whole := (scanned_load machine program).steps ran scanning
    rwa [Nat.zero_add] at whole
  refine ⟨⟨scan.counter_eq, scan.count_le⟩, ?_, ⟨?_, scan.named, ?_⟩, scan.inBody_iff,
    scan.log_eq, ?_⟩
  · rw [scan.machine_eq]
    exact ⟨rfl, rfl, rfl, rfl⟩
  · intro name address
    rw [scan.procedures_eq]
    exact Program.mem_headers_iff
  · rw [scan.procedures_eq]
    exact scan.nodup
  · intro line found filled
    have oneMore : (machine.load program).execute (count + 1) = scanned.steps log 1 := by
      rw [execute_of_calm calm, steps_add, ran, Outcome.andThen_of_running rfl]
    rw [oneMore]
    have early : scanned.phase ≠ .running := by
      rw [scanning]
      nofun
    constructor
    · rw [phase_steps_one_iff early]
      exact scan.begins_iff found filled
    · intro fault
      rw [result_steps_one_iff]
      exact scan.step_eq_error_iff found filled

/-- A header and a `begin` inside a body, unknown words inside and outside of it, and
a command before the module begins. -/
def nestedHeaders : Program :=
  ⟨#[⟨["hello"]⟩, ⟨["procdef", "f"]⟩, ⟨["begin"]⟩, ⟨["procdefine", "g"]⟩, ⟨["#", "note"]⟩,
    ⟨["bogus"]⟩, ⟨["endproc"]⟩, ⟨["bye"]⟩, ⟨["ld", "1"]⟩]⟩

theorem scan_collects_headers_nestedHeaders :
    (new.load nestedHeaders).execute 8 =
        ⟨((new.load nestedHeaders).execute 8).machine,
          ((new.load nestedHeaders).execute 8).log, .ok .running⟩ ∧
      ((new.load nestedHeaders).execute 8).machine.phase = .scanning ∧
      ((new.load nestedHeaders).execute 8).machine.inBody = false ∧
      ((new.load nestedHeaders).execute 8).machine.counter = 8 ∧
      ((new.load nestedHeaders).execute 8).machine.procedures.toList = [("f", 1), ("g", 3)] ∧
      (nestedHeaders.opensAt 3 = true ∧
        (nestedHeaders.lineAt 3).tokens[1]? = some "g") ∧
      nestedHeaders.InBody 6 ∧ ¬ nestedHeaders.InBody 8 ∧
      nestedHeaders.reports 8 =
        ["UNIDENTIFIED TOKEN ON LINE 1: \"hello\"", "UNIDENTIFIED TOKEN ON LINE 8: \"bye\""] ∧
      ((new.load nestedHeaders).execute 8).log =
        ((nestedHeaders.reports 8).map Entry.output).toArray ∧
      ScanFault nestedHeaders 8 ⟨["ld", "1"]⟩ ⟨.noBegin, some 9, "ld"⟩ := by
  have ran : (new.load nestedHeaders).execute 8 =
      ⟨((new.load nestedHeaders).execute 8).machine,
        ((new.load nestedHeaders).execute 8).log, .ok .running⟩ := rfl
  have scanning : ((new.load nestedHeaders).execute 8).machine.phase = .scanning := rfl
  obtain ⟨⟨counter, _⟩, _, ⟨table, _⟩, inBody, log, next⟩ := scan_collects_headers ran scanning
  obtain ⟨_, fails⟩ := next ⟨["ld", "1"]⟩ rfl rfl
  have outside : ¬ nestedHeaders.InBody 8 := by
    rw [← inBody]
    nofun
  exact ⟨ran, scanning, rfl, counter, rfl, ((table "g" 3).mp (by decide)).2, by decide, outside,
    rfl, log, (fails _).mp rfl⟩

end Machine

end AccumulatorMachine
