import AccumulatorMachine.Proofs.Cells
import AccumulatorMachine.Proofs.ControlInvariant

/-!
# What a step changes

Every register of a machine has its few instructions.  The accumulator is changed by
a load and by arithmetic, the cells by a definition and a save, the flag by the two
flag commands, the calls by a call and a return, the phase by `begin` and `end`.
Whatever else a step may meet, blank lines, headers, bodies and unknown words
included, leaves them alone, and the counter goes on to the following line unless an
instruction sends it elsewhere.

Which instruction a machine is about to perform is told from the line at its counter
and from its phase by `Machine.current?`.  The table of effects is read off the list
of what instructions do, `Machine.Performed`, one register at a time.
-/

namespace AccumulatorMachine

theorem Line.ofWord?_of_isHeader {line : Line} (opening : line.isHeader = true) :
    Mnemonic.ofWord? line.command = none := by
  cases found : Mnemonic.ofWord? line.command with
  | none => rfl
  | some mnemonic =>
      have closed : ∀ candidate ∈ Mnemonic.all,
          (⟨[candidate.word]⟩ : Line).isHeader = false := by
        decide
      have sameWord : line.isHeader = (⟨[mnemonic.word]⟩ : Line).isHeader := by
        rw [isHeader, ← Mnemonic.ofWord?_eq_some_iff.mp found]
        rfl
      rw [sameWord, closed mnemonic (Mnemonic.mem_all mnemonic)] at opening
      cases opening

/-- Only a division by zero has no value. -/
theorem ArithOp.eq_div_of_apply_eq_none {op : ArithOp} {lhs rhs : String}
    (undefined : op.apply lhs rhs = .ok none) : op = .div ∧ Integer.read rhs = .ok 0 := by
  cases op with
  | add | sub | mul | cmp =>
      obtain ⟨left, _, rest⟩ := bind_eq_ok_iff.mp undefined
      obtain ⟨right, _, same⟩ := bind_eq_ok_iff.mp rest
      cases same
  | div =>
      obtain ⟨divisor, read, rest⟩ := bind_eq_ok_iff.mp undefined
      by_cases zero : divisor = 0
      · rw [read, zero]
        exact ⟨rfl, rfl⟩
      · rw [if_neg zero] at rest
        obtain ⟨dividend, _, rest⟩ := bind_eq_ok_iff.mp rest
        obtain ⟨quotient, _, same⟩ := bind_eq_ok_iff.mp rest
        cases same

namespace Machine

/-! ## The current instruction -/

/-- Whether an instruction is performed in the phase of a machine: before the module
begins only `begin` is, and only outside of procedure bodies. -/
def admits (machine : Machine) (instruction : Instruction) : Bool :=
  decide (machine.phase = .running ∨
    machine.phase = .scanning ∧ machine.inBody = false ∧ instruction = .beginModule)

/-- The instruction that a machine is about to perform. -/
def current? (machine : Machine) : Option Instruction :=
  match machine.counter with
  | .negSucc _ => none
  | .ofNat address =>
      ((machine.program.line? address).bind fun line =>
        line.instruction?.bind Except.toOption).filter machine.admits

/-- Where an instruction sends control, if it is a jump that is taken, a call or a
return. -/
def destination? (machine : Machine) : Instruction → Option Int
  | .jump target => some (target.toInt - 1)
  | .branch condition target =>
      match Integer.read machine.accumulator with
      | .error _ => none
      | .ok value =>
          if condition.holds value then
            (target.bind fun token => (Integer.read token).toOption).map fun number =>
              number.toInt - 1
          else none
  | .call name => (machine.procedures.get? name).map fun entry : Nat => (entry + 1 : Int)
  | .endProcedure => machine.calls.top?.map fun caller => caller + 1
  | _ => none

/-- The command at the counter is an unknown word on a line that is not blank, and the line is
run, or the scan meets it outside of procedure bodies and it is not a header. -/
def AtUnknownWord (machine : Machine) : Prop :=
  ∃ (address : Nat) (line : Line), machine.counter = address ∧
    machine.program.line? address = some line ∧ line.isBlank = false ∧
      Mnemonic.ofWord? line.command = none ∧
        (machine.phase = .running ∨
          machine.phase = .scanning ∧ machine.inBody = false ∧ line.isHeader = false)

variable {machine next : Machine} {address : Nat} {line : Line} {lines : List String}

theorem current?_at (located : machine.counter = address)
    (found : machine.program.line? address = some line) :
    machine.current? =
      (line.instruction?.bind Except.toOption).filter machine.admits := by
  unfold current?
  rw [located]
  change ((machine.program.line? address).bind _).filter _ = _
  rw [found]
  rfl

theorem admits_of_current? {instruction : Instruction}
    (current : machine.current? = some instruction) :
    machine.phase = .running ∨
      machine.phase = .scanning ∧ machine.inBody = false ∧ instruction = .beginModule := by
  unfold current? at current
  split at current
  · cases current
  · have admitted := (Option.filter_eq_some_iff.mp current).2
    exact of_decide_eq_true admitted

theorem current?_of_unknown (located : machine.counter = address)
    (found : machine.program.line? address = some line)
    (absent : Mnemonic.ofWord? line.command = none) : machine.current? = none := by
  rw [current?_at located found, Line.instruction?, absent]
  rfl

theorem current?_of_body (scanning : machine.phase = .scanning)
    (inside : machine.inBody = true) : machine.current? = none := by
  cases current : machine.current? with
  | none => rfl
  | some instruction =>
      rcases admits_of_current? current with running | ⟨_, outside, _⟩
      · rw [scanning] at running
        cases running
      · rw [inside] at outside
        cases outside

theorem current?_of_decoded {mnemonic : Mnemonic} {instruction : Instruction}
    (located : machine.counter = address)
    (found : machine.program.line? address = some line)
    (phase : machine.phase = .running ∨
      machine.phase = .scanning ∧ machine.inBody = false ∧ mnemonic = .beginModule)
    (known : Mnemonic.ofWord? line.command = some mnemonic)
    (decoded : mnemonic.decode line = .ok instruction) :
    machine.current? = some instruction := by
  have admitted : machine.admits instruction = true := by
    apply decide_eq_true
    rcases phase with running | ⟨scanning, outside, rfl⟩
    · exact Or.inl running
    · cases decoded
      exact Or.inr ⟨scanning, outside, rfl⟩
  rw [current?_at located found, Line.instruction?, known, Option.map_some, decoded]
  exact Option.filter_eq_some_iff.mpr ⟨rfl, admitted⟩

/-- What a step makes of a machine that has no instruction to perform. -/
inductive Passed (machine : Machine) : Machine → List String → Prop
  | onward : Passed machine machine.next []
  | unknown {line : String} : machine.AtUnknownWord → Passed machine machine.next [line]
  | scanned {inBody : Bool} {procedures : Procedures} :
      machine.phase = .scanning →
      Passed machine { machine.next with procedures, inBody } []

/-- A step that goes on performs the current instruction, or passes the line at the
counter if there is none. -/
theorem performed_or_passed (advanced : machine.step = .ok (.advance next lines)) :
    (∃ instruction, machine.current? = some instruction ∧
        Performed machine instruction next lines) ∨
      machine.current? = none ∧ Passed machine next lines := by
  obtain ⟨address, line, located, found, advance⟩ := advance_of_step advanced
  cases advance with
  | blank blank =>
      have none := current?_of_unknown located found (Line.ofWord?_of_isBlank blank)
      exact Or.inr ⟨none, Passed.onward⟩
  | header _ scanning opening _ _ =>
      have none := current?_of_unknown located found (Line.ofWord?_of_isHeader opening)
      exact Or.inr ⟨none, Passed.scanned scanning⟩
  | body _ scanning inside _ =>
      exact Or.inr ⟨current?_of_body scanning inside, Passed.scanned scanning⟩
  | unknown filled phase absent =>
      have none := current?_of_unknown located found absent
      have atWord : machine.AtUnknownWord :=
        ⟨address, line, located, found, filled, absent, phase⟩
      exact Or.inr ⟨none, Passed.unknown atWord⟩
  | @command mnemonic instruction _ _ _ phase known decoded performed =>
      have current : machine.current? = some instruction :=
        current?_of_decoded located found
          (phase.imp_right fun first => ⟨first.1, first.2.1, first.2.2.2⟩) known decoded
      exact Or.inl ⟨instruction, current, performed_of_perform performed⟩

/-! ## The table of effects -/

/-- What a step that goes on with `next` changes, where `current` is the instruction
that it performs, if any, and `lines` is what it writes. -/
structure Effects (machine : Machine) (current : Option Instruction) (next : Machine)
    (lines : List String) : Prop where
  setting_eq : next.setting = machine.setting
  accumulator : next.accumulator ≠ machine.accumulator →
    machine.phase = .running ∧
      ∃ operand, current = some (.load operand) ∨ ∃ op, current = some (.arith op operand)
  cells : next.cells ≠ machine.cells →
    (∃ name address, current = some (.define name address)) ∨
      ∃ name, current = some (.save name)
  /-- A definition adds one cell at the end. -/
  defined : ∀ name address, current = some (.define name address) →
    next.cells.toList = machine.cells.toList ++ [⟨address, name, ""⟩]
  /-- A save replaces the value of the cell with the given name. -/
  saved : ∀ (index : Nat) (cell : Cell), machine.cells.toList[index]? = some cell →
    current = some (.save cell.name) →
      next.cells.toList =
        machine.cells.toList.set index { cell with value := machine.accumulator }
  unsaved : ∀ name, current = some (.save name) →
    (∀ cell ∈ machine.cells.toList, cell.name ≠ name) → next.cells = machine.cells
  flags : next.flags ≠ machine.flags →
    ∃ flag, current = some (.setFlag flag) ∨ current = some (.resetFlag flag)
  calls : next.calls ≠ machine.calls →
    (∃ name, current = some (.call name)) ∨ current = some .endProcedure
  called : ∀ name, current = some (.call name) →
    next.calls.items = machine.counter :: machine.calls.items
  returned : current = some .endProcedure →
    ∃ caller, machine.calls.items = caller :: next.calls.items
  procedures : next.procedures ≠ machine.procedures → machine.phase.rank = 0
  inBody : next.inBody ≠ machine.inBody → machine.phase.rank = 0
  phase : next.phase ≠ machine.phase →
    current = some .beginModule ∧ next.phase = .running ∨
      current = some .endModule ∧ next.phase = .ending
  counter_eq : next.counter =
    (current.bind machine.destination?).getD (machine.counter + 1)
  written : lines ≠ [] →
    current = some .print ∨ current = some .dump ∨ current = some .help ∨
      (∃ operand, current = some (.arith .div operand) ∧
        Integer.read (machine.resolve operand) = .ok 0) ∨
      machine.AtUnknownWord

theorem Performed.counter_eq {instruction : Instruction}
    (performed : Performed machine instruction next lines) :
    next.counter = (machine.destination? instruction).getD (machine.counter + 1) := by
  cases performed with
  | @call name _ _ known _ =>
      have sent : machine.destination? (.call name) =
          (machine.procedures.get? name).map fun entry : Nat => (entry + 1 : Int) := rfl
      rw [sent, Procedures.entry_eq_ok_iff.mp known]
      rfl
  | endProcedure popped =>
      have sent : machine.destination? .endProcedure =
          machine.calls.items.head?.map fun caller => caller + 1 := rfl
      rw [sent, BoundedStack.pop_eq_ok_iff.mp popped]
      rfl
  | @pass condition target value read unmet =>
      have sent : machine.destination? (.branch condition target) = none := by
        unfold destination?
        simp only [read, unmet, Bool.false_eq_true, if_false]
      rw [sent]
      rfl
  | @branch condition token value number read met readTarget =>
      have sent : machine.destination? (.branch condition (some token)) =
          some (number.toInt - 1) := by
        unfold destination?
        simp only [read, met, if_true, Option.bind_some, readTarget, Except.toOption,
          Option.map_some]
      rw [sent]
      rfl
  | _ => rfl

theorem running_of_current? {instruction : Instruction}
    (current : machine.current? = some instruction) (later : instruction ≠ .beginModule) :
    machine.phase = .running :=
  (admits_of_current? current).resolve_right fun first => later first.2.2

theorem Performed.effects {instruction : Instruction}
    (performed : Performed machine instruction next lines)
    (current : machine.current? = some instruction)
    (sameSetting : next.setting = machine.setting)
    (distinct : machine.cells.DistinctNames) :
    Effects machine (some instruction) next lines where
  setting_eq := sameSetting
  accumulator changed := by
    cases performed with
    | @load operand => exact ⟨running_of_current? current nofun, operand, Or.inl rfl⟩
    | @arith op operand _ _ =>
        exact ⟨running_of_current? current nofun, operand, Or.inr ⟨op, rfl⟩⟩
    | _ => exact absurd rfl changed
  cells changed := by
    cases performed with
    | @define name address _ _ => exact Or.inl ⟨name, address, rfl⟩
    | @save name => exact Or.inr ⟨name, rfl⟩
    | _ => exact absurd rfl changed
  defined name address same := by
    cases same
    cases performed with
    | define bound =>
        obtain ⟨_, rfl⟩ := Cells.bind_eq_ok_iff.mp bound
        rfl
  saved index cell found same := by
    cases same
    cases performed with
    | save =>
        exact congrArg Cells.toList
          (Cells.put_of_getElem? distinct found machine.accumulator)
  unsaved name same absent := by
    cases same
    cases performed with
    | save => exact Cells.put_of_absent absent machine.accumulator
  flags changed := by
    cases performed with
    | @setFlag flag => exact ⟨flag, Or.inl rfl⟩
    | @resetFlag flag => exact ⟨flag, Or.inr rfl⟩
    | _ => exact absurd rfl changed
  calls changed := by
    cases performed with
    | @call name _ _ _ _ => exact Or.inl ⟨name, rfl⟩
    | endProcedure _ => exact Or.inr rfl
    | _ => exact absurd rfl changed
  called name same := by
    cases same
    cases performed with
    | call _ pushed => exact (BoundedStack.push_eq_ok_iff.mp pushed).2
  returned same := by
    cases same
    cases performed with
    | @endProcedure caller _ popped =>
        exact ⟨caller, BoundedStack.pop_eq_ok_iff.mp popped⟩
  procedures changed := by
    cases performed <;> exact absurd rfl changed
  inBody changed := by
    cases performed <;> exact absurd rfl changed
  phase changed := by
    cases performed with
    | beginModule => exact Or.inl ⟨rfl, rfl⟩
    | endModule => exact Or.inr ⟨rfl, rfl⟩
    | _ => exact absurd rfl changed
  counter_eq := performed.counter_eq
  written nonempty := by
    cases performed with
    | print => exact Or.inl rfl
    | dump => exact Or.inr (Or.inl rfl)
    | help => exact Or.inr (Or.inr (Or.inl rfl))
    | @status op operand undefined =>
        obtain ⟨rfl, zero⟩ := ArithOp.eq_div_of_apply_eq_none undefined
        exact Or.inr (Or.inr (Or.inr (Or.inl ⟨operand, rfl, zero⟩)))
    | _ => exact absurd rfl nonempty

/-- Lines that hold no instruction to perform touch nothing but the counter, and
during the scan the procedures and the mark of a body. -/
theorem Passed.effects (passed : Passed machine next lines)
    (sameSetting : next.setting = machine.setting) : Effects machine none next lines where
  setting_eq := sameSetting
  accumulator changed := by
    cases passed <;> exact absurd rfl changed
  cells changed := by
    cases passed <;> exact absurd rfl changed
  defined := nofun
  saved := nofun
  unsaved := nofun
  flags changed := by
    cases passed <;> exact absurd rfl changed
  calls changed := by
    cases passed <;> exact absurd rfl changed
  called := nofun
  returned := nofun
  procedures changed := by
    cases passed with
    | scanned scanning =>
        rw [scanning]
        rfl
    | _ => exact absurd rfl changed
  inBody changed := by
    cases passed with
    | scanned scanning =>
        rw [scanning]
        rfl
    | _ => exact absurd rfl changed
  phase changed := by
    cases passed <;> exact absurd rfl changed
  counter_eq := by
    cases passed <;> rfl
  written nonempty := by
    cases passed with
    | unknown atWord => exact Or.inr (Or.inr (Or.inr (Or.inr atWord)))
    | _ => exact absurd rfl nonempty

theorem effects_of_step (distinct : machine.cells.DistinctNames)
    (advanced : machine.step = .ok (.advance next lines)) :
    Effects machine machine.current? next lines := by
  have sameSetting := setting_of_step advanced
  rcases performed_or_passed advanced with ⟨instruction, current, performed⟩ | ⟨none, passed⟩
  · rw [current]
    exact performed.effects current sameSetting distinct
  · rw [none]
    exact passed.effects sameSetting

/-! ## The cells of a run -/

/-- A step leaves the cells alone, defines one, or saves to them. -/
theorem cells_of_step (advanced : machine.step = .ok (.advance next lines)) :
    next.cells = machine.cells ∨
      (∃ address name, machine.cells.bind address name = .ok next.cells) ∨
        ∃ name value, next.cells = machine.cells.put name value := by
  rcases performed_or_passed advanced with ⟨instruction, _, performed⟩ | ⟨_, passed⟩
  · cases performed with
    | @define name address _ bound => exact Or.inr (Or.inl ⟨address, name, bound⟩)
    | @save name => exact Or.inr (Or.inr ⟨name, machine.accumulator, rfl⟩)
    | _ => exact Or.inl rfl
  · cases passed <;> exact Or.inl rfl

theorem distinctNames_closed :
    Closed fun machine : Machine => machine.cells.DistinctNames where
  push _ distinct := distinct
  signal _ distinct := distinct
  step {machine next lines} distinct advanced := by
    rcases cells_of_step advanced with same | ⟨address, name, bound⟩ | ⟨name, value, same⟩
    · rw [same]
      exact distinct
    · exact distinct.bind bound
    · rw [same]
      exact distinct.put name value

theorem labels_closed (earlier : List (Int32 × String)) :
    Closed fun machine : Machine => earlier <+: machine.cells.labels where
  push _ kept := kept
  signal _ kept := kept
  step {machine next lines} kept advanced := by
    rcases cells_of_step advanced with same | ⟨address, name, bound⟩ | ⟨name, value, same⟩
    · rw [same]
      exact kept
    · rw [Cells.labels_of_bind bound]
      exact kept.trans (List.prefix_append _ _)
    · rw [same, Cells.labels_put]
      exact kept

/-! ## Cycles -/

/-- The effects of a step of a reachable machine.  A cycle that ends the program
changes nothing.  A cycle that goes on changes every register as the table says, by
the instruction that it performs, and writes only for `print`, `dump` and `help`, for a
division by zero or for an unknown word.  So the labels of the cells only grow at their end
until the next load. -/
theorem effect_table {machine : Machine} (reachable : Reachable machine) :
    (∀ log ending bench, cycle.run ⟨machine, log⟩ = .ok (some ending) bench →
      bench = ⟨machine, log⟩) ∧
    (∀ log bench, cycle.run ⟨machine, log⟩ = .ok none bench →
      ∃ lines : List String, bench.log = log ++ (lines.map Entry.output).toArray ∧
        Effects machine machine.current? bench.machine lines) ∧
    ∀ further : List Request, (∀ program, Request.load program ∉ further) →
      machine.cells.labels <+: (machine.afterRequests further).cells.labels := by
  have distinct : machine.cells.DistinctNames :=
    distinctNames_closed.of_reachable (fun _ _ => Cells.distinctNames_empty) reachable
  refine ⟨fun _ _ _ ended => eq_of_cycle_ended ended, ?_, ?_⟩
  · intro log bench advanced
    obtain ⟨next, lines, stepped, rfl⟩ := exists_step_of_cycle advanced
    exact ⟨lines, rfl, effects_of_step distinct stepped⟩
  · intro further unloaded
    exact (labels_closed machine.cells.labels).afterRequests (List.prefix_refl _)
      fun program member => absurd member (unloaded program)

/-- A machine in string mode in front of a save, with two cells. -/
def savingMachine : Machine :=
  new.afterRequests
    [.load ⟨#[⟨["begin"]⟩, ⟨["def", "x", "&v+1"]⟩, ⟨["def", "y", "&v+2"]⟩, ⟨["setf", "0"]⟩,
      ⟨["ld", "x"]⟩, ⟨["sav", "y"]⟩]⟩, .execute 5]

theorem effect_table_savingMachine :
    Reachable savingMachine ∧ savingMachine.flags.stringMode = true ∧
      (∃ bench, cycle.run ⟨savingMachine, #[]⟩ = .ok none bench ∧
        bench.machine.cells.toList = [⟨1, "x", ""⟩, ⟨2, "y", "x"⟩]) ∧
      [(1, "x"), (2, "y")] <+:
        (savingMachine.afterRequests [.enter "def z &v+3", .run 0]).cells.labels := by
  have reachable : Reachable savingMachine := ⟨"", _, rfl⟩
  obtain ⟨_, table, growing⟩ := effect_table reachable
  refine ⟨reachable, rfl, ⟨_, rfl, ?_⟩, growing _ (by simp)⟩
  obtain ⟨_, _, effects⟩ := table #[] _ rfl
  exact effects.saved 1 ⟨2, "y", ""⟩ rfl rfl

end Machine

end AccumulatorMachine
