import AccumulatorMachine.Proofs.CallDiscipline
import AccumulatorMachine.Proofs.Control
import AccumulatorMachine.Proofs.FatalFaults
import AccumulatorMachine.Proofs.Requests

/-!
# The control invariant

The control registers of a machine fit its program at any time.  The call stack
holds addresses of lines that call known procedures, the procedures are entered
at headers of their own names, and the counter stays in a range that is far from
the limits of a signed word of 64 bits.  The parts depend on one another: a call
goes on behind an entry and a return behind a saved address, so the bound of the
counter rests on both, and both rest on the program only growing between loads.
The mark of a procedure body is a register of its own, which neither `begin` nor
`end` takes down.  It is nevertheless down after the scan, because `begin` is not
run inside a body.

How the phase goes on, in contrast, is not a matter of one state but of two: it moves
forward only, and the procedures are fixed once the scan is over.
-/

namespace AccumulatorMachine

namespace Program

theorem lt_size_of_line? {program : Program} {address : Nat} {line : Line}
    (found : program.line? address = some line) : address < program.size := by
  obtain ⟨inside, _⟩ := Array.getElem?_eq_some_iff.mp found
  exact inside

theorem size_push (program : Program) (line : Line) :
    (program.push line).size = program.size + 1 :=
  Array.size_push line

end Program

namespace Procedures

theorem mem_of_get? {procedures : Procedures} {name : String} {entry : Nat}
    (known : procedures.get? name = some entry) : (name, entry) ∈ procedures.toList := by
  obtain ⟨before, after, split, _⟩ := List.lookup_eq_some_iff.mp known
  rw [split]
  exact List.mem_append_right before List.mem_cons_self

theorem isSome_get?_of_register {procedures next : Procedures} {name other : String}
    {entry : Nat} (registered : procedures.register name entry = .ok next)
    (known : (procedures.get? other).isSome = true) : (next.get? other).isSome = true := by
  obtain ⟨_, rfl⟩ := register_eq_ok_iff.mp registered
  simp only [get?] at known ⊢
  rw [List.lookup_append, Option.isSome_or, known, Bool.true_or]

end Procedures

namespace Phase

/-- How far a phase has come, from the scan over the run to the ending. -/
def rank : Phase → Nat
  | scanning => 0
  | running => 1
  | ending => 2

end Phase

/-! ## One state -/

/-- A saved counter is the address of a line that calls a known procedure. -/
def CallSite (program : Program) (procedures : Procedures) (saved : Int) : Prop :=
  ∃ (address : Nat) (line : Line) (name : String),
    saved = address ∧ address < program.size ∧ program.line? address = some line ∧
      line.isBlank = false ∧ line.command = "proc" ∧ line.tokens[1]? = some name ∧
        (procedures.get? name).isSome = true

/-- A procedure is entered at a header that has its name. -/
def EntrySite (program : Program) (name : String) (address : Nat) : Prop :=
  address < program.size ∧ ∃ line : Line, program.line? address = some line ∧
    line.isHeader = true ∧ line.tokens[1]? = some name

theorem CallSite.mono {program larger : Program} {procedures more : Procedures} {saved : Int}
    (site : CallSite program procedures saved) (part : program.PartOf larger)
    (kept : ∀ name, (procedures.get? name).isSome = true → (more.get? name).isSome = true) :
    CallSite larger more saved := by
  obtain ⟨address, line, name, located, _, found, filled, word, operand, known⟩ := site
  have laterFound := part address line found
  exact ⟨address, line, name, located, Program.lt_size_of_line? laterFound, laterFound,
    filled, word, operand, kept name known⟩

theorem EntrySite.mono {program larger : Program} {name : String} {address : Nat}
    (site : EntrySite program name address) (part : program.PartOf larger) :
    EntrySite larger name address := by
  obtain ⟨_, line, found, opening, operand⟩ := site
  have laterFound := part address line found
  exact ⟨Program.lt_size_of_line? laterFound, line, laterFound, opening, operand⟩

namespace Control

/-- The control registers of a machine fit its program. -/
structure Sound (program : Program) (control : Control) : Prop where
  depth_le : control.calls.depth ≤ 65535
  callSite : ∀ saved ∈ control.calls.items, CallSite program control.procedures saved
  entrySite : ∀ name address, (name, address) ∈ control.procedures.toList →
    EntrySite program name address
  /-- Only a scanning machine is inside a procedure body. -/
  scanning_of_inBody : control.inBody = true → control.phase = .scanning
  /-- One less than the least word, to which a jump to that line leads. -/
  counter_ge : -2147483649 ≤ control.counter
  /-- The counter is behind the last line at most, unless a jump leads there. -/
  counter_le : control.counter ≤ max (program.size : Int) 2147483646

namespace Sound

variable {program : Program} {control : Control}

theorem move (sound : Sound program control) {counter : Int}
    (lower : -2147483649 ≤ counter) (upper : counter ≤ max (program.size : Int) 2147483646)
    {phase : Phase} {inBody : Bool} (marked : inBody = true → phase = .scanning) :
    Sound program { control with counter, phase, inBody } :=
  ⟨sound.depth_le, sound.callSite, sound.entrySite, marked, lower, upper⟩

/-- Going on from a line to the following one. -/
theorem onward (sound : Sound program control) {address : Nat} {line : Line}
    (located : control.counter = address) (found : program.line? address = some line)
    {phase : Phase} {inBody : Bool} (marked : inBody = true → phase = .scanning) :
    Sound program { control with counter := control.counter + 1, phase, inBody } := by
  have inside := Program.lt_size_of_line? found
  exact sound.move (by omega) (by omega) marked

theorem register (sound : Sound program control) {address : Nat} {line : Line}
    {name : String} {procedures : Procedures}
    (found : program.line? address = some line) (opening : line.isHeader = true)
    (operand : line.tokens[1]? = some name)
    (registered : control.procedures.register name address = .ok procedures) :
    Sound program { control with procedures } where
  depth_le := sound.depth_le
  callSite saved member :=
    (sound.callSite saved member).mono (fun _ _ same => same)
      fun _ known => Procedures.isSome_get?_of_register registered known
  entrySite other entry member := by
    obtain ⟨_, rfl⟩ := Procedures.register_eq_ok_iff.mp registered
    rcases List.mem_append.mp member with earlier | new
    · exact sound.entrySite other entry earlier
    · cases List.mem_singleton.mp new
      exact ⟨Program.lt_size_of_line? found, line, found, opening, operand⟩
  scanning_of_inBody := sound.scanning_of_inBody
  counter_ge := sound.counter_ge
  counter_le := sound.counter_le

theorem call (sound : Sound program control) {address entry : Nat} {line : Line}
    {name : String} {calls : CallStack} (located : control.counter = address)
    (found : program.line? address = some line) (filled : line.isBlank = false)
    (word : line.command = "proc") (operand : line.tokens[1]? = some name)
    (known : control.procedures.get? name = some entry)
    (pushed : control.calls.push control.counter = .ok calls) :
    Sound program { control with counter := entry + 1, calls } := by
  obtain ⟨room, items⟩ := BoundedStack.push_eq_ok_iff.mp pushed
  obtain ⟨entryInside, _⟩ := sound.entrySite name entry (Procedures.mem_of_get? known)
  refine ⟨?_, ?_, sound.entrySite, sound.scanning_of_inBody, ?_, ?_⟩
  · have depth : calls.depth = control.calls.depth + 1 := by
      rw [calls.depth_eq, items, List.length_cons, ← control.calls.depth_eq]
    have limit : (BoundedStack.limit : Nat) = 65535 := rfl
    dsimp only
    omega
  · intro saved member
    rw [show calls.items = _ from items] at member
    rcases List.mem_cons.mp member with rfl | earlier
    · exact ⟨address, line, name, located, Program.lt_size_of_line? found, found, filled,
        word, operand, by simp [known]⟩
    · exact sound.callSite saved earlier
  · dsimp only
    omega
  · dsimp only
    omega

theorem back (sound : Sound program control) {caller : Int} {calls : CallStack}
    (popped : control.calls.pop = .ok (caller, calls)) :
    Sound program { control with counter := caller + 1, calls } := by
  have items := BoundedStack.pop_eq_ok_iff.mp popped
  have depth : control.calls.depth = calls.depth + 1 := by
    rw [control.calls.depth_eq, items, List.length_cons, ← calls.depth_eq]
  have shallow := sound.depth_le
  obtain ⟨address, _, _, located, inside, _⟩ :=
    sound.callSite caller (by rw [items]; exact List.mem_cons_self)
  refine ⟨?_, ?_, sound.entrySite, sound.scanning_of_inBody, ?_, ?_⟩
  · dsimp only
    omega
  · intro saved member
    exact sound.callSite saved (by rw [items]; exact List.mem_cons_of_mem caller member)
  · dsimp only
    omega
  · dsimp only
    omega

theorem push (sound : Sound program control) (line : Line) :
    Sound (program.push line) control where
  depth_le := sound.depth_le
  callSite saved member :=
    (sound.callSite saved member).mono (program.partOf_push line) fun _ known => known
  entrySite name address member :=
    (sound.entrySite name address member).mono (program.partOf_push line)
  scanning_of_inBody := sound.scanning_of_inBody
  counter_ge := sound.counter_ge
  counter_le := by
    have upper := sound.counter_le
    rw [Program.size_push]
    omega

/-- A running machine is not inside a procedure body. -/
theorem inBody_of_running (sound : Sound program control) (running : control.phase = .running) :
    control.inBody = false := by
  cases inBody : control.inBody with
  | false => rfl
  | true =>
      have scanning := sound.scanning_of_inBody inBody
      rw [running] at scanning
      cases scanning

/-- Whatever way control is transferred, it fits the program again. -/
theorem transfer {machine next : Machine} {address : Nat} {line : Line}
    (sound : Sound program machine.control) (located : machine.counter = address)
    (found : program.line? address = some line)
    (transfer : machine.Transfer address line next) : Sound program next.control := by
  cases transfer with
  | onward same =>
      rw [same]
      exact sound.onward located found sound.scanning_of_inBody
  | header scanning opening operand registered same =>
      rw [same]
      exact (sound.register found opening operand registered).onward located found
        fun _ => scanning
  | body scanning _ same =>
      rw [same]
      exact sound.onward located found fun _ => scanning
  | begun before _ same =>
      rw [same]
      have outside : machine.inBody = false :=
        before.elim sound.inBody_of_running And.right
      exact sound.onward located found fun inside => nomatch outside.symm.trans inside
  | ended running _ same =>
      rw [same]
      have outside : machine.inBody = false := sound.inBody_of_running running
      exact sound.onward located found fun inside => nomatch outside.symm.trans inside
  | @jumped token target _ _ _ _ same =>
      rw [same]
      have lower := target.le_toInt
      have upper := target.toInt_lt
      exact sound.move (by omega) (by omega) sound.scanning_of_inBody
  | called _ filled word operand known pushed same =>
      rw [same]
      exact sound.call located found filled word operand known pushed
  | returned _ _ popped same =>
      rw [same]
      exact sound.back popped

end Sound

end Control

namespace Machine

theorem sound_load (machine : Machine) (program : Program) :
    Control.Sound program (machine.load program).control where
  depth_le := Nat.zero_le _
  callSite _ member := absurd member List.not_mem_nil
  entrySite _ _ member := absurd member List.not_mem_nil
  scanning_of_inBody _ := rfl
  counter_ge := by
    change (-2147483649 : Int) ≤ 0
    decide
  counter_le := by
    change (0 : Int) ≤ _
    omega

theorem sound_of_step {machine next : Machine} {lines : List String}
    (sound : Control.Sound machine.program machine.control)
    (advanced : machine.step = .ok (.advance next lines)) :
    Control.Sound next.program next.control := by
  obtain ⟨address, line, located, found, transfer⟩ := transfer_of_step advanced
  rw [program_of_step advanced]
  exact sound.transfer located found transfer

theorem sound_closed :
    Closed fun machine : Machine => Control.Sound machine.program machine.control where
  push line sound := sound.push line
  signal _ sound := sound
  step sound advanced := sound_of_step sound advanced

/-! ## Two states -/

/-- A step takes the phase at most one rank forward, and after the scan it keeps
the procedures. -/
theorem rank_of_step {machine next : Machine} {lines : List String}
    (advanced : machine.step = .ok (.advance next lines)) :
    machine.phase.rank ≤ next.phase.rank ∧ next.phase.rank ≤ machine.phase.rank + 1 ∧
      (machine.phase.rank ≠ 0 → next.procedures = machine.procedures) := by
  obtain ⟨address, line, _, _, transfer⟩ := transfer_of_step advanced
  -- what a transfer says about the two registers
  have phaseOf {control : Control} (same : next.control = control) :
      next.phase = control.phase := congrArg Control.phase same
  have proceduresOf {control : Control} (same : next.control = control) :
      next.procedures = control.procedures := congrArg Control.procedures same
  cases transfer with
  | onward same | jumped _ _ _ _ same | called _ _ _ _ _ _ same | returned _ _ _ same =>
      rw [show next.phase = machine.phase from phaseOf same]
      exact ⟨Nat.le_refl _, Nat.le_succ _, fun _ => proceduresOf same⟩
  | header scanning _ _ _ same | body scanning _ same =>
      rw [show next.phase = machine.phase from phaseOf same, scanning]
      exact ⟨Nat.le_refl _, Nat.le_succ _, fun late => absurd rfl late⟩
  | begun before _ same =>
      rw [show next.phase = .running from phaseOf same]
      rcases before with running | ⟨scanning, _⟩
      · rw [running]
        exact ⟨Nat.le_refl _, Nat.le_succ _, fun _ => proceduresOf same⟩
      · rw [scanning]
        exact ⟨Nat.zero_le _, Nat.le_refl _, fun late => absurd rfl late⟩
  | ended running _ same =>
      rw [show next.phase = .ending from phaseOf same, running]
      exact ⟨Nat.le_succ _, Nat.le_refl _, fun _ => proceduresOf same⟩

/-- What later states keep of an earlier one until the next load. -/
structure Forward (earlier later : Machine) : Prop where
  rank_le : earlier.phase.rank ≤ later.phase.rank
  procedures_eq : earlier.phase.rank ≠ 0 → later.procedures = earlier.procedures

theorem forward_closed (earlier : Machine) : Closed (Forward earlier) where
  push _ forward := ⟨forward.rank_le, forward.procedures_eq⟩
  signal _ forward := ⟨forward.rank_le, forward.procedures_eq⟩
  step {machine next lines} forward advanced := by
    obtain ⟨lower, _, kept⟩ := rank_of_step advanced
    have rank_le := forward.rank_le
    refine ⟨Nat.le_trans rank_le lower, fun late => ?_⟩
    rw [kept (by omega), forward.procedures_eq late]

/-! ## Faults -/

theorem kind_of_slice {machine : Machine} {log : Array Entry} {cycles : Nat} {fault : Fault}
    (failed : (machine.slice log cycles).result = .error fault) :
    fault.kind ≠ .internalError := by
  unfold slice at failed
  split at failed
  · cases failed
    unfold breakFault
    split <;> nofun
  · obtain ⟨_, _, last, _, _, stuck, _⟩ := exists_of_steps_eq_error failed
    exact kind_of_step_eq_error stuck

theorem kind_of_runFrom {machine : Machine} {log : Array Entry} {bound : Nat} {fault : Fault}
    (failed : (machine.runFrom log bound).result = .error fault) :
    fault.kind ≠ .internalError := by
  induction bound generalizing machine log with
  | zero => cases failed
  | succ bound inductionHypothesis =>
      rw [runFrom] at failed
      split at failed
      · exact inductionHypothesis failed
      · exact kind_of_slice failed

theorem kind_of_outcome {machine : Machine} {request : Request} {fault : Fault}
    (failed : (request.outcome machine).result = .error fault) :
    fault.kind ≠ .internalError := by
  cases request with
  | load program => cases failed
  | enter s =>
      rw [enter_outcome] at failed
      split at failed
      · cases failed
      · cases failed
        nofun
  | interrupt => cases failed
  | execute cycles => exact kind_of_slice failed
  | run further => exact kind_of_runFrom failed

/-- What a signed word of 64 bits can hold does not saturate. -/
theorem saturate_eq_self {value : Int} (lower : -9223372036854775808 ≤ value)
    (upper : value ≤ 9223372036854775807) : Cycle.saturate value = value := by
  unfold Cycle.saturate
  omega

/-- The control invariant of reachable machines.  The control registers fit the
program, where the mark of a procedure body is up during the scan only.  The
subtraction in a jump never saturates, and neither the value from which a cycle
increments the counter nor the incremented one leaves the range of a signed word of
64 bits, in a program whose size is in this range.  A cycle takes the phase at most
one rank forward; until the next load the phase never goes back, and the procedures
do not change any more once the scan is over.  No request is answered with an
internal fault. -/
theorem control_invariant {machine : Machine} (reachable : Reachable machine) :
    Control.Sound machine.program machine.control ∧
    (∀ target : Int32, Cycle.saturate (target.toInt - 2) = target.toInt - 2) ∧
    (∀ log later, cycle.run ⟨machine, log⟩ = .ok none later →
      (machine.program.size < 9223372036854775808 →
        Cycle.saturate (later.machine.counter - 1) = later.machine.counter - 1 ∧
          Cycle.saturate later.machine.counter = later.machine.counter) ∧
      machine.phase.rank ≤ later.machine.phase.rank ∧
        later.machine.phase.rank ≤ machine.phase.rank + 1) ∧
    (∀ further : List Request, (∀ program, Request.load program ∉ further) →
      machine.phase.rank ≤ (machine.afterRequests further).phase.rank ∧
      (machine.phase.rank ≠ 0 →
        (machine.afterRequests further).procedures = machine.procedures)) ∧
    ∀ (request : Request) (fault : Fault),
      (request.outcome machine).result = .error fault → fault.kind ≠ .internalError := by
  have sound : Control.Sound machine.program machine.control :=
    sound_closed.of_reachable sound_load reachable
  refine ⟨sound, Cycle.saturate_jump, ?_, ?_, fun _ _ => kind_of_outcome⟩
  · intro log later cycled
    obtain ⟨next, lines, advanced, rfl⟩ := exists_step_of_cycle cycled
    obtain ⟨forward, single, _⟩ := rank_of_step advanced
    refine ⟨fun small => ?_, forward, single⟩
    have nextSound := sound_of_step sound advanced
    have lower : -2147483649 ≤ next.counter := nextSound.counter_ge
    have upper : next.counter ≤ max (machine.program.size : Int) 2147483646 := by
      rw [← program_of_step advanced]
      exact nextSound.counter_le
    dsimp only
    constructor
    · exact saturate_eq_self (by omega) (by omega)
    · exact saturate_eq_self (by omega) (by omega)
  · intro further unloaded
    have forward : Forward machine (machine.afterRequests further) :=
      (forward_closed machine).afterRequests ⟨Nat.le_refl _, fun _ => rfl⟩
        fun program member => absurd member (unloaded program)
    exact ⟨forward.rank_le, forward.procedures_eq⟩

/-- A machine inside two calls, with a line entered and a break asked for. -/
def insideCalls : Machine :=
  new.afterRequests [.load recursion, .execute 11, .enter "ld 1", .interrupt]

/-- A machine that has scanned a procedure header and not yet left its body. -/
def insideBody : Machine :=
  new.afterRequests [.load recursion, .execute 2]

theorem control_invariant_insideCalls :
    Reachable insideCalls ∧
      insideCalls.calls.items = [3, 7] ∧
      Control.Sound insideCalls.program insideCalls.control ∧
      (∃ later, cycle.run ⟨insideCalls, #[]⟩ = .ok none later ∧
        Cycle.saturate later.machine.counter = later.machine.counter) ∧
      (insideCalls.afterRequests [.execute 0, .enter "end", .run 0]).phase = .ending ∧
      (insideCalls.afterRequests [.execute 0, .enter "end", .run 0]).procedures =
        insideCalls.procedures ∧
      ((Request.execute 0).outcome insideCalls).result =
        .error ⟨.interrupted, some 2, ""⟩ ∧
      (⟨.interrupted, some 2, ""⟩ : Fault).kind ≠ .internalError ∧
      Reachable insideBody ∧ insideBody.inBody = true ∧ insideBody.phase = .scanning := by
  have reachable : Reachable insideCalls := ⟨"", _, rfl⟩
  have cycled : cycle.run ⟨insideCalls, #[]⟩ = .ok none ⟨insideCalls.move .step, #[]⟩ := rfl
  obtain ⟨sound, _, step, forward, external⟩ := control_invariant reachable
  obtain ⟨fits, _⟩ := step _ _ cycled
  obtain ⟨_, kept⟩ := forward [.execute 0, .enter "end", .run 0] (by simp)
  have scanned : Reachable insideBody := ⟨"", _, rfl⟩
  have inside : insideBody.inBody = true := rfl
  obtain ⟨bodySound, _⟩ := control_invariant scanned
  exact ⟨reachable, rfl, sound, ⟨_, cycled, (fits (by decide)).2⟩, rfl, kept (by decide),
    rfl, external (.execute 0) _ rfl, scanned, inside, bodySound.scanning_of_inBody inside⟩

end Machine

end AccumulatorMachine
