import AccumulatorMachine.Proofs.Step

/-!
# The control of a machine

The counter, the phase, the mark of a body, the procedures and the calls decide where
a machine goes on.  A step that goes on transfers control in one of eight ways, and the line at
the counter tells which of them are possible:

* onward to the following line, where only the counter moves;
* during the scan, past a header, which is registered, or through a body;
* past `begin` or `end`, which change the phase;
* to the line that a jump names, into a procedure, or back from one.

What the theory of runs has to know about control is derived from this list.
-/

namespace AccumulatorMachine

theorem Line.operand_eq_ok_iff {line : Line} {index : Nat} {token : String} :
    line.operand index = .ok token ↔ line.tokens[index]? = some token := by
  unfold operand
  cases line.tokens[index]? with
  | none => simp
  | some other => simp

namespace Procedures

theorem register_eq_ok_iff {procedures next : Procedures} {name : String} {entry : Nat} :
    procedures.register name entry = .ok next ↔
      procedures.get? name = none ∧ next = ⟨procedures.toList ++ [(name, entry)]⟩ := by
  rw [register_eq]
  cases procedures.get? name with
  | none => simp [eq_comm]
  | some other => simp

theorem entry_eq_ok_iff {procedures : Procedures} {name : String} {entry : Nat} :
    procedures.entry name = .ok entry ↔ procedures.get? name = some entry := by
  unfold Procedures.entry
  cases procedures.get? name with
  | none => simp
  | some other => simp

end Procedures

/-- The registers that decide where a machine goes on. -/
structure Control where
  counter : Int
  phase : Phase
  inBody : Bool
  procedures : Procedures
  calls : CallStack

/-- The words of the commands that name a line to go on with. -/
def jumpWords : List String := ["jmp", "jaz", "jap", "jan"]

namespace Machine

def control (machine : Machine) : Control where
  counter := machine.counter
  phase := machine.phase
  inBody := machine.inBody
  procedures := machine.procedures
  calls := machine.calls

/-- The ways in which a step at a line transfers control. -/
inductive Transfer (machine : Machine) (address : Nat) (line : Line) (next : Machine) : Prop
  | onward :
      next.control = { machine.control with counter := machine.counter + 1 } →
      Transfer machine address line next
  | header {name : String} {procedures : Procedures} :
      machine.phase = .scanning →
      line.isHeader = true →
      line.tokens[1]? = some name →
      machine.procedures.register name address = .ok procedures →
      next.control =
        { machine.control with
          counter := machine.counter + 1, inBody := true, procedures } →
      Transfer machine address line next
  | body {inBody : Bool} :
      machine.phase = .scanning →
      machine.inBody = true →
      next.control = { machine.control with counter := machine.counter + 1, inBody } →
      Transfer machine address line next
  | begun :
      machine.phase = .running ∨ machine.phase = .scanning ∧ machine.inBody = false →
      line.command = "begin" →
      next.control =
        { machine.control with counter := machine.counter + 1, phase := .running } →
      Transfer machine address line next
  | ended :
      machine.phase = .running →
      line.command = "end" →
      next.control =
        { machine.control with counter := machine.counter + 1, phase := .ending } →
      Transfer machine address line next
  | jumped {token : String} {target : Int32} :
      machine.phase = .running →
      line.command ∈ jumpWords →
      line.tokens[1]? = some token →
      Integer.read token = .ok target →
      next.control = { machine.control with counter := target.toInt - 1 } →
      Transfer machine address line next
  | called {name : String} {entry : Nat} {calls : CallStack} :
      machine.phase = .running →
      line.isBlank = false →
      line.command = "proc" →
      line.tokens[1]? = some name →
      machine.procedures.get? name = some entry →
      machine.calls.push machine.counter = .ok calls →
      next.control = { machine.control with counter := entry + 1, calls } →
      Transfer machine address line next
  | returned {caller : Int} {calls : CallStack} :
      machine.phase = .running →
      line.command = "endproc" →
      machine.calls.pop = .ok (caller, calls) →
      next.control = { machine.control with counter := caller + 1, calls } →
      Transfer machine address line next

/-- An instruction transfers control as the words of its line say. -/
theorem transfer_of_perform {machine next : Machine} {address : Nat} {line : Line}
    {mnemonic : Mnemonic} {instruction : Instruction} {lines : List String}
    (filled : line.isBlank = false)
    (phase : machine.phase = .running ∨
      machine.phase = .scanning ∧ machine.inBody = false ∧ mnemonic = .beginModule)
    (found : Mnemonic.ofWord? line.command = some mnemonic)
    (decoded : mnemonic.decode line = .ok instruction)
    (performed : machine.perform instruction = .ok (.advance next lines)) :
    Transfer machine address line next := by
  have word : line.command = mnemonic.word :=
    (Mnemonic.ofWord?_eq_some_iff.mp found).symm
  have running (other : mnemonic ≠ .beginModule) : machine.phase = .running :=
    phase.resolve_right fun first => other first.2.2
  obtain rfl := Mnemonic.mnemonic_of_decode decoded
  cases performed_of_perform performed with
  | beginModule =>
      exact Transfer.begun (phase.imp_right fun first => ⟨first.1, first.2.1⟩) word rfl
  | endModule => exact Transfer.ended (running nofun) word rfl
  | call known pushed =>
      obtain ⟨name, operand, done⟩ := bind_eq_ok_iff.mp decoded
      cases done
      exact Transfer.called (running nofun) filled word (Line.operand_eq_ok_iff.mp operand)
        (Procedures.entry_eq_ok_iff.mp known) pushed rfl
  | endProcedure popped => exact Transfer.returned (running nofun) word popped rfl
  | jump =>
      obtain ⟨target, reading, done⟩ := bind_eq_ok_iff.mp decoded
      obtain ⟨token, operand, read⟩ := bind_eq_ok_iff.mp reading
      cases done
      have spelled : line.command = Mnemonic.jump.word := word
      have listed : line.command ∈ jumpWords := by
        rw [spelled]
        decide
      exact Transfer.jumped (running nofun) listed (Line.operand_eq_ok_iff.mp operand) read rfl
  | @branch condition token _ _ _ _ readTarget =>
      have operand : line.tokens[1]? = some token := by
        injection decoded with same
        injection same
      have spelled : line.command = (Mnemonic.branch condition).word := word
      have listed : line.command ∈ jumpWords := by
        rw [spelled]
        cases condition <;> decide
      exact Transfer.jumped (running nofun) listed operand readTarget rfl
  | _ => exact Transfer.onward rfl

theorem program_of_step {machine next : Machine} {lines : List String}
    (advanced : machine.step = .ok (.advance next lines)) :
    next.program = machine.program :=
  congrArg Setting.program (setting_of_step advanced)

/-- A step that goes on transfers control as the line at the counter says. -/
theorem transfer_of_step {machine next : Machine} {lines : List String}
    (advanced : machine.step = .ok (.advance next lines)) :
    ∃ (address : Nat) (line : Line), machine.counter = address ∧
      machine.program.line? address = some line ∧ Transfer machine address line next := by
  obtain ⟨address, line, located, found, advance⟩ := advance_of_step advanced
  refine ⟨address, line, located, found, ?_⟩
  cases advance with
  | blank _ => exact Transfer.onward rfl
  | header _ scanning opening operand registered =>
      exact Transfer.header scanning opening (Line.operand_eq_ok_iff.mp operand) registered rfl
  | body _ scanning inBody _ => exact Transfer.body scanning inBody rfl
  | unknown _ _ _ => exact Transfer.onward rfl
  | command filled phase known decoded performed =>
      exact transfer_of_perform filled
        (phase.imp_right fun first => ⟨first.1, first.2.1, first.2.2.2⟩) known decoded performed

end Machine

end AccumulatorMachine
