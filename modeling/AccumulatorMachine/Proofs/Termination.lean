import AccumulatorMachine.Proofs.ControlInvariant

/-!
# Programs without backward jumps

A program in which no jump leads backward comes to an end, although calls and
returns move the counter backward and procedures may call themselves.  The
argument is a price for every line.  A line costs one cycle, and if it is a call,
it costs in addition all lines that the called procedure can pass; these are
cheaper, because one call less can be made from them before the stack is full.
What a machine has still to pay is the price of the lines from the counter on and
of the lines behind every open call.  Each step pays at least one cycle of it.
-/

namespace AccumulatorMachine

/-- The jump on a line cannot be read, or it leads beyond a line number. -/
def Line.jumpsBeyond (line : Line) (number : Nat) : Bool :=
  match line.tokens[1]? with
  | none => true
  | some token =>
      match Integer.read token with
      | .error _ => true
      | .ok target => decide ((number : Int) < target.toInt)

/-- Every jump that can be read leads to a later line. -/
def Program.JumpsForward (program : Program) : Prop :=
  ∀ (address : Nat) (line : Line), program.line? address = some line →
    line.command ∈ jumpWords → line.jumpsBeyond (address + 1) = true

theorem Program.jumpsForward_iff {program : Program} :
    program.JumpsForward ↔
      ∀ address : Fin program.lines.size, (program.lines[address]).command ∈ jumpWords →
        (program.lines[address]).jumpsBeyond (address + 1) = true := by
  constructor
  · intro forward address
    exact forward address _ (Array.getElem?_eq_getElem address.isLt)
  · intro forward address line found
    obtain ⟨inside, rfl⟩ := Array.getElem?_eq_some_iff.mp found
    exact forward ⟨address, inside⟩

instance (program : Program) : Decidable program.JumpsForward :=
  decidable_of_iff _ Program.jumpsForward_iff.symm

theorem Line.lt_of_jumpsBeyond {line : Line} {number : Nat} {token : String} {target : Int32}
    (beyond : line.jumpsBeyond number = true) (operand : line.tokens[1]? = some token)
    (read : Integer.read token = .ok target) : (number : Int) < target.toInt := by
  simpa only [jumpsBeyond, operand, read, decide_eq_true_eq] using beyond

/-! ## Prices -/

/-- The price of a line in a program with `size` lines, as long as `room` more
calls fit on the stack. -/
def lineCost (size : Nat) : Nat → Nat
  | 0 => 1
  | room + 1 => 1 + size * lineCost size room

theorem lineCost_pos (size room : Nat) : 0 < lineCost size room := by
  cases room with
  | zero => exact Nat.one_pos
  | succ room =>
      rw [lineCost]
      omega

/-- How many more calls fit on a stack. -/
def roomAbove (callers : List Int) : Nat :=
  BoundedStack.limit - callers.length

/-- The price of the lines behind open calls, the last call first. -/
def pendingCost (size : Nat) : List Int → Nat
  | [] => 0
  | caller :: callers =>
      (size - caller.toNat) * lineCost size (roomAbove callers) + pendingCost size callers

namespace Control

/-- The price of everything that is still to be run. -/
def remaining (size : Nat) (control : Control) : Nat :=
  (size + 1 - control.counter.toNat) * lineCost size (roomAbove control.calls.items) +
    pendingCost size control.calls.items

variable {size address : Nat} {control next : Control}

theorem remaining_lt_of_later (located : control.counter = address) (inside : address < size)
    (sameCalls : next.calls = control.calls) (later : control.counter + 1 ≤ next.counter) :
    next.remaining size < control.remaining size := by
  have fewer : size + 1 - next.counter.toNat < size + 1 - control.counter.toNat := by
    omega
  unfold remaining
  rw [sameCalls]
  exact Nat.add_lt_add_right
    (Nat.mul_lt_mul_of_pos_right fewer (lineCost_pos size _)) _

theorem remaining_lt_of_call {entry : Nat} {calls : CallStack}
    (located : control.counter = address) (inside : address < size)
    (pushed : control.calls.push control.counter = .ok calls)
    (sameCalls : next.calls = calls) (entered : next.counter = entry + 1) :
    next.remaining size < control.remaining size := by
  obtain ⟨room, items⟩ := BoundedStack.push_eq_ok_iff.mp pushed
  rw [control.calls.depth_eq] at room
  have roomBelow : roomAbove control.calls.items = roomAbove calls.items + 1 := by
    unfold roomAbove
    rw [items, List.length_cons]
    omega
  have body : size + 1 - next.counter.toNat ≤ size := by
    omega
  have callLine : size + 1 - address = size - address + 1 := by
    omega
  -- the price of the call line pays for the whole body
  calc
    next.remaining size =
        (size + 1 - next.counter.toNat) * lineCost size (roomAbove calls.items) +
          ((size - address) * lineCost size (roomAbove control.calls.items) +
            pendingCost size control.calls.items) := by
      rw [remaining, sameCalls, items, pendingCost, located, Int.toNat_natCast]
    _ ≤ size * lineCost size (roomAbove calls.items) +
          ((size - address) * lineCost size (roomAbove control.calls.items) +
            pendingCost size control.calls.items) :=
      Nat.add_le_add_right (Nat.mul_le_mul_right _ body) _
    _ < lineCost size (roomAbove control.calls.items) +
          ((size - address) * lineCost size (roomAbove control.calls.items) +
            pendingCost size control.calls.items) := by
      rw [roomBelow, lineCost]
      omega
    _ = control.remaining size := by
      rw [remaining, located, Int.toNat_natCast, callLine, Nat.add_mul]
      omega

theorem remaining_lt_of_return {caller : Int} {calls : CallStack}
    (located : control.counter = address) (inside : address < size)
    (popped : control.calls.pop = .ok (caller, calls)) (saved : 0 ≤ caller)
    (sameCalls : next.calls = calls) (resumed : next.counter = caller + 1) :
    next.remaining size < control.remaining size := by
  have items := BoundedStack.pop_eq_ok_iff.mp popped
  have behindCall : size + 1 - next.counter.toNat = size - caller.toNat := by
    omega
  have lines : 0 < size + 1 - control.counter.toNat := by
    omega
  have unpaid : 0 < (size + 1 - control.counter.toNat) *
      lineCost size (roomAbove control.calls.items) :=
    Nat.mul_pos lines (lineCost_pos size _)
  have after : next.remaining size = pendingCost size control.calls.items := by
    rw [remaining, sameCalls, behindCall, items, pendingCost]
  rw [after, remaining]
  omega

end Control

namespace Machine

/-- Every transfer of control pays for a line, if no jump leads backward. -/
theorem remaining_lt_of_transfer {program : Program} {machine next : Machine} {address : Nat}
    {line : Line} (forward : program.JumpsForward)
    (sound : Control.Sound program machine.control) (located : machine.counter = address)
    (found : program.line? address = some line) (transfer : machine.Transfer address line next) :
    next.control.remaining program.size < machine.control.remaining program.size := by
  have inside := Program.lt_size_of_line? found
  have onward {phase : Phase} {inBody : Bool} {procedures : Procedures}
      (same : next.control =
        { machine.control with counter := machine.counter + 1, phase, inBody, procedures }) :
      next.control.remaining program.size < machine.control.remaining program.size := by
    rw [same]
    exact Control.remaining_lt_of_later located inside rfl (Int.le_refl _)
  cases transfer with
  | onward same | header _ _ _ _ same | body _ _ same | begun _ _ same | ended _ _ same =>
      exact onward same
  | @jumped token target _ jumping operand read same =>
      have beyond := Line.lt_of_jumpsBeyond (forward address line found jumping) operand read
      rw [same]
      refine Control.remaining_lt_of_later located inside rfl ?_
      change machine.counter + 1 ≤ target.toInt - 1
      omega
  | called _ _ _ _ _ pushed same =>
      rw [same]
      exact Control.remaining_lt_of_call located inside pushed rfl rfl
  | @returned caller calls _ _ popped same =>
      have member : caller ∈ machine.calls.items := by
        rw [BoundedStack.pop_eq_ok_iff.mp popped]
        exact List.mem_cons_self
      obtain ⟨callAddress, _, _, saved, _⟩ := sound.callSite caller member
      rw [same]
      exact Control.remaining_lt_of_return located inside popped (by omega) rfl rfl

/-- A run with more cycles than there are to be paid is over. -/
theorem steps_ne_running {machine : Machine} (forward : machine.program.JumpsForward)
    (sound : Control.Sound machine.program machine.control) {cycles : Nat}
    (enough : machine.control.remaining machine.program.size < cycles) (log : Array Entry) :
    (machine.steps log cycles).result ≠ .ok .running := by
  induction cycles generalizing machine log with
  | zero => exact absurd enough (Nat.not_lt_zero _)
  | succ cycles inductionHypothesis =>
      rw [steps_succ]
      cases stepped : machine.step with
      | error fault => nofun
      | ok transition =>
          cases transition with
          | finish ending => nofun
          | advance next lines =>
              obtain ⟨address, line, located, found, transfer⟩ := transfer_of_step stepped
              have paid := remaining_lt_of_transfer forward sound located found transfer
              apply inductionHypothesis
              · rw [program_of_step stepped]
                exact forward
              · exact sound_of_step sound stepped
              · rw [program_of_step stepped]
                omega

/-- A number of cycles within which a program without backward jumps ends. -/
def cycleBound (program : Program) : Nat :=
  (program.size + 1) * lineCost program.size BoundedStack.limit

theorem remaining_load (machine : Machine) (program : Program) :
    (machine.load program).control.remaining program.size = cycleBound program := by
  have counter : (machine.load program).control.counter = 0 := rfl
  have callers : (machine.load program).control.calls.items = [] := rfl
  rw [Control.remaining, counter, callers, pendingCost, Nat.add_zero, cycleBound, roomAbove,
    List.length_nil, Int.toNat_zero, Nat.sub_zero, Nat.sub_zero]

/-- Programs without backward jumps terminate, recursion included.  Loaded into
any machine, such a program ends or fails within a number of cycles that depends
on its size only, whether it is executed in one slice or run to the end. -/
theorem terminates_of_jumpsForward (program : Program) (forward : program.JumpsForward)
    (machine : Machine) :
    (∀ cycles, cycleBound program < cycles →
      (∃ ending, ((machine.load program).execute cycles).result = .ok (.ended ending)) ∨
        ∃ fault, ((machine.load program).execute cycles).result = .error fault) ∧
    ∀ bound, cycleBound program < bound * sliceCycles →
      (∃ ending, ((machine.load program).run bound).result = .ok (.ended ending)) ∨
        ∃ fault, ((machine.load program).run bound).result = .error fault := by
  have calm : (machine.load program).interrupted = false := rfl
  have finishes (cycles : Nat) (enough : cycleBound program < cycles) :
      (∃ ending, ((machine.load program).steps #[] cycles).result = .ok (.ended ending)) ∨
        ∃ fault, ((machine.load program).steps #[] cycles).result = .error fault := by
    have unfinished : ((machine.load program).steps #[] cycles).result ≠ .ok .running :=
      steps_ne_running forward (sound_load machine program)
        (by rw [show (machine.load program).program = program from rfl, remaining_load]
            exact enough) #[]
    cases result : ((machine.load program).steps #[] cycles).result with
    | error fault => exact Or.inr ⟨fault, rfl⟩
    | ok event =>
        cases event with
        | running => exact absurd result unfinished
        | ended ending => exact Or.inl ⟨ending, rfl⟩
  constructor
  · intro cycles enough
    rw [execute_of_calm calm]
    exact finishes cycles enough
  · intro bound enough
    rw [run_of_calm calm]
    exact finishes _ enough

/-- Two procedures that call each other until the stack is full.  The first jump
leads forward, and the second one has no target. -/
def mutualRecursion : Program :=
  ⟨#[⟨["procdef", "f"]⟩, ⟨["proc", "g"]⟩, ⟨["endproc"]⟩, ⟨["procdef", "g"]⟩,
    ⟨["jap", "7"]⟩, ⟨["proc", "f"]⟩, ⟨["endproc"]⟩, ⟨["begin"]⟩, ⟨["ld", "0"]⟩,
    ⟨["jan"]⟩, ⟨["proc", "f"]⟩, ⟨["end"]⟩]⟩

theorem terminates_of_jumpsForward_mutualRecursion :
    mutualRecursion.JumpsForward ∧
      ∀ cycles, cycleBound mutualRecursion < cycles →
        (∃ ending, ((new.load mutualRecursion).execute cycles).result =
          .ok (.ended ending)) ∨
        ∃ fault, ((new.load mutualRecursion).execute cycles).result = .error fault := by
  have forward : mutualRecursion.JumpsForward := by decide +kernel
  exact ⟨forward, (terminates_of_jumpsForward mutualRecursion forward new).1⟩

end Machine

end AccumulatorMachine
