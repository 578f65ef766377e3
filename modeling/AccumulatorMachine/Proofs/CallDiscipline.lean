import AccumulatorMachine.Proofs.Cycle
import AccumulatorMachine.Proofs.Step

/-!
# Calls and returns

A call saves its address on the call stack, and only the matching `endproc`
takes it off again.  In between the part of the stack below the call is never
touched, whatever lines are run or entered: jumps, further calls, returns from
them, faults and endings.
-/

namespace AccumulatorMachine

namespace Line

/-- Nothing on a blank line is a command. -/
theorem ofWord?_of_isBlank {line : Line} (blank : line.isBlank = true) :
    Mnemonic.ofWord? line.command = none := by
  cases found : Mnemonic.ofWord? line.command with
  | none => rfl
  | some mnemonic =>
      have filled : ∀ candidate ∈ Mnemonic.all,
          (⟨[candidate.word]⟩ : Line).isBlank = false := by
        decide
      have sameWord : line.isBlank = (⟨[mnemonic.word]⟩ : Line).isBlank := by
        rw [isBlank, ← Mnemonic.ofWord?_eq_some_iff.mp found]
        rfl
      rw [sameWord, filled mnemonic (Mnemonic.mem_all mnemonic)] at blank
      cases blank

end Line

namespace Machine

/-- The command that a running machine finds at its counter. -/
def command? (machine : Machine) : Option Mnemonic :=
  match machine.phase, machine.counter with
  | .running, .ofNat address => do
      let line ← machine.program.line? address
      Mnemonic.ofWord? line.command
  | _, _ => none

theorem command?_at {machine : Machine} {address : Nat} {line : Line}
    (located : machine.counter = address)
    (found : machine.program.line? address = some line) :
    machine.command? =
      if machine.phase = .running then Mnemonic.ofWord? line.command else none := by
  unfold command?
  rw [located]
  cases machine.phase with
  | running =>
      change (machine.program.line? address >>= _) = _
      rw [found]
      rfl
  | scanning => rfl
  | ending => rfl

/-! ## One step -/

/-- What becomes of the calls, by the command that is run: a call puts its
address on the top, a return takes the top off and goes on behind it, and
everything else leaves them. -/
inductive CallEffect (machine next : Machine) : Option Mnemonic → Prop
  | call :
      next.calls.items = machine.counter :: machine.calls.items →
      CallEffect machine next (some .call)
  | endProcedure {caller : Int} :
      machine.calls.items = caller :: next.calls.items →
      next.counter = caller + 1 →
      CallEffect machine next (some .endProcedure)
  | other {command : Option Mnemonic} :
      command ≠ some .call →
      command ≠ some .endProcedure →
      next.calls = machine.calls →
      CallEffect machine next command

theorem callEffect_of_perform {machine next : Machine} {instruction : Instruction}
    {lines : List String}
    (performed : machine.perform instruction = .ok (.advance next lines)) :
    CallEffect machine next (some instruction.mnemonic) := by
  cases performed_of_perform performed with
  | call _ pushed => exact CallEffect.call (BoundedStack.push_eq_ok_iff.mp pushed).2
  | endProcedure popped =>
      exact CallEffect.endProcedure (BoundedStack.pop_eq_ok_iff.mp popped) rfl
  | _ => exact CallEffect.other nofun nofun rfl

/-- A step treats the calls as the command at the counter says. -/
theorem callEffect_of_step {machine next : Machine} {lines : List String}
    (advanced : machine.step = .ok (.advance next lines)) :
    CallEffect machine next machine.command? := by
  obtain ⟨address, line, located, found, advance⟩ := advance_of_step advanced
  rw [command?_at located found]
  cases advance with
  | blank blank =>
      rw [Line.ofWord?_of_isBlank blank, ite_self]
      exact CallEffect.other nofun nofun rfl
  | header _ scanning _ _ _ =>
      rw [if_neg (by simp [scanning])]
      exact CallEffect.other nofun nofun rfl
  | body _ scanning _ _ =>
      rw [if_neg (by simp [scanning])]
      exact CallEffect.other nofun nofun rfl
  | unknown _ phase absent =>
      rw [absent, ite_self]
      exact CallEffect.other nofun nofun rfl
  | command _ phase known decoded performed =>
      have effect := callEffect_of_perform performed
      rw [Mnemonic.mnemonic_of_decode decoded] at effect
      rcases phase with running | ⟨scanning, _, _, first⟩
      · rw [if_pos running, known]
        exact effect
      · -- before the module begins only `begin` is run, which is neither a call nor a return
        rw [if_neg (by simp [scanning])]
        subst first
        cases effect with
        | other _ _ same => exact CallEffect.other nofun nofun same

/-! ## Runs -/

/-- What can happen between two states of a run: a cycle is tried, or a line is
entered. -/
inductive Move where
  | step
  | enter (s : String)
  deriving DecidableEq, Repr

/-- The machine that a move leaves, whether it fails or not. -/
def move (machine : Machine) : Move → Machine
  | .step => (cycle.left ⟨machine, #[]⟩).machine
  | .enter s => (enterM s).left machine

/-- The machine after several moves. -/
def afterMoves (machine : Machine) (moves : List Move) : Machine :=
  moves.foldl move machine

/-- The addresses of open calls after a move, the last call first.  They are
told from the commands that are run, without a look at the call stack. -/
def openCalls (machine : Machine) (calls : List Int) : Move → List Int
  | .enter _ => calls
  | .step =>
      match cycle.run ⟨machine, #[]⟩, machine.command? with
      | .ok none _, some .call => machine.counter :: calls
      | .ok none _, some .endProcedure => calls.tail
      | _, _ => calls

/-- The addresses of the calls that are made by moves and still open after
them, the last call first. -/
def callsSince (machine : Machine) (calls : List Int) : List Move → List Int
  | [] => calls
  | move :: moves =>
      (machine.move move).callsSince (machine.openCalls calls move) moves

theorem calls_enter {machine : Machine} (s : String) :
    (machine.move (.enter s)).calls = machine.calls := by
  cases accepted : machine.enter s with
  | error refusal => rw [move, Update.left, enterM_of_refused accepted]
  | ok entered =>
      rw [move, Update.left, enterM_of_accepted accepted]
      dsimp only
      rw [eq_of_enter accepted]

theorem move_of_advance {machine next : Machine} {lines : List String}
    (advanced : machine.step = .ok (.advance next lines)) : machine.move .step = next := by
  rw [move, left_cycle]
  simp only [advanced]

theorem openCalls_of_advance {machine next : Machine} {lines : List String}
    (advanced : machine.step = .ok (.advance next lines)) (calls : List Int) :
    machine.openCalls calls .step =
      match machine.command? with
      | some .call => machine.counter :: calls
      | some .endProcedure => calls.tail
      | _ => calls := by
  simp only [openCalls, cycle_eq_step, advanced, Bench.take]
  cases machine.command? with
  | none => rfl
  | some mnemonic => cases mnemonic <;> rfl

theorem unmoved_of_no_advance {machine : Machine}
    (still : ∀ next lines, machine.step ≠ .ok (.advance next lines)) (calls : List Int) :
    machine.move .step = machine ∧ machine.openCalls calls .step = calls := by
  unfold move openCalls
  rw [left_cycle, cycle_eq_step]
  cases stepped : machine.step with
  | error fault => exact ⟨rfl, rfl⟩
  | ok transition =>
      cases transition with
      | finish ending => exact ⟨rfl, rfl⟩
      | advance next lines => exact absurd stepped (still next lines)

/-- A move keeps what lies below a call, unless it is the return from it. -/
theorem calls_of_move {machine : Machine} {calls below : List Int} {caller : Int}
    (items : machine.calls.items = calls ++ caller :: below) (move : Move) :
    (machine.move move).calls.items =
        machine.openCalls calls move ++ caller :: below ∨
      (move = .step ∧ machine.command? = some .endProcedure ∧
        (∃ lines, machine.step = .ok (.advance (machine.move move) lines)) ∧
        (machine.move move).calls.items = below ∧
          (machine.move move).counter = caller + 1) := by
  cases move with
  | enter s =>
      rw [calls_enter]
      exact Or.inl items
  | step =>
      by_cases advances : ∃ next lines, machine.step = .ok (.advance next lines)
      · obtain ⟨next, lines, stepped⟩ := advances
        rw [move_of_advance stepped, openCalls_of_advance stepped]
        have effect := callEffect_of_step stepped
        generalize ran : machine.command? = command at effect ⊢
        cases effect with
        | call pushed =>
            left
            rw [pushed, items]
            rfl
        | @endProcedure top popped resumed =>
            rw [items] at popped
            cases calls with
            | nil =>
                -- no later call is open: this is the return from the call itself
                obtain ⟨sameCaller, sameBelow⟩ := List.cons.inj popped
                right
                refine ⟨rfl, rfl, ⟨lines, stepped⟩, sameBelow.symm, ?_⟩
                rw [resumed, sameCaller]
            | cons last calls =>
                obtain ⟨_, sameRest⟩ := List.cons.inj popped
                exact Or.inl sameRest.symm
        | other notCall notReturn same =>
            left
            rw [same]
            split
            · exact absurd rfl notCall
            · exact absurd rfl notReturn
            · exact items
      · simp only [not_exists] at advances
        obtain ⟨unmoved, unopened⟩ := unmoved_of_no_advance advances calls
        rw [unmoved, unopened]
        exact Or.inl items

/-- As long as a call has not returned, its address lies on the stack between
the addresses below it and those of the calls made since. -/
theorem items_afterMoves {machine : Machine} {calls below : List Int} {caller : Int}
    (items : machine.calls.items = calls ++ caller :: below) {moves : List Move}
    (inside : ∀ count, count ≤ moves.length →
      (machine.afterMoves (moves.take count)).calls.depth ≠ below.length) :
    (machine.afterMoves moves).calls.items =
      machine.callsSince calls moves ++ caller :: below := by
  induction moves generalizing machine calls with
  | nil => exact items
  | cons move moves inductionHypothesis =>
      rcases calls_of_move items move with laterItems | ⟨_, _, _, returned, _⟩
      · apply inductionHypothesis laterItems
        intro count bound
        exact inside (count + 1) (Nat.succ_le_succ bound)
      · have dropped : (machine.move move).calls.depth = below.length := by
          rw [BoundedStack.depth_eq, returned]
        exact absurd dropped (inside 1 (Nat.succ_le_succ (Nat.zero_le moves.length)))

/-- The discipline of calls and returns.  A machine calls a procedure and then
makes any moves.  As long as the call depth has not come back to what it was
before the call, the call stack is the old one with the address of the call and
the addresses of the open calls made since on top.  The move that first brings
the depth back is a cycle that runs `endproc`, and it leaves exactly the old call
stack and goes on behind the call. -/
theorem call_return_discipline {caller entered : Machine} {before after : Array Entry}
    (calling : caller.command? = some .call)
    (called : cycle.run ⟨caller, before⟩ = .ok none ⟨entered, after⟩)
    (moves : List Move)
    (inside : ∀ count, count ≤ moves.length →
      (entered.afterMoves (moves.take count)).calls.depth ≠ caller.calls.depth) :
    (entered.afterMoves moves).calls.items =
        entered.callsSince [] moves ++ caller.counter :: caller.calls.items ∧
      ∀ last, (entered.afterMoves (moves ++ [last])).calls.depth = caller.calls.depth →
        last = .step ∧
        (entered.afterMoves moves).command? = some .endProcedure ∧
        (∀ log, ∃ written, cycle.run ⟨entered.afterMoves moves, log⟩ =
          .ok none ⟨entered.afterMoves (moves ++ [last]), written⟩) ∧
        (entered.afterMoves (moves ++ [last])).calls = caller.calls ∧
        (entered.afterMoves (moves ++ [last])).counter = caller.counter + 1 := by
  have entry : entered.calls.items = [] ++ caller.counter :: caller.calls.items := by
    obtain ⟨next, lines, stepped, same⟩ := exists_step_of_cycle called
    cases same
    have effect := callEffect_of_step stepped
    rw [calling] at effect
    cases effect with
    | call pushed => exact pushed
    | other notCall _ _ => exact absurd rfl notCall
  rw [caller.calls.depth_eq] at inside ⊢
  have items := items_afterMoves entry inside
  refine ⟨items, ?_⟩
  intro last back
  have afterLast : entered.afterMoves (moves ++ [last]) =
      (entered.afterMoves moves).move last := by
    rw [afterMoves, List.foldl_append]
    rfl
  rw [afterLast] at back ⊢
  rw [BoundedStack.depth_eq] at back
  rcases calls_of_move items last with
    deeper | ⟨isStep, returning, ⟨lines, advanced⟩, below, resumed⟩
  · rw [deeper, List.length_append, List.length_cons] at back
    omega
  · refine ⟨isStep, returning, ?_, BoundedStack.eq_of_items_eq below, resumed⟩
    intro log
    rw [cycle_eq_step, advanced]
    exact ⟨_, rfl⟩

/-- A program whose procedure calls itself once. -/
def recursion : Program :=
  ⟨#[⟨["procdef", "f"]⟩, ⟨["sub", "1"]⟩, ⟨["jaz", "5"]⟩, ⟨["proc", "f"]⟩, ⟨["endproc"]⟩,
    ⟨["begin"]⟩, ⟨["ld", "2"]⟩, ⟨["proc", "f"]⟩, ⟨["end"]⟩]⟩

/-- The machine in front of the outer call. -/
def recursionCaller : Machine :=
  (new.load recursion).afterMoves (List.replicate 7 .step)

/-- The outer call returns after the inner one. -/
theorem call_return_discipline_recursion :
    recursionCaller.command? = some .call ∧
      cycle.run ⟨recursionCaller, #[]⟩ = .ok none ⟨recursionCaller.move .step, #[]⟩ ∧
      (∀ count, count ≤ 6 →
        ((recursionCaller.move .step).afterMoves
          ((List.replicate 6 Move.step).take count)).calls.depth ≠
            recursionCaller.calls.depth) ∧
      ((recursionCaller.move .step).afterMoves (List.replicate 7 .step)).calls =
        recursionCaller.calls ∧
      ((recursionCaller.move .step).afterMoves (List.replicate 7 .step)).counter = 8 := by
  have calling : recursionCaller.command? = some .call := rfl
  have called : cycle.run ⟨recursionCaller, #[]⟩ =
      .ok none ⟨recursionCaller.move .step, #[]⟩ := rfl
  have inside : ∀ count, count ≤ (List.replicate 6 Move.step).length →
      ((recursionCaller.move .step).afterMoves
        ((List.replicate 6 Move.step).take count)).calls.depth ≠
          recursionCaller.calls.depth := by
    decide +kernel
  obtain ⟨_, back⟩ :=
    call_return_discipline calling called (List.replicate 6 .step) inside
  obtain ⟨_, _, _, calls, counter⟩ := back .step rfl
  exact ⟨calling, called, inside, calls, counter⟩

end Machine

end AccumulatorMachine
