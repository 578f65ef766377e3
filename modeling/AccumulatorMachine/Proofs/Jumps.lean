import AccumulatorMachine.Proofs.CallDiscipline
import AccumulatorMachine.Proofs.Control
import AccumulatorMachine.Proofs.Loading
import AccumulatorMachine.Proofs.Schedules

/-!
# Jumps

A jump names its line by the number under which the line is reported.  The counter goes
from there to the address in three moves: it is set to two less, it moves on by one, and
the next cycle takes it for an address.  None of them is off by one, and none leaves the
range of its numbers, whatever word the jump names.

The four commands read their operands at different times.  An unconditional jump reads its
target before it runs, a conditional one only when it is taken.  Taken or not, what a line
does is told by the same few cases.
-/

namespace AccumulatorMachine

/-! ## Lines of the source -/

namespace Program

/-- A program keeps all lines of its source, blank ones and comments included. -/
theorem line?_of_enterAll {texts : List String} {program : Program}
    (accepted : empty.enterAll texts = .ok program) (address : Nat) :
    program.line? address = texts[address]?.map Line.ofString := by
  obtain ⟨_, rfl⟩ := enterAll_eq_ok_iff.mp accepted
  simp [line?, empty]

end Program

namespace Machine

/-! ## Running a line -/

/-- A running machine is about to run a line. -/
structure AtLine (machine : Machine) (address : Nat) (line : Line) : Prop where
  running : machine.phase = .running
  located : machine.counter = address
  found : machine.program.line? address = some line

variable {machine : Machine} {address : Nat} {line : Line}

theorem AtLine.cycle_run (atLine : machine.AtLine address line) {mnemonic : Mnemonic}
    (known : mnemonic.word = line.command) (log : Array Entry) :
    cycle.run ⟨machine, log⟩ =
      Bench.take ⟨machine, log⟩
        ((mnemonic.decode line >>= machine.perform).mapError (·.atLine (address + 1))) := by
  have listed : Mnemonic.ofWord? line.command = some mnemonic :=
    Mnemonic.ofWord?_eq_some_iff.mpr known
  have filled : ¬ line.isBlank = true := by
    intro blank
    rw [Line.ofWord?_of_isBlank blank] at listed
    cases listed
  have handled : machine.handleLine address line = mnemonic.decode line >>= machine.perform := by
    unfold handleLine
    rw [atLine.running]
    dsimp only
    unfold runLine
    rw [listed]
    rfl
  rw [cycle_eq_step, step_at atLine.located, atLine.found]
  dsimp only
  rw [if_neg filled, handled]

/-! ## Whether a jump is taken -/

/-- A jump with this command word is taken: it is unconditional, or the accumulator is a
number that meets its condition. -/
def Taken (machine : Machine) (word : String) : Prop :=
  word = "jmp" ∨ ∃ value, Integer.read machine.accumulator = .ok value ∧
    (word = "jaz" ∧ value.toInt = 0 ∨ word = "jap" ∧ 0 < value.toInt ∨
      word = "jan" ∧ value.toInt < 0)

theorem taken_jump : machine.Taken Mnemonic.jump.word :=
  Or.inl rfl

theorem taken_branch_iff {condition : Condition} :
    machine.Taken (Mnemonic.branch condition).word ↔
      ∃ value, Integer.read machine.accumulator = .ok value ∧
        condition.holds value = true := by
  cases condition with
  | zero => simp [Taken, Mnemonic.word, Condition.holds, ← Int32.toInt_inj]
  | positive => simp [Taken, Mnemonic.word, Condition.holds, Int32.lt_iff_toInt_lt]
  | negative => simp [Taken, Mnemonic.word, Condition.holds, Int32.lt_iff_toInt_lt]

theorem exists_mnemonic_of_jumpWords {word : String} (jumping : word ∈ jumpWords) :
    word = Mnemonic.jump.word ∨ ∃ condition, word = (Mnemonic.branch condition).word := by
  simp only [jumpWords, List.mem_cons, List.not_mem_nil, or_false] at jumping
  rcases jumping with rfl | rfl | rfl | rfl
  · exact Or.inl rfl
  · exact Or.inr ⟨.zero, rfl⟩
  · exact Or.inr ⟨.positive, rfl⟩
  · exact Or.inr ⟨.negative, rfl⟩

/-! ## What a jump does -/

/-- Go on to the line that the first operand names. -/
def follow (machine : Machine) (line : Line) : Except Fault Transition :=
  line.wordOperand >>= fun number => .ok (.silent (machine.goto number))

theorem decode_jump_bind_perform :
    (Mnemonic.jump.decode line >>= machine.perform) = machine.follow line := by
  change (line.wordOperand >>= fun target => pure (Instruction.jump target)) >>= _ = _
  rw [bind_assoc]
  rfl

theorem decode_branch_bind_perform {condition : Condition} :
    ((Mnemonic.branch condition).decode line >>= machine.perform) =
      (machine.branch condition line.tokens[1]? >>= fun next => pure (.silent next)) := rfl

theorem branch_of_taken {condition : Condition} {value : Int32}
    (known : (Mnemonic.branch condition).word = line.command)
    (read : Integer.read machine.accumulator = .ok value)
    (met : condition.holds value = true) :
    ((Mnemonic.branch condition).decode line >>= machine.perform) = machine.follow line := by
  rw [decode_branch_bind_perform]
  unfold branch follow Line.wordOperand Line.operand
  rw [read, ok_bind, if_pos met, known]
  cases line.tokens[1]? with
  | none => rfl
  | some token =>
      dsimp only
      rw [ok_bind]
      cases Integer.read token with
      | error fault => rfl
      | ok number => rfl

theorem branch_of_untaken {condition : Condition} {value : Int32}
    (read : Integer.read machine.accumulator = .ok value)
    (unmet : ¬ condition.holds value = true) :
    ((Mnemonic.branch condition).decode line >>= machine.perform) =
      .ok (.silent machine.next) := by
  rw [decode_branch_bind_perform]
  unfold branch
  rw [read, ok_bind, if_neg unmet]
  rfl

theorem branch_of_unread {condition : Condition} {fault : Fault}
    (unread : Integer.read machine.accumulator = .error fault) :
    ((Mnemonic.branch condition).decode line >>= machine.perform) = .error fault := by
  rw [decode_branch_bind_perform]
  unfold branch
  rw [unread]
  rfl

/-- Every jump that is taken follows its first operand. -/
theorem AtLine.cycle_run_of_taken (atLine : machine.AtLine address line)
    (jumping : line.command ∈ jumpWords) (taken : machine.Taken line.command)
    (log : Array Entry) :
    cycle.run ⟨machine, log⟩ =
      Bench.take ⟨machine, log⟩ ((machine.follow line).mapError (·.atLine (address + 1))) := by
  rcases exists_mnemonic_of_jumpWords jumping with word | ⟨condition, word⟩
  · rw [atLine.cycle_run word.symm, decode_jump_bind_perform]
  · rw [word, taken_branch_iff] at taken
    obtain ⟨value, read, met⟩ := taken
    rw [atLine.cycle_run word.symm, branch_of_taken word.symm read met]

theorem AtLine.cycle_run_of_untaken (atLine : machine.AtLine address line)
    (jumping : line.command ∈ jumpWords) {value : Int32}
    (read : Integer.read machine.accumulator = .ok value)
    (untaken : ¬ machine.Taken line.command) (log : Array Entry) :
    cycle.run ⟨machine, log⟩ = .ok none ⟨machine.next, log⟩ := by
  rcases exists_mnemonic_of_jumpWords jumping with word | ⟨condition, word⟩
  · rw [word] at untaken
    exact absurd taken_jump untaken
  · have unmet : ¬ condition.holds value = true := by
      intro met
      rw [word, taken_branch_iff] at untaken
      exact untaken ⟨value, read, met⟩
    rw [atLine.cycle_run word.symm, branch_of_untaken read unmet]
    exact Bench.take_silent _ _

theorem AtLine.cycle_run_of_unread (atLine : machine.AtLine address line)
    (jumping : line.command ∈ jumpWords) (conditional : line.command ≠ "jmp") {fault : Fault}
    (unread : Integer.read machine.accumulator = .error fault) (log : Array Entry) :
    cycle.run ⟨machine, log⟩ = .error (fault.atLine (address + 1)) ⟨machine, log⟩ := by
  rcases exists_mnemonic_of_jumpWords jumping with word | ⟨condition, word⟩
  · exact absurd word conditional
  · rw [atLine.cycle_run word.symm, branch_of_unread unread]
    rfl

theorem follow_of_missing (missing : line.tokens[1]? = none) :
    machine.follow line = .error (Fault.about .missingOperand line.command) := by
  rw [follow, Line.wordOperand, Line.operand, missing]
  rfl

theorem follow_of_token {token : String} (given : line.tokens[1]? = some token) :
    machine.follow line =
      (Integer.read token >>= fun number => .ok (.silent (machine.goto number))) := by
  rw [follow, Line.wordOperand, Line.operand, given]
  rfl

/-! ## Where a jump lands -/

/-- The next cycle of a machine is that of the line with a number, if there is such a
line.  Behind the last line the program has stopped, and in front of the first line the
cycle fails and names the line. -/
structure Lands (machine : Machine) (number : Int) : Prop where
  inside : ∀ log, 1 ≤ number → number ≤ machine.program.size →
    ∃ (address : Nat) (line : Line), number = address + 1 ∧
      machine.program.line? address = some line ∧
      (∀ texts, Program.empty.enterAll texts = .ok machine.program →
        texts[address]?.map Line.ofString = some line) ∧
      cycle.run ⟨machine, log⟩ =
        (Work.located (address + 1) (Cycle.line address line)).run ⟨machine, log⟩
  behind : ∀ log, machine.program.size < number →
    cycle.run ⟨machine, log⟩ = .ok (some .stopped) ⟨machine, log⟩
  before : ∀ log, number ≤ 0 →
    cycle.run ⟨machine, log⟩ =
      .error ⟨.undefinedLine, none, toString number⟩ ⟨machine, log⟩

theorem cycle_run_inside (located : machine.counter = address)
    (found : machine.program.line? address = some line) (log : Array Entry) :
    cycle.run ⟨machine, log⟩ =
      (Work.located (address + 1) (Cycle.line address line)).run ⟨machine, log⟩ := by
  obtain ⟨inside, _⟩ := Array.getElem?_eq_some_iff.mp found
  have fetched : (Cycle.fetch address).run ⟨machine, log⟩ =
      (Cycle.line address line).run ⟨machine, log⟩ := by
    simp only [Cycle.fetch, Work.machine_bind_run, found]
  have unended : ¬ machine.program.size ≤ address := Nat.not_le.mpr inside
  unfold cycle
  rw [Work.machine_bind_run]
  dsimp only
  rw [located]
  change (if machine.program.size ≤ address then _ else
    Work.located (address + 1) (Cycle.fetch address)).run ⟨machine, log⟩ = _
  rw [if_neg unended]
  unfold Work.located
  simp only [EStateM.run] at fetched ⊢
  rw [fetched]

theorem step_of_negative (negative : machine.counter < 0) :
    machine.step = .error (Fault.about .undefinedLine (toString (machine.counter + 1))) := by
  unfold step
  split
  · rfl
  · next address located =>
      rw [located] at negative
      exact absurd negative (Int.not_lt.mpr (Int.natCast_nonneg address))

theorem lands_of_counter (running : machine.phase = .running) {number : Int}
    (located : machine.counter = number - 1) : machine.Lands number where
  inside log positive bounded := by
    obtain ⟨address, same⟩ := Int.eq_ofNat_of_zero_le (show 0 ≤ number - 1 by omega)
    have inside : address < machine.program.lines.size := by
      change number ≤ machine.program.lines.size at bounded
      omega
    have found : machine.program.line? address = some machine.program.lines[address] :=
      Array.getElem?_eq_getElem inside
    refine ⟨address, _, by omega, found, ?_, cycle_run_inside (located.trans same) found log⟩
    intro texts accepted
    rw [← Program.line?_of_enterAll accepted, found]
  behind log beyond := by
    obtain ⟨address, same⟩ := Int.eq_ofNat_of_zero_le (show 0 ≤ number - 1 by omega)
    have absent : machine.program.line? address = none := by
      apply Array.getElem?_eq_none
      change (machine.program.lines.size : Int) < number at beyond
      omega
    rw [cycle_eq_step, step_at (located.trans same), absent]
    dsimp only
    rw [if_neg (by rw [running]; nofun)]
    rfl
  before log low := by
    have named : machine.counter + 1 = number := by omega
    rw [cycle_eq_step, step_of_negative (show machine.counter < 0 by omega), named]
    rfl

/-- Jumps lead to the lines that they name.  A conditional jump needs a number in the
accumulator, whatever its target is, and goes on to the following line if its condition is
not met.  A jump that is taken needs a number as its first operand, which is read as it is
written.  Then nothing but the counter changes, and the next cycle is that of the line
with this number. -/
theorem jump_lands (atLine : machine.AtLine address line) (jumping : line.command ∈ jumpWords)
    (log : Array Entry) :
    (line.command ≠ "jmp" →
      (∀ fault, Integer.read machine.accumulator = .error fault →
        cycle.run ⟨machine, log⟩ = .error (fault.atLine (address + 1)) ⟨machine, log⟩) ∧
      ∀ value, Integer.read machine.accumulator = .ok value → ¬ machine.Taken line.command →
        cycle.run ⟨machine, log⟩ =
          .ok none ⟨{ machine with counter := machine.counter + 1 }, log⟩) ∧
    (machine.Taken line.command →
      (line.tokens[1]? = none →
        cycle.run ⟨machine, log⟩ =
          .error ⟨.missingOperand, some (address + 1), line.command⟩ ⟨machine, log⟩) ∧
      ∀ token, line.tokens[1]? = some token →
        (∀ fault, Integer.read token = .error fault →
          cycle.run ⟨machine, log⟩ = .error (fault.atLine (address + 1)) ⟨machine, log⟩) ∧
        ∀ number, Integer.read token = .ok number →
          cycle.run ⟨machine, log⟩ =
              .ok none ⟨{ machine with counter := number.toInt - 1 }, log⟩ ∧
            ({ machine with counter := number.toInt - 1 } : Machine).Lands number.toInt) := by
  constructor
  · intro conditional
    constructor
    · intro fault unread
      exact atLine.cycle_run_of_unread jumping conditional unread log
    · intro value read untaken
      exact atLine.cycle_run_of_untaken jumping read untaken log
  · intro taken
    have followed := atLine.cycle_run_of_taken jumping taken log
    constructor
    · intro missing
      rw [followed, follow_of_missing missing]
      rfl
    · intro token given
      rw [follow_of_token given] at followed
      constructor
      · intro fault unread
        rw [followed, unread]
        rfl
      · intro number read
        have stillRunning : (machine.goto number).phase = .running := atLine.running
        rw [followed, read]
        exact ⟨Bench.take_silent _ _, lands_of_counter stillRunning rfl⟩

/-- A program that passes a jump without a proper target, jumps to a comment and then far
in front of its first line. -/
def leaping : Program :=
  ⟨#[⟨["begin"]⟩, ⟨["ld", "5"]⟩, ⟨["jaz", "x"]⟩, ⟨["jap", "+6"]⟩, ⟨["end"]⟩, ⟨["#"]⟩,
    ⟨["jmp", "-2147483648"]⟩]⟩

def leapingAfter (cycles : Nat) : Machine :=
  ((new.load leaping).execute cycles).machine

theorem jump_lands_leaping :
    ((leapingAfter 2).AtLine 2 ⟨["jaz", "x"]⟩ ∧
      cycle.run ⟨leapingAfter 2, #[]⟩ =
        .ok none ⟨{ leapingAfter 2 with counter := 3 }, #[]⟩) ∧
    ((leapingAfter 3).AtLine 3 ⟨["jap", "+6"]⟩ ∧
      cycle.run ⟨leapingAfter 3, #[]⟩ =
        .ok none ⟨{ leapingAfter 3 with counter := 5 }, #[]⟩ ∧
      ({ leapingAfter 3 with counter := 5 } : Machine).Lands 6) ∧
    (leapingAfter 5).AtLine 6 ⟨["jmp", "-2147483648"]⟩ ∧
      cycle.run ⟨leapingAfter 5, #[]⟩ =
        .ok none ⟨{ leapingAfter 5 with counter := -2147483649 }, #[]⟩ ∧
      cycle.run ⟨{ leapingAfter 5 with counter := -2147483649 }, #[]⟩ =
        .error ⟨.undefinedLine, none, "-2147483648"⟩
          ⟨{ leapingAfter 5 with counter := -2147483649 }, #[]⟩ := by
  have atPassed : (leapingAfter 2).AtLine 2 ⟨["jaz", "x"]⟩ := ⟨rfl, rfl, rfl⟩
  have atTaken : (leapingAfter 3).AtLine 3 ⟨["jap", "+6"]⟩ := ⟨rfl, rfl, rfl⟩
  have atLast : (leapingAfter 5).AtLine 6 ⟨["jmp", "-2147483648"]⟩ := ⟨rfl, rfl, rfl⟩
  have untaken : ¬ (leapingAfter 2).Taken "jaz" := by
    intro taken
    obtain ⟨value, read, met⟩ := (@taken_branch_iff _ .zero).mp taken
    cases read
    cases met
  have taken : (leapingAfter 3).Taken "jap" :=
    Or.inr ⟨5, rfl, Or.inr (Or.inl ⟨rfl, by decide⟩)⟩
  obtain ⟨passing, _⟩ := jump_lands atPassed (by decide) #[]
  obtain ⟨_, taking⟩ := jump_lands atTaken (by decide) #[]
  obtain ⟨_, leaving⟩ := jump_lands atLast (by decide) #[]
  obtain ⟨left, lands⟩ := ((leaving (Or.inl rfl)).2 _ rfl).2 _ rfl
  exact ⟨⟨atPassed, (passing (by decide)).2 5 rfl untaken⟩,
    ⟨atTaken, ((taking taken).2 _ rfl).2 _ rfl⟩, atLast, left, lands.before #[] (by decide)⟩

end Machine

end AccumulatorMachine
