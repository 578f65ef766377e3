import AccumulatorMachine.Machine.Step

/-!
# Faults and their lines

Everything below the level of a step fails in an ordinary way, without knowing
its line: no computation on texts, stores or instructions attaches a number to
its fault, and none of them has an internal fault.  The number is attached once,
by the step that the fault breaks off, and is therefore the number of the line at
the counter.  What a fault is about is a text that the machine or the line holds,
or a word that belongs to the machine.
-/

namespace AccumulatorMachine

/-- The texts that a fault of a machine at a line can be about. -/
inductive Machine.Subject (machine : Machine) (line : Line) : String → Prop
  | nothing : Subject machine line ""
  | callStack : Subject machine line "CALL STACK"
  | mnemonic (mnemonic : Mnemonic) : Subject machine line mnemonic.word
  | flag (index : Int32) : Subject machine line (wordText index)
  | command : Subject machine line line.command
  | operand {token : String} : token ∈ line.tokens → Subject machine line token
  | operands : Subject machine line (String.join (line.tokens.drop 2))
  | number {token : String} : token ∈ line.tokens → Subject machine line (quoted token)
  | value {token : String} :
      token ∈ line.tokens → Subject machine line (quoted (machine.resolve token))
  | accumulator : Subject machine line (quoted machine.accumulator)

variable {α β : Type} {about : String → Prop}

/-- A result whose fault, if there is one, has no line, is not an internal one and is
about a text of some sort. -/
def Ordinary (about : String → Prop) (result : Except Fault α) : Prop :=
  ∀ fault, result = .error fault →
    fault.line = none ∧ fault.kind ≠ .internalError ∧ about fault.detail

namespace Ordinary

theorem ok (value : α) : Ordinary about (.ok value : Except Fault α) := by
  intro fault impossible
  cases impossible

theorem error {kind : Fault.Kind} {detail : String} (external : kind ≠ .internalError)
    (subject : about detail) :
    Ordinary about (.error (Fault.about kind detail) : Except Fault α) := by
  intro fault same
  cases same
  exact ⟨rfl, external, subject⟩

theorem bind {first : Except Fault α} {next : α → Except Fault β}
    (firstOrdinary : Ordinary about first)
    (nextOrdinary : ∀ value, first = .ok value → Ordinary about (next value)) :
    Ordinary about (first >>= next) := by
  cases first with
  | error fault =>
      intro other same
      cases same
      exact firstOrdinary fault rfl
  | ok value => exact nextOrdinary value rfl

theorem ite {condition : Prop} [Decidable condition] {first second : Except Fault α}
    (firstOrdinary : Ordinary about first) (secondOrdinary : Ordinary about second) :
    Ordinary about (if condition then first else second) := by
  split
  · exact firstOrdinary
  · exact secondOrdinary

theorem map {first : Except Fault α} {change : α → β}
    (firstOrdinary : Ordinary about first) :
    Ordinary about (first >>= fun value => pure (change value)) :=
  firstOrdinary.bind fun value _ => ok (change value)

end Ordinary

/-! ## Operands -/

/-- A text that cannot be read as a word has the wrong characters or too large a
value. -/
theorem Integer.kind_of_readSigned {digits : List Char} {kind : Fault.Kind}
    (failed : readSigned digits = .error kind) :
    kind = .typeMismatch ∨ kind = .overflow := by
  have ofDigits {negative : Bool} {value : Int} {rest : List Char}
      (unread : readDigits negative value rest = .error kind) :
      kind = .typeMismatch ∨ kind = .overflow := by
    fun_induction readDigits negative value rest with
    | case1 => cases unread
    | case2 _ _ _ _ _ _ _ inductionHypothesis => exact inductionHypothesis unread
    | case3 => exact Or.inr (Except.error.inj unread).symm
    | case4 => exact Or.inl (Except.error.inj unread).symm
  have ofMagnitude {negative : Bool} {rest : List Char}
      (unread : readMagnitude negative rest = .error kind) :
      kind = .typeMismatch ∨ kind = .overflow := by
    unfold readMagnitude at unread
    split at unread
    · exact Or.inl (Except.error.inj unread).symm
    · exact ofDigits unread
  unfold readSigned at failed
  split at failed <;> exact ofMagnitude failed

theorem ordinary_integerRead {s : String} (subject : about (quoted s)) :
    Ordinary about (Integer.read s) := by
  unfold Integer.read
  split
  · exact Ordinary.ok _
  · next kind failed =>
      refine Ordinary.error ?_ subject
      rcases Integer.kind_of_readSigned failed with rfl | rfl
      · nofun
      · nofun

theorem ordinary_addressRead {s : String} (subject : about s) :
    Ordinary about (Address.read s) := by
  unfold Address.read
  split
  · exact Ordinary.error nofun subject
  · exact (Ordinary.ok _).ite (Ordinary.error nofun subject)

theorem ordinary_flagOfIndex {index : Int32} (subject : about (wordText index)) :
    Ordinary about (Flag.ofIndex index) :=
  (Ordinary.ok _).ite (Ordinary.error nofun subject)

theorem ordinary_quotient (lhs rhs : Int32) (subject : about "") :
    Ordinary about (ArithOp.quotient lhs rhs) :=
  (Ordinary.error (by nofun) subject).ite (Ordinary.ok _)

theorem ordinary_arith (op : ArithOp) {lhs rhs : String} (nothing : about "")
    (left : about (quoted lhs)) (right : about (quoted rhs)) :
    Ordinary about (op.apply lhs rhs) := by
  have readBoth (combine : Int32 → Int32 → Option String) :
      Ordinary about (do
        let l ← Integer.read lhs
        let r ← Integer.read rhs
        return combine l r) :=
    (ordinary_integerRead left).bind fun l _ => (ordinary_integerRead right).map
  cases op with
  | add => exact readBoth fun l r => some (wordText (l + r))
  | sub => exact readBoth fun l r => some (wordText (l - r))
  | mul => exact readBoth fun l r => some (wordText (l * r))
  | cmp => exact readBoth fun l r => some (wordText (ArithOp.sign l r))
  | div =>
      refine (ordinary_integerRead right).bind fun r _ => (Ordinary.ok none).ite ?_
      exact (ordinary_integerRead left).bind fun l _ => (ordinary_quotient l r nothing).map

namespace Line

variable {line : Line}

theorem mem_of_operand {index : Nat} {token : String} (read : line.operand index = .ok token) :
    token ∈ line.tokens := by
  unfold operand at read
  split at read
  · next found =>
      cases read
      exact List.mem_of_getElem? found
  · cases read

theorem eq_of_operandsJoined {index : Nat} {joined : String}
    (read : line.operandsJoined index = .ok joined) :
    joined = String.join (line.tokens.drop index) := by
  unfold operandsJoined at read
  split at read
  · cases read
    rfl
  · cases read

end Line

/-- The operands of an instruction that are kept as they are written. -/
def Instruction.operands : Instruction → List String
  | define name _ => [name]
  | load operand => [operand]
  | save name => [name]
  | arith _ operand => [operand]
  | call name => [name]
  | branch _ target => target.toList
  | beginModule | endModule | setFlag _ | resetFlag _ | endProcedure | jump _ | dump | print
  | help => []

theorem Mnemonic.operands_of_decode {mnemonic : Mnemonic} {line : Line}
    {instruction : Instruction} (decoded : mnemonic.decode line = .ok instruction) :
    ∀ token ∈ instruction.operands, token ∈ line.tokens := by
  intro token member
  cases mnemonic with
  | define =>
      obtain ⟨name, read, rest⟩ := bind_eq_ok_iff.mp decoded
      obtain ⟨joined, _, rest⟩ := bind_eq_ok_iff.mp rest
      obtain ⟨address, _, rest⟩ := bind_eq_ok_iff.mp rest
      cases rest
      rw [List.mem_singleton.mp member]
      exact Line.mem_of_operand read
  | load | save | arith | call =>
      obtain ⟨operand, read, rest⟩ := bind_eq_ok_iff.mp decoded
      cases rest
      rw [List.mem_singleton.mp member]
      exact Line.mem_of_operand read
  | branch condition =>
      cases decoded
      exact List.mem_of_getElem? (Option.mem_toList.mp member)
  | setFlag | resetFlag | jump =>
      obtain ⟨operand, _, rest⟩ := bind_eq_ok_iff.mp decoded
      cases rest
      cases member
  | _ =>
      cases decoded
      cases member

/-! ## Stores -/

theorem ordinary_cellsBind (cells : Cells) (address : Int32) {name : String}
    (subject : about name) : Ordinary about (cells.bind address name) := by
  rw [Cells.bind_eq]
  exact (Ordinary.error (by nofun) subject).ite (Ordinary.ok _)

theorem ordinary_register (procedures : Procedures) {name : String} (entry : Nat)
    (subject : about name) : Ordinary about (procedures.register name entry) := by
  rw [Procedures.register_eq]
  exact (Ordinary.error (by nofun) subject).ite (Ordinary.ok _)

theorem ordinary_entry (procedures : Procedures) {name : String} (subject : about name) :
    Ordinary about (procedures.entry name) := by
  unfold Procedures.entry
  split
  · exact Ordinary.ok _
  · exact Ordinary.error nofun subject

theorem ordinary_push (calls : CallStack) (caller : Int) (subject : about "CALL STACK") :
    Ordinary about (calls.push caller) := by
  rw [BoundedStack.push_eq]
  exact (Ordinary.error (by nofun) subject).ite (Ordinary.ok _)

theorem ordinary_pop (calls : CallStack) (subject : about "") : Ordinary about calls.pop := by
  obtain ⟨items, depth, depth_eq⟩ := calls
  cases items with
  | nil => exact Ordinary.error nofun subject
  | cons caller items => exact Ordinary.ok _

/-! ## Steps -/

namespace Machine

variable (machine : Machine) (line : Line)

theorem ordinary_operand (index : Nat) :
    Ordinary (machine.Subject line) (line.operand index) := by
  unfold Line.operand
  split
  · exact Ordinary.ok _
  · exact Ordinary.error nofun .command

theorem ordinary_operandsJoined (index : Nat) :
    Ordinary (machine.Subject line) (line.operandsJoined index) :=
  (Ordinary.ok _).ite (Ordinary.error nofun .command)

theorem ordinary_wordOperand : Ordinary (machine.Subject line) line.wordOperand :=
  (machine.ordinary_operand line 1).bind fun _ read =>
    ordinary_integerRead (.number (Line.mem_of_operand read))

theorem ordinary_flagOperand : Ordinary (machine.Subject line) line.flagOperand :=
  (machine.ordinary_wordOperand line).bind fun index _ => ordinary_flagOfIndex (.flag index)

theorem ordinary_decode (mnemonic : Mnemonic) :
    Ordinary (machine.Subject line) (mnemonic.decode line) := by
  have operand := machine.ordinary_operand line 1
  cases mnemonic with
  | define =>
      refine operand.bind fun name _ =>
        (machine.ordinary_operandsJoined line 2).bind fun joined read => ?_
      rw [Line.eq_of_operandsJoined read]
      exact (ordinary_addressRead .operands).map
  | load => exact operand.map
  | save => exact operand.map
  | arith op => exact operand.map
  | call => exact operand.map
  | setFlag => exact (machine.ordinary_flagOperand line).map
  | resetFlag => exact (machine.ordinary_flagOperand line).map
  | jump => exact (machine.ordinary_wordOperand line).map
  | _ => exact Ordinary.ok _

theorem ordinary_branch {condition : Condition} {target : Option String}
    (given : ∀ token ∈ target, token ∈ line.tokens) :
    Ordinary (machine.Subject line) (machine.branch condition target) := by
  refine (ordinary_integerRead .accumulator).bind fun value _ =>
    Ordinary.ite ?_ (Ordinary.ok _)
  cases target with
  | some token => exact (ordinary_integerRead (.number (given token rfl))).map
  | none => exact Ordinary.error nofun (.mnemonic _)

theorem ordinary_perform {instruction : Instruction}
    (given : ∀ token ∈ instruction.operands, token ∈ line.tokens) :
    Ordinary (machine.Subject line) (machine.perform instruction) := by
  cases instruction with
  | define name address =>
      exact (ordinary_cellsBind machine.cells address
        (.operand (given name List.mem_cons_self))).map
  | arith op operand =>
      refine (ordinary_arith op .nothing .accumulator
        (.value (given operand List.mem_cons_self))).bind fun value _ => ?_
      cases value with
      | some value => exact Ordinary.ok _
      | none => exact Ordinary.ok _
  | call name =>
      exact ((ordinary_entry machine.procedures (.operand (given name List.mem_cons_self))).bind
        fun entry _ => (ordinary_push machine.calls machine.counter .callStack).map).map
  | endProcedure =>
      exact (ordinary_pop machine.calls .nothing).map.map
  | branch condition target =>
      exact (machine.ordinary_branch line fun token known =>
        given token (Option.mem_toList.mpr known)).map
  | _ => exact Ordinary.ok _

theorem ordinary_runLine (address : Nat) (admitted : Mnemonic → Bool) :
    Ordinary (machine.Subject line) (machine.runLine address line admitted) := by
  unfold runLine
  split
  · exact Ordinary.ok _
  · next mnemonic _ =>
      refine Ordinary.ite ?_ (Ordinary.error nofun (.mnemonic mnemonic))
      exact (machine.ordinary_decode line mnemonic).bind fun _ decoded =>
        machine.ordinary_perform line (Mnemonic.operands_of_decode decoded)

theorem ordinary_openProcedure (address : Nat) :
    Ordinary (machine.Subject line) (machine.openProcedure address line) :=
  (machine.ordinary_operand line 1).bind fun _ read =>
    (ordinary_register machine.procedures address
      (.operand (Line.mem_of_operand read))).map

/-- A line fails with a fault that says what it is about and does not know where. -/
theorem ordinary_handleLine (address : Nat) :
    Ordinary (machine.Subject line) (machine.handleLine address line) := by
  unfold handleLine
  split
  · exact Ordinary.ok _
  · exact machine.ordinary_runLine line address _
  · exact (machine.ordinary_openProcedure line address).map.ite
      ((Ordinary.ok _).ite (machine.ordinary_runLine line address _))

/-- A step fails because of the line at the counter or because the counter is
negative. -/
theorem cause_of_step_eq_error {machine : Machine} {fault : Fault}
    (failed : machine.step = .error fault) :
    (∃ (address : Nat) (line : Line) (cause : Fault), machine.counter = address ∧
        machine.program.line? address = some line ∧
          machine.handleLine address line = .error cause ∧
            fault = cause.atLine (address + 1)) ∨
      (machine.counter < 0 ∧
        fault = Fault.about .undefinedLine (toString (machine.counter + 1))) := by
  unfold step at failed
  split at failed
  · next position negative =>
      cases failed
      exact Or.inr ⟨by rw [negative]; exact Int.negSucc_lt_zero _, rfl⟩
  · next address located =>
      split at failed
      · cases failed
      · next line found =>
          split at failed
          · cases failed
          · cases outcome : machine.handleLine address line with
            | ok transition =>
                rw [outcome] at failed
                cases failed
            | error cause =>
                rw [outcome] at failed
                cases failed
                exact Or.inl ⟨address, line, cause, located, found, outcome, rfl⟩

/-- A step fails in one of two ways: at a line of the program, whose number the
fault then carries, or with a negative counter, which the fault then names. -/
theorem step_eq_error {machine : Machine} {fault : Fault}
    (failed : machine.step = .error fault) :
    (∃ address : Nat, machine.counter = address ∧ address < machine.program.size ∧
        fault.line = some (address + 1)) ∨
      (machine.counter < 0 ∧
        fault = Fault.about .undefinedLine (toString (machine.counter + 1))) := by
  rcases cause_of_step_eq_error failed with
    ⟨address, line, cause, located, found, outcome, rfl⟩ | negative
  · obtain ⟨unnumbered, _⟩ := machine.ordinary_handleLine line address cause outcome
    obtain ⟨inside, _⟩ := Array.getElem?_eq_some_iff.mp found
    exact Or.inl ⟨address, located, inside, by simp [Fault.atLine, unnumbered]⟩
  · exact Or.inr negative

/-- No step has an internal fault. -/
theorem kind_of_step_eq_error {machine : Machine} {fault : Fault}
    (failed : machine.step = .error fault) : fault.kind ≠ .internalError := by
  rcases cause_of_step_eq_error failed with
    ⟨address, line, cause, _, _, outcome, rfl⟩ | ⟨_, rfl⟩
  · rw [Fault.kind_atLine]
    exact (machine.ordinary_handleLine line address cause outcome).2.1
  · nofun

end Machine

end AccumulatorMachine
