/-!
# Faults

Everything that can stop a program, refuse a line or prevent a load is a
fault: a kind, at most one source line, and a detail that may be empty.  The
wording of all faults is in this module and nowhere else.
-/

namespace AccumulatorMachine

/-- The kinds of fault. -/
inductive Fault.Kind where
  | noBegin
  | missingOperand
  | badAddress
  | duplicateDefinition
  | undefinedProcedure
  | duplicateProcedure
  | returnWithoutCall
  | typeMismatch
  | overflow
  | flagOutOfRange
  | undefinedLine
  | outOfMemory
  | lineBufferOverflow
  | interrupted
  | fileNotFound
  | internalError
  deriving DecidableEq, Repr, Inhabited

namespace Fault.Kind

/-- The number under which a kind is documented. -/
def number : Kind → Nat
  | noBegin => 1
  | missingOperand => 2
  | badAddress => 3
  | duplicateDefinition => 4
  | undefinedProcedure => 5
  | duplicateProcedure => 6
  | returnWithoutCall => 7
  | typeMismatch => 8
  | overflow => 9
  | flagOutOfRange => 10
  | undefinedLine => 11
  | outOfMemory => 12
  | lineBufferOverflow => 13
  | interrupted => 14
  | internalError => 51
  | fileNotFound => 53

/-- The words that open the text of a fault. -/
def title : Kind → String
  | noBegin => "NO BEGIN"
  | missingOperand => "MISSING OPERAND"
  | badAddress => "BAD ADDRESS"
  | duplicateDefinition => "DUPLICATE DEFINITION"
  | undefinedProcedure => "UNDEFINED PROCEDURE"
  | duplicateProcedure => "DUPLICATE PROCEDURE"
  | returnWithoutCall => "ENDPROC WITHOUT PROC"
  | typeMismatch => "TYPE MISMATCH"
  | overflow => "OVERFLOW"
  | flagOutOfRange => "FLAG OUT OF RANGE"
  | undefinedLine => "UNDEFINED LINE"
  | outOfMemory => "OUT OF MEMORY"
  | lineBufferOverflow => "LINE BUFFER OVERFLOW"
  | interrupted => "BREAK"
  | fileNotFound => "FILE NOT FOUND"
  | internalError => "INTERNAL ERROR"

end Fault.Kind

/-- A fault of some kind, with the source line it belongs to if that is known,
and the text it is about if there is any. -/
structure Fault where
  kind : Fault.Kind
  line : Option Nat := none
  detail : String := ""
  deriving DecidableEq, Repr, Inhabited

namespace Fault

/-- A fault with nothing attached. -/
def of (kind : Kind) : Fault :=
  ⟨kind, none, ""⟩

/-- A fault about a piece of text. -/
def about (kind : Kind) (detail : String) : Fault :=
  ⟨kind, none, detail⟩

/-- Attach a source line, counted from one.  A fault that already knows its
line keeps it. -/
def atLine (fault : Fault) (number : Nat) : Fault :=
  { fault with line := fault.line.or (some number) }

/-- The part of the text that names the source line. -/
def linePart (fault : Fault) : String :=
  match fault.line with
  | some number => " IN " ++ toString number
  | none => ""

/-- The part of the text that names the detail. -/
def detailPart (fault : Fault) : String :=
  if fault.detail = "" then "" else "; " ++ fault.detail

/-- The text of a fault, such as `TYPE MISMATCH IN 12; "abc"`. -/
def text (fault : Fault) : String :=
  fault.kind.title ++ fault.linePart ++ fault.detailPart

/-- The text of a fault in braces, for listings that show values. -/
def braced (fault : Fault) : String :=
  "Error \x7b " ++ fault.text ++ " \x7d"

instance : ToString Fault := ⟨text⟩

@[simp]
theorem kind_atLine (fault : Fault) (number : Nat) :
    (fault.atLine number).kind = fault.kind := rfl

@[simp]
theorem detail_atLine (fault : Fault) (number : Nat) :
    (fault.atLine number).detail = fault.detail := rfl

/-- Only the first line number that is attached counts. -/
@[simp]
theorem atLine_atLine (fault : Fault) (first second : Nat) :
    (fault.atLine first).atLine second = fault.atLine first := by
  obtain ⟨kind, line, detail⟩ := fault
  cases line <;> rfl

end Fault

/-! ## Computations that may fail -/

section

variable {α β γ : Type}

@[simp]
theorem ok_bind (value : α) (next : α → Except Fault β) :
    ((.ok value : Except Fault α) >>= next) = next value := rfl

theorem bind_eq_ok_iff {first : Except Fault α} {next : α → Except Fault β} {value : β} :
    (first >>= next) = .ok value ↔
      ∃ middle, first = .ok middle ∧ next middle = .ok value := by
  cases first with
  | error fault =>
      constructor
      · intro impossible
        cases impossible
      · rintro ⟨middle, impossible, _⟩
        cases impossible
  | ok middle =>
      constructor
      · intro done
        exact ⟨middle, rfl, done⟩
      · rintro ⟨_, same, done⟩
        cases same
        exact done

/-- A change of the result can be made after each way of going on. -/
theorem bind_eq_map_bind {first : Except Fault α} {next : α → Except Fault β}
    {changed : α → Except Fault γ} {change : β → γ}
    (same : ∀ value, changed value = (next value).map change) :
    (first >>= changed) = (first >>= next).map change := by
  cases first with
  | error fault => rfl
  | ok value => exact same value

end

end AccumulatorMachine
