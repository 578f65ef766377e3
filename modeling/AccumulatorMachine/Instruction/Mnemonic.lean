import AccumulatorMachine.Arithmetic

/-!
# The command table

Twenty-one command words, each with one line of explanation.  The table is
ordered, and that order is shown to the user.
-/

namespace AccumulatorMachine

/-- What a conditional jump asks of the accumulator. -/
inductive Condition where
  | zero
  | positive
  | negative
  deriving DecidableEq, Repr, Inhabited

/-- Whether a word meets a condition. -/
def Condition.holds : Condition → Int32 → Bool
  | zero, word => decide (word = 0)
  | positive, word => decide (0 < word)
  | negative, word => decide (word < 0)

/-- The commands of the language. -/
inductive Mnemonic where
  | beginModule
  | endModule
  | define
  | load
  | save
  | arith (op : ArithOp)
  | setFlag
  | resetFlag
  | call
  | endProcedure
  | jump
  | branch (condition : Condition)
  | dump
  | print
  | help
  deriving DecidableEq, Repr, Inhabited

namespace Mnemonic

/-- All commands in table order. -/
def all : List Mnemonic :=
  [beginModule, endModule, define, load, save,
    arith .add, arith .sub, arith .mul, arith .div,
    setFlag, resetFlag, call, endProcedure, arith .cmp, jump,
    branch .zero, branch .positive, branch .negative,
    dump, print, help]

/-- The word that stands for a command in a source line. -/
def word : Mnemonic → String
  | beginModule => "begin"
  | endModule => "end"
  | define => "def"
  | load => "ld"
  | save => "sav"
  | arith .add => "add"
  | arith .sub => "sub"
  | arith .mul => "mul"
  | arith .div => "div"
  | arith .cmp => "cmp"
  | setFlag => "setf"
  | resetFlag => "rstf"
  | call => "proc"
  | endProcedure => "endproc"
  | jump => "jmp"
  | branch .zero => "jaz"
  | branch .positive => "jap"
  | branch .negative => "jan"
  | dump => "dump"
  | print => "print"
  | help => "help"

/-- The explanation shown by the `help` command. -/
def description : Mnemonic → String
  | beginModule => "Denotes the start of the module."
  | endModule => "Denotes the end of the module."
  | define => "Defines an alias to a memory address."
  | load => "Loads a value into accumulator."
  | save => "Stores accumulated data into a memory address."
  | arith .add => "Adds a number to accumulator."
  | arith .sub => "Subtracts a number from accumulator."
  | arith .mul => "Multiplies a number to accumulator."
  | arith .div => "Divides the accumulator by a given non-zero number."
  | arith .cmp => "Returns the sign of the difference between ACC and the given value."
  | setFlag => "Sets a specified flag."
  | resetFlag => "Resets a specified flag."
  | call =>
      "Calls a previously declared procedure. Create procedure with procdef <proc name>"
  | endProcedure => "Returns control to parent procedure."
  | jump => "Jumps program control to the given line."
  | branch .zero => "Jumps to the given line if ACC is zero."
  | branch .positive => "Jumps to the given line if ACC is positive."
  | branch .negative => "Jumps to the given line if ACC is negative."
  | dump => "Provides a dump of the current state of memory."
  | print => "Logs accumulator value to the terminal."
  | help => "Prints a list of available commands to the terminal."

/-- The position of a command in the table. -/
def index (mnemonic : Mnemonic) : Nat :=
  all.idxOf mnemonic

/-- The command with a given word; capital letters matter. -/
def ofWord? (s : String) : Option Mnemonic :=
  all.find? fun mnemonic => mnemonic.word == s

/-- A row of the table: the word, a tab and the explanation. -/
def row (mnemonic : Mnemonic) : String :=
  mnemonic.word ++ "\t" ++ mnemonic.description

/-- Every command has its row. -/
theorem mem_all (mnemonic : Mnemonic) : mnemonic ∈ all := by
  cases mnemonic with
  | arith op => cases op <;> decide
  | branch condition => cases condition <;> decide
  | _ => decide

theorem word_injective {first second : Mnemonic}
    (same : first.word = second.word) : first = second := by
  have decided :
      ∀ left ∈ all, ∀ right ∈ all, left.word = right.word → left = right := by
    decide
  exact decided first (mem_all first) second (mem_all second) same

/-- A word is looked up as the command that it stands for. -/
theorem ofWord?_eq_some_iff {s : String} {mnemonic : Mnemonic} :
    ofWord? s = some mnemonic ↔ mnemonic.word = s := by
  constructor
  · intro found
    simpa using List.find?_some found
  · intro named
    cases found : ofWord? s with
    | none =>
        have absent := List.find?_eq_none.mp found mnemonic (mem_all mnemonic)
        simp [named] at absent
    | some other =>
        have otherNamed : other.word = s := by
          simpa using List.find?_some found
        rw [word_injective (otherNamed.trans named.symm)]

theorem index_eq_zero_iff {mnemonic : Mnemonic} :
    mnemonic.index = 0 ↔ mnemonic = .beginModule := by
  have decided :
      ∀ candidate ∈ all, candidate.index = 0 ↔ candidate = .beginModule := by
    decide
  exact decided mnemonic (mem_all mnemonic)

end Mnemonic

end AccumulatorMachine
