import AccumulatorMachine.Machine.Run

/-!
# Running a file

The text that running a file writes to the console, and the exit code.  Faults
are written in bold letters, by a painter that the console brings along.
-/

namespace AccumulatorMachine

/-- What is found under a file name. -/
inductive SourceFile where
  | missing
  | directory
  | unreadable (reason : String)
  | content (bytes : ByteArray)

namespace SourceFile

/-- The program in a file with a given name. -/
def program (name : String) : SourceFile → Except Fault Program
  | missing => .error (Fault.about .fileNotFound name)
  | directory => .error (Fault.about .internalError "Is a directory (os error 21)")
  | unreadable reason => .error (Fault.about .internalError reason)
  | content bytes =>
      match String.fromUTF8? bytes with
      | some source => Program.ofSource source
      | none => .error (Fault.about .internalError "stream did not contain valid UTF-8")

end SourceFile

/-- What a console writes for a text in bold letters. -/
abbrev Painter := String → String

/-- The painter of a terminal that understands escape sequences. -/
def Painter.ansi : Painter := fun s => "\x1b[1m" ++ s ++ "\x1b[0m"

/-- A log entry on the console, ended by a line feed. -/
def Entry.console (paint : Painter) : Entry → String
  | output text => text ++ "\n"
  | fault cause => paint cause.text ++ "\n"

namespace CommandLine

/-- The words that follow a run without a fault. -/
def farewell : String := "Reached end of program.\n"

/-- What a command writes to the console, and its exit code. -/
structure Result where
  stdout : String
  exitCode : Nat
  deriving DecidableEq, Repr

/-- What is left to write when all of the log has been written. -/
def closing : Except Fault Event → Result
  | .ok _ => ⟨farewell, 0⟩
  | .error _ => ⟨"", 1⟩

/-- The log on the console. -/
def console (paint : Painter) (log : Array Entry) : String :=
  String.join (log.toList.map (Entry.console paint))

/-- A finished run on the console. -/
def ofOutcome (paint : Painter) (outcome : Outcome) : Result :=
  let last := closing outcome.result
  { last with stdout := console paint outcome.log ++ last.stdout }

/-- Run a file with a bound on the slices. -/
def runFile (paint : Painter) (name : String) (file : SourceFile) (bound : Nat) : Result :=
  match file.program name with
  | .error fault => ofOutcome paint (.failed Machine.new #[] fault)
  | .ok program => ofOutcome paint ((Machine.new.load program).run bound)

end CommandLine

end AccumulatorMachine
