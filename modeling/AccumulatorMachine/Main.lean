import AccumulatorMachine.CommandLine
import AccumulatorMachine.Session

/-!
# The command line

With a file name the file is run; without one a session is held on standard
input.  Everything here is input and output: a run is shown slice by slice while
it goes on.
-/

namespace AccumulatorMachine.Console

/-- Look up a file. -/
def readFile (name : String) : IO SourceFile := do
  try
    return .content (← IO.FS.readBinFile name)
  catch
  | .noFileOrDirectory .. => return .missing
  | .inappropriateType _ 21 _ => return .directory
  | error => return .unreadable (toString error)

/-- Write log entries. -/
def write (log : Array Entry) : IO Unit := do
  let stdout ← IO.getStdout
  for entry in log do
    stdout.putStr (entry.console Painter.ansi)
  stdout.flush

/-- Run a machine to the end of its program, writing each slice as it ends. -/
partial def run (machine : Machine) : IO Outcome := do
  let outcome := machine.execute Machine.sliceCycles
  write outcome.log
  match outcome.result with
  | .ok .running => run outcome.machine
  | _ => return outcome

/-- Run a file. -/
def runFile (name : String) : IO UInt32 := do
  let outcome ← match (← readFile name).program name with
    | .error fault => do
        let outcome := Outcome.failed Machine.new #[] fault
        write outcome.log
        pure outcome
    | .ok program => run (Machine.new.load program)
  let closing := CommandLine.closing outcome.result
  IO.print closing.stdout
  return closing.exitCode.toUInt32

/-- Hold a session until its input ends or the program halts.  No key is listened to,
so the flag of the session stays down. -/
partial def converse (session : Session) : IO Unit := do
  IO.print Session.prompt
  (← IO.getStdout).flush
  let typed ← (← IO.getStdin).getLine
  if typed.isEmpty then
    return
  match (Machine.enterM (String.ofList (Text.dropEnding typed.toList))).run session.machine with
  | .error fault machine =>
      write #[.fault fault]
      converse { session with machine }
  | .ok _ entered =>
      let reply := Session.conclude ((← run entered).listened false)
      if reply.event = some (.ended .halted) then
        IO.print CommandLine.farewell
      else
        converse reply.session

end AccumulatorMachine.Console

/-- Run the file that is named first, or hold a session. -/
def main (arguments : List String) : IO UInt32 :=
  match arguments with
  | name :: _ => AccumulatorMachine.Console.runFile name
  | [] => do
      IO.print AccumulatorMachine.Session.greeting
      AccumulatorMachine.Console.converse AccumulatorMachine.Session.new
      return 0
