import AccumulatorMachine.Instruction.Mnemonic
import AccumulatorMachine.Machine.Basic

/-!
# What a machine writes

The lines that commands write to the log.
-/

namespace AccumulatorMachine

namespace Cell

/-- A cell in a dump. -/
def text (cell : Cell) : String :=
  "&" ++ wordText cell.address ++ " " ++ quoted cell.name ++ " : " ++ cell.value

end Cell

namespace Report

/-- A flag in a dump. -/
def flagLine (entry : Flag × Bool) : String :=
  entry.1.name ++ " : " ++ (if entry.2 then "true" else "false")

/-- The accumulator, as the `print` command shows it. -/
def accumulatorLine (machine : Machine) : String :=
  "ACC : " ++ quoted machine.accumulator

/-- A command that could not give a value. -/
def statusLine (mnemonic : Mnemonic) (code : Nat) : String :=
  "Command " ++ quoted mnemonic.word ++ " returned error code " ++
    quoted (toString code) ++ "."

/-- A command word that is not in the table. -/
def unidentifiedLine (number : Nat) (word : String) : String :=
  "UNIDENTIFIED TOKEN ON LINE " ++ toString number ++ ": " ++ quoted word

/-- The memory of a machine, as the `dump` command shows it. -/
def dumpLines (machine : Machine) : List String :=
  ["----- DUMP -----",
    "ACC   : " ++ machine.accumulator,
    "PC    : " ++ toString machine.counter,
    "DATA  : "] ++
  machine.cells.toList.map Cell.text ++
  ["FLAGS : "] ++
  machine.flags.entries.map flagLine ++
  ["--- END-DUMP ---"]

/-- The command table, as the `help` command shows it. -/
def helpLines : List String :=
  ["-----------",
    "LIST OF COMMANDS",
    "Count: " ++ toString Mnemonic.all.length] ++
  Mnemonic.all.map Mnemonic.row ++
  ["-----------"]

end Report

end AccumulatorMachine
