import AccumulatorMachine.Arithmetic
import AccumulatorMachine.CommandLine
import AccumulatorMachine.Fault
import AccumulatorMachine.Instruction.Address
import AccumulatorMachine.Instruction.Basic
import AccumulatorMachine.Instruction.Decode
import AccumulatorMachine.Instruction.Mnemonic
import AccumulatorMachine.Machine.Basic
import AccumulatorMachine.Machine.Cycle
import AccumulatorMachine.Machine.Report
import AccumulatorMachine.Machine.Run
import AccumulatorMachine.Machine.Step
import AccumulatorMachine.Main
import AccumulatorMachine.Proofs.AddressGrammar
import AccumulatorMachine.Proofs.CallDiscipline
import AccumulatorMachine.Proofs.CellHistory
import AccumulatorMachine.Proofs.Cells
import AccumulatorMachine.Proofs.Control
import AccumulatorMachine.Proofs.ControlInvariant
import AccumulatorMachine.Proofs.Counterparts
import AccumulatorMachine.Proofs.Cycle
import AccumulatorMachine.Proofs.DefinitionSpacing
import AccumulatorMachine.Proofs.DivisionComparison
import AccumulatorMachine.Proofs.Effects
import AccumulatorMachine.Proofs.Ending
import AccumulatorMachine.Proofs.FatalFaults
import AccumulatorMachine.Proofs.FaultText
import AccumulatorMachine.Proofs.Faults
import AccumulatorMachine.Proofs.IntegerText
import AccumulatorMachine.Proofs.Interruption
import AccumulatorMachine.Proofs.Jumps
import AccumulatorMachine.Proofs.Loading
import AccumulatorMachine.Proofs.Lockstep
import AccumulatorMachine.Proofs.Relabelling
import AccumulatorMachine.Proofs.Rendering
import AccumulatorMachine.Proofs.Reports
import AccumulatorMachine.Proofs.Requests
import AccumulatorMachine.Proofs.Scan
import AccumulatorMachine.Proofs.Schedules
import AccumulatorMachine.Proofs.Sessions
import AccumulatorMachine.Proofs.Slicing
import AccumulatorMachine.Proofs.SolidText
import AccumulatorMachine.Proofs.Step
import AccumulatorMachine.Proofs.StringMode
import AccumulatorMachine.Proofs.Termination
import AccumulatorMachine.Proofs.TokenLayout
import AccumulatorMachine.Proofs.Transcript
import AccumulatorMachine.Proofs.UnusedText
import AccumulatorMachine.Proofs.WordChains
import AccumulatorMachine.Session
import AccumulatorMachine.Source.Line
import AccumulatorMachine.Source.Program
import AccumulatorMachine.Store.BoundedStack
import AccumulatorMachine.Store.Cells
import AccumulatorMachine.Store.Flags
import AccumulatorMachine.Store.Procedures
import AccumulatorMachine.Text.Alphanumeric
import AccumulatorMachine.Text.Blank
import AccumulatorMachine.Text.Lines
import AccumulatorMachine.Text.Ranges
import AccumulatorMachine.Text.Tokens
import AccumulatorMachine.Update
