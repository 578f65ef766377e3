import AccumulatorMachine.Source.Line
import AccumulatorMachine.Text.Lines
import AccumulatorMachine.Update

/-!
# Programs

A program is a sequence of source lines.  Lines are addressed from zero and
reported from one.  A line is refused when its text is longer than the line
buffer, whose length is counted in bytes of UTF-8.
-/

namespace AccumulatorMachine

/-- The lines of a program, in order. -/
structure Program where
  lines : Array Line
  deriving DecidableEq, Repr, Inhabited

namespace Program

/-- The length of the line buffer in bytes. -/
def lineBuffer : Nat := 1024

/-- The program without lines. -/
def empty : Program := ⟨#[]⟩

/-- The number of lines. -/
def size (program : Program) : Nat :=
  program.lines.size

/-- The line at an address. -/
def line? (program : Program) (address : Nat) : Option Line :=
  program.lines[address]?

/-- Append a line. -/
def push (program : Program) (line : Line) : Program :=
  ⟨program.lines.push line⟩

/-- Append a line given as text, unless it does not fit in the line buffer.
The fault carries the number that the line would have had. -/
def enterM (s : String) : Update Program Unit :=
  Update.checked (fun _ => decide (lineBuffer < s.utf8ByteSize))
    (fun program => (Fault.of .lineBufferOverflow).atLine (program.size + 1))
    (fun program => program.push (Line.ofString s))

/-- The program with a line more, unless the line is refused. -/
def enter (program : Program) (s : String) : Except Fault Program :=
  ((enterM s).attempt program).map Prod.snd

/-- Append lines given as text, up to the first that is refused. -/
def enterAll (program : Program) (lines : List String) : Except Fault Program :=
  lines.foldlM enter program

/-- The program with a given source. -/
def ofSource (source : String) : Except Fault Program :=
  empty.enterAll (Text.lines source)

/-- The source of a program: every line with its tokens one space apart, ended
by a line feed. -/
def render (program : Program) : String :=
  String.join (program.lines.toList.map fun line => line.text ++ "\n")

/-- A line that is refused leaves the program as it is. -/
theorem atomic_enterM (s : String) : (enterM s).Atomic :=
  Update.atomic_checked _ _ _

theorem enter_of_fits {s : String} (fits : s.utf8ByteSize ≤ lineBuffer) (program : Program) :
    program.enter s = .ok (program.push (Line.ofString s)) := by
  have accepted : ¬ decide (lineBuffer < s.utf8ByteSize) = true := by
    simp [fits]
  exact (Update.map_attempt_checked _ _ _ program).trans (if_neg accepted)

theorem enter_of_long {s : String} (long : lineBuffer < s.utf8ByteSize) (program : Program) :
    program.enter s = .error ((Fault.of .lineBufferOverflow).atLine (program.size + 1)) :=
  (Update.map_attempt_checked _ _ _ program).trans (if_pos (decide_eq_true long))

end Program

end AccumulatorMachine
