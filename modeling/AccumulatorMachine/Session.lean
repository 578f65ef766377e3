import AccumulatorMachine.Machine.Run

/-!
# Sessions

In a session lines are typed one after another.  Each line is appended to the
program, and the program runs as far as it goes.  After a fault the program is
cleared and the next line starts over.

The break key raises a flag of the session.  The flag is looked at before each
slice, and looking at it takes it down; if it was up, the machine is told to
break.  So a key that is pressed during the last slice of a run leaves the flag
up, and the prompt takes it down again before it gives the next line to the
machine.
-/

namespace AccumulatorMachine

/-- A machine, and the flag that the break key raises. -/
structure Session where
  machine : Machine
  raised : Bool

/-- What the run of a session leaves. -/
structure Listened where
  session : Session
  log : Array Entry
  result : Except Fault Event

/-- The outcome of a run, next to a flag. -/
def Outcome.listened (outcome : Outcome) (raised : Bool) : Listened :=
  ⟨⟨outcome.machine, raised⟩, outcome.log, outcome.result⟩

/-- The times at which the break key is pressed while a line is answered.  Before
each look at the flag, and once more after the last slice, this is told the number
of slices and of log entries so far, and says whether the key has been pressed
since it was last asked. -/
abbrev Presses := Nat → Nat → Bool

namespace Presses

/-- The key is not touched. -/
def never : Presses := fun _ _ => false

/-- The key is held down once the log has a number of entries. -/
def afterEntries (count : Nat) : Presses := fun _ entries => decide (count ≤ entries)

end Presses

namespace Session

/-- The session that a prompt begins with. -/
def new : Session := ⟨Machine.new, false⟩

/-- The key raises the flag and nothing but the flag. -/
def press (session : Session) (pressed : Bool) : Session :=
  { session with raised := session.raised || pressed }

/-- Take the flag down, and tell the machine to break if it was up. -/
def look (session : Session) : Session :=
  if session.raised then ⟨session.machine.interrupt, false⟩ else session

/-- Run slices of some length until the program ends or fails, and at most a
number of them; `done` slices have been run before.  The result is `running`
only if all slices are used up. -/
def slices (cycles : Nat) (presses : Presses) (session : Session) (log : Array Entry)
    (done : Nat) : Nat → Listened
  | 0 => ⟨session, log, .ok .running⟩
  | remaining + 1 =>
      let looked := (session.press (presses done log.size)).look
      let outcome := looked.machine.slice log cycles
      let after : Session := { looked with machine := outcome.machine }
      match outcome.result with
      | .ok .running => slices cycles presses after outcome.log (done + 1) remaining
      | result => ⟨after.press (presses (done + 1) outcome.log.size), outcome.log, result⟩

/-- Run to the end, looking at the flag, with a bound on the slices. -/
def run (session : Session) (presses : Presses) (bound : Nat) : Listened :=
  slices Machine.sliceCycles presses session #[] 0 bound

/-- What a typed line leads to.  There is no event if the line was refused or
the run failed. -/
structure Reply where
  session : Session
  log : Array Entry
  event : Option Event

/-- What is left after the run that a typed line started. -/
def conclude (ran : Listened) : Reply :=
  match ran.result with
  | .ok event => ⟨ran.session, ran.log, some event⟩
  | .error _ =>
      ⟨{ ran.session with machine := ran.session.machine.load Program.empty }, ran.log, none⟩

/-- Give a typed line to the machine, with a bound on the slices that are run. -/
def enter (session : Session) (s : String) (presses : Presses) (bound : Nat) : Reply :=
  match (Machine.enterM s).run session.machine with
  | .error fault machine =>
      let log := #[Entry.fault fault]
      ⟨({ session with machine } : Session).press (presses 0 log.size), log, none⟩
  | .ok _ machine => conclude (({ session with machine } : Session).run presses bound)

/-- The words that open a session. -/
def greeting : String := "ASSEMBLER\nREADY.\n"

/-- The words that ask for a line. -/
def prompt : String := "> "

/-- Whether the prompt asks for another line: the run is over and the program has
not halted. -/
def Reply.goesOn (reply : Reply) : Bool :=
  match reply.event with
  | some .running | some (.ended .halted) => false
  | some (.ended .stopped) | none => true

/-- Answer a line that has been typed at the prompt.  Whatever the flag has been
left at, and whether or not the key has been pressed since, it is taken down. -/
def turn (session : Session) (s : String) (presses : Presses) (bound : Nat) : Reply :=
  ({ session with raised := false } : Session).enter s presses bound

/-- Answer lines at the prompt, each with its presses of the key and with a bound on
the slices, as long as the prompt asks for them. -/
def converse (bound : Nat) (session : Session) : List (String × Presses) → List Reply
  | [] => []
  | (s, presses) :: later =>
      let reply := session.turn s presses bound
      reply :: if reply.goesOn then converse bound reply.session later else []

end Session

end AccumulatorMachine
