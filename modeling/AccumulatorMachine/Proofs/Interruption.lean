import AccumulatorMachine.Proofs.Sessions

/-!
# Breaks in a session

While a typed line runs, the break key may be pressed at any moment, but the flag that
it raises is looked at only in front of each slice.  So a break cuts a run between two
slices or not at all: either the run is over before the look that would notice it, and
then the reply is that of an undisturbed session, or everything up to that look has
happened as usual and the reply adds the break to it.  In both cases the machine knows
of no break afterwards.  The flag may be left up by a key that was pressed too late, but
the prompt takes it down, so it breaks no later line.
-/

namespace AccumulatorMachine

namespace Machine

variable {machine : Machine} {log : Array Entry} {cycles number : Nat}

theorem running_of_le {smaller larger : Nat} (bound : smaller ≤ larger)
    (running : (machine.steps log larger).result = .ok .running) :
    (machine.steps log smaller).result = .ok .running := by
  by_cases earlier : (machine.steps log smaller).result = .ok .running
  · exact earlier
  · rw [steps_of_le earlier bound] at running
    exact absurd running earlier

/-- One slice more. -/
theorem steps_succ_mul (running : (machine.steps log (number * cycles)).result = .ok .running) :
    machine.steps log ((number + 1) * cycles) =
      (machine.steps log (number * cycles)).machine.steps
        (machine.steps log (number * cycles)).log cycles := by
  rw [Nat.succ_mul, steps_add, Outcome.andThen_of_running running]

/-- A run that is over ends in one of its slices. -/
theorem exists_last_slice
    (finished : (machine.steps log (number * cycles)).result ≠ .ok .running) :
    ∃ last < number, (machine.steps log (last * cycles)).result = .ok .running ∧
      (machine.steps log ((last + 1) * cycles)).result ≠ .ok .running := by
  induction number with
  | zero =>
      rw [Nat.zero_mul] at finished
      exact absurd rfl finished
  | succ number inductionHypothesis =>
      by_cases running : (machine.steps log (number * cycles)).result = .ok .running
      · exact ⟨number, Nat.lt_succ_self number, running, finished⟩
      · obtain ⟨last, smaller, ends⟩ := inductionHypothesis running
        exact ⟨last, Nat.lt_succ_of_lt smaller, ends⟩

theorem text_breakFault (machine : Machine) :
    machine.breakFault.text =
      if 0 ≤ machine.counter then "BREAK IN " ++ toString (machine.counter + 1)
      else "BREAK" := by
  have words : Fault.Kind.interrupted.title ++ " IN " = "BREAK IN " := rfl
  unfold breakFault
  cases machine.counter with
  | ofNat address =>
      have nonnegative : 0 ≤ Int.ofNat address := Int.natCast_nonneg address
      rw [if_pos nonnegative, ← words]
      exact Fault.text_numbered .interrupted (address + 1)
  | negSucc position =>
      rw [if_neg (Int.not_le.mpr (Int.negSucc_lt_zero position))]
      rfl

/-- A machine whose next step leads back to itself runs for ever. -/
theorem steps_of_step_eq_self (loop : machine.step = .ok (.silent machine))
    (log : Array Entry) (cycles : Nat) :
    machine.steps log cycles = ⟨machine, log, .ok .running⟩ := by
  induction cycles generalizing log with
  | zero => rfl
  | succ cycles inductionHypothesis =>
      rw [steps_succ, loop]
      exact inductionHypothesis log

end Machine

namespace Session

open Machine

/-! ## Looks at the flag -/

/-- The sessions that wait for a line, whatever has been typed so far and whenever the
key has been pressed.  While a session waits, its flag may go up and down. -/
inductive Waiting : Session → Prop
  | start : Waiting Session.new
  | flagged {session : Session} (raised : Bool) :
      Waiting session →
      Waiting { session with raised }
  | typed {session : Session} {s : String} {presses : Presses} {bound : Nat} :
      Waiting session →
      (session.enter s presses bound).event ≠ some .running →
      Waiting (session.enter s presses bound).session

theorem Waiting.atPrompt {session : Session} (waiting : Waiting session) :
    AtPrompt session.machine := by
  induction waiting with
  | start => exact ⟨rfl, rfl⟩
  | flagged _ _ inductionHypothesis => exact inductionHypothesis
  | typed _ _ inductionHypothesis => exact inductionHypothesis.enter _ _ _

/-- Whether a look at the flag would find it up if no earlier look has.  The first look
also finds a flag that was up before the line. -/
def sees (session : Session) (presses : Presses) (number entries : Nat) : Bool :=
  number == 0 && session.raised || presses number entries

/-- The flag is raised at such a moment that one look is the first to find it up, if the
run comes to this look. -/
structure FirstSeen (session : Session) (presses : Presses) (entered : Machine)
    (number : Nat) : Prop where
  unseen : ∀ earlier < number,
    (entered.execute (earlier * sliceCycles)).result = .ok .running →
      session.sees presses earlier (entered.execute (earlier * sliceCycles)).log.size = false
  seen : (entered.execute (number * sliceCycles)).result = .ok .running →
    session.sees presses number (entered.execute (number * sliceCycles)).log.size = true

section

variable {session : Session} {presses : Presses} {cycles number : Nat}
  (calm : session.machine.interrupted = false)

include calm

/-- As long as no look finds the flag up, slices are one long slice. -/
theorem slices_of_unseen
    (unseen : ∀ earlier < number,
      (session.machine.steps #[] (earlier * cycles)).result = .ok .running →
        session.sees presses earlier
          (session.machine.steps #[] (earlier * cycles)).log.size = false)
    (running : (session.machine.steps #[] (number * cycles)).result = .ok .running)
    (remaining : Nat) :
    slices cycles presses session #[] 0 (number + remaining) =
      slices cycles presses
        ⟨(session.machine.steps #[] (number * cycles)).machine, number == 0 && session.raised⟩
        (session.machine.steps #[] (number * cycles)).log number remaining := by
  induction number generalizing remaining with
  | zero =>
      rw [Nat.zero_add, Nat.zero_mul]
      rfl
  | succ number inductionHypothesis =>
      have earlier : (session.machine.steps #[] (number * cycles)).result = .ok .running :=
        running_of_le (Nat.mul_le_mul_right cycles (Nat.le_succ number)) running
      have laterCalm := (session.machine.interrupted_steps #[] (number * cycles)).trans calm
      have unnoticed := unseen number (Nat.lt_succ_self number) earlier
      -- in the hypothesis the last of these slices is the first of the remaining ones
      have before := inductionHypothesis
        (fun check smaller => unseen check (Nat.lt_succ_of_lt smaller)) earlier (remaining + 1)
      rw [steps_succ_mul earlier] at running ⊢
      rw [Nat.succ_add_eq_add_succ, before]
      refine slices_of_running ?_ ?_ ?_ remaining
      · exact laterCalm
      · exact unnoticed
      · exact running

end

section

variable {session : Session} {presses : Presses} {entered : Machine} {number bound : Nat}

/-- The run that a look breaks. -/
theorem run_of_reached (calm : entered.interrupted = false)
    (first : FirstSeen session presses entered number) (enough : number < bound)
    (running : (entered.execute (number * sliceCycles)).result = .ok .running) :
    run ⟨entered, session.raised⟩ presses bound =
      (Outcome.failed
        { (entered.execute (number * sliceCycles)).machine with interrupted := false }
        (entered.execute (number * sliceCycles)).log
        (entered.execute (number * sliceCycles)).machine.breakFault).listened
          (presses (number + 1) ((entered.execute (number * sliceCycles)).log.size + 1)) := by
  obtain ⟨remaining, rfl⟩ := Nat.exists_eq_add_of_lt enough
  have unseen := first.unseen
  have seen := first.seen running
  simp only [execute_of_calm calm] at unseen seen running ⊢
  have before := @slices_of_unseen ⟨entered, session.raised⟩ presses sliceCycles number calm
    unseen running (remaining + 1)
  rw [run, Nat.add_assoc, before]
  refine slices_of_seen ?_ remaining
  exact seen

/-- The run that is over before the flag is found up.  What the key does during the last
slice stays with the flag. -/
theorem run_of_finished (calm : entered.interrupted = false)
    (first : FirstSeen session presses entered number) {last : Nat} (smaller : last < number)
    (enough : number < bound)
    (running : (entered.execute (last * sliceCycles)).result = .ok .running)
    (finished : (entered.execute ((last + 1) * sliceCycles)).result ≠ .ok .running) :
    run ⟨entered, session.raised⟩ presses bound =
      (entered.execute ((last + 1) * sliceCycles)).listened
        (presses (last + 1) (entered.execute ((last + 1) * sliceCycles)).log.size) := by
  obtain ⟨remaining, rfl⟩ := Nat.exists_eq_add_of_lt (Nat.lt_trans smaller enough)
  have unseen := first.unseen
  simp only [execute_of_calm calm] at unseen running finished ⊢
  have unnoticed := unseen last smaller running
  have laterCalm := (entered.interrupted_steps #[] (last * sliceCycles)).trans calm
  have before := @slices_of_unseen ⟨entered, session.raised⟩ presses sliceCycles last calm
    (fun check earlier => unseen check (Nat.lt_trans earlier smaller)) running (remaining + 1)
  rw [steps_succ_mul running] at finished ⊢
  rw [run, Nat.add_assoc, before]
  refine slices_of_finished ?_ ?_ ?_ remaining
  · exact laterCalm
  · exact unnoticed
  · exact finished

end

/-! ## The prompt -/

/-- The reply to a line that is entered and makes steps. -/
def unbroken (bound : Nat) (machine : Machine) (s : String) : Reply :=
  match machine.enter s with
  | .error fault => ⟨⟨machine, false⟩, #[.fault fault], none⟩
  | .ok entered => conclude ((entered.steps #[] (bound * sliceCycles)).listened false)

/-- The replies at a prompt that knows of no key. -/
def undisturbed (bound : Nat) (machine : Machine) : List String → List Reply
  | [] => []
  | s :: later =>
      let reply := unbroken bound machine s
      reply :: if reply.goesOn then undisturbed bound reply.session.machine later else []

theorem turn_never {session : Session} (atPrompt : AtPrompt session.machine) (s : String)
    (bound : Nat) :
    session.turn s Presses.never bound = unbroken bound session.machine s := by
  unfold turn unbroken
  cases entered : session.machine.enter s with
  | error fault =>
      refine enter_of_refused ?_ Presses.never bound
      exact entered
  | ok machine => exact atPrompt.enter_never entered bound

/-- Lines during which the key is not pressed are not disturbed, whatever was left of
earlier ones. -/
theorem converse_never {session : Session} (atPrompt : AtPrompt session.machine)
    (bound : Nat) (typed : List String) :
    session.converse bound (typed.map fun s => (s, Presses.never)) =
      undisturbed bound session.machine typed := by
  induction typed generalizing session with
  | nil => rfl
  | cons s later inductionHypothesis =>
      have nextAtPrompt : AtPrompt (session.turn s Presses.never bound).session.machine := by
        refine AtPrompt.enter ?_ s Presses.never bound
        exact atPrompt
      simp only [List.map_cons, converse, undisturbed]
      rw [inductionHypothesis nextAtPrompt, turn_never atPrompt]

theorem event_conclude_ne_running {ran : Listened} (finished : ran.result ≠ .ok .running) :
    (conclude ran).event ≠ some .running := by
  unfold conclude
  split
  · next event ended =>
      intro running
      cases running
      exact finished ended
  · nofun

theorem log_conclude (ran : Listened) : (conclude ran).log = ran.log := by
  unfold conclude
  split
  · rfl
  · rfl

theorem conclude_listened (outcome : Outcome) (raised : Bool) :
    conclude (outcome.listened raised) =
      ⟨⟨(conclude (outcome.listened false)).session.machine, raised⟩,
        (conclude (outcome.listened false)).log, (conclude (outcome.listened false)).event⟩ := by
  obtain ⟨machine, log, result⟩ := outcome
  cases result <;> rfl

/-- A break cuts the run of a typed line between two slices.  If the undisturbed run is
over before the look that would find the flag up, then event, log and machine are those
of the undisturbed line, and the flag tells whether the key was pressed during the last
slice.  Otherwise there is no event, the log is that of the steps up to the look with
the break added to it, and the machine is new.  In both cases no break stays pending in
the machine; and whatever has become of the flag when the prompt is given further lines,
these only make steps as long as the key is not pressed again. -/
theorem interruption_between_slices {session : Session} {entered : Machine} {s : String}
    {presses : Presses} {number bound : Nat} (waiting : Waiting session)
    (accepted : session.machine.enter s = .ok entered)
    (first : FirstSeen session presses entered number) (enough : number < bound) :
    let reached := entered.execute (number * sliceCycles)
    let reply := session.enter s presses bound
    (reached.result ≠ .ok .running →
      let calm := ({ session with raised := false } : Session).enter s Presses.never bound
      reply.event ≠ some .running ∧
      ∃ last < number,
        (entered.execute (last * sliceCycles)).result = .ok .running ∧
        (entered.execute ((last + 1) * sliceCycles)).result ≠ .ok .running ∧
        reply = ⟨⟨calm.session.machine, presses (last + 1) calm.log.size⟩, calm.log,
          calm.event⟩) ∧
    (reached.result = .ok .running →
      reply = ⟨⟨Machine.new, presses (number + 1) (reached.log.size + 1)⟩,
          reached.log.push (.fault reached.machine.breakFault), none⟩ ∧
      reached.machine.breakFault.text =
        if 0 ≤ reached.machine.counter then
          "BREAK IN " ++ toString (reached.machine.counter + 1)
        else "BREAK") ∧
    reply.session.machine.interrupted = false ∧
    ∀ (raised : Bool) (later : List String) (slices : Nat),
      ({ reply.session with raised } : Session).converse slices
          (later.map fun s => (s, Presses.never)) =
        undisturbed slices reply.session.machine later := by
  have atPrompt : AtPrompt session.machine := waiting.atPrompt
  have enteredAtPrompt : AtPrompt entered := atPrompt.of_accepted accepted
  have calm : entered.interrupted = false := enteredAtPrompt.calm
  have laterAtPrompt : AtPrompt (session.enter s presses bound).session.machine :=
    atPrompt.enter s presses bound
  intro reached reply
  have replied : reply = conclude (run ⟨entered, session.raised⟩ presses bound) :=
    enter_of_accepted accepted presses bound
  refine ⟨?_, ?_, laterAtPrompt.calm, ?_⟩
  · intro finished
    obtain ⟨last, smaller, running, ended⟩ : ∃ last < number,
        (entered.execute (last * sliceCycles)).result = .ok .running ∧
          (entered.execute ((last + 1) * sliceCycles)).result ≠ .ok .running := by
      simp only [reached, execute_of_calm calm] at finished ⊢
      exact exists_last_slice finished
    have ran := run_of_finished calm first smaller enough running ended
    have whole : entered.steps #[] (bound * sliceCycles) =
        entered.execute ((last + 1) * sliceCycles) := by
      rw [execute_of_calm calm] at ended ⊢
      exact steps_of_le ended (Nat.mul_le_mul_right sliceCycles (by omega))
    dsimp only
    rw [atPrompt.enter_never accepted, whole]
    refine ⟨?_, last, smaller, running, ended, ?_⟩
    · rw [replied, ran]
      exact event_conclude_ne_running ended
    · rw [replied, ran, conclude_listened, log_conclude]
      rfl
  · intro running
    have lastAtPrompt : AtPrompt { reached.machine with interrupted := false } := by
      simp only [reached, execute_of_calm calm]
      exact ⟨rfl, (enteredAtPrompt.steps #[] (number * sliceCycles)).initialAccumulator_eq⟩
    refine ⟨?_, text_breakFault _⟩
    rw [replied, run_of_reached calm first enough running, ← lastAtPrompt.load_empty]
    rfl
  · intro raised later slices
    refine converse_never ?_ slices later
    exact laterAtPrompt

/-- A session in which a module has been begun. -/
def begunSession : Session :=
  (Session.new.enter "begin" Presses.never 1).session

def begunWith (s : String) : Machine :=
  { begunSession.machine with
    program := begunSession.machine.program.push (Line.ofString s) }

/-- A break that is noticed in front of the third slice of an endless loop, and one that
comes too late for a line that prints.  The flag is left up in both cases; it would break
the next line if the prompt did not take it down. -/
theorem interruption_between_slices_loop :
    Waiting begunSession ∧
    (begunSession.machine.enter "jmp 2" = .ok (begunWith "jmp 2") ∧
      FirstSeen begunSession (fun done _ => decide (2 ≤ done)) (begunWith "jmp 2") 2 ∧
      ((begunWith "jmp 2").execute (2 * sliceCycles)).result = .ok .running ∧
      begunSession.enter "jmp 2" (fun done _ => decide (2 ≤ done)) 3 =
        ⟨⟨Machine.new, true⟩, #[.fault ⟨.interrupted, some 2, ""⟩], none⟩) ∧
    (begunSession.machine.enter "print" = .ok (begunWith "print") ∧
      FirstSeen begunSession (Presses.afterEntries 1) (begunWith "print") 1 ∧
      ((begunWith "print").execute (1 * sliceCycles)).result = .ok (.ended .stopped) ∧
      let reply := begunSession.enter "print" (Presses.afterEntries 1) 2
      reply.event = some (.ended .stopped) ∧ reply.session.raised = true ∧
      (reply.session.enter "print" Presses.never 1).event = none ∧
      reply.session.converse 1 [("print", Presses.never), ("end", Presses.never)] =
        undisturbed 1 reply.session.machine ["print", "end"]) := by
  have waiting : Waiting begunSession := Waiting.typed Waiting.start nofun
  refine ⟨waiting, ?_, ?_⟩
  · have accepted : begunSession.machine.enter "jmp 2" = .ok (begunWith "jmp 2") := rfl
    have endless (cycles : Nat) :
        (begunWith "jmp 2").execute cycles = ⟨begunWith "jmp 2", #[], .ok .running⟩ :=
      steps_of_step_eq_self rfl #[] cycles
    have first :
        FirstSeen begunSession (fun done _ => decide (2 ≤ done)) (begunWith "jmp 2") 2 := by
      refine ⟨fun earlier smaller _ => ?_, fun _ => rfl⟩
      rw [sees, decide_eq_false (Nat.not_le_of_lt smaller), Bool.or_false]
      exact Bool.and_false _
    obtain ⟨_, broken, _⟩ :=
      interruption_between_slices waiting accepted first (Nat.lt_succ_self 2)
    rw [endless] at broken ⊢
    exact ⟨accepted, first, rfl, (broken rfl).1⟩
  · have accepted : begunSession.machine.enter "print" = .ok (begunWith "print") := rfl
    have stopped : ((begunWith "print").execute (1 * sliceCycles)).result =
        .ok (.ended .stopped) := rfl
    have first : FirstSeen begunSession (Presses.afterEntries 1) (begunWith "print") 1 := by
      constructor
      · intro earlier smaller _
        rw [Nat.lt_one_iff.mp smaller]
        rfl
      · intro running
        rw [stopped] at running
        cases running
    obtain ⟨_, _, _, onward⟩ :=
      interruption_between_slices waiting accepted first (Nat.lt_succ_self 1)
    exact ⟨accepted, first, stopped, rfl, rfl, rfl, onward true ["print", "end"] 1⟩

end Session

end AccumulatorMachine
