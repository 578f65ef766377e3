import AccumulatorMachine.Proofs.Requests
import AccumulatorMachine.Session

/-!
# Sessions

The machine of a session carries little from one typed line to the next.  A line that
is refused leaves no trace at all, so it can be struck out of a session.  A line that
is accepted and fails leaves a new machine, so the rest of the session is a session of
its own.  Both rest on what is never lost: a machine keeps its initial accumulator
whatever is asked of it, and no break stays pending when a line has been answered.
-/

namespace AccumulatorMachine

theorem Fault.text_numbered (kind : Kind) (number : Nat) :
    (⟨kind, some number, ""⟩ : Fault).text = kind.title ++ " IN " ++ toString number := by
  simp [text, linePart, detailPart, String.append_assoc]

namespace Machine

/-! ## What a load forgets -/

theorem initialAccumulator_closed (accumulator : String) :
    Closed fun machine : Machine => machine.initialAccumulator = accumulator where
  push _ same := same
  signal _ same := same
  step same advanced :=
    (congrArg Setting.initialAccumulator (setting_of_step advanced)).trans same

theorem initialAccumulator_afterRequests (machine : Machine) (requests : List Request) :
    (machine.afterRequests requests).initialAccumulator = machine.initialAccumulator := by
  induction requests generalizing machine with
  | nil => rfl
  | cons request requests inductionHypothesis =>
      have kept : (request.outcome machine).machine.initialAccumulator =
          machine.initialAccumulator :=
        (initialAccumulator_closed machine.initialAccumulator).outcome rfl fun _ _ => rfl
      rw [afterRequests_cons, inductionHypothesis, kept]

/-- Nothing that has been asked of a machine can be seen after a load. -/
theorem load_afterRequests (machine : Machine) (requests : List Request)
    (program : Program) :
    (machine.afterRequests requests).load program = machine.load program := by
  rw [load_eq_start, load_eq_start, initialAccumulator_afterRequests]

end Machine

namespace Session

open Machine

/-! ## Between two lines -/

/-- What stays true of the machine of a session. -/
structure AtPrompt (machine : Machine) : Prop where
  calm : machine.interrupted = false
  initialAccumulator_eq : machine.initialAccumulator = ""

namespace AtPrompt

variable {machine : Machine}

theorem load_empty (atPrompt : AtPrompt machine) :
    machine.load Program.empty = Machine.new := by
  rw [load_eq_start, atPrompt.initialAccumulator_eq]
  rfl

theorem of_accepted (atPrompt : AtPrompt machine) {entered : Machine} {s : String}
    (accepted : machine.enter s = .ok entered) : AtPrompt entered := by
  obtain rfl := eq_of_enter accepted
  exact ⟨atPrompt.calm, atPrompt.initialAccumulator_eq⟩

theorem steps (atPrompt : AtPrompt machine) (log : Array Entry) (cycles : Nat) :
    AtPrompt (machine.steps log cycles).machine := by
  have sameSetting := machine.setting_steps log cycles
  constructor
  · exact (congrArg Setting.interrupted sameSetting).trans atPrompt.calm
  · exact (congrArg Setting.initialAccumulator sameSetting).trans
      atPrompt.initialAccumulator_eq

end AtPrompt

/-! ## One line -/

section

variable {session : Session} {s : String}

def fits (s : String) : Bool :=
  decide (s.utf8ByteSize ≤ Program.lineBuffer)

theorem enter_of_refused {fault : Fault} (refused : session.machine.enter s = .error fault)
    (presses : Presses) (bound : Nat) :
    session.enter s presses bound =
      ⟨session.press (presses 0 1), #[.fault fault], none⟩ := by
  unfold enter
  rw [enterM_of_refused refused]
  rfl

theorem enter_of_accepted {entered : Machine}
    (accepted : session.machine.enter s = .ok entered) (presses : Presses) (bound : Nat) :
    session.enter s presses bound = conclude (run ⟨entered, session.raised⟩ presses bound) := by
  unfold enter
  rw [enterM_of_accepted accepted]

theorem accepted_of_fits (short : fits s = true) (machine : Machine) :
    machine.enter s =
      .ok { machine with program := machine.program.push (Line.ofString s) } :=
  Machine.enter_of_fits (of_decide_eq_true short) machine

theorem refused_of_not_fits (long : fits s = false) (machine : Machine) :
    machine.enter s =
      .error ⟨.lineBufferOverflow, some (machine.program.size + 1), ""⟩ :=
  Machine.enter_of_long (Nat.lt_of_not_le (of_decide_eq_false long)) machine

@[simp]
theorem press_false (session : Session) : session.press false = session := by
  rw [press, Bool.or_false]

/-- A line that is refused while the key is not touched leaves no trace. -/
theorem session_enter_of_long (long : fits s = false) (bound : Nat) :
    (session.enter s Presses.never bound).session = session := by
  rw [enter_of_refused (refused_of_not_fits long session.machine)]
  exact session.press_false

/-- After a run that fails a session starts over. -/
theorem machine_conclude_of_failed {ran : Listened} (failed : (conclude ran).event = none) :
    (conclude ran).session.machine = ran.session.machine.load Program.empty := by
  unfold conclude at failed ⊢
  split at failed
  · cases failed
  · rfl

theorem raised_conclude (ran : Listened) :
    (conclude ran).session.raised = ran.session.raised := by
  unfold conclude
  split
  · rfl
  · rfl

namespace AtPrompt

variable {machine : Machine}

/-- No slice leaves a break pending in the machine, whenever the key is pressed. -/
theorem slices (atPrompt : AtPrompt session.machine) (cycles : Nat) (presses : Presses)
    (log : Array Entry) (done remaining : Nat) :
    AtPrompt (slices cycles presses session log done remaining).session.machine := by
  induction remaining generalizing session log done with
  | zero => exact atPrompt
  | succ remaining inductionHypothesis =>
      cases seen : session.raised || presses done log.size with
      | true =>
          rw [slices_of_seen seen]
          exact ⟨rfl, atPrompt.initialAccumulator_eq⟩
      | false =>
          by_cases running : (session.machine.steps log cycles).result = .ok .running
          · rw [slices_of_running atPrompt.calm seen running]
            exact inductionHypothesis (atPrompt.steps log cycles) _ _
          · rw [slices_of_finished atPrompt.calm seen running]
            exact atPrompt.steps log cycles

theorem run (atPrompt : AtPrompt session.machine) (presses : Presses) (bound : Nat) :
    AtPrompt (session.run presses bound).session.machine :=
  atPrompt.slices sliceCycles presses #[] 0 bound

theorem conclude {ran : Listened} (atPrompt : AtPrompt ran.session.machine) :
    AtPrompt (conclude ran).session.machine := by
  unfold Session.conclude
  split
  · exact atPrompt
  · exact ⟨rfl, atPrompt.initialAccumulator_eq⟩

/-- Whatever is typed and whenever the key is pressed, the session comes back to its
prompt. -/
theorem enter (atPrompt : AtPrompt session.machine) (s : String) (presses : Presses)
    (bound : Nat) : AtPrompt (session.enter s presses bound).session.machine := by
  cases entered : session.machine.enter s with
  | error fault =>
      rw [enter_of_refused entered]
      exact atPrompt
  | ok machine =>
      have enteredAtPrompt : AtPrompt machine := atPrompt.of_accepted entered
      rw [enter_of_accepted entered]
      exact AtPrompt.conclude (AtPrompt.run enteredAtPrompt presses bound)

theorem eq_new_of_failed (atPrompt : AtPrompt session.machine) (short : fits s = true)
    {presses : Presses} {bound : Nat}
    (failed : (session.enter s presses bound).event = none) :
    (session.enter s presses bound).session.machine = Machine.new := by
  have accepted := accepted_of_fits short session.machine
  have enteredAtPrompt := atPrompt.of_accepted accepted
  rw [enter_of_accepted accepted] at failed ⊢
  rw [machine_conclude_of_failed failed]
  exact (AtPrompt.run enteredAtPrompt presses bound).load_empty

/-- While the key is not touched, a line that is accepted only makes steps. -/
theorem enter_never (atPrompt : AtPrompt machine) {entered : Machine}
    (accepted : machine.enter s = .ok entered) (bound : Nat) :
    Session.enter ⟨machine, false⟩ s Presses.never bound =
      Session.conclude ((entered.steps #[] (bound * sliceCycles)).listened false) := by
  rw [enter_of_accepted accepted, Session.run,
    slices_never (atPrompt.of_accepted accepted).calm]

end AtPrompt

end

/-! ## Many lines -/

/-- A session that waits for a line and whose key has not been touched. -/
structure Untouched (session : Session) : Prop where
  atPrompt : AtPrompt session.machine
  lowered : session.raised = false

theorem Untouched.enter {session : Session} (untouched : Untouched session) (s : String)
    (bound : Nat) : Untouched (session.enter s Presses.never bound).session := by
  refine ⟨untouched.atPrompt.enter s Presses.never bound, ?_⟩
  obtain ⟨machine, raised⟩ := session
  obtain ⟨atPrompt, rfl⟩ := untouched
  cases entered : machine.enter s with
  | error fault =>
      rw [enter_of_refused entered]
      rfl
  | ok next =>
      rw [atPrompt.enter_never entered, raised_conclude]
      rfl

theorem Untouched.eq_new_of_failed {session : Session} (untouched : Untouched session)
    {s : String} (short : fits s = true) {bound : Nat}
    (failed : (session.enter s Presses.never bound).event = none) :
    (session.enter s Presses.never bound).session = Session.new := by
  have renewed := untouched.atPrompt.eq_new_of_failed short failed
  have lowered := (untouched.enter s bound).lowered
  generalize (session.enter s Presses.never bound).session = later at renewed lowered
  obtain ⟨machine, raised⟩ := later
  subst renewed lowered
  rfl

/-- The replies to lines that are typed one after another while the key is not touched,
with a bound on the slices of each run. -/
def replies (bound : Nat) (session : Session) : List String → List Reply
  | [] => []
  | s :: later =>
      let reply := session.enter s Presses.never bound
      reply :: replies bound reply.session later

def afterLines (bound : Nat) (session : Session) (typed : List String) : Session :=
  typed.foldl (fun current s => (current.enter s Presses.never bound).session) session

theorem Untouched.afterLines {session : Session} (untouched : Untouched session) (bound : Nat)
    (typed : List String) : Untouched (afterLines bound session typed) := by
  induction typed generalizing session with
  | nil => exact untouched
  | cons s later inductionHypothesis => exact inductionHypothesis (untouched.enter s bound)

theorem replies_append (bound : Nat) (session : Session) (typed later : List String) :
    replies bound session (typed ++ later) =
      replies bound session typed ++
        replies bound (afterLines bound session typed) later := by
  induction typed generalizing session with
  | nil => rfl
  | cons s typed inductionHypothesis =>
      exact congrArg (_ :: ·) (inductionHypothesis _)

/-- Lines that are refused can be struck out of a session. -/
theorem replies_filter_fits (bound : Nat) (session : Session) (typed : List String) :
    replies bound session (typed.filter fits) =
      ((typed.zip (replies bound session typed)).filter fun line => fits line.1).map
        Prod.snd := by
  induction typed generalizing session with
  | nil => rfl
  | cons s later inductionHypothesis =>
      cases short : fits s with
      | true =>
          rw [List.filter_cons_of_pos short]
          simp only [replies, List.zip_cons_cons]
          rw [List.filter_cons_of_pos (by simp [short]), List.map_cons, inductionHypothesis]
      | false =>
          rw [List.filter_cons_of_neg (by simp [short])]
          simp only [replies, List.zip_cons_cons, session_enter_of_long short]
          rw [List.filter_cons_of_neg (by simp [short]), inductionHypothesis]

/-- Sessions decompose, whatever the bound on the slices of a run is; in particular
with any bound under which every run of the session ends.  A line that does not fit in
the line buffer is answered with its refusal and changes nothing, so striking out all
such lines changes no other reply.  When a line that fits gets no event, the session
is new, and the later replies are those of a session with the later lines alone.  More
generally, a load leads to the same machine whatever has been asked before. -/
theorem sessions_decompose (bound : Nat) :
    (∀ (earlier : List String) (s : String), Program.lineBuffer < s.utf8ByteSize →
      let session := afterLines bound Session.new earlier
      let reply := session.enter s Presses.never bound
      reply.event = none ∧ reply.session = session ∧
        reply.log.map Entry.text =
          #["LINE BUFFER OVERFLOW IN " ++ toString (session.machine.program.size + 1)]) ∧
    (∀ typed : List String,
      replies bound Session.new (typed.filter fits) =
        ((typed.zip (replies bound Session.new typed)).filter fun line => fits line.1).map
          Prod.snd) ∧
    (∀ (earlier : List String) (s : String), s.utf8ByteSize ≤ Program.lineBuffer →
      let reply := (afterLines bound Session.new earlier).enter s Presses.never bound
      reply.event = none →
        reply.session = Session.new ∧
          ∀ later : List String,
            replies bound Session.new (earlier ++ s :: later) =
              replies bound Session.new earlier ++
                reply :: replies bound Session.new later) ∧
    ∀ (accumulator : String) (requests : List Request) (program : Program),
      ((withAccumulator accumulator).afterRequests requests).load program =
        (withAccumulator accumulator).load program := by
  have untouched : Untouched Session.new := ⟨⟨rfl, rfl⟩, rfl⟩
  refine ⟨?_, replies_filter_fits bound Session.new, ?_, ?_⟩
  · intro earlier s long session
    have refused : fits s = false := decide_eq_false (Nat.not_le_of_lt long)
    have words : Fault.Kind.lineBufferOverflow.title ++ " IN " = "LINE BUFFER OVERFLOW IN " :=
      rfl
    dsimp only
    rw [session_enter_of_long refused,
      enter_of_refused (refused_of_not_fits refused session.machine)]
    refine ⟨rfl, rfl, ?_⟩
    rw [List.map_toArray, List.map_singleton, Entry.text, Fault.text_numbered, words]
  · intro earlier s short reply failed
    have renewed : reply.session = Session.new :=
      (untouched.afterLines bound earlier).eq_new_of_failed (decide_eq_true short) failed
    refine ⟨renewed, fun later => ?_⟩
    rw [replies_append, replies]
    change _ ++ reply :: replies bound reply.session later = _
    rw [renewed]
  · intro accumulator requests program
    exact load_afterRequests (withAccumulator accumulator) requests program

def longLine : String :=
  String.ofList (List.replicate 1025 '9')

/-- A session in which a line is refused, a later one fails, and the program is typed
anew. -/
theorem sessions_decompose_failure :
    Program.lineBuffer < longLine.utf8ByteSize ∧
      ((afterLines 1 Session.new ["begin"]).enter longLine Presses.never 1).session =
        afterLines 1 Session.new ["begin"] ∧
      ((afterLines 1 Session.new ["begin", longLine]).enter "add x" Presses.never 1).log =
        #[.fault ⟨.typeMismatch, some 2, "\"\""⟩] ∧
      ((afterLines 1 Session.new ["begin", longLine]).enter "add x" Presses.never 1).session =
        Session.new ∧
      replies 1 Session.new ["begin", longLine, "add x", "begin", "print"] =
        replies 1 Session.new ["begin", longLine] ++
          (afterLines 1 Session.new ["begin", longLine]).enter "add x" Presses.never 1 ::
            replies 1 Session.new ["begin", "print"] := by
  have long : Program.lineBuffer < longLine.utf8ByteSize := by
    decide +kernel
  obtain ⟨refusal, _, failure, _⟩ := sessions_decompose 1
  obtain ⟨_, unchanged, _⟩ := refusal ["begin"] longLine long
  have same : afterLines 1 Session.new ["begin", longLine] = afterLines 1 Session.new ["begin"] :=
    unchanged
  have short : "add x".utf8ByteSize ≤ Program.lineBuffer := by
    decide
  have failed : ((afterLines 1 Session.new ["begin", longLine]).enter "add x"
      Presses.never 1).event = none := by
    rw [same]
    rfl
  obtain ⟨renewed, rest⟩ := failure ["begin", longLine] "add x" short failed
  refine ⟨long, unchanged, ?_, renewed, rest ["begin", "print"]⟩
  rw [same]
  rfl

end Session

end AccumulatorMachine
