import AccumulatorMachine.Fault

/-!
# Operations on a state

An operation changes a state and may fail.  It may have changed the state before it
fails, so a fault comes with the state that it has left.  An operation is atomic if
this is always the state from which it started.
-/

namespace AccumulatorMachine

/-- An operation on a state. -/
abbrev Update (σ α : Type) := EStateM Fault σ α

namespace Update

variable {ρ σ α : Type}

/-- The state that an operation leaves, whether it fails or not. -/
def left (update : Update σ α) (state : σ) : σ :=
  match update.run state with
  | .ok _ next => next
  | .error _ next => next

/-- The value and the state of an operation that does not fail. -/
def attempt (update : Update σ α) (state : σ) : Except Fault (α × σ) :=
  match update.run state with
  | .ok value next => .ok (value, next)
  | .error fault _ => .error fault

/-- Operate on a part of a state. -/
def within (part : ρ → σ) (replace : ρ → σ → ρ) (update : Update σ α) : Update ρ α :=
  fun whole =>
    match update.run (part whole) with
    | .ok value next => .ok value (replace whole next)
    | .error fault next => .error fault (replace whole next)

/-- Change the state, unless a look at it forbids the change. -/
def checked (forbidden : σ → Bool) (fault : σ → Fault) (change : σ → σ) : Update σ Unit := do
  let state ← get
  if forbidden state then
    throw (fault state)
  else
    set (change state)

/-- When it fails, the operation leaves the state as it was. -/
def Atomic (update : Update σ α) : Prop :=
  ∀ state fault next, update.run state = .error fault next → next = state

variable {update : Update σ α} {part : ρ → σ} {replace : ρ → σ → ρ}

/-- An atomic operation is known from its attempts. -/
theorem Atomic.run_eq (atomic : update.Atomic) (state : σ) :
    update.run state =
      match update.attempt state with
      | .ok (value, next) => .ok value next
      | .error fault => .error fault state := by
  unfold attempt
  cases done : update.run state with
  | ok value next => rfl
  | error fault next => rw [atomic state fault next done]

section

variable {action : Update σ Unit} {state next : σ} {fault : Fault}

theorem run_of_attempt_ok (done : (action.attempt state).map Prod.snd = .ok next) :
    action.run state = .ok () next := by
  unfold attempt at done
  cases ran : action.run state with
  | ok value reached =>
      rw [ran] at done
      cases done
      rfl
  | error cause reached =>
      rw [ran] at done
      cases done

theorem Atomic.run_of_attempt_error (atomic : action.Atomic)
    (failed : (action.attempt state).map Prod.snd = .error fault) :
    action.run state = .error fault state := by
  unfold attempt at failed
  cases ran : action.run state with
  | ok value reached =>
      rw [ran] at failed
      cases failed
  | error cause reached =>
      rw [ran] at failed
      cases failed
      rw [atomic state fault reached ran]

end

section

variable (forbidden : σ → Bool) (fault : σ → Fault) (change : σ → σ)

theorem run_checked (state : σ) :
    (checked forbidden fault change).run state =
      if forbidden state then .error (fault state) state else .ok () (change state) := by
  change (if forbidden state = true then throw (fault state) else set (change state) :
    Update σ Unit).run state = _
  cases forbidden state <;> rfl

/-- A change that is forbidden is not begun. -/
theorem atomic_checked : (checked forbidden fault change).Atomic := by
  intro state cause next failed
  rw [run_checked] at failed
  split at failed
  · cases failed
    rfl
  · cases failed

theorem map_attempt_checked (state : σ) :
    ((checked forbidden fault change).attempt state).map Prod.snd =
      if forbidden state then .error (fault state) else .ok (change state) := by
  unfold attempt
  rw [run_checked]
  cases forbidden state <;> rfl

end

theorem attempt_within (whole : ρ) :
    (within part replace update).attempt whole =
      (update.attempt (part whole)).map fun done => (done.1, replace whole done.2) := by
  unfold attempt within
  simp only [EStateM.run]
  cases update (part whole) <;> rfl

/-- An operation on a part is atomic if putting back what has been taken out changes
nothing. -/
theorem Atomic.within (atomic : update.Atomic)
    (restored : ∀ whole, replace whole (part whole) = whole) :
    (within part replace update).Atomic := by
  intro whole fault next failed
  unfold Update.within at failed
  simp only [EStateM.run] at failed
  cases done : update (part whole) with
  | ok value state =>
      rw [done] at failed
      cases failed
  | error fault state =>
      rw [done] at failed
      cases failed
      rw [atomic (part whole) fault state done, restored]

end Update

end AccumulatorMachine
