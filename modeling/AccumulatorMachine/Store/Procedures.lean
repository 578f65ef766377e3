import AccumulatorMachine.Update

/-!
# Procedures

A procedure is known by its name and entered at the address of its header.
-/

namespace AccumulatorMachine

/-- The known procedures with their entries, in the order of registration. -/
structure Procedures where
  toList : List (String × Nat)
  deriving DecidableEq, Repr, Inhabited

namespace Procedures

/-- No procedure is known. -/
def empty : Procedures := ⟨[]⟩

/-- The number of procedures. -/
def size (procedures : Procedures) : Nat :=
  procedures.toList.length

/-- The entry of a procedure. -/
def get? (procedures : Procedures) (name : String) : Option Nat :=
  procedures.toList.lookup name

/-- Register a procedure under a new name. -/
def registerM (name : String) (entry : Nat) : Update Procedures Unit :=
  Update.checked (fun procedures => (procedures.get? name).isSome)
    (fun _ => Fault.about .duplicateProcedure name)
    (fun procedures => ⟨procedures.toList ++ [(name, entry)]⟩)

/-- The procedures with a new one, unless its name is taken. -/
def register (procedures : Procedures) (name : String) (entry : Nat) :
    Except Fault Procedures :=
  ((registerM name entry).attempt procedures).map Prod.snd

/-- The entry of a procedure, which has to be known. -/
def entry (procedures : Procedures) (name : String) : Except Fault Nat :=
  match procedures.get? name with
  | some entry => .ok entry
  | none => .error (Fault.about .undefinedProcedure name)

/-- A procedure that is refused leaves the others as they are. -/
theorem atomic_registerM (name : String) (entry : Nat) : (registerM name entry).Atomic :=
  Update.atomic_checked _ _ _

theorem register_eq (procedures : Procedures) (name : String) (entry : Nat) :
    procedures.register name entry =
      if (procedures.get? name).isSome then
        .error (Fault.about .duplicateProcedure name)
      else .ok ⟨procedures.toList ++ [(name, entry)]⟩ :=
  Update.map_attempt_checked _ _ _ procedures

end Procedures

end AccumulatorMachine
