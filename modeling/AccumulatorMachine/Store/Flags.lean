import AccumulatorMachine.Arithmetic

/-!
# Flags

The machine has one flag.  In string mode an operand stands for itself even when
it is the name of a cell.
-/

namespace AccumulatorMachine

/-- The flags of the machine. -/
inductive Flag where
  | stringMode
  deriving DecidableEq, Repr, Inhabited

namespace Flag

/-- All flags in the order of their numbers. -/
def all : List Flag := [stringMode]

/-- The name of a flag in listings. -/
def name : Flag → String
  | stringMode => "StringMode"

/-- The flag with a given number. -/
def ofIndex (index : Int32) : Except Fault Flag :=
  if index = 0 then .ok stringMode
  else .error (Fault.about .flagOutOfRange (wordText index))

end Flag

/-- The state of every flag. -/
structure Flags where
  stringMode : Bool := false
  deriving DecidableEq, Repr, Inhabited

namespace Flags

/-- All flags are down. -/
def clear : Flags := ⟨false⟩

/-- Whether a flag is up. -/
def get (flags : Flags) : Flag → Bool
  | .stringMode => flags.stringMode

/-- Put a flag up or down. -/
def put (flags : Flags) (flag : Flag) (up : Bool) : Flags :=
  match flag with
  | .stringMode => { flags with stringMode := up }

/-- Every flag with its state, in the order of the flags' numbers. -/
def entries (flags : Flags) : List (Flag × Bool) :=
  Flag.all.map fun flag => (flag, flags.get flag)

/-- A flag is as it was put, and every other flag is as it was. -/
theorem get_put (flags : Flags) (flag other : Flag) (up : Bool) :
    (flags.put flag up).get other = if other = flag then up else flags.get other := by
  cases flag
  cases other
  rfl

end Flags

end AccumulatorMachine
