import AccumulatorMachine.Update

/-!
# Memory cells

A cell has a name, an address and a value.  No two cells share a name or an
address, and cells are kept in the order of their definition.
-/

namespace AccumulatorMachine

/-- A named memory cell. -/
structure Cell where
  address : Int32
  name : String
  value : String
  deriving DecidableEq, Repr, Inhabited

/-- All defined cells, in the order of their definition. -/
structure Cells where
  toList : List Cell
  deriving DecidableEq, Repr, Inhabited

namespace Cells

/-- No cell is defined. -/
def empty : Cells := ⟨[]⟩

/-- The number of cells. -/
def size (cells : Cells) : Nat :=
  cells.toList.length

/-- Define a cell with the empty text as its value.  Its name and its address
have to be new. -/
def bindM (address : Int32) (name : String) : Update Cells Unit :=
  Update.checked
    (fun cells => cells.toList.any fun cell => cell.name == name || cell.address == address)
    (fun _ => Fault.about .duplicateDefinition name)
    (fun cells => ⟨cells.toList ++ [⟨address, name, ""⟩]⟩)

/-- The cells with a new one, unless its definition is refused. -/
def bind (cells : Cells) (address : Int32) (name : String) : Except Fault Cells :=
  ((bindM address name).attempt cells).map Prod.snd

/-- The value of the cell with a given name. -/
def get? (cells : Cells) (name : String) : Option String :=
  (cells.toList.find? fun cell => cell.name == name).map Cell.value

/-- Replace the value of the first cell with a given name. -/
def writeFirst (name value : String) : List Cell → List Cell
  | [] => []
  | cell :: later =>
      if cell.name = name then { cell with value } :: later
      else cell :: writeFirst name value later

/-- Replace the value of the cell with a given name.  Without such a cell
nothing happens. -/
def put (cells : Cells) (name value : String) : Cells :=
  ⟨writeFirst name value cells.toList⟩

/-- A definition that is refused leaves the cells as they are. -/
theorem atomic_bindM (address : Int32) (name : String) : (bindM address name).Atomic :=
  Update.atomic_checked _ _ _

theorem bind_eq (cells : Cells) (address : Int32) (name : String) :
    cells.bind address name =
      if cells.toList.any (fun cell => cell.name == name || cell.address == address) then
        .error (Fault.about .duplicateDefinition name)
      else .ok ⟨cells.toList ++ [⟨address, name, ""⟩]⟩ :=
  Update.map_attempt_checked _ _ _ cells

/-- A new cell reads as the empty text, and every other name reads as before. -/
theorem get?_bind {cells next : Cells} {address : Int32} {name : String}
    (bound : cells.bind address name = .ok next) (other : String) :
    next.get? other = if other = name then some "" else cells.get? other := by
  rw [bind_eq] at bound
  split at bound
  · cases bound
  · next absent =>
      cases bound
      simp only [Bool.not_eq_true, List.any_eq_false, Bool.or_eq_true, beq_iff_eq,
        not_or] at absent
      by_cases same : other = name
      · subst same
        have missing : cells.toList.find? (fun cell => cell.name == other) = none := by
          simp only [List.find?_eq_none, beq_iff_eq]
          exact fun cell member => (absent cell member).1
        simp [get?, List.find?_append, missing]
      · have different : (name == other) = false := by
          simpa using fun equal => same equal.symm
        simp [get?, List.find?_append, different, same]

/-- Writing a cell changes what is read under its name only, and nothing if
there is no such cell. -/
theorem get?_put (cells : Cells) (name value other : String) :
    (cells.put name value).get? other =
      if other = name then (cells.get? name).map fun _ => value
      else cells.get? other := by
  unfold put get?
  dsimp only
  induction cells.toList with
  | nil => simp [writeFirst]
  | cons cell later inductionHypothesis =>
      by_cases named : cell.name = name
      · subst named
        by_cases same : other = cell.name
        · simp [writeFirst, same]
        · simp [writeFirst, same, Ne.symm same]
      · have skipped : (cell :: later).find? (fun cell => cell.name == name) =
            later.find? fun cell => cell.name == name :=
          List.find?_cons_of_neg (by simp [named])
        rw [writeFirst, if_neg named, skipped]
        by_cases read : cell.name = other
        · subst read
          simp [named]
        · rw [List.find?_cons_of_neg (by simp [read]), List.find?_cons_of_neg (by simp [read]),
            inductionHypothesis]

end Cells

end AccumulatorMachine
