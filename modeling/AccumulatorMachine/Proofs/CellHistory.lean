import Mathlib.Data.List.Basic
import Mathlib.Data.List.Induction
import AccumulatorMachine.Proofs.Cells

/-!
# Histories of cells

Cells are kept in a plain list.  A definition looks through the whole list, and a read and a write
stop at the first cell with the name.  That this is the only one rests on the names being distinct
after every history of operations, refused definitions and clears included.

A definition stands if it was not refused and nothing was cleared after it.  The cells after a
history are the definitions that stand, in their order, and each of them holds what was written
last to its name after the definition.
-/

namespace AccumulatorMachine

/-- What can be asked of the cells. -/
inductive CellOperation where
  | bind (address : Int32) (name : String)
  | write (name value : String)
  | read (name : String)
  | clear
  deriving DecidableEq, Repr

/-- The value that an operation writes to a name. -/
def CellOperation.valueFor? (name : String) : CellOperation → Option String
  | write written value => if written = name then some value else none
  | _ => none

/-- Carry out an operation. -/
def CellOperation.update : CellOperation → Update Cells Unit
  | bind address name => Cells.bindM address name
  | write name value => modify fun cells => cells.put name value
  | read _ => pure ()
  | clear => set Cells.empty

namespace Cells

/-- The cells that an operation leaves, whether it is refused or not. -/
def perform (cells : Cells) (operation : CellOperation) : Cells :=
  operation.update.left cells

/-- The label that an operation defines, unless it is refused. -/
def accepted? (cells : Cells) : CellOperation → Option (Int32 × String)
  | .bind address name =>
      match cells.bind address name with
      | .ok _ => some (address, name)
      | .error _ => none
  | _ => none

/-! ## One operation -/

section

variable {cells : Cells} {operation : CellOperation} {address : Int32} {name value : String}

/-- A definition is refused exactly if its name or its address is taken, and changes nothing
then. -/
theorem run_bindM_eq_error_iff {fault : Fault} {left : Cells} :
    (bindM address name).run cells = .error fault left ↔
      (name ∈ cells.toList.map Cell.name ∨ address ∈ cells.toList.map Cell.address) ∧
        fault = Fault.about .duplicateDefinition name ∧ left = cells := by
  have taken : cells.toList.any (fun cell => cell.name == name || cell.address == address) =
      true ↔ name ∈ cells.toList.map Cell.name ∨ address ∈ cells.toList.map Cell.address := by
    simp [List.any_eq_true, and_or_left, exists_or]
  rw [← taken, bindM, Update.run_checked]
  split
  · next found => simp [found, eq_comm]
  · next absent => simp [absent]

theorem perform_of_bound {next : Cells} (bound : cells.bind address name = .ok next) :
    cells.perform (.bind address name) = next := by
  rw [perform, CellOperation.update, Update.left, Update.run_of_attempt_ok bound]

theorem perform_of_refused {fault : Fault} (refused : cells.bind address name = .error fault) :
    cells.perform (.bind address name) = cells := by
  have kept := (atomic_bindM address name).run_of_attempt_error refused
  rw [perform, CellOperation.update, Update.left, kept]

theorem perform_write (cells : Cells) (name value : String) :
    cells.perform (.write name value) = cells.put name value := rfl

theorem perform_read (cells : Cells) (name : String) : cells.perform (.read name) = cells := rfl

theorem get?_eq_none_iff :
    cells.get? name = none ↔ name ∉ cells.toList.map Cell.name := by
  simp [get?]

theorem get?_eq_none_of_bind {next : Cells} (bound : cells.bind address name = .ok next) :
    cells.get? name = none := by
  rw [get?_eq_none_iff]
  intro member
  obtain ⟨cell, inside, same⟩ := List.mem_map.mp member
  exact ((bind_eq_ok_iff.mp bound).1 cell inside).1 same

/-- No two cells share a name or an address. -/
structure Distinct (cells : Cells) : Prop where
  names : cells.DistinctNames
  addresses : (cells.toList.map Cell.address).Nodup

theorem distinct_empty : Distinct empty :=
  ⟨distinctNames_empty, List.nodup_nil⟩

theorem Distinct.perform (distinct : cells.Distinct) (operation : CellOperation) :
    (cells.perform operation).Distinct := by
  obtain ⟨names, addresses⟩ := distinct
  cases operation with
  | bind address name =>
      cases bound : cells.bind address name with
      | ok next =>
          have fresh := (bind_eq_ok_iff.mp bound).1
          rw [perform_of_bound bound]
          exact ⟨names.bind bound,
            nodup_map_of_bind addresses bound fun cell inside => (fresh cell inside).2⟩
      | error fault =>
          rw [perform_of_refused bound]
          exact ⟨names, addresses⟩
  | write name value =>
      have sameAddresses : (cells.put name value).toList.map Cell.address =
          cells.toList.map Cell.address :=
        map_writeFirst (fun _ _ => rfl) name value cells.toList
      exact ⟨names.put name value, sameAddresses ▸ addresses⟩
  | read name => exact ⟨names, addresses⟩
  | clear => exact distinct_empty

theorem labels_perform (kept : operation ≠ .clear) :
    (cells.perform operation).labels = cells.labels ++ (cells.accepted? operation).toList := by
  cases operation with
  | bind address name =>
      cases bound : cells.bind address name with
      | ok next => simp [perform_of_bound bound, accepted?, bound, labels_of_bind bound]
      | error fault => simp [perform_of_refused bound, accepted?, bound]
  | write name value => simp [perform_write, accepted?]
  | read name => simp [perform_read, accepted?]
  | clear => exact absurd rfl kept

theorem get?_perform_of_accepted (accepted : cells.accepted? operation = some (address, name)) :
    (cells.perform operation).get? name = some "" := by
  cases operation with
  | bind newAddress newName =>
      cases bound : cells.bind newAddress newName with
      | ok next =>
          simp only [accepted?, bound, Option.some.injEq, Prod.mk.injEq] at accepted
          rw [perform_of_bound bound, get?_bind bound, if_pos accepted.2.symm]
      | error fault => simp [accepted?, bound] at accepted
  | _ => cases accepted

/-- A name that can be read stays readable, and only a write to it changes what is read. -/
theorem get?_perform_of_present (kept : operation ≠ .clear)
    (present : cells.get? name = some value) :
    (cells.perform operation).get? name = some ((operation.valueFor? name).getD value) := by
  cases operation with
  | bind newAddress newName =>
      cases bound : cells.bind newAddress newName with
      | ok next =>
          have different : name ≠ newName := by
            rintro rfl
            rw [get?_eq_none_of_bind bound] at present
            cases present
          rw [perform_of_bound bound, get?_bind bound, if_neg different, present]
          rfl
      | error fault =>
          rw [perform_of_refused bound, present]
          rfl
  | write written newValue =>
      rw [perform_write, get?_put, CellOperation.valueFor?]
      by_cases same : written = name
      · subst same
        simp [present]
      · rw [if_neg (Ne.symm same), if_neg same, Option.getD_none, present]
  | read read => exact present
  | clear => exact absurd rfl kept

end

/-! ## Histories -/

/-- The cells after a history that starts with none. -/
def after (history : List CellOperation) : Cells :=
  history.foldl perform empty

/-- The label defined by the operation at a position, if the definition stands. -/
def standing? (history : List CellOperation) (index : Nat) : Option (Int32 × String) :=
  if .clear ∈ history.drop (index + 1) then none
  else history[index]?.bind (after (history.take index)).accepted?

/-- The value that operations wrote last to a name, or the empty text. -/
def lastWritten (name : String) (operations : List CellOperation) : String :=
  (operations.filterMap (CellOperation.valueFor? name)).getLastD ""

section

variable (history : List CellOperation) (operation : CellOperation)

theorem after_concat : after (history ++ [operation]) = (after history).perform operation := by
  simp [after]

theorem distinct_after : (after history).Distinct := by
  induction history using List.reverseRecOn with
  | nil => exact distinct_empty
  | append_singleton history operation inductionHypothesis =>
      rw [after_concat]
      exact inductionHypothesis.perform operation

theorem lastWritten_concat (name : String) (operations : List CellOperation) :
    lastWritten name (operations ++ [operation]) =
      (operation.valueFor? name).getD (lastWritten name operations) := by
  unfold lastWritten
  rw [List.filterMap_append]
  cases found : operation.valueFor? name with
  | none => simp [found]
  | some value => simp [found]

theorem standing?_concat_length :
    standing? (history ++ [operation]) history.length = (after history).accepted? operation := by
  simp [standing?]

theorem standing?_concat_of_lt {index : Nat} (inside : index < history.length) :
    standing? (history ++ [operation]) index =
      if operation = .clear then none else standing? history index := by
  have later : (history ++ [operation]).drop (index + 1) =
      history.drop (index + 1) ++ [operation] :=
    List.drop_append_of_le_length inside
  have earlier : (history ++ [operation]).take index = history.take index :=
    List.take_append_of_le_length (Nat.le_of_lt inside)
  unfold standing?
  rw [later, earlier, List.getElem?_append_left inside]
  by_cases cleared : operation = .clear
  · simp [cleared]
  · simp [cleared, Ne.symm cleared]

theorem standing?_of_length_le {index : Nat} (outside : history.length ≤ index) :
    standing? history index = none := by
  unfold standing?
  rw [List.getElem?_eq_none outside]
  simp

/-- The cells are the definitions that stand, in their order. -/
theorem labels_after :
    (after history).labels = (List.range history.length).filterMap (standing? history) := by
  induction history using List.reverseRecOn with
  | nil => rfl
  | append_singleton history operation inductionHypothesis =>
      rw [after_concat, List.length_append, List.length_singleton, List.range_succ,
        List.filterMap_append, List.filterMap_cons, List.filterMap_nil, standing?_concat_length]
      by_cases cleared : operation = .clear
      · subst cleared
        have fallen : (List.range history.length).filterMap
            (standing? (history ++ [.clear])) = [] := by
          rw [List.filterMap_eq_nil_iff]
          intro index inside
          rw [standing?_concat_of_lt history .clear (List.mem_range.mp inside), if_pos rfl]
        rw [fallen]
        rfl
      · have kept : (List.range history.length).filterMap
            (standing? (history ++ [operation])) =
              (List.range history.length).filterMap (standing? history) := by
          apply List.filterMap_congr
          intro index inside
          rw [standing?_concat_of_lt history operation (List.mem_range.mp inside),
            if_neg cleared]
        rw [labels_perform cleared, kept, inductionHypothesis]
        cases (after history).accepted? operation <;> rfl

/-- A name holds what was written last to it after its definition. -/
theorem get?_after {index : Nat} {address : Int32} {name : String}
    (stands : standing? history index = some (address, name)) :
    (after history).get? name = some (lastWritten name (history.drop (index + 1))) := by
  induction history using List.reverseRecOn with
  | nil => simp [standing?] at stands
  | append_singleton history operation inductionHypothesis =>
      rw [after_concat]
      rcases Nat.lt_trichotomy index history.length with inside | rfl | outside
      · rw [standing?_concat_of_lt history operation inside] at stands
        by_cases cleared : operation = .clear
        · rw [if_pos cleared] at stands
          cases stands
        · rw [if_neg cleared] at stands
          rw [get?_perform_of_present cleared (inductionHypothesis stands),
            List.drop_append_of_le_length inside, lastWritten_concat]
      · rw [standing?_concat_length] at stands
        rw [get?_perform_of_accepted stands]
        simp [lastWritten]
      · rw [standing?_of_length_le _ (by simpa using Nat.succ_le_of_lt outside)] at stands
        cases stands

/-- A name cannot be read exactly if no definition of it stands. -/
theorem get?_after_eq_none_iff (name : String) :
    (after history).get? name = none ↔
      ∀ index address, standing? history index ≠ some (address, name) := by
  have sameNames : (after history).toList.map Cell.name = (after history).labels.map Prod.snd := by
    simp [labels, Cell.label]
  rw [get?_eq_none_iff, sameNames, labels_after]
  constructor
  · intro unbound index address stands
    have inside : index < history.length := by
      by_contra outside
      rw [standing?_of_length_le history (Nat.le_of_not_lt outside)] at stands
      cases stands
    have listed : (address, name) ∈
        (List.range history.length).filterMap (standing? history) :=
      List.mem_filterMap.mpr ⟨index, List.mem_range.mpr inside, stands⟩
    exact unbound (List.mem_map.mpr ⟨_, listed, rfl⟩)
  · intro fallen member
    obtain ⟨⟨address, _⟩, listed, rfl⟩ := List.mem_map.mp member
    obtain ⟨index, _, stands⟩ := List.mem_filterMap.mp listed
    exact fallen index address stands

/-- After every history the cells are a map with distinct names and distinct addresses, in the
order of the definitions that stand.  A definition is refused exactly if its name or its address
is taken, and changes nothing then.  A name reads as the value written last to it after its
definition.  A write replaces the value of the one cell with its name, so it shows under no other
name, and without such a cell it changes nothing. -/
theorem after_is_keyed_map :
    ((after history).toList.map Cell.name).Nodup ∧
      ((after history).toList.map Cell.address).Nodup ∧
      (after history).labels = (List.range history.length).filterMap (standing? history) ∧
      (∀ address name,
        ((∃ fault left, (bindM address name).run (after history) = .error fault left) ↔
          name ∈ (after history).toList.map Cell.name ∨
            address ∈ (after history).toList.map Cell.address) ∧
        ∀ fault left, (bindM address name).run (after history) = .error fault left →
          fault = ⟨.duplicateDefinition, none, name⟩ ∧ left = after history ∧
            after (history ++ [.bind address name]) = after history) ∧
      (∀ name, (after history).get? name = none ↔
        ∀ index address, standing? history index ≠ some (address, name)) ∧
      (∀ index address name, standing? history index = some (address, name) →
        (after history).get? name = some (lastWritten name (history.drop (index + 1)))) ∧
      (∀ index cell value, (after history).toList[index]? = some cell →
        (after (history ++ [.write cell.name value])).toList =
          (after history).toList.set index { cell with value }) ∧
      (∀ name value other, other ≠ name →
        (after (history ++ [.write name value])).get? other = (after history).get? other) ∧
      ∀ name value, (after history).get? name = none →
        after (history ++ [.write name value]) = after history := by
  have distinct := distinct_after history
  refine ⟨distinct.names, distinct.addresses, labels_after history, ?_,
    get?_after_eq_none_iff history, fun _ _ _ => get?_after history, ?_, ?_, ?_⟩
  · intro address name
    constructor
    · simp only [run_bindM_eq_error_iff, exists_and_left, exists_eq, and_true]
    · intro fault left refused
      obtain ⟨taken, sameFault, rfl⟩ := run_bindM_eq_error_iff.mp refused
      refine ⟨sameFault, rfl, ?_⟩
      rw [after_concat, perform, CellOperation.update, Update.left, refused]
  · intro index cell value found
    rw [after_concat, perform_write, put_of_getElem? distinct.names found]
  · intro name value other different
    rw [after_concat, perform_write, get?_put, if_neg different]
  · intro name value unbound
    rw [after_concat, perform_write]
    apply put_of_absent
    intro cell inside same
    exact get?_eq_none_iff.mp unbound (List.mem_map.mpr ⟨cell, inside, same⟩)

/-- A history with a clear, refused definitions, and writes before and after the definitions. -/
def redefining : List CellOperation :=
  [.bind 0 "x", .write "x" "old", .clear, .write "x" "early", .bind 1 "y", .bind 1 "x",
    .bind 2 "x", .write "x" "first", .write "z" "none", .bind 3 "x", .read "y",
    .write "x" "last"]

theorem after_is_keyed_map_redefining :
    standing? redefining 6 = some (2, "x") ∧
      (after redefining).labels = [(1, "y"), (2, "x")] ∧
      (after redefining).get? "x" = some "last" ∧
      (after redefining).get? "z" = none ∧
      after (redefining ++ [.write "z" "none"]) = after redefining := by
  obtain ⟨_, _, labels, _, _, read, _, _, unbound⟩ := after_is_keyed_map redefining
  have stands : standing? redefining 6 = some (2, "x") := by decide
  have absent : (after redefining).get? "z" = none := by decide
  exact ⟨stands, labels, read 6 2 "x" stands, absent, unbound "z" "none" absent⟩

end

end Cells

end AccumulatorMachine
