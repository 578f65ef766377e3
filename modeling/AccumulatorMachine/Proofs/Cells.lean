import AccumulatorMachine.Store.Cells

/-!
# Labels of cells

The label of a cell is its address and its name.  A definition adds a label at the
end, and a write adds none: it replaces the value behind one of them.  Labels alone
decide whether a definition is refused.
-/

namespace AccumulatorMachine

namespace Cell

def label (cell : Cell) : Int32 × String :=
  (cell.address, cell.name)

end Cell

namespace Cells

/-- The labels in the order of definition. -/
def labels (cells : Cells) : List (Int32 × String) :=
  cells.toList.map Cell.label

/-- No two cells have the same name. -/
def DistinctNames (cells : Cells) : Prop :=
  (cells.toList.map Cell.name).Nodup

variable {cells next : Cells} {address : Int32} {name value : String}

theorem bind_eq_ok_iff :
    cells.bind address name = .ok next ↔
      (∀ cell ∈ cells.toList, cell.name ≠ name ∧ cell.address ≠ address) ∧
        next = ⟨cells.toList ++ [⟨address, name, ""⟩]⟩ := by
  rw [bind_eq]
  by_cases taken : cells.toList.any
      (fun cell => cell.name == name || cell.address == address) = true
  · rw [if_pos taken]
    obtain ⟨cell, member, same⟩ := List.any_eq_true.mp taken
    simp only [Bool.or_eq_true, beq_iff_eq] at same
    constructor
    · intro impossible
      cases impossible
    · rintro ⟨free, _⟩
      obtain ⟨otherName, otherAddress⟩ := free cell member
      exact absurd same (not_or.mpr ⟨otherName, otherAddress⟩)
  · rw [if_neg taken]
    simp only [Bool.not_eq_true, List.any_eq_false, Bool.or_eq_true, beq_iff_eq,
      not_or] at taken
    constructor
    · intro bound
      cases bound
      exact ⟨taken, rfl⟩
    · rintro ⟨_, rfl⟩
      rfl

theorem labels_of_bind (bound : cells.bind address name = .ok next) :
    next.labels = cells.labels ++ [(address, name)] := by
  obtain ⟨_, rfl⟩ := bind_eq_ok_iff.mp bound
  simp [labels, Cell.label]

/-- A write changes nothing that does not depend on values. -/
theorem map_writeFirst {κ : Type} {key : Cell → κ}
    (kept : ∀ (cell : Cell) (value : String), key { cell with value } = key cell)
    (name value : String) (cells : List Cell) :
    (writeFirst name value cells).map key = cells.map key := by
  induction cells with
  | nil => rfl
  | cons cell later inductionHypothesis =>
      by_cases named : cell.name = name
      · rw [writeFirst, if_pos named, List.map_cons, List.map_cons, kept]
      · rw [writeFirst, if_neg named, List.map_cons, List.map_cons, inductionHypothesis]

/-- A cell after a write is one from before or holds the new value. -/
theorem mem_put {cell : Cell} (member : cell ∈ (cells.put name value).toList) :
    cell ∈ cells.toList ∨ ∃ earlier ∈ cells.toList, cell = { earlier with value } := by
  obtain ⟨list⟩ := cells
  simp only [put] at member ⊢
  induction list with
  | nil => cases member
  | cons first later inductionHypothesis =>
      by_cases named : first.name = name
      · rw [writeFirst, if_pos named, List.mem_cons] at member
        rcases member with rfl | inside
        · exact Or.inr ⟨first, List.mem_cons_self, rfl⟩
        · exact Or.inl (List.mem_cons_of_mem first inside)
      · rw [writeFirst, if_neg named, List.mem_cons] at member
        rcases member with rfl | inside
        · exact Or.inl List.mem_cons_self
        · rcases inductionHypothesis inside with kept | ⟨earlier, present, same⟩
          · exact Or.inl (List.mem_cons_of_mem first kept)
          · exact Or.inr ⟨earlier, List.mem_cons_of_mem first present, same⟩

@[simp]
theorem labels_put (cells : Cells) (name value : String) :
    (cells.put name value).labels = cells.labels :=
  map_writeFirst (fun _ _ => rfl) name value cells.toList

/-! ## Distinct names -/

theorem distinctNames_empty : DistinctNames empty :=
  List.nodup_nil

/-- A definition with a new key keeps keys distinct. -/
theorem nodup_map_of_bind {κ : Type} {key : Cell → κ}
    (distinct : (cells.toList.map key).Nodup) (bound : cells.bind address name = .ok next)
    (fresh : ∀ cell ∈ cells.toList, key cell ≠ key ⟨address, name, ""⟩) :
    (next.toList.map key).Nodup := by
  obtain ⟨_, rfl⟩ := bind_eq_ok_iff.mp bound
  rw [List.map_append, List.map_singleton]
  refine List.nodup_append.mpr ⟨distinct, by simp, ?_⟩
  intro earlier member later last same
  obtain ⟨cell, inside, rfl⟩ := List.mem_map.mp member
  rw [List.mem_singleton] at last
  exact fresh cell inside (same.trans last)

theorem DistinctNames.bind (distinct : cells.DistinctNames)
    (bound : cells.bind address name = .ok next) : next.DistinctNames :=
  nodup_map_of_bind distinct bound fun cell inside => ((bind_eq_ok_iff.mp bound).1 cell inside).1

theorem DistinctNames.put (distinct : cells.DistinctNames) (name value : String) :
    (cells.put name value).DistinctNames := by
  have sameNames : (cells.put name value).toList.map Cell.name =
      cells.toList.map Cell.name :=
    map_writeFirst (fun _ _ => rfl) name value cells.toList
  unfold DistinctNames
  rw [sameNames]
  exact distinct

/-- A write under a name that no cell has does nothing. -/
theorem put_of_absent (absent : ∀ cell ∈ cells.toList, cell.name ≠ name) (value : String) :
    cells.put name value = cells := by
  have unwritten {list : List Cell} (absent : ∀ cell ∈ list, cell.name ≠ name) :
      writeFirst name value list = list := by
    induction list with
    | nil => rfl
    | cons cell later inductionHypothesis =>
        obtain ⟨first, others⟩ := List.forall_mem_cons.mp absent
        rw [writeFirst, if_neg first, inductionHypothesis others]
  unfold put
  rw [unwritten absent]

/-- With distinct names the first cell with a name is the only one. -/
theorem writeFirst_of_getElem? {list : List Cell} (distinct : (list.map Cell.name).Nodup)
    {index : Nat} {cell : Cell} (found : list[index]? = some cell) (value : String) :
    writeFirst cell.name value list = list.set index { cell with value } := by
  induction list generalizing index with
  | nil => cases found
  | cons first later inductionHypothesis =>
      obtain ⟨new, laterDistinct⟩ := List.nodup_cons.mp distinct
      cases index with
      | zero =>
          cases found
          rw [writeFirst, if_pos rfl, List.set_cons_zero]
      | succ index =>
          rw [List.getElem?_cons_succ] at found
          have different : first.name ≠ cell.name := by
            intro same
            rw [same] at new
            exact new (List.mem_map_of_mem (List.mem_of_getElem? found))
          rw [writeFirst, if_neg different, inductionHypothesis laterDistinct found,
            List.set_cons_succ]

/-- With distinct names a write replaces the value of exactly one cell. -/
theorem put_of_getElem? (distinct : cells.DistinctNames) {index : Nat} {cell : Cell}
    (found : cells.toList[index]? = some cell) (value : String) :
    cells.put cell.name value = ⟨cells.toList.set index { cell with value }⟩ :=
  congrArg Cells.mk (writeFirst_of_getElem? distinct found value)

end Cells

end AccumulatorMachine
