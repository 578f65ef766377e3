/-!
# Ranges of code points

Character classes are kept as closed ranges of code points in ascending order.
A lookup walks the ranges from the left and gives up at the first range that
starts above the character, so a class that begins with the ASCII letters
answers quickly for ordinary text.
-/

namespace AccumulatorMachine.Text

/-- Membership of a code point in ascending closed ranges. -/
def inRanges : List (Nat × Nat) → Nat → Bool
  | [], _ => false
  | (first, last) :: rest, code =>
      if code < first then false
      else if code ≤ last then true
      else inRanges rest code

/-- The ranges start at `bound` or later, are nonempty, and leave a gap between
neighbours. -/
def ascendingFrom (bound : Nat) : List (Nat × Nat) → Bool
  | [] => true
  | (first, last) :: rest =>
      decide (bound ≤ first) && decide (first ≤ last) && ascendingFrom (last + 2) rest

/-- The number of code points in ranges that do not overlap. -/
def countRanges (ranges : List (Nat × Nat)) : Nat :=
  ranges.foldr (fun range total => range.2 + 1 - range.1 + total) 0

private theorem bound_le_of_mem {bound : Nat} {ranges : List (Nat × Nat)}
    (ascending : ascendingFrom bound ranges = true)
    {range : Nat × Nat} (member : range ∈ ranges) :
    bound ≤ range.1 := by
  induction ranges generalizing bound with
  | nil => cases member
  | cons head tail inductionHypothesis =>
      simp only [ascendingFrom, Bool.and_eq_true, decide_eq_true_eq] at ascending
      obtain ⟨⟨lower, ordered⟩, tailAscending⟩ := ascending
      rcases List.mem_cons.mp member with same | later
      · rw [same]
        exact lower
      · have := inductionHypothesis tailAscending later
        omega

/-- In ascending ranges the early exit of a lookup loses nothing. -/
theorem inRanges_iff_exists {bound : Nat} {ranges : List (Nat × Nat)}
    (ascending : ascendingFrom bound ranges = true) (code : Nat) :
    inRanges ranges code = true ↔
      ∃ range ∈ ranges, range.1 ≤ code ∧ code ≤ range.2 := by
  induction ranges generalizing bound with
  | nil => simp [inRanges]
  | cons head tail inductionHypothesis =>
      obtain ⟨first, last⟩ := head
      simp only [ascendingFrom, Bool.and_eq_true, decide_eq_true_eq] at ascending
      obtain ⟨⟨_, ordered⟩, tailAscending⟩ := ascending
      simp only [List.mem_cons, exists_eq_or_imp, inRanges]
      by_cases below : code < first
      · rw [if_pos below]
        constructor
        · intro impossible
          cases impossible
        · rintro (⟨lower, _⟩ | ⟨range, member, lower, _⟩)
          · omega
          · have := bound_le_of_mem tailAscending member
            omega
      · rw [if_neg below]
        by_cases within : code ≤ last
        · rw [if_pos within]
          exact ⟨fun _ => Or.inl ⟨by omega, within⟩, fun _ => rfl⟩
        · rw [if_neg within, inductionHypothesis tailAscending]
          constructor
          · exact Or.inr
          · rintro (⟨_, upper⟩ | later)
            · exact absurd upper within
            · exact later

end AccumulatorMachine.Text
