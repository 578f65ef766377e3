import Mathlib.Data.Int.ModEq
import AccumulatorMachine.Proofs.IntegerText

/-!
# Chains of sums, differences and products

A chain applies operations one after another, each to the text that the last one has
given.  Every step wraps around and every value in between goes through its decimal text.
Neither is seen from outside: as long as the operands are numbers, the final text is that
of the one word that is congruent to the result in integers.

The words are the image of the integers under `Int32.ofInt`, which respects all three
operations, and a word is read back from its text.  So the text after each step stands
for the image of the integer after that step.
-/

namespace AccumulatorMachine

/-- The operations that wrap around. -/
inductive RingOp where
  | add
  | sub
  | mul
  deriving DecidableEq, Repr

namespace RingOp

def toArith : RingOp → ArithOp
  | add => .add
  | sub => .sub
  | mul => .mul

def onWords : RingOp → Int32 → Int32 → Int32
  | add, lhs, rhs => lhs + rhs
  | sub, lhs, rhs => lhs - rhs
  | mul, lhs, rhs => lhs * rhs

def onInts : RingOp → Int → Int → Int
  | add, lhs, rhs => lhs + rhs
  | sub, lhs, rhs => lhs - rhs
  | mul, lhs, rhs => lhs * rhs

theorem ofInt_onInts (op : RingOp) (lhs rhs : Int) :
    Int32.ofInt (op.onInts lhs rhs) = op.onWords (Int32.ofInt lhs) (Int32.ofInt rhs) := by
  cases op with
  | add => exact Int32.ofInt_add lhs rhs
  | sub => exact Int32.ofInt_sub lhs rhs
  | mul => exact Int32.ofInt_mul lhs rhs

theorem apply_eq (op : RingOp) (lhs rhs : String) :
    op.toArith.apply lhs rhs = do
      let l ← Integer.read lhs
      let r ← Integer.read rhs
      return some (wordText (op.onWords l r)) := by
  cases op <;> rfl

end RingOp

/-- The words that are congruent to an integer. -/
theorem toInt_modEq_iff {word : Int32} {value : Int} :
    word.toInt ≡ value [ZMOD 2 ^ 32] ↔ word = Int32.ofInt value := by
  constructor
  · intro congruent
    have balanced : word.toInt.bmod (2 ^ 32) = value.bmod (2 ^ 32) := by
      rw [← Int.emod_bmod, ← Int.emod_bmod value]
      exact congrArg (Int.bmod · (2 ^ 32)) congruent
    rw [eq_comm, Int32.ofInt_eq_iff_bmod_eq_toInt, ← balanced]
    exact word.toInt_bmod
  · rintro rfl
    rw [Int32.toInt_ofInt]
    exact Int.bmod_emod

namespace Chain

structure Link where
  op : RingOp
  operand : String

/-- Apply the links to a text, one after another. -/
def run : String → List Link → Except Fault (Option String)
  | start, [] => .ok (some start)
  | start, link :: links => do
      match ← link.op.toArith.apply start link.operand with
      | some value => run value links
      | none => return none

/-- The operands of the links are read as these words. -/
def Accepted (links : List Link) (values : List Int32) : Prop :=
  List.Forall₂ (fun link value => Integer.read link.operand = .ok value) links values

/-- The same chain in integers. -/
def onInts : Int → List Link → List Int32 → Int
  | sofar, link :: links, value :: values =>
      onInts (link.op.onInts sofar value.toInt) links values
  | sofar, _, _ => sofar

variable {start : String} {link : Link} {links : List Link}

theorem run_cons {first value : Int32} (readStart : Integer.read start = .ok first)
    (readOperand : Integer.read link.operand = .ok value) :
    run start (link :: links) = run (wordText (link.op.onWords first value)) links := by
  rw [run, link.op.apply_eq, readStart, readOperand]
  rfl

/-- After each link the text stands for the image of the integer. -/
theorem exists_run_eq_ok {sofar : Int} {values : List Int32}
    (accepted : Accepted links values)
    (readStart : Integer.read start = .ok (Int32.ofInt sofar)) :
    ∃ final, run start links = .ok (some final) ∧
      (links ≠ [] → final = wordText (Int32.ofInt (onInts sofar links values))) := by
  induction accepted generalizing start sofar with
  | nil => exact ⟨start, rfl, fun nonempty => absurd rfl nonempty⟩
  | @cons link value links values readOperand others inductionHypothesis =>
      have image : link.op.onWords (Int32.ofInt sofar) value =
          Int32.ofInt (link.op.onInts sofar value.toInt) := by
        rw [link.op.ofInt_onInts, Int32.ofInt_toInt]
      rw [run_cons readStart readOperand, image, onInts]
      obtain ⟨final, done, text⟩ := inductionHypothesis
        (Integer.read_wordText (Int32.ofInt (link.op.onInts sofar value.toInt)))
      refine ⟨final, done, fun _ => ?_⟩
      cases others with
      | nil =>
          cases done
          rfl
      | cons _ _ => exact text (List.cons_ne_nil _ _)

/-- The first operand that cannot be read breaks the chain off. -/
theorem run_eq_error {before : List Link} {first : Int32} {fault : Fault}
    (readStart : Integer.read start = .ok first)
    (earlierRead : ∀ earlier ∈ before, ∃ value, Integer.read earlier.operand = .ok value)
    (unread : Integer.read link.operand = .error fault) :
    run start (before ++ link :: links) = .error fault := by
  induction before generalizing start first with
  | nil =>
      rw [List.nil_append, run, link.op.apply_eq, readStart, unread]
      rfl
  | cons earlier before inductionHypothesis =>
      obtain ⟨value, readOperand⟩ := earlierRead earlier List.mem_cons_self
      rw [List.cons_append, run_cons readStart readOperand]
      exact inductionHypothesis (Integer.read_wordText _)
        fun other member => earlierRead other (List.mem_cons_of_mem earlier member)

/-- A chain of sums, differences and products is exact modulo `2 ^ 32`.  It never fails
if every operand is a number, and a chain that is not empty then ends with the decimal
text of the one word that is congruent to the result in integers.  Otherwise it fails with
the fault of the first operand that is no number. -/
theorem run_modEq {first : Int32} (readStart : Integer.read start = .ok first)
    (links : List Link) :
    (∀ values, Accepted links values →
      ∃ final, run start links = .ok (some final) ∧
        (links ≠ [] → ∃ word : Int32, final = wordText word ∧
          word.toInt ≡ onInts first.toInt links values [ZMOD 2 ^ 32] ∧
          ∀ other : Int32, other.toInt ≡ onInts first.toInt links values [ZMOD 2 ^ 32] →
            other = word)) ∧
    ∀ before link after fault, links = before ++ link :: after →
      (∀ earlier ∈ before, ∃ value, Integer.read earlier.operand = .ok value) →
      Integer.read link.operand = .error fault → run start links = .error fault := by
  constructor
  · intro values accepted
    have readImage : Integer.read start = .ok (Int32.ofInt first.toInt) := by
      rw [readStart, Int32.ofInt_toInt]
    obtain ⟨final, done, text⟩ := exists_run_eq_ok accepted readImage
    refine ⟨final, done, fun nonempty => ⟨_, text nonempty, toInt_modEq_iff.mpr rfl, ?_⟩⟩
    intro other congruent
    exact toInt_modEq_iff.mp congruent
  · rintro before link after fault rfl earlierRead unread
    exact run_eq_error readStart earlierRead unread

/-- The greatest word squared, less a number with blanks around it. -/
def squareLess (operand : String) : List Link :=
  [⟨.mul, "+2147483647"⟩, ⟨.sub, operand⟩, ⟨.add, "-0"⟩]

theorem run_modEq_squareLess :
    Integer.read " 2147483647" = .ok 2147483647 ∧
      Accepted (squareLess "3\t") [2147483647, 3, 0] ∧
      onInts 2147483647 (squareLess "3\t") [2147483647, 3, 0] = 4611686014132420606 ∧
      (∃ final word, run " 2147483647" (squareLess "3\t") = .ok (some final) ∧
        final = wordText word ∧ word.toInt ≡ 4611686014132420606 [ZMOD 2 ^ 32] ∧
          word.toInt = -2) ∧
      run " 2147483647" (squareLess "x") = .error (Fault.about .typeMismatch "\"x\"") := by
  have readStart : Integer.read " 2147483647" = .ok 2147483647 := rfl
  have accepted : Accepted (squareLess "3\t") [2147483647, 3, 0] :=
    .cons rfl (.cons rfl (.cons rfl .nil))
  obtain ⟨wrapped, _⟩ := run_modEq readStart (squareLess "3\t")
  obtain ⟨_, broken⟩ := run_modEq readStart (squareLess "x")
  obtain ⟨final, done, text⟩ := wrapped _ accepted
  obtain ⟨word, same, congruent, unique⟩ := text nofun
  have value : onInts 2147483647 (squareLess "3\t") [2147483647, 3, 0] = 4611686014132420606 :=
    by decide
  refine ⟨readStart, accepted, value, ⟨final, word, done, same, congruent, ?_⟩, ?_⟩
  · rw [← unique (-2) (by decide)]
    rfl
  · refine broken [⟨.mul, "+2147483647"⟩] ⟨.sub, "x"⟩ [⟨.add, "-0"⟩] _ rfl ?_ rfl
    rintro _ (_ | ⟨_, ⟨⟩⟩)
    exact ⟨2147483647, rfl⟩

end Chain

end AccumulatorMachine
