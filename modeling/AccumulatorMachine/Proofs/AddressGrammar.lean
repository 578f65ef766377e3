import Mathlib.Data.List.Induction
import Mathlib.Data.List.TakeWhile
import Mathlib.Data.Nat.Digits.Defs
import AccumulatorMachine.Instruction.Address

/-!
# The grammar of addresses

An address expression is an ampersand, a base of word characters, a plus sign and the
digits of an offset, which go on as far as digits follow.  It may stand anywhere in a
text.  Reading a text takes the rightmost expression, decides by its offset alone, and
fails for want of an expression only if there is none.

The reader works on characters.  A reader that works on bytes cuts the text behind an
ampersand, behind a base and behind digits; that all these cuts fall on character
boundaries, whatever the base is made of, is shown by comparing it with the first one.
-/

namespace AccumulatorMachine.Address

/-! ## Expressions -/

/-- The characters begin with an address expression whose offset has the given digits. -/
def Expression (s digits : List Char) : Prop :=
  ∃ base rest, s = '&' :: (base ++ '+' :: (digits ++ rest)) ∧
    base ≠ [] ∧ (∀ c ∈ base, Text.isWordChar c = true) ∧
    digits ≠ [] ∧ (∀ c ∈ digits, c.isDigit = true) ∧
    ∀ c ∈ rest.head?, c.isDigit = false

/-- An expression with the given digits begins at a position of a text. -/
def GoodAt (s : String) (position : Nat) (digits : List Char) : Prop :=
  Expression (s.toList.drop position) digits

/-- No expression begins at a later position. -/
def RightmostAt (s : String) (position : Nat) (digits : List Char) : Prop :=
  GoodAt s position digits ∧
    ∀ later others, position < later → ¬ GoodAt s later others

/-- The value of decimal digits, the last of which counts for ones. -/
def decimal (digits : List Char) : Nat :=
  Nat.ofDigits 10 (digits.reverse.map fun c => c.toNat - '0'.toNat)

section

variable {p : Char → Bool} {run rest : List Char}

theorem takeWhile_run (inside : ∀ c ∈ run, p c = true)
    (ends : ∀ c ∈ rest.head?, p c = false) : (run ++ rest).takeWhile p = run := by
  rw [List.takeWhile_append_of_pos inside]
  cases rest with
  | nil => simp
  | cons c rest => simp [ends c rfl]

theorem dropWhile_run (inside : ∀ c ∈ run, p c = true)
    (ends : ∀ c ∈ rest.head?, p c = false) : (run ++ rest).dropWhile p = rest := by
  rw [List.dropWhile_append_of_pos inside]
  cases rest with
  | nil => rfl
  | cons c rest => simp [ends c rfl]

end

theorem offsetDigits_eq_some_iff {s digits : List Char} :
    offsetDigits s = some digits ↔ Expression ('&' :: s) digits := by
  constructor
  · intro found
    unfold offsetDigits at found
    split at found
    · next first base rest baseRun afterBase =>
        split at found
        · cases found
        · next nonempty =>
            cases found
            refine ⟨s.takeWhile Text.isWordChar, rest.dropWhile Char.isDigit, ?_, ?_, ?_, ?_, ?_, ?_⟩
            · rw [List.takeWhile_append_dropWhile, ← afterBase, List.takeWhile_append_dropWhile]
            · simp [baseRun]
            · exact fun _ => List.mem_takeWhile_imp
            · exact nonempty
            · exact fun _ => List.mem_takeWhile_imp
            · intro c first
              have ends := List.head?_dropWhile_not Char.isDigit rest
              rw [first] at ends
              exact ends
    · cases found
  · rintro ⟨base, rest, same, baseNonempty, inBase, digitsNonempty, inDigits, ends⟩
    obtain rfl : s = base ++ '+' :: (digits ++ rest) := (List.cons.inj same).2
    have plus : ∀ c ∈ ('+' :: (digits ++ rest)).head?, Text.isWordChar c = false := by
      rintro c ⟨⟩
      rfl
    unfold offsetDigits
    rw [takeWhile_run inBase plus, dropWhile_run inBase plus]
    cases base with
    | nil => exact absurd rfl baseNonempty
    | cons first base =>
        simp only [takeWhile_run inDigits ends]

/-! ## The rightmost expression -/

theorem lastOffset_cons_eq_none_iff {c : Char} {rest : List Char} :
    lastOffset (c :: rest) = none ↔
      lastOffset rest = none ∧ ∀ digits, ¬ Expression (c :: rest) digits := by
  rw [lastOffset]
  cases lastOffset rest with
  | some digits => simp
  | none =>
      by_cases ampersand : c = '&'
      · subst ampersand
        simp [← offsetDigits_eq_some_iff, Option.eq_none_iff_forall_ne_some]
      · simp [Expression, ampersand]

theorem lastOffset_eq_none_iff {s : List Char} :
    lastOffset s = none ↔ ∀ position digits, ¬ Expression (s.drop position) digits := by
  induction s with
  | nil => simp [lastOffset, Expression]
  | cons c rest inductionHypothesis =>
      rw [lastOffset_cons_eq_none_iff, inductionHypothesis]
      constructor
      · rintro ⟨later, first⟩ position
        cases position with
        | zero => exact first
        | succ position => exact later position
      · intro none
        exact ⟨fun position => none (position + 1), none 0⟩

theorem lastOffset_of_rightmost {s digits : List Char} {position : Nat}
    (good : Expression (s.drop position) digits)
    (last : ∀ later others, position < later → ¬ Expression (s.drop later) others) :
    lastOffset s = some digits := by
  induction s generalizing position with
  | nil => simp [Expression] at good
  | cons c rest inductionHypothesis =>
      cases position with
      | zero =>
          have noLater : lastOffset rest = none :=
            lastOffset_eq_none_iff.mpr fun later others =>
              last (later + 1) others (Nat.zero_lt_succ later)
          obtain ⟨base, tail, same, grammar⟩ := good
          obtain ⟨rfl, rfl⟩ := List.cons.inj same
          rw [lastOffset, noLater]
          exact offsetDigits_eq_some_iff.mpr ⟨base, tail, rfl, grammar⟩
      | succ position =>
          have found : lastOffset rest = some digits :=
            inductionHypothesis good fun later others further =>
              last (later + 1) others (Nat.succ_lt_succ further)
          rw [lastOffset, found]

theorem exists_rightmost {s digits : List Char} (found : lastOffset s = some digits) :
    ∃ position, Expression (s.drop position) digits ∧
      ∀ later others, position < later → ¬ Expression (s.drop later) others := by
  induction s with
  | nil => cases found
  | cons c rest inductionHypothesis =>
      rw [lastOffset] at found
      cases further : lastOffset rest with
      | some others =>
          rw [further] at found
          obtain ⟨position, good, last⟩ := inductionHypothesis (further.trans found)
          refine ⟨position + 1, good, ?_⟩
          intro later others beyond
          cases later with
          | zero => exact absurd beyond (Nat.not_lt_zero _)
          | succ later => exact last later others (Nat.lt_of_succ_lt_succ beyond)
      | none =>
          rw [further] at found
          dsimp only at found
          split at found
          · next ampersand =>
              subst ampersand
              refine ⟨0, offsetDigits_eq_some_iff.mp found, ?_⟩
              intro later others beyond
              cases later with
              | zero => exact absurd beyond (Nat.lt_irrefl _)
              | succ later => exact lastOffset_eq_none_iff.mp further later others
          · cases found

/-! ## Offsets -/

theorem ofDigitChars_eq_decimal (digits : List Char) :
    Nat.ofDigitChars 10 digits 0 = decimal digits := by
  induction digits using List.reverseRecOn with
  | nil => rfl
  | append_singleton digits digit inductionHypothesis =>
      rw [Nat.ofDigitChars_append, inductionHypothesis]
      simp [decimal, Nat.ofDigitChars_cons, Nat.ofDigits_cons, Nat.add_comm]

theorem decimal_toDigits (value : Nat) : decimal (Nat.toDigits 10 value) = value := by
  rw [← ofDigitChars_eq_decimal, Nat.ofDigitChars_ten_toDigits]

theorem isDigit_of_mem_toDigits {value : Nat} :
    ∀ c ∈ Nat.toDigits 10 value, c.isDigit = true :=
  fun _ => Nat.isDigit_of_mem_toDigits (by decide) (by decide)

theorem read_of_lastOffset {s : String} {digits : List Char}
    (found : lastOffset s.toList = some digits) :
    (decimal digits ≤ 2147483647 →
        ∃ offset, read s = .ok offset ∧ offset.toInt = decimal digits) ∧
      (2147483647 < decimal digits → read s = .error (Fault.about .overflow s)) := by
  unfold read
  rw [found]
  dsimp only
  rw [ofDigitChars_eq_decimal]
  constructor
  · intro small
    rw [if_pos small]
    exact ⟨_, rfl, Int32.toInt_ofNat_of_lt (by omega)⟩
  · intro large
    rw [if_neg (by omega)]

/-! ## Cutting between bytes -/

/-- The text from a byte on, which must not lie inside a character. -/
def sliceFrom? (s : String) (byte : Nat) : Option String :=
  if boundary : (String.Pos.Raw.mk byte).IsValid s then
    some (s.sliceFrom (s.pos ⟨byte⟩ boundary)).copy
  else none

/-- The text before a byte, which must not lie inside a character. -/
def sliceTo? (s : String) (byte : Nat) : Option String :=
  if boundary : (String.Pos.Raw.mk byte).IsValid s then
    some (s.sliceTo (s.pos ⟨byte⟩ boundary)).copy
  else none

/-- The bytes at which ampersands stand, if the first character stands at `start`. -/
def ampersands (start : Nat) : List Char → List Nat
  | [] => []
  | c :: rest => (if c = '&' then [start] else []) ++ ampersands (start + c.utf8Size) rest

/-- The digits of the offset, cut out of the text behind an ampersand; `none` if a cut
falls inside a character. -/
def cutDigits (s : String) : Option (Option String) := do
  let baseSize := ((s.toList.takeWhile Text.isWordChar).map Char.utf8Size).sum
  if baseSize = 0 then
    return none
  let behind ← sliceFrom? s baseSize
  match behind.toList with
  | '+' :: rest =>
      let count := (rest.takeWhile Char.isDigit).length
      if count = 0 then
        return none
      return some (← sliceTo? (String.ofList rest) count)
  | _ => return none

/-- The digits found behind the first of some bytes that has an expression. -/
def cutFirst (s : String) : List Nat → Option (Option String)
  | [] => some none
  | start :: others => do
      match ← cutDigits (← sliceFrom? s (start + 1)) with
      | some digits => return some digits
      | none => cutFirst s others

/-- The offset of the rightmost expression, cut out of the text byte by byte. -/
def readCutting (s : String) : Option (Except Fault Int32) := do
  match ← cutFirst s (ampersands 0 s.toList).reverse with
  | none => return .error (Fault.about .badAddress s)
  | some digits =>
      let offset := Nat.ofDigitChars 10 digits.toList 0
      return if offset ≤ 2147483647 then .ok (Int32.ofNat offset)
        else .error (Fault.about .overflow s)

theorem utf8ByteSize_ofList (chars : List Char) :
    (String.ofList chars).utf8ByteSize = (chars.map Char.utf8Size).sum := by
  induction chars with
  | nil => rfl
  | cons c chars inductionHypothesis =>
      simp [String.ofList_cons, String.utf8ByteSize_append, inductionHypothesis]

theorem isValid_append (before after : String) :
    (String.Pos.Raw.mk before.utf8ByteSize).IsValid (before ++ after) :=
  String.Pos.Raw.isValid_iff_exists_append.mpr ⟨before, after, rfl, rfl⟩

theorem sliceFrom?_append (before after : List Char) :
    sliceFrom? (String.ofList (before ++ after)) (before.map Char.utf8Size).sum =
      some (String.ofList after) := by
  rw [← utf8ByteSize_ofList, String.ofList_append, sliceFrom?, dif_pos (isValid_append _ _)]
  exact congrArg some (String.Pos.Splits.copy_sliceFrom_eq ⟨rfl, rfl⟩)

theorem sliceTo?_append (before after : List Char) :
    sliceTo? (String.ofList (before ++ after)) (before.map Char.utf8Size).sum =
      some (String.ofList before) := by
  rw [← utf8ByteSize_ofList, String.ofList_append, sliceTo?, dif_pos (isValid_append _ _)]
  exact congrArg some (String.Pos.Splits.copy_sliceTo_eq ⟨rfl, rfl⟩)

/-- A digit is one byte, so digits can be counted for their bytes. -/
theorem sum_utf8Size_of_isDigit {digits : List Char} (inDigits : ∀ c ∈ digits, c.isDigit = true) :
    (digits.map Char.utf8Size).sum = digits.length := by
  induction digits with
  | nil => rfl
  | cons digit digits inductionHypothesis =>
      have single : digit.utf8Size = 1 := by
        have bounds := inDigits digit List.mem_cons_self
        simp only [Char.isDigit, ge_iff_le, Bool.and_eq_true, decide_eq_true_eq] at bounds
        exact Char.utf8Size_eq_one_iff.mpr (UInt32.le_trans bounds.2 (by decide))
      rw [List.map_cons, List.sum_cons, single,
        inductionHypothesis fun c member => inDigits c (List.mem_cons_of_mem _ member),
        List.length_cons, Nat.add_comm]

theorem sum_utf8Size_eq_zero_iff {chars : List Char} :
    (chars.map Char.utf8Size).sum = 0 ↔ chars = [] := by
  cases chars with
  | nil => simp
  | cons c chars =>
      have positive := c.utf8Size_pos
      rw [List.map_cons, List.sum_cons]
      constructor
      · intro nothing
        omega
      · intro impossible
        cases impossible

theorem sliceTo?_digits (rest : List Char) :
    sliceTo? (String.ofList rest) (rest.takeWhile Char.isDigit).length =
      some (String.ofList (rest.takeWhile Char.isDigit)) := by
  have counted : ((rest.takeWhile Char.isDigit).map Char.utf8Size).sum =
      (rest.takeWhile Char.isDigit).length :=
    sum_utf8Size_of_isDigit fun _ => List.mem_takeWhile_imp
  have cut := sliceTo?_append (rest.takeWhile Char.isDigit) (rest.dropWhile Char.isDigit)
  rwa [List.takeWhile_append_dropWhile, counted] at cut

theorem cutDigits_ofList (chars : List Char) :
    cutDigits (String.ofList chars) = some ((offsetDigits chars).map String.ofList) := by
  have behindBase := sliceFrom?_append (chars.takeWhile Text.isWordChar)
    (chars.dropWhile Text.isWordChar)
  rw [List.takeWhile_append_dropWhile] at behindBase
  unfold cutDigits offsetDigits
  simp only [String.toList_ofList, behindBase, sum_utf8Size_eq_zero_iff]
  cases chars.takeWhile Text.isWordChar with
  | nil => rfl
  | cons first base =>
      simp only [reduceCtorEq, if_false, Option.pure_def, Option.bind_eq_bind, Option.bind_some,
        String.toList_ofList]
      generalize chars.dropWhile Text.isWordChar = behind
      split
      · next rest =>
          simp only [sliceTo?_digits, Option.bind_some]
          cases rest.takeWhile Char.isDigit with
          | nil => rfl
          | cons digit digits => simp
      · next noPlus =>
          split
          · exact absurd rfl (noPlus _)
          · rfl

theorem cutFirst_ampersands {s : String} {before chars : List Char} (earlier : List Nat)
    (whole : s = String.ofList (before ++ chars)) :
    cutFirst s ((ampersands (before.map Char.utf8Size).sum chars).reverse ++ earlier) =
      match lastOffset chars with
      | some digits => some (some (String.ofList digits))
      | none => cutFirst s earlier := by
  induction chars generalizing before earlier with
  | nil => rfl
  | cons c rest inductionHypothesis =>
      have start : (before.map Char.utf8Size).sum + c.utf8Size =
          ((before ++ [c]).map Char.utf8Size).sum := by simp
      -- from the right: the ampersands of the rest, then `c` if it is one, then `earlier`
      rw [ampersands, List.reverse_append, List.append_assoc, start,
        inductionHypothesis _ (by simpa using whole), lastOffset]
      cases lastOffset rest with
      | some digits => rfl
      | none =>
          by_cases ampersand : c = '&'
          · subst ampersand
            have behind := sliceFrom?_append (before ++ ['&']) rest
            rw [List.append_assoc, List.singleton_append, ← whole, ← start] at behind
            have size : '&'.utf8Size = 1 := by decide
            simp only [if_true, List.reverse_singleton, List.singleton_append]
            rw [cutFirst, ← size, behind]
            simp only [Option.bind_eq_bind, Option.bind_some, cutDigits_ofList]
            cases offsetDigits rest with
            | none => simp
            | some digits => simp
          · simp [ampersand]

theorem readCutting_eq (s : String) : readCutting s = some (read s) := by
  have searched := @cutFirst_ampersands s [] s.toList [] String.ofList_toList.symm
  simp only [List.map_nil, List.sum_nil, List.append_nil] at searched
  unfold readCutting read
  rw [searched]
  cases lastOffset s.toList with
  | none => rfl
  | some digits => simp

/-! ## Reading -/

/-- Reading a text finds an address exactly if an expression stands in it, takes the
offset of the rightmost one even if an earlier one is smaller, and makes every cut on
the way between two characters. -/
theorem read_rightmost_expression (s : String) :
    ((∀ position digits, ¬ GoodAt s position digits) →
        read s = .error (Fault.about .badAddress s)) ∧
      ((∃ position digits, GoodAt s position digits) →
        ∃ position digits, RightmostAt s position digits) ∧
      (∀ position digits, RightmostAt s position digits →
        (decimal digits ≤ 2147483647 →
          ∃ offset, read s = .ok offset ∧ offset.toInt = decimal digits) ∧
        (2147483647 < decimal digits → read s = .error (Fault.about .overflow s))) ∧
      readCutting s = some (read s) := by
  refine ⟨?_, ?_, ?_, readCutting_eq s⟩
  · intro noExpression
    have notFound : lastOffset s.toList = none := lastOffset_eq_none_iff.mpr noExpression
    rw [read, notFound]
  · rintro ⟨position, digits, good⟩
    cases found : lastOffset s.toList with
    | none => exact absurd good (lastOffset_eq_none_iff.mp found position digits)
    | some last =>
        obtain ⟨position, rightmost⟩ := exists_rightmost found
        exact ⟨position, last, rightmost⟩
  · rintro position digits ⟨good, last⟩
    exact read_of_lastOffset (lastOffset_of_rightmost good last)

/-- Behind an expression that could be read stands one with a base of two bytes and an
offset out of range. -/
theorem read_rightmost_expression_overflow :
    GoodAt "&a+1&é+99999999999" 0 ['1'] ∧
      RightmostAt "&a+1&é+99999999999" 4 (List.replicate 11 '9') ∧
      read "&a+1&é+99999999999" = .error (Fault.about .overflow "&a+1&é+99999999999") := by
  have chars : "&a+1&é+99999999999".toList =
      '&' :: 'a' :: '+' :: '1' :: '&' :: 'é' :: '+' :: List.replicate 11 '9' :=
    String.toList_ofList
  have nines : ∀ c ∈ List.replicate 11 '9', c.isDigit = true := by
    intro c member
    rw [List.eq_of_mem_replicate member]
    rfl
  have rightmost : RightmostAt "&a+1&é+99999999999" 4 (List.replicate 11 '9') := by
    constructor
    · exact ⟨['é'], [], by rw [chars]; rfl, nofun, List.forall_mem_singleton.mpr rfl, nofun, nines,
        nofun⟩
    · rintro later others beyond ⟨base, rest, same, -⟩
      have member : '&' ∈ "&a+1&é+99999999999".toList.drop later := by
        rw [same]
        exact List.mem_cons_self
      have member := List.drop_subset_drop_left _ (Nat.succ_le_of_lt beyond) member
      rw [chars] at member
      simp at member
  have good : GoodAt "&a+1&é+99999999999" 0 ['1'] :=
    ⟨['a'], '&' :: 'é' :: '+' :: List.replicate 11 '9', by rw [chars]; rfl, nofun,
      List.forall_mem_singleton.mpr rfl, nofun, List.forall_mem_singleton.mpr rfl, by simp⟩
  have large : 2147483647 < decimal (List.replicate 11 '9') := by
    decide
  exact ⟨good, rightmost, ((read_rightmost_expression _).2.2.1 _ _ rightmost).2 large⟩

end AccumulatorMachine.Address
