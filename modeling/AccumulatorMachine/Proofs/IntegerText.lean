import AccumulatorMachine.Proofs.AddressGrammar
import AccumulatorMachine.Proofs.SolidText

/-!
# Numbers in texts

A text that is read as a word consists of blanks, an optional sign, digits, a rest and
blanks again.  The reader goes from left to right and stops at the first character that
is wrong or that takes the value out of the word range.  The outcome can nevertheless be
told from the parts as a whole:

* without digits there is a mismatch;
* otherwise a value out of range overflows, whatever the rest is;
* otherwise a rest is a mismatch, and without a rest the value is read.

This works because more digits never bring a value back into the range.  The decimal text
of a word has a value in range and no rest, so a word is read back from its text.
-/

namespace AccumulatorMachine

/-! ## Trimming -/

namespace Text

/-- The second list is the first one without the blanks at its ends. -/
def Trimmed (s middle : List Char) : Prop :=
  ∃ before after, s = before ++ middle ++ after ∧
    (∀ c ∈ before, isBlank c = true) ∧ (∀ c ∈ after, isBlank c = true) ∧
    (∀ c ∈ middle.head?, isBlank c = false) ∧ ∀ c ∈ middle.getLast?, isBlank c = false

theorem dropWhile_isBlank_of_blanks {s : List Char} (blanks : ∀ c ∈ s, isBlank c = true) :
    s.dropWhile isBlank = [] := by
  rw [← List.append_nil s]
  exact Address.dropWhile_run blanks nofun

theorem trim_of_trimmed {s middle : List Char} (trimmed : Trimmed s middle) :
    trim s = middle := by
  obtain ⟨before, after, rfl, blankBefore, blankAfter, solidHead, solidLast⟩ := trimmed
  unfold trim
  cases middle with
  | nil =>
      have blanks : ∀ c ∈ before ++ [] ++ after, isBlank c = true := by
        simpa [or_imp, forall_and] using ⟨blankBefore, blankAfter⟩
      rw [dropWhile_isBlank_of_blanks blanks]
      rfl
  | cons first others =>
      have solidFirst : ∀ c ∈ (first :: others ++ after).head?, isBlank c = false := solidHead
      have lastFirst : ∀ c ∈ (first :: others).reverse.head?, isBlank c = false := by
        rwa [List.head?_reverse]
      rw [List.append_assoc, Address.dropWhile_run blankBefore solidFirst, List.reverse_append,
        Address.dropWhile_run (by simpa using blankAfter) lastFirst, List.reverse_reverse]

theorem trimmed_trim (s : List Char) : Trimmed s (trim s) := by
  have solidStart := List.head?_dropWhile_not isBlank s
  have solidEnd := List.head?_dropWhile_not isBlank (s.dropWhile isBlank).reverse
  have rightEnd : s.dropWhile isBlank =
      trim s ++ ((s.dropWhile isBlank).reverse.takeWhile isBlank).reverse := by
    rw [trim, ← List.reverse_append, List.takeWhile_append_dropWhile, List.reverse_reverse]
  refine ⟨s.takeWhile isBlank, ((s.dropWhile isBlank).reverse.takeWhile isBlank).reverse,
    ?_, fun _ => List.mem_takeWhile_imp, ?_, ?_, ?_⟩
  · rw [List.append_assoc, ← rightEnd, List.takeWhile_append_dropWhile]
  · intro c member
    exact List.mem_takeWhile_imp (List.mem_reverse.mp member)
  · intro c first
    rw [rightEnd, List.head?_append, first] at solidStart
    exact solidStart
  · intro c last
    rw [trim, List.getLast?_reverse] at last
    rw [last] at solidEnd
    exact solidEnd

end Text

namespace Integer

/-! ## The parts of a number -/

/-- A sign, digits and what follows them. -/
structure Parts where
  sign : Option Char
  digits : List Char
  rest : List Char

/-- A value that carries a sign. -/
def signed (negative : Bool) (value : Nat) : Int :=
  if negative then -value else value

namespace Parts

def chars (parts : Parts) : List Char :=
  parts.sign.toList ++ (parts.digits ++ parts.rest)

def negative (parts : Parts) : Bool :=
  parts.sign == some '-'

/-- The value of the digits with the sign in front of them. -/
def value (parts : Parts) : Int :=
  signed parts.negative (Address.decimal parts.digits)

/-- A sign is left out only where none stands, and the digits go on as far as digits
follow. -/
structure Maximal (parts : Parts) : Prop where
  sign : ∀ c ∈ parts.sign, c = '+' ∨ c = '-'
  unsigned : parts.sign = none → ∀ c ∈ parts.chars.head?, c ≠ '+' ∧ c ≠ '-'
  digits : ∀ c ∈ parts.digits, c.isDigit = true
  rest : ∀ c ∈ parts.rest.head?, c.isDigit = false

/-- The parts of a text between the blanks at its ends. -/
structure Of (s : String) (parts : Parts) : Prop where
  trimmed : Text.Trimmed s.toList parts.chars
  maximal : parts.Maximal

/-- The parts of a list of characters. -/
def ofChars : List Char → Parts
  | [] => ⟨none, [], []⟩
  | c :: others =>
      if c = '+' ∨ c = '-' then
        ⟨some c, others.takeWhile Char.isDigit, others.dropWhile Char.isDigit⟩
      else ⟨none, (c :: others).takeWhile Char.isDigit, (c :: others).dropWhile Char.isDigit⟩

theorem chars_ofChars (s : List Char) : (ofChars s).chars = s := by
  cases s with
  | nil => rfl
  | cons c others =>
      rw [ofChars]
      by_cases sign : c = '+' ∨ c = '-'
      · rw [if_pos sign]
        simp [chars, List.takeWhile_append_dropWhile]
      · rw [if_neg sign]
        simp [chars, List.takeWhile_append_dropWhile]

theorem head?_dropWhile_isDigit {s : List Char} :
    ∀ c ∈ (s.dropWhile Char.isDigit).head?, c.isDigit = false := by
  intro c first
  have ends := List.head?_dropWhile_not Char.isDigit s
  rw [first] at ends
  exact ends

theorem maximal_ofChars (s : List Char) : (ofChars s).Maximal := by
  cases s with
  | nil => exact ⟨nofun, nofun, nofun, nofun⟩
  | cons c others =>
      have whole := chars_ofChars (c :: others)
      rw [ofChars] at whole ⊢
      by_cases sign : c = '+' ∨ c = '-'
      · rw [if_pos sign]
        refine ⟨?_, nofun, fun _ => List.mem_takeWhile_imp, head?_dropWhile_isDigit⟩
        rintro _ ⟨⟩
        exact sign
      · rw [if_neg sign] at whole ⊢
        refine ⟨nofun, ?_, fun _ => List.mem_takeWhile_imp, head?_dropWhile_isDigit⟩
        intro _
        rw [whole]
        rintro _ ⟨⟩
        exact not_or.mp sign

theorem Maximal.ofChars_eq {parts : Parts} (maximal : parts.Maximal) :
    ofChars parts.chars = parts := by
  have digitsEnd := Address.takeWhile_run maximal.digits maximal.rest
  have restBegins := Address.dropWhile_run maximal.digits maximal.rest
  obtain ⟨sign, digits, rest⟩ := parts
  cases sign with
  | some c =>
      have isSign := maximal.sign c rfl
      change ofChars (c :: (digits ++ rest)) = _
      rw [ofChars, if_pos isSign, digitsEnd, restBegins]
  | none =>
      change ofChars (digits ++ rest) = _
      have noSign := maximal.unsigned rfl
      change ∀ c ∈ (digits ++ rest).head?, _ at noSign
      cases same : digits ++ rest with
      | nil =>
          obtain ⟨rfl, rfl⟩ := List.append_eq_nil_iff.mp same
          rfl
      | cons c others =>
          rw [same] at digitsEnd restBegins noSign
          rw [ofChars, if_neg (not_or.mpr (noSign c rfl)), digitsEnd, restBegins]

theorem of_iff {s : String} {parts : Parts} :
    Of s parts ↔ parts = ofChars (Text.trim s.toList) := by
  constructor
  · rintro ⟨trimmed, maximal⟩
    rw [Text.trim_of_trimmed trimmed, maximal.ofChars_eq]
  · rintro rfl
    refine ⟨?_, maximal_ofChars _⟩
    rw [chars_ofChars]
    exact Text.trimmed_trim s.toList

end Parts

/-! ## From left to right -/

theorem fitsWord_iff {value : Int} :
    fitsWord value = true ↔ -2147483648 ≤ value ∧ value ≤ 2147483647 :=
  decide_eq_true_iff

/-- More digits never bring a value back into the word range. -/
theorem fitsWord_of_ofDigitChars {negative : Bool} {value : Nat} {digits : List Char}
    (fits : fitsWord (signed negative (Nat.ofDigitChars 10 digits value)) = true) :
    fitsWord (signed negative value) = true := by
  have larger : value ≤ Nat.ofDigitChars 10 digits value := by
    rw [Nat.ofDigitChars_eq_ofDigitChars_zero]
    exact Nat.le_add_right_of_le (Nat.le_mul_of_pos_left value (by positivity))
  rw [fitsWord_iff] at fits ⊢
  unfold signed at fits ⊢
  cases negative with
  | false =>
      simp only [Bool.false_eq_true, if_false] at fits ⊢
      omega
  | true =>
      simp only [if_true] at fits ⊢
      omega

theorem next_eq_signed (negative : Bool) (value : Nat) {c : Char} (digit : c.isDigit = true) :
    (if negative then 10 * signed negative value - ((c.toNat : Int) - ('0'.toNat : Int))
      else 10 * signed negative value + ((c.toNat : Int) - ('0'.toNat : Int))) =
      signed negative (10 * value + (c.toNat - '0'.toNat)) := by
  have least : '0'.toNat ≤ c.toNat := by
    simp only [Char.isDigit, ge_iff_le, Bool.and_eq_true, decide_eq_true_eq] at digit
    exact digit.1
  unfold signed
  cases negative with
  | false =>
      simp only [Bool.false_eq_true, if_false]
      omega
  | true =>
      simp only [if_true]
      omega

/-- Reading digits, and whatever follows them, with a value that has been read before. -/
theorem readDigits_append {negative : Bool} {value : Nat} {digits rest : List Char}
    (inDigits : ∀ c ∈ digits, c.isDigit = true) (ends : ∀ c ∈ rest.head?, c.isDigit = false)
    (fits : fitsWord (signed negative value) = true) :
    readDigits negative (signed negative value) (digits ++ rest) =
      if fitsWord (signed negative (Nat.ofDigitChars 10 digits value)) then
        if rest = [] then .ok (signed negative (Nat.ofDigitChars 10 digits value))
        else .error .typeMismatch
      else .error .overflow := by
  induction digits generalizing value with
  | nil =>
      rw [Nat.ofDigitChars_nil, if_pos fits, List.nil_append]
      cases rest with
      | nil => rfl
      | cons c rest => simp [readDigits, ends c rfl]
  | cons c digits inductionHypothesis =>
      have digit := inDigits c List.mem_cons_self
      have inRest : ∀ d ∈ digits, d.isDigit = true :=
        fun d member => inDigits d (List.mem_cons_of_mem c member)
      rw [List.cons_append, readDigits, if_pos digit, Nat.ofDigitChars_cons]
      dsimp only
      rw [next_eq_signed negative value digit]
      by_cases stillFits :
          fitsWord (signed negative (10 * value + (c.toNat - '0'.toNat))) = true
      · rw [if_pos stillFits]
        exact inductionHypothesis inRest stillFits
      · rw [if_neg stillFits, if_neg fun later => stillFits (fitsWord_of_ofDigitChars later)]

theorem readMagnitude_append {negative : Bool} {digits rest : List Char}
    (inDigits : ∀ c ∈ digits, c.isDigit = true) (ends : ∀ c ∈ rest.head?, c.isDigit = false) :
    readMagnitude negative (digits ++ rest) =
      if digits = [] then .error .typeMismatch
      else if fitsWord (signed negative (Address.decimal digits)) then
        if rest = [] then .ok (signed negative (Address.decimal digits))
        else .error .typeMismatch
      else .error .overflow := by
  have zero : signed negative 0 = 0 := by
    cases negative <;> rfl
  have fromZero := @readDigits_append negative 0 digits rest inDigits ends (by rw [zero]; rfl)
  rw [zero, Address.ofDigitChars_eq_decimal] at fromZero
  unfold readMagnitude
  by_cases nothing : digits = []
  · subst nothing
    rw [if_pos rfl, List.nil_append]
    cases rest with
    | nil => rfl
    | cons c rest => simp [readDigits, ends c rfl]
  · rw [if_neg nothing, if_neg (by simp [nothing]), fromZero]

theorem readSigned_chars {parts : Parts} (maximal : parts.Maximal) :
    readSigned parts.chars =
      readMagnitude parts.negative (parts.digits ++ parts.rest) := by
  obtain ⟨sign, digits, rest⟩ := parts
  cases sign with
  | some c =>
      rcases maximal.sign c rfl with rfl | rfl
      · rfl
      · rfl
  | none =>
      have noSign := maximal.unsigned rfl
      change ∀ c ∈ (digits ++ rest).head?, _ at noSign
      change readSigned (digits ++ rest) = readMagnitude false (digits ++ rest)
      unfold readSigned
      split
      · next minus => exact absurd rfl (noSign '-' (by rw [minus]; rfl)).2
      · next plus => exact absurd rfl (noSign '+' (by rw [plus]; rfl)).1
      · rfl

theorem read_of_parts {s : String} {parts : Parts} (of : Parts.Of s parts) :
    read s =
      if parts.digits = [] then .error (Fault.about .typeMismatch (quoted s))
      else if fitsWord parts.value then
        if parts.rest = [] then .ok (Int32.ofInt parts.value)
        else .error (Fault.about .typeMismatch (quoted s))
      else .error (Fault.about .overflow (quoted s)) := by
  obtain ⟨trimmed, maximal⟩ := of
  unfold read
  rw [Text.trim_of_trimmed trimmed, readSigned_chars maximal,
    readMagnitude_append maximal.digits maximal.rest]
  unfold Parts.value
  split_ifs <;> rfl

/-! ## Reading what was written -/

/-- The parts of the decimal text of a word. -/
def partsOfWord (word : Int32) : Parts where
  sign := if word.toInt < 0 then some '-' else none
  digits := Nat.toDigits 10 word.toInt.natAbs
  rest := []

theorem toList_wordText (word : Int32) : (wordText word).toList = (partsOfWord word).chars := by
  unfold wordText partsOfWord Parts.chars
  cases word.toInt with
  | ofNat value =>
      have nonnegative : ¬ Int.ofNat value < 0 := Int.not_lt.mpr (Int.natCast_nonneg value)
      change (toString value).toList = _
      rw [if_neg nonnegative]
      simp
  | negSucc value =>
      change ("-" ++ toString (value + 1)).toList = _
      rw [if_pos (Int.negSucc_lt_zero value)]
      simp

theorem maximal_partsOfWord (word : Int32) : (partsOfWord word).Maximal where
  sign := by
    intro c given
    simp only [partsOfWord, Option.mem_def, Option.ite_none_right_eq_some, Option.some.injEq]
      at given
    exact Or.inr given.2.symm
  unsigned unsigned c first := by
    have member : c ∈ Nat.toDigits 10 word.toInt.natAbs := by
      have signless : (partsOfWord word).chars = Nat.toDigits 10 word.toInt.natAbs := by
        unfold Parts.chars
        rw [unsigned]
        simp [partsOfWord]
      rw [signless] at first
      exact List.mem_of_mem_head? first
    have digit := Address.isDigit_of_mem_toDigits c member
    constructor
    · rintro rfl
      cases digit
    · rintro rfl
      cases digit
  digits := Address.isDigit_of_mem_toDigits
  rest := nofun

theorem of_wordText (word : Int32) : Parts.Of (wordText word) (partsOfWord word) where
  trimmed := by
    have solid := solid_wordText word
    unfold Text.Solid at solid
    rw [toList_wordText] at solid ⊢
    exact ⟨[], [], by simp, nofun, nofun, fun c first => solid c (List.mem_of_mem_head? first),
      fun c last => solid c (List.mem_of_mem_getLast? last)⟩
  maximal := maximal_partsOfWord word

theorem value_partsOfWord (word : Int32) : (partsOfWord word).value = word.toInt := by
  unfold Parts.value Parts.negative partsOfWord
  dsimp only
  rw [Address.decimal_toDigits]
  by_cases below : word.toInt < 0
  · rw [if_pos below]
    simp only [signed, beq_self_eq_true, if_true]
    omega
  · rw [if_neg below]
    simp only [signed, beq_iff_eq, reduceCtorEq, if_false]
    omega

theorem fitsWord_toInt (word : Int32) : fitsWord word.toInt = true := by
  have lower := word.le_toInt
  have upper := word.toInt_lt
  rw [fitsWord_iff]
  omega

/-- A word is read back from its text. -/
@[simp]
theorem read_wordText (word : Int32) : read (wordText word) = .ok word := by
  have digits : (partsOfWord word).digits ≠ [] := Nat.toDigits_ne_nil
  rw [read_of_parts (of_wordText word), if_neg digits, value_partsOfWord,
    if_pos (fitsWord_toInt word), Int32.ofInt_toInt]
  rfl

/-! ## The closed form -/

/-- Every text has its parts, and they decide what is read: digits are needed, then the
value has to be in the word range, and then nothing may follow.  Faults quote the whole
text.  So every word is read back from its decimal text. -/
theorem read_by_parts (s : String) :
    (∃! parts, Parts.Of s parts) ∧
      (∀ parts, Parts.Of s parts →
        (parts.digits = [] → read s = .error (Fault.about .typeMismatch (quoted s))) ∧
        (parts.digits ≠ [] →
          (parts.value < -2 ^ 31 ∨ 2 ^ 31 - 1 < parts.value →
            read s = .error (Fault.about .overflow (quoted s))) ∧
          (-2 ^ 31 ≤ parts.value ∧ parts.value ≤ 2 ^ 31 - 1 →
            (parts.rest ≠ [] → read s = .error (Fault.about .typeMismatch (quoted s))) ∧
            (parts.rest = [] → ∃ word, read s = .ok word ∧ word.toInt = parts.value)))) ∧
      ∀ word, read (wordText word) = .ok word := by
  refine ⟨⟨Parts.ofChars (Text.trim s.toList), Parts.of_iff.mpr rfl, fun _ => Parts.of_iff.mp⟩,
    ?_, read_wordText⟩
  intro parts of
  have closed := read_of_parts of
  constructor
  · intro nothing
    rw [closed, if_pos nothing]
  · intro some
    rw [if_neg some] at closed
    constructor
    · intro outside
      have unfit : ¬ fitsWord parts.value = true := by
        rw [fitsWord_iff]
        omega
      rw [closed, if_neg unfit]
    · rintro ⟨lower, upper⟩
      have fits : fitsWord parts.value = true := by
        rw [fitsWord_iff]
        omega
      rw [if_pos fits] at closed
      constructor
      · intro more
        rw [closed, if_neg more]
      · intro complete
        rw [if_pos complete] at closed
        exact ⟨_, closed, Int32.toInt_ofInt_of_le lower (by omega)⟩

/-- One more than the greatest word with a letter behind it, and the least word with a zero
in front of it, both between blanks. -/
theorem read_by_parts_limits :
    Parts.Of " +2147483648x\n" ⟨some '+', "2147483648".toList, ['x']⟩ ∧
      read " +2147483648x\n" = .error (Fault.about .overflow (quoted " +2147483648x\n")) ∧
      Parts.Of "-02147483648\t" ⟨some '-', "02147483648".toList, []⟩ ∧
      (∃ word, read "-02147483648\t" = .ok word ∧ word.toInt = -2147483648) ∧
      read (wordText Int32.minValue) = .ok Int32.minValue := by
  have beyond : Parts.Of " +2147483648x\n" ⟨some '+', "2147483648".toList, ['x']⟩ :=
    Parts.of_iff.mpr rfl
  have least : Parts.Of "-02147483648\t" ⟨some '-', "02147483648".toList, []⟩ :=
    Parts.of_iff.mpr rfl
  obtain ⟨_, beyondCases, back⟩ := read_by_parts " +2147483648x\n"
  obtain ⟨_, leastCases, _⟩ := read_by_parts "-02147483648\t"
  exact ⟨beyond, ((beyondCases _ beyond).2 (by decide)).1 (Or.inr (by decide)), least,
    (((leastCases _ least).2 (by decide)).2 (by decide)).2 rfl, back _⟩

end Integer

end AccumulatorMachine
