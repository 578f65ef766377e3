import AccumulatorMachine.Instruction.Decode
import AccumulatorMachine.Proofs.AddressGrammar
import AccumulatorMachine.Proofs.SolidText

/-!
# Blanks in definitions

The address of a definition may be written with blanks in it.  The blanks cut it into tokens,
and decoding puts the tokens together again, so that the blanks are gone before the address is
read.  A base, a plus sign and digits may therefore be torn apart anywhere, even inside the
digits: what is read, or the fault that quotes it, depends on the other characters only.
-/

namespace AccumulatorMachine

namespace Text

/-- A text with its blanks taken out. -/
def withoutBlanks (s : String) : String :=
  String.ofList (s.toList.filter fun c => !isBlank c)

/-- The second text has the characters of the first, with blanks put before, between and behind
them. -/
inductive Spread : List Char → List Char → Prop
  | nil : Spread [] []
  | letter (c : Char) {chars spread : List Char} :
      Spread chars spread → Spread (c :: chars) (c :: spread)
  | blank {c : Char} {chars spread : List Char} :
      isBlank c = true → Spread chars spread → Spread chars (c :: spread)

namespace Spread

theorem filter_eq {chars spread : List Char} (spreading : Spread chars spread) :
    spread.filter (fun c => !isBlank c) = chars.filter fun c => !isBlank c := by
  induction spreading with
  | nil => rfl
  | letter c _ inductionHypothesis =>
      rw [List.filter_cons, List.filter_cons, inductionHypothesis]
  | blank blank _ inductionHypothesis =>
      rw [List.filter_cons_of_neg (by simp [blank]), inductionHypothesis]

theorem of_filter (spread : List Char) : Spread (spread.filter fun c => !isBlank c) spread := by
  induction spread with
  | nil => exact nil
  | cons c spread inductionHypothesis =>
      cases blank : isBlank c with
      | true =>
          rw [List.filter_cons_of_neg (by simp [blank])]
          exact inductionHypothesis.blank blank
      | false =>
          rw [List.filter_cons_of_pos (by simp [blank])]
          exact inductionHypothesis.letter c

/-- Blanks that were put into a text without blanks can be taken out again. -/
theorem iff_withoutBlanks {word s : String} (solid : Solid word) :
    Spread word.toList s.toList ↔ withoutBlanks s = word := by
  constructor
  · intro spreading
    have kept : word.toList.filter (fun c => !isBlank c) = word.toList := by
      rw [List.filter_eq_self]
      intro c member
      rw [solid c member]
      rfl
    rw [withoutBlanks, spreading.filter_eq, kept, String.ofList_toList]
  · rintro rfl
    rw [withoutBlanks, String.toList_ofList]
    exact of_filter s.toList

end Spread

theorem join_tokens (s : String) : String.join (tokens s) = withoutBlanks s := by
  rw [withoutBlanks, ← toList_join_tokens, String.ofList_toList]

theorem tokens_eq_nil_iff_withoutBlanks (s : String) :
    tokens s = [] ↔ withoutBlanks s = "" := by
  constructor
  · intro nothing
    rw [← join_tokens, nothing]
    rfl
  · intro nothing
    rw [tokens_eq_layout, (Layout.proper_ofChars s.toList).tokens_eq_nil_iff,
      Layout.chars_ofChars]
    simpa [withoutBlanks] using nothing

/-- A word and the space behind it are cut off in front of a text. -/
theorem tokens_word_space {word : String} (nonempty : word ≠ "") (solid : Solid word)
    (rest : String) : tokens (word ++ (" " ++ rest)) = word :: tokens rest := by
  have spelled : (word ++ (" " ++ rest)).toList = word.toList ++ ' ' :: rest.toList := by
    simp
  have laidOut : Layout.ofChars (word ++ (" " ++ rest)).toList =
      ⟨[], ⟨word.toList, ' ' :: (Layout.ofChars rest.toList).indent⟩ ::
        (Layout.ofChars rest.toList).spaced⟩ := by
    rw [spelled, Layout.ofChars, List.foldr_append, List.foldr_cons, Layout.place_blank rfl,
      Layout.foldr_place_word (by simpa using nonempty) solid (Or.inl (List.cons_ne_nil _ _))]
    rfl
  rw [tokens_eq_layout, laidOut, tokens_eq_layout rest, Layout.tokens, List.map_cons,
    String.ofList_toList, Layout.tokens]

/-- No blank is a letter or a number of any script. -/
theorem isBlank_of_isWordChar {c : Char} (wordChar : isWordChar c = true) :
    isBlank c = false := by
  have apart : ∀ blank ∈ blankRanges, ∀ range ∈ alphanumericRanges,
      blank.2 < range.1 ∨ range.2 < blank.1 := by
    decide +kernel
  rw [isWordChar, Bool.or_eq_true, beq_iff_eq] at wordChar
  rcases wordChar with alphanumeric | rfl
  · rw [isAlphanumeric, inRanges_iff_exists ascendingFrom_alphanumericRanges] at alphanumeric
    obtain ⟨range, inAlphanumeric, lower, upper⟩ := alphanumeric
    rw [← Bool.not_eq_true, isBlank, inRanges_iff_exists ascendingFrom_blankRanges]
    rintro ⟨blank, inBlank, blankLower, blankUpper⟩
    have separate := apart blank inBlank range inAlphanumeric
    omega
  · rfl

end Text

/-! ## Addresses written in full -/

namespace Address

/-- An address expression: the base, and the offset in decimal. -/
def written (base : String) (offset : Nat) : String :=
  "&" ++ base ++ "+" ++ toString offset

variable {base : String}

theorem toList_written (base : String) (offset : Nat) :
    (written base offset).toList = '&' :: (base.toList ++ '+' :: Nat.toDigits 10 offset) := by
  simp [written]

theorem solid_written (inBase : ∀ c ∈ base.toList, Text.isWordChar c = true) (offset : Nat) :
    Text.Solid (written base offset) := by
  have solidBase : Text.Solid base := fun c member => Text.isBlank_of_isWordChar (inBase c member)
  have ampersand : Text.Solid "&" := Text.Solid.ofList rfl
  have plus : Text.Solid "+" := Text.Solid.ofList rfl
  exact ((ampersand.append solidBase).append plus).append (Text.solid_natText offset)

theorem lastOffset_eq_none_of_absent {s : List Char} (absent : '&' ∉ s) :
    lastOffset s = none := by
  rw [lastOffset_eq_none_iff]
  rintro position digits ⟨base, rest, same, -⟩
  apply absent
  apply List.mem_of_mem_drop (i := position)
  rw [same]
  exact List.mem_cons_self

theorem lastOffset_written (nonempty : base ≠ "")
    (inBase : ∀ c ∈ base.toList, Text.isWordChar c = true) (offset : Nat) :
    lastOffset (written base offset).toList = some (Nat.toDigits 10 offset) := by
  -- the only ampersand is the first character
  have noOther : '&' ∉ base.toList ++ '+' :: Nat.toDigits 10 offset := by
    intro member
    rcases List.mem_append.mp member with member | member
    · exact absurd (inBase _ member) (by decide +kernel)
    · rcases List.mem_cons.mp member with plus | member
      · exact absurd plus (by decide)
      · exact absurd (isDigit_of_mem_toDigits _ member) (by decide)
  rw [toList_written, lastOffset, lastOffset_eq_none_of_absent noOther]
  dsimp only
  rw [if_pos rfl, offsetDigits_eq_some_iff]
  exact ⟨base.toList, [], by rw [List.append_nil], by simpa using nonempty, inBase,
    Nat.toDigits_ne_nil, isDigit_of_mem_toDigits, by simp⟩

theorem read_written (nonempty : base ≠ "")
    (inBase : ∀ c ∈ base.toList, Text.isWordChar c = true) {offset : Nat}
    (small : offset ≤ 2147483647) :
    ∃ word : Int32, read (written base offset) = .ok word ∧ word.toInt = offset := by
  have found := read_of_lastOffset (lastOffset_written nonempty inBase offset)
  rw [decimal_toDigits] at found
  exact found.1 small

/-- A text is an address, or the fault that refuses it quotes it. -/
theorem read_eq_ok_or (s : String) :
    (∃ word, read s = .ok word) ∨
      read s = .error (Fault.about .badAddress s) ∨
        read s = .error (Fault.about .overflow s) := by
  unfold read
  split
  · exact Or.inr (Or.inl rfl)
  · dsimp only
    split
    · exact Or.inl ⟨_, rfl⟩
    · exact Or.inr (Or.inr rfl)

end Address

/-! ## Definitions -/

namespace Line

/-- The line that defines a name, with the address as it is written. -/
def definition (name address : String) : Line :=
  ofString ("def " ++ name ++ " " ++ address)

section

variable {name : String}

theorem tokens_definition (nonempty : name ≠ "") (solid : Text.Solid name) (address : String) :
    (definition name address).tokens = "def" :: name :: Text.tokens address := by
  have solidWord : Text.Solid "def" := Text.Solid.ofList rfl
  have spelled : "def " ++ name ++ " " ++ address =
      "def" ++ (" " ++ (name ++ (" " ++ address))) := by
    simp only [← String.append_assoc]
    rfl
  rw [definition, ofString, spelled, Text.tokens_word_space (by decide) solidWord,
    Text.tokens_word_space nonempty solid]

theorem command_definition (nonempty : name ≠ "") (solid : Text.Solid name) (address : String) :
    (definition name address).command = "def" := by
  rw [command, tokens_definition nonempty solid]
  rfl

/-- Only the address without its blanks is left to be read. -/
theorem operandsJoined_definition (nonempty : name ≠ "") (solid : Text.Solid name)
    (address : String) :
    (definition name address).operandsJoined 2 =
      if Text.withoutBlanks address = "" then .error (Fault.about .missingOperand "def")
      else .ok (Text.withoutBlanks address) := by
  have presence : 2 < (definition name address).tokens.length ↔
      Text.withoutBlanks address ≠ "" := by
    rw [tokens_definition nonempty solid, ne_eq, ← Text.tokens_eq_nil_iff_withoutBlanks,
      ← List.length_eq_zero_iff, List.length_cons, List.length_cons]
    omega
  have joined : String.join ((definition name address).tokens.drop 2) =
      Text.withoutBlanks address := by
    rw [tokens_definition nonempty solid, ← Text.join_tokens]
    rfl
  rw [operandsJoined, joined, command_definition nonempty solid]
  by_cases nothing : Text.withoutBlanks address = ""
  · rw [if_pos nothing, if_neg fun present => presence.mp present nothing]
  · rw [if_neg nothing, if_pos (presence.mpr nothing)]

theorem decode_definition (nonempty : name ≠ "") (solid : Text.Solid name) (address : String) :
    Mnemonic.define.decode (definition name address) =
      if Text.withoutBlanks address = "" then .error (Fault.about .missingOperand "def")
      else (Address.read (Text.withoutBlanks address)).map (Instruction.define name) := by
  have operand : (definition name address).operand 1 = .ok name := by
    rw [Line.operand, tokens_definition nonempty solid]
    rfl
  rw [Mnemonic.decode, operand, ok_bind, operandsJoined_definition nonempty solid]
  by_cases nothing : Text.withoutBlanks address = ""
  · rw [if_pos nothing, if_pos nothing]
    rfl
  · rw [if_neg nothing, if_neg nothing, ok_bind]
    cases Address.read (Text.withoutBlanks address) with
    | error fault => rfl
    | ok offset => rfl

theorem instruction?_definition (nonempty : name ≠ "") (solid : Text.Solid name)
    (address : String) :
    (definition name address).instruction? =
      some (if Text.withoutBlanks address = "" then .error (Fault.about .missingOperand "def")
        else (Address.read (Text.withoutBlanks address)).map (Instruction.define name)) := by
  have found : Mnemonic.ofWord? "def" = some .define :=
    Mnemonic.ofWord?_eq_some_iff.mpr rfl
  rw [instruction?, command_definition nonempty solid, found, Option.map_some,
    decode_definition nonempty solid]

end

/-- Definitions of a name whose addresses differ in blanks only are the same instruction, or are
refused with the same fault.  The fault quotes the address without its blanks, or misses it if
there is nothing else.  An address expression is read however it is torn apart. -/
theorem definition_spacing_immaterial {name : String} (nonempty : name ≠ "")
    (solid : Text.Solid name) :
    (∀ first second : String, Text.withoutBlanks first = Text.withoutBlanks second →
        (definition name first).instruction? = (definition name second).instruction?) ∧
      (∀ address : String,
        (Text.withoutBlanks address = "" →
          (definition name address).instruction? =
            some (.error (Fault.about .missingOperand "def"))) ∧
        (Text.withoutBlanks address ≠ "" →
          (∃ offset, Address.read (Text.withoutBlanks address) = .ok offset ∧
            (definition name address).instruction? = some (.ok (.define name offset))) ∨
          ∃ kind, (kind = .badAddress ∨ kind = .overflow) ∧
            Address.read (Text.withoutBlanks address) =
              .error (Fault.about kind (Text.withoutBlanks address)) ∧
            (definition name address).instruction? =
              some (.error (Fault.about kind (Text.withoutBlanks address))))) ∧
      ∀ (base : String) (offset : Nat) (address : String), base ≠ "" →
        (∀ c ∈ base.toList, Text.isWordChar c = true) → offset ≤ 2 ^ 31 - 1 →
        Text.Spread (Address.written base offset).toList address.toList →
          ∃ word : Int32, word.toInt = offset ∧
            (definition name address).instruction? = some (.ok (.define name word)) := by
  have decoded := instruction?_definition nonempty solid
  refine ⟨?_, ?_, ?_⟩
  · intro first second same
    rw [decoded, decoded, same]
  · intro address
    constructor
    · intro nothing
      rw [decoded, if_pos nothing]
    · intro something
      rw [decoded, if_neg something]
      rcases Address.read_eq_ok_or (Text.withoutBlanks address) with ⟨word, read⟩ | bad | large
      · rw [read]
        exact Or.inl ⟨word, rfl, rfl⟩
      · rw [bad]
        exact Or.inr ⟨.badAddress, Or.inl rfl, rfl, rfl⟩
      · rw [large]
        exact Or.inr ⟨.overflow, Or.inr rfl, rfl, rfl⟩
  · intro base offset address baseNonempty inBase small spreading
    have bare : Text.withoutBlanks address = Address.written base offset :=
      (Text.Spread.iff_withoutBlanks (Address.solid_written inBase offset)).mp spreading
    have something : Address.written base offset ≠ "" := by
      intro nothing
      have chars := Address.toList_written base offset
      rw [nothing] at chars
      cases chars
    obtain ⟨word, read, value⟩ := Address.read_written baseNonempty inBase small
    rw [decoded, bare, if_neg something, read]
    exact ⟨word, value, rfl⟩

/-- The greatest offset, torn apart by three kinds of blanks; a missing base with blanks around
it; and an address of nothing but blanks. -/
theorem definition_spacing_immaterial_torn :
    Text.Spread (Address.written "é_2" 2147483647).toList "& é_\u30002+21474\t83647".toList ∧
      (∃ word : Int32, word.toInt = 2147483647 ∧
        (definition "x" "& é_\u30002+21474\t83647").instruction? =
          some (.ok (.define "x" word))) ∧
      Text.withoutBlanks " &\u0085+ 3" = Text.withoutBlanks "&+3" ∧
      (definition "x" " &\u0085+ 3").instruction? = (definition "x" "&+3").instruction? ∧
      Text.withoutBlanks "\u2003 " = "" ∧
      (definition "x" "\u2003 ").instruction? =
        some (.error (Fault.about .missingOperand "def")) := by
  have solid : Text.Solid "x" := Text.Solid.ofList rfl
  have inBase : ∀ c ∈ "é_2".toList, Text.isWordChar c = true := by
    have chars : "é_2".toList = ['é', '_', '2'] := String.toList_ofList
    rw [chars]
    simp only [List.forall_mem_cons]
    exact ⟨rfl, rfl, rfl, List.forall_mem_nil _⟩
  have bare : Text.withoutBlanks "& é_\u30002+21474\t83647" = Address.written "é_2" 2147483647 :=
    rfl
  have spreading := (Text.Spread.iff_withoutBlanks (Address.solid_written inBase _)).mpr bare
  have around : Text.withoutBlanks " &\u0085+ 3" = Text.withoutBlanks "&+3" := rfl
  have blank : Text.withoutBlanks "\u2003 " = "" := rfl
  obtain ⟨same, faults, torn⟩ := definition_spacing_immaterial (by decide) solid
  exact ⟨spreading, torn "é_2" 2147483647 _ (by decide) inBase (by decide) spreading, around,
    same _ _ around, blank, (faults _).1 blank⟩

end Line

end AccumulatorMachine
