import Mathlib.Logic.ExistsUnique
import AccumulatorMachine.Source.Line

/-!
# Layouts of a text

A text can be laid out as blanks, a word, blanks, a word and so on up to the last blanks, where
a word is not empty and has no blank, and no two words stand side by side.  There is exactly one
such layout for each text.  Its words are the tokens, so everything that holds of tokens is read
off the layout: they are the text without its blanks, and any blanks between them do.
-/

namespace AccumulatorMachine.Text

/-- No character is blank. -/
def Solid (s : String) : Prop :=
  ∀ c ∈ s.toList, isBlank c = false

/-- A word and the blanks behind it. -/
structure Spaced where
  word : List Char
  gap : List Char
  deriving DecidableEq, Repr

/-- Blanks, and behind them words that are each followed by a gap. -/
structure Layout where
  indent : List Char
  spaced : List Spaced
  deriving DecidableEq, Repr

namespace Layout

def chars (layout : Layout) : List Char :=
  layout.indent ++ layout.spaced.flatMap fun entry => entry.word ++ entry.gap

def tokens (layout : Layout) : List String :=
  layout.spaced.map fun entry => String.ofList entry.word

/-- Gaps are blank and words are not.  Only the indent and the last gap may be empty. -/
structure Proper (layout : Layout) : Prop where
  indent : ∀ c ∈ layout.indent, isBlank c = true
  words : ∀ entry ∈ layout.spaced, entry.word ≠ [] ∧ ∀ c ∈ entry.word, isBlank c = false
  gaps : ∀ entry ∈ layout.spaced, ∀ c ∈ entry.gap, isBlank c = true
  apart : ∀ entry ∈ layout.spaced.dropLast, entry.gap ≠ []

theorem proper_nil_iff {indent : List Char} :
    Proper ⟨indent, []⟩ ↔ ∀ c ∈ indent, isBlank c = true := by
  constructor
  · exact Proper.indent
  · intro blank
    exact ⟨blank, by simp, by simp, by simp⟩

theorem proper_cons_iff {indent : List Char} {entry : Spaced} {spaced : List Spaced} :
    Proper ⟨indent, entry :: spaced⟩ ↔
      (∀ c ∈ indent, isBlank c = true) ∧
        (entry.word ≠ [] ∧ ∀ c ∈ entry.word, isBlank c = false) ∧
          (entry.gap ≠ [] ∨ spaced = []) ∧ Proper ⟨entry.gap, spaced⟩ := by
  constructor
  · rintro ⟨blank, words, gaps, apart⟩
    obtain ⟨word, words⟩ := List.forall_mem_cons.mp words
    obtain ⟨gap, gaps⟩ := List.forall_mem_cons.mp gaps
    by_cases last : spaced = []
    · subst last
      exact ⟨blank, word, Or.inr rfl, gap, words, gaps, by simp⟩
    · rw [List.dropLast_cons_of_ne_nil last] at apart
      obtain ⟨nonempty, apart⟩ := List.forall_mem_cons.mp apart
      exact ⟨blank, word, Or.inl nonempty, gap, words, gaps, apart⟩
  · rintro ⟨blank, word, followed, gap, words, gaps, apart⟩
    refine ⟨blank, List.forall_mem_cons.mpr ⟨word, words⟩, List.forall_mem_cons.mpr ⟨gap, gaps⟩, ?_⟩
    by_cases last : spaced = []
    · subst last
      simp
    · rw [List.dropLast_cons_of_ne_nil last]
      exact List.forall_mem_cons.mpr ⟨followed.resolve_right last, apart⟩

theorem chars_cons (indent : List Char) (entry : Spaced) (spaced : List Spaced) :
    chars ⟨indent, entry :: spaced⟩ = indent ++ (entry.word ++ chars ⟨entry.gap, spaced⟩) := by
  simp [chars]

/-! ## Laying out a text -/

/-- Put one character in front. -/
def place (c : Char) (layout : Layout) : Layout :=
  if isBlank c then ⟨c :: layout.indent, layout.spaced⟩
  else match layout with
    | ⟨[], entry :: spaced⟩ => ⟨[], ⟨c :: entry.word, entry.gap⟩ :: spaced⟩
    | ⟨indent, spaced⟩ => ⟨[], ⟨[c], indent⟩ :: spaced⟩

/-- The layout of characters. -/
def ofChars (chars : List Char) : Layout :=
  chars.foldr place ⟨[], []⟩

section

variable {c : Char}

theorem place_blank (blank : isBlank c = true) (layout : Layout) :
    layout.place c = ⟨c :: layout.indent, layout.spaced⟩ := by
  simp [place, blank]

theorem place_letter_before_word (letter : isBlank c = false) (entry : Spaced)
    (spaced : List Spaced) :
    place c ⟨[], entry :: spaced⟩ = ⟨[], ⟨c :: entry.word, entry.gap⟩ :: spaced⟩ := by
  simp [place, letter]

theorem place_letter_before_gap (letter : isBlank c = false) {indent : List Char}
    {spaced : List Spaced} (apart : indent ≠ [] ∨ spaced = []) :
    place c ⟨indent, spaced⟩ = ⟨[], ⟨[c], indent⟩ :: spaced⟩ := by
  cases indent with
  | cons blank indent => simp [place, letter]
  | nil =>
      obtain rfl := apart.resolve_left (by simp)
      simp [place, letter]

end

/-- A letter goes to the first word, unless there is none or something stands before it. -/
theorem before_gap_or_word (layout : Layout) :
    (layout.indent ≠ [] ∨ layout.spaced = []) ∨
      ∃ entry spaced, layout = ⟨[], entry :: spaced⟩ := by
  obtain ⟨indent, spaced⟩ := layout
  cases indent with
  | cons blank indent => simp
  | nil =>
      cases spaced with
      | nil => simp
      | cons entry spaced => exact Or.inr ⟨entry, spaced, rfl⟩

theorem chars_place (c : Char) (layout : Layout) :
    (layout.place c).chars = c :: layout.chars := by
  cases blank : isBlank c with
  | true => rw [place_blank blank, chars, List.cons_append, chars]
  | false =>
      rcases layout.before_gap_or_word with apart | ⟨entry, spaced, rfl⟩
      · rw [place_letter_before_gap blank apart, chars_cons, List.nil_append,
          List.singleton_append]
      · rw [place_letter_before_word blank, chars_cons, chars_cons, List.nil_append,
          List.nil_append, List.cons_append]

theorem Proper.place {layout : Layout} (proper : layout.Proper) (c : Char) :
    (layout.place c).Proper := by
  cases blank : isBlank c with
  | true =>
      obtain ⟨indent, words, gaps, apart⟩ := proper
      rw [place_blank blank]
      exact ⟨List.forall_mem_cons.mpr ⟨blank, indent⟩, words, gaps, apart⟩
  | false =>
      rcases layout.before_gap_or_word with apart | ⟨entry, spaced, rfl⟩
      · rw [place_letter_before_gap blank apart, proper_cons_iff]
        exact ⟨by simp, ⟨by simp, by simpa using blank⟩, apart, proper⟩
      · obtain ⟨indent, ⟨_, letters⟩, rest⟩ := proper_cons_iff.mp proper
        rw [place_letter_before_word blank, proper_cons_iff]
        exact ⟨indent, ⟨by simp, List.forall_mem_cons.mpr ⟨blank, letters⟩⟩, rest⟩

theorem proper_ofChars (chars : List Char) : (ofChars chars).Proper := by
  induction chars with
  | nil => exact proper_nil_iff.mpr (by simp)
  | cons c chars inductionHypothesis => exact inductionHypothesis.place c

theorem chars_ofChars (chars : List Char) : (ofChars chars).chars = chars := by
  induction chars with
  | nil => rfl
  | cons c chars inductionHypothesis =>
      calc (ofChars (c :: chars)).chars = ((ofChars chars).place c).chars := rfl
        _ = c :: (ofChars chars).chars := chars_place c _
        _ = c :: chars := by rw [inductionHypothesis]

/-! ## One layout for each text -/

theorem foldr_place_blanks {blanks : List Char} (blank : ∀ c ∈ blanks, isBlank c = true)
    (indent : List Char) (spaced : List Spaced) :
    blanks.foldr place ⟨indent, spaced⟩ = ⟨blanks ++ indent, spaced⟩ := by
  induction blanks with
  | nil => rfl
  | cons c blanks inductionHypothesis =>
      obtain ⟨first, others⟩ := List.forall_mem_cons.mp blank
      rw [List.foldr_cons, inductionHypothesis others, place_blank first, List.cons_append]

theorem foldr_place_word {word : List Char} (nonempty : word ≠ [])
    (letters : ∀ c ∈ word, isBlank c = false) {gap : List Char} {spaced : List Spaced}
    (apart : gap ≠ [] ∨ spaced = []) :
    word.foldr place ⟨gap, spaced⟩ = ⟨[], ⟨word, gap⟩ :: spaced⟩ := by
  induction word with
  | nil => exact absurd rfl nonempty
  | cons c word inductionHypothesis =>
      obtain ⟨first, others⟩ := List.forall_mem_cons.mp letters
      rw [List.foldr_cons]
      by_cases single : word = []
      · subst single
        exact place_letter_before_gap first apart
      · rw [inductionHypothesis single others, place_letter_before_word first]

theorem Proper.ofChars_chars {layout : Layout} (proper : layout.Proper) :
    ofChars layout.chars = layout := by
  obtain ⟨indent, spaced⟩ := layout
  -- the gap behind a word is the indent of what follows
  induction spaced generalizing indent with
  | nil =>
      have laidOut := foldr_place_blanks proper.indent [] []
      simpa [ofChars, chars] using laidOut
  | cons entry spaced inductionHypothesis =>
      obtain ⟨blank, ⟨nonempty, letters⟩, apart, rest⟩ := proper_cons_iff.mp proper
      have later : (chars ⟨entry.gap, spaced⟩).foldr Layout.place ⟨[], []⟩ = ⟨entry.gap, spaced⟩ :=
        inductionHypothesis entry.gap rest
      rw [chars_cons, ofChars, List.foldr_append, List.foldr_append, later,
        foldr_place_word nonempty letters apart, foldr_place_blanks blank, List.append_nil]

theorem existsUnique_proper (chars : List Char) :
    ∃! layout : Layout, layout.Proper ∧ layout.chars = chars := by
  refine ⟨ofChars chars, ⟨proper_ofChars chars, chars_ofChars chars⟩, ?_⟩
  rintro layout ⟨proper, rfl⟩
  exact proper.ofChars_chars.symm

/-! ## Words are tokens -/

/-- The cut of a text that has this layout. -/
def cut : Layout → Cut
  | ⟨[], entry :: spaced⟩ => ⟨entry.word, tokens ⟨[], spaced⟩⟩
  | ⟨_, spaced⟩ => ⟨[], tokens ⟨[], spaced⟩⟩

theorem cut_of_apart {indent : List Char} {spaced : List Spaced}
    (apart : indent ≠ [] ∨ spaced = []) :
    cut ⟨indent, spaced⟩ = ⟨[], tokens ⟨[], spaced⟩⟩ := by
  cases indent with
  | cons blank indent => rfl
  | nil =>
      obtain rfl := apart.resolve_left (by simp)
      rfl

theorem Proper.tokens_cut {layout : Layout} (proper : layout.Proper) :
    layout.cut.tokens = layout.tokens := by
  rcases layout.before_gap_or_word with apart | ⟨entry, spaced, rfl⟩
  · rw [cut_of_apart apart]
    rfl
  · obtain ⟨_, ⟨nonempty, _⟩, _⟩ := proper_cons_iff.mp proper
    simp [cut, Cut.tokens, nonempty, tokens]

theorem Proper.cut_place {layout : Layout} (proper : layout.Proper) (c : Char) :
    (layout.place c).cut = layout.cut.push c := by
  cases blank : isBlank c with
  | true =>
      -- only here the cut closes a word, which counts as a token because it is not empty
      rw [place_blank blank, Cut.push, if_pos blank, proper.tokens_cut]
      rfl
  | false =>
      rw [Cut.push, if_neg (by simp [blank])]
      rcases layout.before_gap_or_word with apart | ⟨entry, spaced, rfl⟩
      · rw [place_letter_before_gap blank apart, cut_of_apart apart]
        rfl
      · rw [place_letter_before_word blank]
        rfl

theorem cut_ofChars (chars : List Char) :
    (ofChars chars).cut = chars.foldr Cut.push Cut.empty := by
  induction chars with
  | nil => rfl
  | cons c chars inductionHypothesis =>
      calc (ofChars (c :: chars)).cut = ((ofChars chars).place c).cut := rfl
        _ = (ofChars chars).cut.push c := (proper_ofChars chars).cut_place c
        _ = (c :: chars).foldr Cut.push Cut.empty := by rw [inductionHypothesis, List.foldr_cons]

end Layout

theorem tokens_eq_layout (s : String) : tokens s = (Layout.ofChars s.toList).tokens := by
  rw [tokens, ← Layout.cut_ofChars, (Layout.proper_ofChars _).tokens_cut]

namespace Layout.Proper

variable {layout : Layout}

theorem tokens_eq (proper : layout.Proper) {s : String} (spelled : layout.chars = s.toList) :
    Text.tokens s = layout.tokens := by
  rw [tokens_eq_layout, ← spelled, proper.ofChars_chars]

/-- The words are what is left without the blanks. -/
theorem filter_chars (proper : layout.Proper) :
    layout.chars.filter (fun c => !isBlank c) = layout.spaced.flatMap Spaced.word := by
  obtain ⟨indent, spaced⟩ := layout
  induction spaced generalizing indent with
  | nil => simpa [chars] using proper.indent
  | cons entry spaced inductionHypothesis =>
      obtain ⟨blank, ⟨_, letters⟩, _, rest⟩ := proper_cons_iff.mp proper
      have noIndent : indent.filter (fun c => !isBlank c) = [] := by
        simpa [List.filter_eq_nil_iff] using blank
      have wholeWord : entry.word.filter (fun c => !isBlank c) = entry.word := by
        simpa [List.filter_eq_self] using letters
      rw [chars_cons, List.filter_append, List.filter_append, noIndent, wholeWord,
        inductionHypothesis entry.gap rest, List.nil_append, List.flatMap_cons]

theorem tokens_eq_nil_iff (proper : layout.Proper) :
    layout.tokens = [] ↔ ∀ c ∈ layout.chars, isBlank c = true := by
  have noWords : layout.tokens = [] ↔ layout.spaced.flatMap Spaced.word = [] := by
    rw [tokens, List.map_eq_nil_iff, List.flatMap_eq_nil_iff]
    constructor
    · intro nothing
      simp [nothing]
    · intro allEmpty
      rw [List.eq_nil_iff_forall_not_mem]
      intro entry inside
      exact (proper.words entry inside).1 (allEmpty entry inside)
  rw [noWords, ← proper.filter_chars, List.filter_eq_nil_iff]
  simp

end Layout.Proper

theorem token_of_mem_tokens {s token : String} (member : token ∈ tokens s) :
    token ≠ "" ∧ Solid token := by
  rw [tokens_eq_layout] at member
  obtain ⟨entry, inside, rfl⟩ := List.mem_map.mp member
  obtain ⟨nonempty, letters⟩ := (Layout.proper_ofChars s.toList).words entry inside
  exact ⟨by simpa using nonempty, by simpa [Solid] using letters⟩

theorem toList_join_tokens (s : String) :
    (String.join (tokens s)).toList = s.toList.filter fun c => !isBlank c := by
  have filtered := (Layout.proper_ofChars s.toList).filter_chars
  rw [Layout.chars_ofChars] at filtered
  rw [filtered, tokens_eq_layout, String.toList_join, Layout.tokens, List.flatMap_map]
  simp

/-! ## Single spaces -/

/-- Words with one space between neighbours. -/
def singleSpaced : List String → List Spaced
  | [] => []
  | [word] => [⟨word.toList, []⟩]
  | word :: other :: others => ⟨word.toList, [' ']⟩ :: singleSpaced (other :: others)

theorem tokens_singleSpaced (indent : List Char) (words : List String) :
    Layout.tokens ⟨indent, singleSpaced words⟩ = words := by
  fun_induction singleSpaced words with
  | case1 => rfl
  | case2 word => simp [Layout.tokens]
  | case3 word other others inductionHypothesis =>
      simp only [Layout.tokens, List.map_cons, String.ofList_toList] at inductionHypothesis ⊢
      rw [inductionHypothesis]

theorem chars_singleSpaced (indent : List Char) (words : List String) :
    Layout.chars ⟨indent, singleSpaced words⟩ = indent ++ (" ".intercalate words).toList := by
  fun_induction singleSpaced words generalizing indent with
  | case1 => simp [Layout.chars]
  | case2 word => simp [Layout.chars, String.intercalate_singleton]
  | case3 word other others inductionHypothesis =>
      rw [Layout.chars_cons, inductionHypothesis, String.intercalate_cons_cons]
      simp

theorem proper_singleSpaced {indent : List Char} (blank : ∀ c ∈ indent, isBlank c = true)
    {words : List String} (solid : ∀ word ∈ words, word ≠ "" ∧ Solid word) :
    Layout.Proper ⟨indent, singleSpaced words⟩ := by
  fun_induction singleSpaced words generalizing indent with
  | case1 => exact Layout.proper_nil_iff.mpr blank
  | case2 word =>
      obtain ⟨nonempty, letters⟩ := solid word List.mem_cons_self
      rw [Layout.proper_cons_iff, Layout.proper_nil_iff]
      exact ⟨blank, ⟨by simpa using nonempty, letters⟩, Or.inr rfl, by simp⟩
  | case3 word other others inductionHypothesis =>
      obtain ⟨⟨nonempty, letters⟩, rest⟩ := List.forall_mem_cons.mp solid
      rw [Layout.proper_cons_iff]
      have space : isBlank ' ' = true := rfl
      exact ⟨blank, ⟨by simpa using nonempty, letters⟩, Or.inl (by simp),
        inductionHypothesis (List.forall_mem_singleton.mpr space) rest⟩

/-- Tokens can be read back from a text that has single spaces between them. -/
theorem tokens_intercalate {words : List String}
    (solid : ∀ word ∈ words, word ≠ "" ∧ Solid word) :
    tokens (" ".intercalate words) = words := by
  have proper := @proper_singleSpaced [] (by simp) words solid
  rw [proper.tokens_eq (chars_singleSpaced [] words), tokens_singleSpaced]

/-- A line that is cut again after it was written out is the same line. -/
theorem ofString_text_ofString (s : String) :
    Line.ofString (Line.ofString s).text = Line.ofString s := by
  unfold Line.ofString Line.text
  rw [tokens_intercalate fun _ => token_of_mem_tokens]

/-- The tokens of a text are the words of its only layout.  There are none exactly if the text
is blank, together they are the text without its blanks, and tokens written with single spaces
are read back. -/
theorem tokens_unique_layout (s : String) :
    (∃! layout : Layout, layout.Proper ∧ layout.chars = s.toList) ∧
      (∀ words : List String,
        (∃ layout : Layout, layout.Proper ∧ layout.chars = s.toList ∧ layout.tokens = words) ↔
          words = tokens s) ∧
      (tokens s = [] ↔ ∀ c ∈ s.toList, isBlank c = true) ∧
      String.join (tokens s) = String.ofList (s.toList.filter fun c => !isBlank c) ∧
      (∀ words : List String, (∀ word ∈ words, word ≠ "" ∧ Solid word) →
        tokens (" ".intercalate words) = words) ∧
      Line.ofString (Line.ofString s).text = Line.ofString s := by
  have proper := Layout.proper_ofChars s.toList
  have spelled := Layout.chars_ofChars s.toList
  refine ⟨Layout.existsUnique_proper s.toList, ?_, ?_, ?_, fun _ => tokens_intercalate,
    ofString_text_ofString s⟩
  · intro words
    constructor
    · rintro ⟨layout, layoutProper, layoutSpelled, rfl⟩
      exact (layoutProper.tokens_eq layoutSpelled).symm
    · rintro rfl
      exact ⟨_, proper, spelled, (tokens_eq_layout s).symm⟩
  · rw [tokens_eq_layout, proper.tokens_eq_nil_iff, spelled]
  · rw [← toList_join_tokens, String.ofList_toList]

/-- An ideographic space, a next line and a space, and a no-break space around two words. -/
def wideBlanks : Layout :=
  ⟨['\u3000'], [⟨['l', 'd'], ['\u0085', ' ']⟩, ⟨['5'], ['\u00a0']⟩]⟩

theorem tokens_unique_layout_wideBlanks :
    wideBlanks.Proper ∧ tokens "\u3000ld\u0085 5\u00a0" = ["ld", "5"] ∧
      tokens "ld 5" = ["ld", "5"] := by
  have laidOut : wideBlanks = Layout.ofChars wideBlanks.chars := rfl
  have proper : wideBlanks.Proper := laidOut ▸ Layout.proper_ofChars _
  have spelled : wideBlanks.chars = "\u3000ld\u0085 5\u00a0".toList := rfl
  obtain ⟨_, unique, _, _, spaced, _⟩ := tokens_unique_layout "\u3000ld\u0085 5\u00a0"
  have words := (unique ["ld", "5"]).mp ⟨wideBlanks, proper, spelled, rfl⟩
  have solid : ∀ word ∈ ["ld", "5"], word ≠ "" ∧ Solid word := by
    rw [words]
    exact fun _ => token_of_mem_tokens
  exact ⟨proper, words.symm, spaced ["ld", "5"] solid⟩

end AccumulatorMachine.Text
