import AccumulatorMachine.Proofs.Loading
import AccumulatorMachine.Proofs.TokenLayout

/-!
# Rendering a program

A program is rendered as a source whose lines have single spaces between their tokens.  Loading
that source gives the program back: tokens have no line feed and no carriage return, so rendered
lines are found again as they were, and every gap of a line has room for a space, so no line
becomes longer than it was.
-/

namespace AccumulatorMachine

namespace Text

theorem lines_join {texts : List String} (noFeed : ∀ s ∈ texts, '\n' ∉ s.toList)
    (noReturn : ∀ s ∈ texts, '\r' ∉ s.toList) :
    lines (String.join (texts.map (· ++ "\n"))) = texts := by
  induction texts with
  | nil => rfl
  | cons s texts inductionHypothesis =>
      obtain ⟨feed, noFeed⟩ := List.forall_mem_cons.mp noFeed
      obtain ⟨carriage, noReturn⟩ := List.forall_mem_cons.mp noReturn
      have spelled : String.join ((s :: texts).map (· ++ "\n")) =
          String.ofList (s.toList ++ '\n' :: (String.join (texts.map (· ++ "\n"))).toList) := by
        rw [← String.toList_inj, List.map_cons, String.join_cons]
        simp
      rw [spelled, lines_ended feed, String.ofList_toList, inductionHypothesis noFeed noReturn,
        dropReturn_of_absent carriage, String.ofList_toList]

theorem not_mem_intercalate {c : Char} (other : c ≠ ' ') {words : List String}
    (absent : ∀ word ∈ words, c ∉ word.toList) : c ∉ (" ".intercalate words).toList := by
  fun_induction singleSpaced words with
  | case1 => simp
  | case2 word => simpa [String.intercalate_singleton] using absent
  | case3 word next others inductionHypothesis =>
      obtain ⟨first, rest⟩ := List.forall_mem_cons.mp absent
      rw [String.intercalate_cons_cons, String.toList_append, String.toList_append,
        List.mem_append, List.mem_append, not_or, not_or]
      exact ⟨⟨first, by simpa using other⟩, inductionHypothesis rest⟩

/-- A blank that is not a space does not occur between the tokens of a line. -/
theorem not_mem_text {c : Char} (blank : isBlank c = true) (other : c ≠ ' ') (s : String) :
    c ∉ (Line.ofString s).text.toList := by
  apply not_mem_intercalate other
  intro token member inside
  have solid := (token_of_mem_tokens member).2 c inside
  rw [blank] at solid
  cases solid

theorem Layout.Proper.utf8ByteSize_le {layout : Layout} (proper : layout.Proper) :
    (" ".intercalate layout.tokens).utf8ByteSize + (String.ofList layout.indent).utf8ByteSize ≤
      (String.ofList layout.chars).utf8ByteSize := by
  obtain ⟨indent, spaced⟩ := layout
  induction spaced generalizing indent with
  | nil => simp [chars, tokens]
  | cons entry spaced inductionHypothesis =>
      obtain ⟨_, _, apart, rest⟩ := proper_cons_iff.mp proper
      have later := inductionHypothesis entry.gap rest
      rw [chars_cons, String.ofList_append, String.ofList_append, String.utf8ByteSize_append,
        String.utf8ByteSize_append]
      cases spaced with
      | nil =>
          simp only [tokens, List.map_cons, List.map_nil, String.intercalate_singleton]
          omega
      | cons next spaced =>
          have nonempty : entry.gap ≠ [] := apart.resolve_right (by simp)
          have wide : (String.ofList entry.gap).utf8ByteSize ≠ 0 := by
            rw [Ne, String.utf8ByteSize_eq_zero_iff, String.ofList_eq_empty_iff]
            exact nonempty
          have space : " ".utf8ByteSize = 1 := by decide
          simp only [tokens, List.map_cons, String.intercalate_cons_cons,
            String.utf8ByteSize_append] at later ⊢
          omega

/-- A line is not longer than the text it was cut from. -/
theorem utf8ByteSize_text_le (s : String) :
    (Line.ofString s).text.utf8ByteSize ≤ s.utf8ByteSize := by
  have bound := (Layout.proper_ofChars s.toList).utf8ByteSize_le
  rw [← tokens_eq_layout, Layout.chars_ofChars, String.ofList_toList] at bound
  exact Nat.le_trans (Nat.le_add_right _ _) bound

end Text

namespace Program

theorem lines_render (texts : List String) :
    Text.lines (render ⟨(texts.map Line.ofString).toArray⟩) =
      texts.map fun s => (Line.ofString s).text := by
  have joined : render ⟨(texts.map Line.ofString).toArray⟩ =
      String.join ((texts.map fun s => (Line.ofString s).text).map (· ++ "\n")) := by
    simp [render, Function.comp_def]
  rw [joined]
  apply Text.lines_join
  · intro text member
    obtain ⟨s, _, rfl⟩ := List.mem_map.mp member
    exact Text.not_mem_text rfl (by decide) s
  · intro text member
    obtain ⟨s, _, rfl⟩ := List.mem_map.mp member
    exact Text.not_mem_text rfl (by decide) s

theorem ofSource_render {source : String} {program : Program}
    (accepted : ofSource source = .ok program) : ofSource program.render = .ok program := by
  obtain ⟨fit, rfl⟩ := ofSource_eq_ok_iff.mp accepted
  rw [ofSource_eq_ok_iff, lines_render]
  constructor
  · intro text member
    obtain ⟨s, inside, rfl⟩ := List.mem_map.mp member
    exact Nat.le_trans (Text.utf8ByteSize_text_le s) (fit s inside)
  · simp [Function.comp_def, Text.ofString_text_ofString]

/-! ## Rows that do not fit -/

theorem enterAll_concat_empty (program : Program) (texts : List String) (fault : Fault) :
    program.enterAll (texts ++ [""]) = .error fault ↔ program.enterAll texts = .error fault := by
  have fits : "".utf8ByteSize ≤ lineBuffer := Nat.zero_le _
  rw [enterAll, List.foldlM_append, ← enterAll]
  cases program.enterAll texts with
  | error other => exact Iff.rfl
  | ok entered =>
      have loaded : (entered.push (Line.ofString "")).enterAll [] =
          .ok (entered.push (Line.ofString "")) := rfl
      rw [ok_bind, ← enterAll, enterAll_cons_of_fits fits, loaded]
      simp only [reduceCtorEq]

/-- Loading fails at the first row that does not fit. -/
theorem ofSource_eq_error_iff_rows {source : String} {fault : Fault} :
    ofSource source = .error fault ↔
      ∃ count, FirstLong (Text.rows source) count ∧
        fault = ⟨.lineBufferOverflow, some (count + 1), ""⟩ := by
  have sameFault : ofSource source = .error fault ↔
      empty.enterAll (Text.rows source) = .error fault := by
    rcases Text.rows_eq_lines_or source with same | more
    · rw [same, ofSource]
    · rw [more, enterAll_concat_empty, ofSource]
  rw [sameFault, enterAll_eq_error_iff]
  simp [empty, Program.size]

/-- A program that was loaded can be rendered and loaded again.  Loading fails exactly if some row
of the source does not fit in the line buffer, and reports the first of them. -/
theorem render_reloads (source : String) :
    (∀ program, ofSource source = .ok program →
      program.lines.toList = (Text.lines source).map Line.ofString ∧
        ofSource program.render = .ok program) ∧
      ((∃ fault, ofSource source = .error fault) ↔
        ∃ row ∈ Text.rows source, lineBuffer < row.utf8ByteSize) ∧
      ∀ fault, ofSource source = .error fault ↔
        ∃ before row later, Text.rows source = before ++ row :: later ∧
          (∀ earlier ∈ before, earlier.utf8ByteSize ≤ lineBuffer) ∧
            lineBuffer < row.utf8ByteSize ∧
              fault = ⟨.lineBufferOverflow, some (before.length + 1), ""⟩ := by
  refine ⟨?_, ?_, ?_⟩
  · intro program accepted
    obtain ⟨_, rfl⟩ := ofSource_eq_ok_iff.mp accepted
    exact ⟨rfl, ofSource_render accepted⟩
  · constructor
    · rintro ⟨fault, refused⟩
      obtain ⟨count, ⟨before, row, later, split, _, _, long⟩, _⟩ :=
        ofSource_eq_error_iff_rows.mp refused
      exact ⟨row, by simp [split], long⟩
    · intro long
      obtain ⟨count, firstLong⟩ := exists_firstLong long
      exact ⟨_, ofSource_eq_error_iff_rows.mpr ⟨count, firstLong, rfl⟩⟩
  · intro fault
    rw [ofSource_eq_error_iff_rows]
    constructor
    · rintro ⟨_, ⟨before, row, later, split, rfl, fit, long⟩, same⟩
      exact ⟨before, row, later, split, fit, long, same⟩
    · rintro ⟨before, row, later, split, fit, long, same⟩
      exact ⟨before.length, ⟨before, row, later, split, rfl, fit, long⟩, same⟩

theorem render_reloads_commented :
    ofSource "\tld  5\r\n\n # a\u3000b" = .ok ⟨#[⟨["ld", "5"]⟩, ⟨[]⟩, ⟨["#", "a", "b"]⟩]⟩ ∧
      ofSource "ld 5\n\n# a b\n" = .ok ⟨#[⟨["ld", "5"]⟩, ⟨[]⟩, ⟨["#", "a", "b"]⟩]⟩ := by
  have loaded : ofSource "\tld  5\r\n\n # a\u3000b" =
      .ok ⟨#[⟨["ld", "5"]⟩, ⟨[]⟩, ⟨["#", "a", "b"]⟩]⟩ := rfl
  obtain ⟨_, reloaded⟩ := (render_reloads "\tld  5\r\n\n # a\u3000b").1 _ loaded
  exact ⟨loaded, reloaded⟩

end Program

end AccumulatorMachine
