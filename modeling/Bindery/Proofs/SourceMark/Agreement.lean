import Bindery.Proofs.SourceMark.MarkerLine
import Bindery.Text.Lines

/-!
Contract: files whose section comments are markers, and the deletion of section lines in them.

Owns:
- what the deletion leaves of such a file, line by line, as long as there are only spaces and tabs in
  the comments;
- that exactly the markers are deleted if and only if, in addition, there are only spaces before the
  comments.

Does **not** own: what is left of one line (`Bindery.Proofs.SourceMark.MarkerLine`).
-/

namespace Bindery.SourceMark

open Bindery.Text
open Bindery.Section (Lead)

/-- The lines joined by line feeds, and a line feed behind the last one. -/
def wholeLines (lines : List String) : List Char :=
  (joinLines (lines ++ [""])).toList

theorem wholeLines_cons (line : String) (rest : List String) :
    wholeLines (line :: rest) = line.toList ++ '\n' :: wholeLines rest := by
  unfold wholeLines joinLines
  cases more : rest ++ [""] with
  | nil => exact absurd more (by simp)
  | cons next others => simp [more, String.intercalate_cons_cons]

/-- What the deletion leaves of a line of a file. -/
def leftOf (line : String) : List Char :=
  if MarksSection line then residue line else line.toList ++ ['\n']

variable {line : String} {lines : List String}

/-- In a file whose section comments are markers with only spaces and tabs in them, each line is
treated by itself. -/
theorem eraseSectionLines_wholeLines (each : ∀ line ∈ lines, '\n' ∉ line.toList ∧
      (¬ Mentions line ∨ MarksWith isBlank isPadding line)) :
    eraseSectionLines (wholeLines lines) = lines.flatMap leftOf := by
  induction lines with
  | nil => rfl
  | cons line rest inductionHypothesis =>
      obtain ⟨⟨whole, either⟩, ofRest⟩ := List.forall_mem_cons.1 each
      rw [wholeLines_cons, List.flatMap_cons, ← inductionHypothesis ofRest]
      unfold leftOf
      rcases either with unmentioned | tight
      · rw [if_neg fun marks => unmentioned (mentions_of_marksSection marks),
          eraseSectionLines_unmentioned unmentioned, List.append_assoc]
        rfl
      · rw [if_pos (marksSection_of_tight tight), eraseSectionLines_tight whole tight]

/-- A marker with another blank in its comment leaves the word of the keywords in the file. -/
theorem sectionWord_infix_wholeLines (each : ∀ line ∈ lines, '\n' ∉ line.toList ∧
      (¬ Mentions line ∨ MarksSection line)) (among : line ∈ lines) (marks : MarksSection line)
    (loose : ¬ MarksWith isBlank isPadding line) :
    sectionWord <:+: eraseSectionLines (wholeLines lines) := by
  induction lines with
  | nil => exact absurd among List.not_mem_nil
  | cons first rest inductionHypothesis =>
      obtain ⟨⟨whole, either⟩, ofRest⟩ := List.forall_mem_cons.1 each
      rw [wholeLines_cons]
      by_cases looseFirst : MarksSection first ∧ ¬ MarksWith isBlank isPadding first
      · exact sectionWord_infix_of_loose looseFirst.1 looseFirst.2 _
      · have later : sectionWord <:+: eraseSectionLines (wholeLines rest) := by
          apply inductionHypothesis ofRest
          rcases List.mem_cons.1 among with rfl | among
          · exact absurd ⟨marks, loose⟩ looseFirst
          · exact among
        rcases either with unmentioned | marked
        · rw [eraseSectionLines_unmentioned unmentioned, List.append_cons]
          exact later.trans (List.suffix_append _ _).isInfix
        · have tight : MarksWith isBlank isPadding first :=
            Classical.byContradiction fun not => looseFirst ⟨marked, not⟩
          rw [eraseSectionLines_tight whole tight]
          exact later.trans (List.suffix_append _ _).isInfix

/-- The word of the keywords is in a file only if one of the lines has it. -/
theorem exists_mentions (among : sectionWord <:+: wholeLines lines) :
    ∃ line ∈ lines, Mentions line := by
  induction lines with
  | nil => exact absurd among (by decide)
  | cons line rest inductionHypothesis =>
      rw [wholeLines_cons] at among
      rcases infix_of_notMem (by decide) among with here | later
      · exact ⟨line, List.mem_cons_self, here⟩
      · obtain ⟨other, inRest, mentions⟩ := inductionHypothesis later
        exact ⟨other, List.mem_cons_of_mem _ inRest, mentions⟩

/-- The lines without the markers are among what is left of a file. -/
theorem wholeLines_sublist_flatMap_leftOf (lines : List String) :
    (wholeLines (lines.filter fun line => ¬ MarksSection line)).Sublist (lines.flatMap leftOf) := by
  induction lines with
  | nil => exact List.Sublist.refl _
  | cons line rest inductionHypothesis =>
      rw [List.flatMap_cons]
      unfold leftOf
      by_cases marks : MarksSection line
      · rw [if_pos marks, List.filter_cons_of_neg (by simpa using marks)]
        exact inductionHypothesis.trans (List.sublist_append_right _ _)
      · rw [if_neg marks, List.filter_cons_of_pos (by simpa using marks), wholeLines_cons,
          List.append_cons]
        exact (List.Sublist.refl _).append inductionHypothesis

/-- What is left of a file is longer than these lines by the blanks that are left of the markers. -/
theorem length_flatMap_leftOf (lines : List String) :
    (lines.flatMap leftOf).length =
      (wholeLines (lines.filter fun line => ¬ MarksSection line)).length +
        ((lines.filter fun line => MarksSection line).flatMap residue).length := by
  induction lines with
  | nil => rfl
  | cons line rest inductionHypothesis =>
      rw [List.flatMap_cons, List.length_append, inductionHypothesis]
      unfold leftOf
      by_cases marks : MarksSection line
      · rw [if_pos marks, List.filter_cons_of_neg (by simpa using marks),
          List.filter_cons_of_pos (by simpa using marks), List.flatMap_cons, List.length_append]
        omega
      · rw [if_neg marks, List.filter_cons_of_pos (by simpa using marks),
          List.filter_cons_of_neg (by simpa using marks), wholeLines_cons]
        simp only [List.length_append, List.length_cons, List.length_nil]
        omega

/-- So nothing but these lines is left exactly if nothing is left of the markers. -/
theorem flatMap_leftOf_eq_iff {lines : List String} :
    lines.flatMap leftOf = wholeLines (lines.filter fun line => ¬ MarksSection line) ↔
      ∀ line ∈ lines, MarksSection line → residue line = [] := by
  have lengths := length_flatMap_leftOf lines
  constructor
  · intro same line among marks
    have nothing : (lines.filter fun line => MarksSection line).flatMap residue = [] := by
      apply List.eq_nil_of_length_eq_zero
      rw [same] at lengths
      omega
    apply List.flatMap_eq_nil_iff.1 nothing line
    exact List.mem_filter.2 ⟨among, decide_eq_true marks⟩
  · intro empty
    have nothing : (lines.filter fun line => MarksSection line).flatMap residue = [] := by
      apply List.flatMap_eq_nil_iff.2
      intro line kept
      obtain ⟨among, marks⟩ := List.mem_filter.1 kept
      exact empty line among (of_decide_eq_true marks)
    symm
    apply (wholeLines_sublist_flatMap_leftOf lines).eq_of_length
    rw [lengths, nothing]
    rfl

/-- Nothing is left of a marker exactly if there are only spaces before its comment. -/
theorem residue_eq_nil_iff (tight : MarksWith isBlank isPadding line) :
    residue line = [] ↔ MarksPlainly line := by
  unfold residue
  rw [List.rdropWhile_eq_nil_iff]
  constructor
  · intro spaces
    obtain ⟨mark, name, unclosed, lead, rest, shape⟩ := tight
    rw [shape, lead.takeWhile_line rfl rfl] at spaces
    let plain : Lead (· = ' ') isPadding := lead.behindBlanks lead.indent spaces
    exact ⟨mark, name, unclosed, plain, rest, shape⟩
  · rintro ⟨mark, name, unclosed, lead, rest, shape⟩
    let wider : Lead isBlank isPadding := lead.mono (fun _ => isBlank_of_isSpace) fun _ tab => tab
    have blanks : line.toList.takeWhile isBlank = lead.indent := by
      rw [shape]
      exact wider.takeWhile_line rfl rfl _
    rw [blanks]
    exact lead.indented

/-- In a file whose section comments are markers, the deletion of section lines takes the markers
and nothing else, if and only if there is nothing but spaces before their comments, and nothing but
spaces and tabs in them. -/
theorem eraseSectionLines_iff_plainly (lines : List String)
    (each : ∀ line ∈ lines, '\n' ∉ line.toList ∧ (¬ Mentions line ∨ MarksSection line)) :
    eraseSectionLines (wholeLines lines) =
        wholeLines (lines.filter fun line => ¬ MarksSection line) ↔
      ∀ line ∈ lines, MarksSection line → MarksPlainly line := by
  by_cases allTight : ∀ line ∈ lines, MarksSection line → MarksWith isBlank isPadding line
  · have treated : eraseSectionLines (wholeLines lines) = lines.flatMap leftOf := by
      apply eraseSectionLines_wholeLines
      intro line among
      exact ⟨(each line among).1, (each line among).2.imp_right (allTight line among)⟩
    rw [treated, flatMap_leftOf_eq_iff]
    refine forall₂_congr fun line among => forall_congr' fun marks => ?_
    exact residue_eq_nil_iff (allTight line among marks)
  · obtain ⟨line, among, marks, loose⟩ : ∃ line ∈ lines, MarksSection line ∧
        ¬ MarksWith isBlank isPadding line := by
      simpa using allTight
    apply iff_of_false
    · -- The word of the keywords is left, and is in none of the lines that should be.
      intro same
      have found := sectionWord_infix_wholeLines each among marks loose
      rw [same] at found
      obtain ⟨other, kept, mentions⟩ := exists_mentions found
      obtain ⟨inLines, unmarked⟩ := List.mem_filter.1 kept
      rcases (each other inLines).2 with unmentioned | marked
      · exact unmentioned mentions
      · exact of_decide_eq_true unmarked marked
    · intro plainly
      exact loose (plainly line among marks).tight

def indentedMarkers : List String :=
  ["a", "  //FILE_SECTION_BEGIN\x7bx y\x7d", "\tb // c", "#\t FILE_SECTION_END\x7bx y\x7d of x y"]

theorem eraseSectionLines_iff_plainly_indented :
    (∀ line ∈ indentedMarkers, '\n' ∉ line.toList ∧ (¬ Mentions line ∨ MarksSection line)) ∧
      (eraseSectionLines (wholeLines indentedMarkers) =
          wholeLines (indentedMarkers.filter fun line => ¬ MarksSection line) ↔
        ∀ line ∈ indentedMarkers, MarksSection line → MarksPlainly line) ∧
      eraseSectionLines (wholeLines indentedMarkers) = wholeLines ["a", "\tb // c"] := by
  have each : ∀ line ∈ indentedMarkers,
      '\n' ∉ line.toList ∧ (¬ Mentions line ∨ MarksSection line) := by
    decide +kernel
  exact ⟨each, eraseSectionLines_iff_plainly indentedMarkers each, by decide +kernel⟩

/-- A marker behind a tab, and a line that is none. -/
def tabbedMarker : List String :=
  ["\t// FILE_SECTION_BEGIN\x7ba\x7d", "b"]

/-- The tab stays, and the line behind the marker is continued from it. -/
theorem tabbed_marker_leaves_tab :
    (∀ line ∈ tabbedMarker, '\n' ∉ line.toList ∧ (¬ Mentions line ∨ MarksSection line)) ∧
      tabbedMarker.filter (fun line => ¬ MarksSection line) = ["b"] ∧
      eraseSectionLines (wholeLines tabbedMarker) = wholeLines ["\tb"] ∧
      eraseSectionLines (wholeLines tabbedMarker) ≠ wholeLines ["b"] := by
  decide +kernel

end Bindery.SourceMark
