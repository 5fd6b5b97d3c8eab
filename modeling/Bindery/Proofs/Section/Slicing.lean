import Bindery.Excerpt
import Bindery.Proofs.Section.Marker
import Mathlib.Data.List.Induction

/-!
Contract: which lines of a file a section has.

Owns:
- `Inside`, the lines that are in a section by the nearest marker before them, and that a section
  has exactly these lines, so that it is not found exactly when there is none;
- that markers of other sections are lines like any others: whether they are there or not changes
  nothing about the rest of a section.

The pass over the lines keeps one flag. What it stands for is the kind of the nearest marker, and
behind any lines it is read off the markers among them.
-/

namespace Bindery.Section

open Bindery.Text

/-- The line is one of the two markers of the section. -/
def delimits (name line : String) : Bool :=
  isMarker .start name line || isMarker .stop name line

/-- The last of the section's markers among the lines before a line. -/
def nearestMarker? (name : String) (before : List String) : Option String :=
  (before.filter (delimits name)).getLast?

/-- A line is inside a section if it is no marker of it, and if there is a nearest marker before it,
which is one for the begin. -/
structure Inside (name : String) (before : List String) (line : String) : Prop where
  plain : delimits name line = false
  opened : ∃ marker, nearestMarker? name before = some marker ∧ isMarker .start name marker = true

/-- The flag behind some lines. -/
def openAfter (name : String) (inside : Bool) (before : List String) : Bool :=
  match nearestMarker? name before with
  | some marker => isMarker .start name marker
  | none => inside

theorem inside_iff {name line : String} {before : List String} :
    Inside name before line ↔
      (!delimits name line && openAfter name false before) = true := by
  have flag : openAfter name false before = true ↔
      ∃ marker, nearestMarker? name before = some marker ∧ isMarker .start name marker = true := by
    unfold openAfter
    cases nearestMarker? name before with
    | none => simp
    | some marker => simp
  rw [Bool.and_eq_true, Bool.not_eq_true', flag]
  exact ⟨fun inside => ⟨inside.plain, inside.opened⟩, fun ⟨plain, opened⟩ => ⟨plain, opened⟩⟩

instance (name : String) (before : List String) (line : String) :
    Decidable (Inside name before line) :=
  decidable_of_iff _ inside_iff.symm

/-- The lines inside a section, in order and with repetitions. -/
def insideLines (name : String) (lines : List String) : List String :=
  (lines.zipIdx.filter fun (line, place) => Inside name (lines.take place) line).map Prod.fst

/-! ## The pass over the lines -/

/-- What a line makes of the flag. -/
theorem openAfter_cons (name : String) (inside : Bool) (line : String) (rest : List String) :
    openAfter name inside (line :: rest) =
      openAfter name (if delimits name line then isMarker .start name line else inside) rest := by
  unfold openAfter nearestMarker?
  by_cases marker : delimits name line = true
  · rw [List.filter_cons_of_pos marker, if_pos marker]
    cases later : (rest.filter (delimits name)).getLast? with
    | none => simp [List.getLast?_cons, later]
    | some other => simp [List.getLast?_cons, later]
  · rw [List.filter_cons_of_neg marker, if_neg marker]

theorem collectFrom_of_marker {name line : String} (marker : delimits name line = true)
    (inside : Bool) (rest : List String) :
    collectFrom name inside (line :: rest) =
      collectFrom name (isMarker .start name line) rest := by
  rw [collectFrom]
  cases begins : isMarker .start name line with
  | true => rfl
  | false =>
      have ends : isMarker .stop name line = true := by
        simpa [delimits, begins] using marker
      simp [ends]

theorem collectFrom_of_plain {name line : String} (plain : delimits name line = false)
    (inside : Bool) (rest : List String) :
    collectFrom name inside (line :: rest) =
      (if inside then [line] else []) ++ collectFrom name inside rest := by
  obtain ⟨noBegin, noEnd⟩ := Bool.or_eq_false_iff.1 plain
  rw [collectFrom, noBegin, noEnd]
  cases inside with
  | true => rfl
  | false => rfl

/-- The last line of all is taken if it is no marker and the flag is set. -/
theorem collectFrom_append_singleton (name : String) (inside : Bool) (lines : List String)
    (line : String) :
    collectFrom name inside (lines ++ [line]) = collectFrom name inside lines ++
      if !delimits name line && openAfter name inside lines then [line] else [] := by
  induction lines generalizing inside with
  | nil =>
      cases marker : delimits name line with
      | true => exact collectFrom_of_marker marker inside []
      | false =>
          rw [List.nil_append, collectFrom_of_plain marker]
          exact List.append_nil _
  | cons first others inductionHypothesis =>
      rw [openAfter_cons, List.cons_append]
      cases marker : delimits name first with
      | true =>
          rw [collectFrom_of_marker marker, collectFrom_of_marker marker, inductionHypothesis,
            if_pos rfl]
      | false =>
          rw [collectFrom_of_plain marker, collectFrom_of_plain marker, inductionHypothesis,
            List.append_assoc]
          rfl

/-- A section has the lines inside it. The induction is from the last line, since a line is inside
or not by the lines before it. -/
theorem collect_eq_insideLines (name : String) (lines : List String) :
    collect name lines = insideLines name lines := by
  induction lines using List.reverseRecOn with
  | nil => rfl
  | append_singleton lines line inductionHypothesis =>
      have earlier : ∀ entry ∈ lines.zipIdx,
          decide (Inside name ((lines ++ [line]).take entry.2) entry.1) =
            decide (Inside name (lines.take entry.2) entry.1) := by
        intro entry among
        have within : entry.2 < lines.length := List.snd_lt_of_mem_zipIdx among
        rw [List.take_append_of_le_length (Nat.le_of_lt within)]
      have before : (lines ++ [line]).take (0 + lines.length) = lines := by
        rw [Nat.zero_add, List.take_left]
      show collectFrom name false (lines ++ [line]) = _
      rw [collectFrom_append_singleton]
      unfold insideLines
      rw [List.zipIdx_append, List.filter_append, List.map_append, List.filter_congr earlier]
      refine congrArg₂ (· ++ ·) inductionHypothesis ?_
      by_cases inside : Inside name lines line
      · rw [if_pos (inside_iff.1 inside), List.zipIdx_singleton, List.filter_cons_of_pos]
        · rfl
        · exact decide_eq_true (before.symm ▸ inside)
      · rw [if_neg (inside_iff.not.1 inside), List.zipIdx_singleton, List.filter_cons_of_neg]
        · rfl
        · exact fun also => inside (before ▸ of_decide_eq_true also)

/-! ## Lines of other sections -/

/-- Lines, of which some are marked as added. -/
abbrev Edited := List (String × Bool)

/-- All the lines. -/
def Edited.longer (edited : Edited) : List String :=
  edited.map Prod.fst

/-- The lines that are not marked. -/
def Edited.shorter (edited : Edited) : List String :=
  (edited.filter fun (_, added) => !added).map Prod.fst

/-- Added lines that are no markers of a section are all that they add to it. -/
theorem collectFrom_edited {name : String} (inside : Bool) {edited : Edited}
    (foreign : ∀ entry ∈ edited, entry.2 = true → delimits name entry.1 = false) :
    ∃ collected : Edited, collected.Sublist edited ∧
      collectFrom name inside edited.longer = collected.longer ∧
      collectFrom name inside edited.shorter = collected.shorter := by
  induction edited generalizing inside with
  | nil => exact ⟨[], List.Sublist.refl _, rfl, rfl⟩
  | cons entry rest inductionHypothesis =>
      obtain ⟨line, added⟩ := entry
      obtain ⟨ofEntry, ofRest⟩ := List.forall_mem_cons.1 foreign
      show ∃ collected : Edited, _ ∧ collectFrom name inside (line :: Edited.longer rest) = _ ∧ _
      cases marker : delimits name line with
      | true =>
          have kept : added = false := by
            cases added with
            | false => rfl
            | true => exact absurd marker (by simp [ofEntry rfl])
          subst kept
          obtain ⟨collected, among, whole, less⟩ :=
            inductionHypothesis (isMarker .start name line) ofRest
          refine ⟨collected, among.cons _, ?_, ?_⟩
          · rw [collectFrom_of_marker marker, whole]
          · show collectFrom name inside (line :: Edited.shorter rest) = _
            rw [collectFrom_of_marker marker, less]
      | false =>
          obtain ⟨collected, among, whole, less⟩ := inductionHypothesis inside ofRest
          refine ⟨(if inside then [(line, added)] else []) ++ collected, ?_, ?_, ?_⟩
          · cases inside with
            | true => exact among.cons_cons _
            | false => exact among.cons _
          · rw [collectFrom_of_plain marker, whole]
            cases inside with
            | true => rfl
            | false => rfl
          · cases added with
            | true =>
                show collectFrom name inside (Edited.shorter rest) = _
                rw [less]
                cases inside with
                | true => rfl
                | false => rfl
            | false =>
                show collectFrom name inside (line :: Edited.shorter rest) = _
                rw [collectFrom_of_plain marker, less]
                cases inside with
                | true => rfl
                | false => rfl

/-- A line is no marker of two sections whose names are different and have no closing brace. -/
theorem delimits_eq_false {name other line : String} (different : name ≠ other)
    (unclosed : '\x7d' ∉ name.toList) (unclosed' : '\x7d' ∉ other.toList)
    (marks : delimits other line = true) : delimits name line = false := by
  obtain ⟨mark, marked⟩ : ∃ mark, isMarker mark other line = true :=
    (Bool.or_eq_true_iff.1 marks).elim (fun begins => ⟨_, begins⟩) fun ends => ⟨_, ends⟩
  have refused : ∀ kind, isMarker kind name line = false := by
    intro kind
    apply Bool.eq_false_iff.2
    intro also
    exact different (eq_of_isMarker also marked unclosed unclosed').2
  exact Bool.or_eq_false_iff.2 ⟨refused .start, refused .stop⟩

/-- Names of sections are taken literally: a line is a marker exactly if it is blanks, the sign of a
comment, blanks and the label with that name, whatever follows. So sections with different names do
not meddle with one another: no line is a marker of both, and markers of the one that are put into
a file or taken out of it are added to the other one, or go from it, and nothing else changes
there. -/
theorem markers_by_name :
    (∀ mark name line,
      isMarker mark name line = true ↔ Labelled isBlank isBlank mark name line) ∧
    ∀ name other : String, name ≠ other → '\x7d' ∉ name.toList → '\x7d' ∉ other.toList →
      (∀ line, ¬ (delimits name line = true ∧ delimits other line = true)) ∧
      ∀ edited : Edited,
        (∀ entry ∈ edited, entry.2 = true → delimits other entry.1 = true) →
          ∃ collected : Edited, collected.Sublist edited ∧
            collect name edited.longer = collected.longer ∧
            collect name edited.shorter = collected.shorter := by
  refine ⟨fun _ _ _ => isMarker_iff, ?_⟩
  intro name other different unclosed unclosed'
  constructor
  · rintro line ⟨marks, marks'⟩
    rw [delimits_eq_false different unclosed unclosed' marks'] at marks
    contradiction
  · intro edited foreign
    apply collectFrom_edited
    intro entry among added
    exact delimits_eq_false different unclosed unclosed' (foreign entry among added)

/-- A section whose markers have been added inside another one. -/
def nestedSection : Edited := [
  ("// FILE_SECTION_BEGIN\x7bouter\x7d", false),
  ("\t# FILE_SECTION_BEGIN\x7bouter.*\x7d", true),
  ("val one = 1", false),
  ("\t#FILE_SECTION_END\x7bouter.*\x7d of the inner one", true),
  ("// FILE_SECTION_END\x7bouter\x7d", false),
  ("val two = 2", false)]

theorem markers_by_name_nested :
    "outer" ≠ "outer.*" ∧ '\x7d' ∉ "outer".toList ∧ '\x7d' ∉ "outer.*".toList ∧
      (∀ entry ∈ nestedSection, entry.2 = true → delimits "outer.*" entry.1 = true) ∧
      (∃ collected : Edited, collected.Sublist nestedSection ∧
        collect "outer" nestedSection.longer = collected.longer ∧
        collect "outer" nestedSection.shorter = collected.shorter) ∧
      collect "outer" nestedSection.longer =
        ["\t# FILE_SECTION_BEGIN\x7bouter.*\x7d", "val one = 1",
          "\t#FILE_SECTION_END\x7bouter.*\x7d of the inner one"] ∧
      collect "outer" nestedSection.shorter = ["val one = 1"] := by
  have different : "outer" ≠ "outer.*" := by decide
  have unclosed : '\x7d' ∉ "outer".toList := by decide
  have unclosed' : '\x7d' ∉ "outer.*".toList := by decide
  have added : ∀ entry ∈ nestedSection, entry.2 = true → delimits "outer.*" entry.1 = true := by
    decide +kernel
  exact ⟨different, unclosed, unclosed', added,
    (markers_by_name.2 "outer" "outer.*" different unclosed unclosed').2 nestedSection added,
    by decide +kernel, by decide +kernel⟩

end Bindery.Section

namespace Bindery.Excerpt

open Bindery.Section

/-- Narrowing a file to a section gives the lines whose nearest marker before them is one for the
begin of the section, markers apart, and is refused for this file and section exactly if there is no
such line. -/
theorem narrow_by_markers (file name : String) (lines : List String) :
    narrow file name lines =
      if ∃ entry ∈ lines.zipIdx, Inside name (lines.take entry.2) entry.1 then
        .ok ((lines.zipIdx.filter fun (line, place) => Inside name (lines.take place) line).map
          Prod.fst)
      else .error (.sectionNotFound file name) := by
  have some : insideLines name lines = [] ↔
      ¬ ∃ entry ∈ lines.zipIdx, Inside name (lines.take entry.2) entry.1 := by
    simp [insideLines]
  split
  · rename_i found
    apply narrow_eq_ok_iff.2
    refine ⟨(collect_eq_insideLines name lines).symm, ?_⟩
    exact fun none => some.1 none found
  · rename_i missing
    apply narrow_eq_error_iff.2
    exact ⟨(collect_eq_insideLines name lines).trans (some.2 missing), rfl⟩

end Bindery.Excerpt
