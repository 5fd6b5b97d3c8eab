import Bindery.Manuscript
import Bindery.Proofs.SourceMark.Opening
import Mathlib.Data.List.Induction

/-!
Contract: the lines of a text without comments, once its marks are deleted.

Owns:
- `Stands`, that a line is a line of its own in the result, between what is left of the text on its
  two sides, and that this holds of any line without comments in its place;
- `Sheltered`, the condition for it on the text before the line and on the rest of the text;
- that the two are the same, and that the lines of a text are all found again, in their order, where
  all of them are sheltered.

Does **not** own: the passes before and behind the deletion of marks.

## How a line is lost

An editor line and a section line are deleted with the line feed at their end. That is right for
a comment on a line of its own. A comment behind something else takes the end of that line, which is
then continued by the next one. And a section line ends with the line in which its name is closed,
which may be many lines later.
-/

namespace Bindery.Press

open Bindery.Text Bindery.SourceMark

/-- Deletes the marks for editors, which come before the section lines. -/
def eraseEditorMarks (text : List Char) : List Char :=
  eraseEditorLines (eraseFoldMarks text)

/-- The lines of a text in which no comment begins. -/
def cleanLines (text : List Char) : List (List Char) :=
  (splitAt '\n' text).filter isClean

/-- Any clean line in this place is a line of its own when the marks are gone, as long as it has a
closing brace exactly if the line in question has one. -/
def Stands (before line after : List Char) : Prop :=
  ∀ other, isClean other = true → '\n' ∉ other → ('\x7d' ∈ other ↔ '\x7d' ∈ line) →
    LineAt (eraseMarks (before ++ (other ++ after)))
      (eraseMarks before) other (eraseMarks after)

/-- What protects a line that begins between two parts of a text. -/
structure Sheltered (before rest : List Char) : Prop where
  /-- No editor line takes the end of the line before. -/
  whole : Ended (eraseEditorMarks before)
  /-- Nor does a section line. -/
  ended : Ended (eraseMarks before)
  /-- The name of a section that is still open is not closed. -/
  closed : leavesOpen (eraseEditorMarks before) = true → '\x7d' ∉ eraseEditorMarks rest

instance (before rest : List Char) : Decidable (Sheltered before rest) :=
  decidable_of_iff
    (Ended (eraseEditorMarks before) ∧ Ended (eraseMarks before) ∧
      (leavesOpen (eraseEditorMarks before) = true → '\x7d' ∉ eraseEditorMarks rest))
    ⟨fun ⟨whole, ended, closed⟩ => ⟨whole, ended, closed⟩,
      fun sheltered => ⟨sheltered.whole, sheltered.ended, sheltered.closed⟩⟩

variable {text before line rest after more : List Char}

/-! ## The marks for editors -/

theorem ended_eraseFoldMarks (ended : Ended text) : Ended (eraseFoldMarks text) := by
  rw [eraseFoldMarks_eq]
  exact takes_afterFoldMark.ended_eraseBy ended

theorem eraseEditorMarks_append (ended : Ended before) (rest : List Char) :
    eraseEditorMarks (before ++ rest) = eraseEditorMarks before ++ eraseEditorMarks rest := by
  have folds : eraseFoldMarks (before ++ rest) = eraseFoldMarks before ++ eraseFoldMarks rest := by
    rw [eraseFoldMarks_eq]
    exact isMark_afterFoldMark.consumes.eraseBy_append (takes_afterFoldMark.separates rest) ended
  unfold eraseEditorMarks
  rw [folds, eraseEditorLines_eq]
  exact isMark_afterEditorMark.toLineEnd.consumes.eraseBy_append
    (takes_afterEditorMark.separates_toLineEnd _) (ended_eraseFoldMarks ended)

theorem begun_eraseEditorMarks (begun : Begun after) : Begun (eraseEditorMarks after) := by
  unfold eraseEditorMarks
  rw [eraseEditorLines_eq, eraseFoldMarks_eq]
  exact isMark_afterEditorMark.toLineEnd.begun (isMark_afterFoldMark.begun begun)

theorem eraseEditorMarks_clean (clean : isClean line = true) (begun : Begun after) :
    eraseEditorMarks (line ++ after) = line ++ eraseEditorMarks after := by
  have folds : eraseFoldMarks (line ++ after) = line ++ eraseFoldMarks after := by
    rw [eraseFoldMarks_eq]
    exact isMark_afterFoldMark.eraseBy_clean clean begun
  have begunToo : Begun (eraseFoldMarks after) := by
    rw [eraseFoldMarks_eq]
    exact isMark_afterFoldMark.begun begun
  unfold eraseEditorMarks
  rw [folds, eraseEditorLines_eq]
  exact isMark_afterEditorMark.toLineEnd.eraseBy_clean clean begunToo

/-! ## All marks -/

theorem eraseMarks_clean (clean : isClean line = true) (begun : Begun after) :
    eraseMarks (line ++ after) = line ++ eraseMarks after := by
  show eraseSectionLines (eraseEditorMarks (line ++ after)) = _
  rw [eraseEditorMarks_clean clean begun, eraseSectionLines_eq]
  have kept := isMark_afterSectionMark.toLineEnd.eraseBy_clean clean (begun_eraseEditorMarks begun)
  rw [kept, ← eraseSectionLines_eq]
  rfl

theorem eraseMarks_lineFeed (rest : List Char) :
    ∃ others, eraseMarks ('\n' :: rest) = '\n' :: others := by
  unfold eraseMarks
  rw [eraseFoldMarks_eq, eraseEditorLines_eq, eraseSectionLines_eq,
    isMark_afterFoldMark.eraseBy_lineFeed, isMark_afterEditorMark.toLineEnd.eraseBy_lineFeed,
    isMark_afterSectionMark.toLineEnd.eraseBy_lineFeed]
  exact ⟨_, rfl⟩

theorem begun_eraseMarks (begun : Begun after) : Begun (eraseMarks after) := by
  rcases begun with rfl | ⟨rest, rfl⟩
  · exact .inl rfl
  · obtain ⟨others, shape⟩ := eraseMarks_lineFeed rest
    show Begun (eraseMarks ('\n' :: rest))
    rw [shape]
    exact begun_cons others

/-- Where a line is sheltered, the text before it is treated apart. -/
theorem Sheltered.eraseMarks_append (sheltered : Sheltered before rest) (ended : Ended before) :
    eraseMarks (before ++ rest) = eraseMarks before ++ eraseMarks rest := by
  show eraseSectionLines (eraseEditorMarks (before ++ rest)) = _
  rw [eraseEditorMarks_append ended]
  exact eraseSectionLines_append sheltered.whole sheltered.closed

/-- Less text behind a line does not take its shelter away. -/
theorem Sheltered.of_append (sheltered : Sheltered before (rest ++ more)) (ended : Ended rest) :
    Sheltered before rest where
  whole := sheltered.whole
  ended := sheltered.ended
  closed opened among := by
    apply sheltered.closed opened
    rw [eraseEditorMarks_append ended]
    exact List.mem_append_left _ among

/-! ## One line -/

/-- A line of one character. -/
theorem isClean_replicate {c : Char} (notSlash : '/' ≠ c) (notSign : '#' ≠ c) (count : Nat) :
    isClean (List.replicate count c) = true := by
  have noSlash : '/' ∉ List.replicate count c := fun among =>
    notSlash (List.eq_of_mem_replicate among)
  have free : occurs (literal ['/', '/']) (List.replicate count c) = false := by
    apply occurs_eq_false_of_notMem _ noSlash
    intro other rest different
    simp [literal, Ne.symm different]
  have noSign : '#' ∉ List.replicate count c := fun among =>
    notSign (List.eq_of_mem_replicate among)
  simp [isClean, free, noSign]

/-- There is a longer clean line than any bound, with a closing brace or without one. -/
theorem exists_clean_of_length (line : List Char) (bound : Nat) :
    ∃ other, isClean other = true ∧ '\n' ∉ other ∧ ('\x7d' ∈ other ↔ '\x7d' ∈ line) ∧
      bound < other.length := by
  by_cases closing : '\x7d' ∈ line
  · refine ⟨List.replicate (bound + 1) '\x7d', isClean_replicate (by decide) (by decide) _,
      fun among => absurd (List.eq_of_mem_replicate among) (by decide), ?_, by simp⟩
    exact iff_of_true List.mem_cons_self closing
  · refine ⟨List.replicate (bound + 1) 'x', isClean_replicate (by decide) (by decide) _,
      fun among => absurd (List.eq_of_mem_replicate among) (by decide), ?_, by simp⟩
    exact iff_of_false (fun among => absurd (List.eq_of_mem_replicate among) (by decide)) closing

/-- A line that keeps its place is sheltered. A long line is tried there: a mark that reaches it
takes all of it, and then too little text is left. -/
theorem Stands.sheltered (stands : Stands before line after)
    (at_ : LineAt text before line after) (clean : isClean line = true) :
    Sheltered before (line ++ after) := by
  obtain ⟨other, otherClean, whole, braces, long⟩ := exists_clean_of_length line
    ((eraseEditorMarks before).length + (eraseEditorMarks after).length)
  have place := stands other otherClean whole braces
  rcases short_or_apart whole (eraseEditorMarks before) (eraseEditorMarks after) with short | apart
  · have cut : eraseSectionLines (eraseEditorMarks before ++ (other ++ eraseEditorMarks after)) =
        eraseMarks before ++ (other ++ eraseMarks after) := by
      rw [← place.cut, ← eraseEditorMarks_clean otherClean at_.begun,
        ← eraseEditorMarks_append at_.ended]
      rfl
    rw [cut, List.length_append, List.length_append] at short
    omega
  · refine ⟨apart.ended place.ended, place.ended, fun opened => ?_⟩
    have absent := apart.closed opened
    rw [List.mem_append, braces] at absent
    rw [eraseEditorMarks_clean clean at_.begun, List.mem_append]
    exact absent

/-- A line that is sheltered keeps its place. -/
theorem Sheltered.stands (sheltered : Sheltered before (line ++ after))
    (at_ : LineAt text before line after) (clean : isClean line = true) :
    Stands before line after := by
  intro other otherClean whole braces
  have closed : leavesOpen (eraseEditorMarks before) = true →
      '\x7d' ∉ eraseEditorMarks (other ++ after) := by
    intro opened
    have absent := sheltered.closed opened
    rw [eraseEditorMarks_clean clean at_.begun, List.mem_append, ← braces] at absent
    rw [eraseEditorMarks_clean otherClean at_.begun, List.mem_append]
    exact absent
  have shelteredToo : Sheltered before (other ++ after) :=
    ⟨sheltered.whole, sheltered.ended, closed⟩
  refine ⟨?_, sheltered.ended, whole, begun_eraseMarks at_.begun⟩
  rw [shelteredToo.eraseMarks_append at_.ended, eraseMarks_clean otherClean at_.begun]

/-! ## All lines -/

/-- Every line without comments is sheltered where it stands. -/
def AllSheltered (text : List Char) : Prop :=
  ∀ before line after, LineAt text before line after → isClean line = true →
    Sheltered before (line ++ after)

/-- The lines of a text begin at its places. -/
theorem allSheltered_iff :
    AllSheltered text ↔ ∀ place ∈ List.range (text.length + 1), Ended (text.take place) →
      isClean (firstLine (text.drop place)) = true →
        Sheltered (text.take place) (text.drop place) := by
  constructor
  · intro all place _ ended clean
    have at_ := lineAt_firstLine ended (text.drop place)
    rw [List.take_append_drop] at at_
    have sheltered := all _ _ _ at_ clean
    rw [firstLine, List.takeWhile_append_dropWhile] at sheltered
    exact sheltered
  · rintro each before line after ⟨rfl, ended, whole, begun⟩ clean
    have place : before.length ∈ List.range ((before ++ (line ++ after)).length + 1) := by
      rw [List.mem_range, List.length_append]
      omega
    have sheltered := each before.length place
    rw [List.take_left, List.drop_left, firstLine_append whole begun] at sheltered
    exact sheltered ended clean

instance (text : List Char) : Decidable (AllSheltered text) :=
  decidable_of_iff _ allSheltered_iff.symm

/-- A sheltered line is among the lines of the result, behind what is left of the lines before. -/
theorem exists_splitAt_eraseMarks (at_ : LineAt text before line after)
    (clean : isClean line = true) (sheltered : Sheltered before (line ++ after)) :
    ∃ rest, splitAt '\n' (eraseMarks text) = completeLines (eraseMarks before) ++ line :: rest ∧
      (after ≠ [] → rest ≠ []) := by
  have place := sheltered.stands at_ clean line clean at_.whole Iff.rfl
  obtain ⟨rest, lines, more⟩ := exists_splitAt_of_begun place.ended place.whole place.begun
  refine ⟨rest, ?_, fun goesOn => more ?_⟩
  · rw [at_.cut, place.cut]
    exact lines
  · obtain ⟨others, rfl⟩ := at_.begun.resolve_left goesOn
    obtain ⟨_, shape⟩ := eraseMarks_lineFeed others
    show eraseMarks ('\n' :: others) ≠ []
    rw [shape]
    exact List.cons_ne_nil _ _

/-- Up to a clean line, all lines are sheltered in the text before it as well. -/
theorem AllSheltered.of_lineAt (all : AllSheltered text) (at_ : LineAt text before line after)
    (clean : isClean line = true) : AllSheltered before := by
  intro earlier inner between innerAt innerClean
  have ended : Ended (inner ++ between) := by
    apply at_.ended.of_suffix
    rw [innerAt.cut]
    exact List.suffix_append earlier _
  by_cases last : between = []
  · subst last
    have empty : inner = [] := by
      apply Decidable.byContradiction
      intro nonempty
      rw [List.append_nil] at ended
      exact innerAt.whole (ended.lineFeed_mem nonempty)
    subst empty
    have same : before = earlier := by
      rw [innerAt.cut, List.append_nil, List.append_nil]
    rw [← same]
    exact @Sheltered.of_append before [] (line ++ after) (all before line after at_ clean) ended
  · have innerInText : LineAt text earlier inner (between ++ (line ++ after)) := {
      cut := by rw [at_.cut, innerAt.cut, List.append_assoc, List.append_assoc]
      ended := innerAt.ended
      whole := innerAt.whole
      begun := innerAt.begun.append last _ }
    apply @Sheltered.of_append earlier (inner ++ between) (line ++ after) _ ended
    rw [List.append_assoc]
    exact all _ _ _ innerInText innerClean

/-- The clean lines that are ended. The induction is on these lines, from the last one. -/
theorem sublist_completeLines {kept : List (List Char)} (all : AllSheltered text)
    (lines : (completeLines text).filter isClean = kept) :
    kept.Sublist (completeLines (eraseMarks text)) := by
  induction kept using List.reverseRecOn generalizing text with
  | nil => exact List.nil_sublist _
  | append_singleton front line inductionHypothesis =>
      obtain ⟨earlier, later, complete, keptEarlier, single⟩ := List.filter_eq_append_iff.1 lines
      obtain ⟨between, behind, rfl, unclean, clean, _⟩ := List.filter_eq_cons_iff.1 single
      obtain ⟨last, together⟩ := exists_last_line text
      have cut : splitAt '\n' text = (earlier ++ between) ++ line :: (behind ++ [last]) := by
        rw [together, complete]
        simp
      obtain ⟨before, after, at_, completeBefore, goesOn⟩ := exists_lineAt cut
      obtain ⟨rest, result, more⟩ :=
        exists_splitAt_eraseMarks at_ clean (all before line after at_ clean)
      have first : front.Sublist (completeLines (eraseMarks before)) := by
        apply inductionHypothesis (all.of_lineAt at_ clean)
        rw [completeBefore, List.filter_append, keptEarlier, List.filter_eq_nil_iff.2 unclean,
          List.append_nil]
      have found : completeLines (eraseMarks text) =
          completeLines (eraseMarks before) ++ line :: rest.dropLast := by
        have some : rest ≠ [] := more (goesOn (by simp))
        rw [← List.dropLast_cons_of_ne_nil some,
          ← List.dropLast_append_of_ne_nil (List.cons_ne_nil line rest), ← result]
        rfl
      rw [found]
      exact first.append (List.singleton_sublist.2 List.mem_cons_self)

/-- Where all are sheltered, the clean lines of a text are lines of the result, in their order. -/
theorem cleanLines_sublist (all : AllSheltered text) :
    (cleanLines text).Sublist (splitAt '\n' (eraseMarks text)) := by
  obtain ⟨last, lines⟩ := exists_last_line text
  unfold cleanLines
  rw [lines, List.filter_append]
  by_cases clean : isClean last = true
  · obtain ⟨before, after, at_, completeBefore, _⟩ := exists_lineAt lines
    obtain ⟨rest, result, _⟩ :=
      exists_splitAt_eraseMarks at_ clean (all before last after at_ clean)
    have first : ((completeLines text).filter isClean).Sublist
        (completeLines (eraseMarks before)) := by
      rw [← completeBefore]
      exact sublist_completeLines (all.of_lineAt at_ clean) rfl
    rw [result, List.filter_cons_of_pos clean]
    exact first.append (List.singleton_sublist.2 List.mem_cons_self)
  · rw [List.filter_cons_of_neg clean, List.filter_nil, List.append_nil]
    exact (sublist_completeLines all rfl).trans (completeLines_sublist _)

/-! ## The lines of the result -/

/-- The deletion of marks keeps a line without comments in its place, as a line of its own, if and
only if the line is sheltered. Where all are sheltered, the result has all of them as lines,
unchanged and in their order. -/
theorem stands_iff_sheltered (text : List Char) :
    (∀ before line after, LineAt text before line after → isClean line = true →
      (Stands before line after ↔ Sheltered before (line ++ after))) ∧
    (AllSheltered text → (cleanLines text).Sublist (splitAt '\n' (eraseMarks text))) :=
  ⟨fun _ _ _ at_ clean => ⟨fun stands => stands.sheltered at_ clean,
    fun sheltered => sheltered.stands at_ clean⟩, cleanLines_sublist⟩

/-- Lines with each of the marks, all of them where they do no harm. -/
def annotatedLines : List Char :=
  "a \x7d\n// FILE_SECTION_BEGIN\x7bs\x7d\nb //\x7b1\n// vim: x\n".toList

/-- With an empty line and one more line behind them, all lines but the marked ones are kept. -/
theorem stands_iff_sheltered_annotated :
    AllSheltered (annotatedLines ++ ['\n', 'c']) ∧
      cleanLines (annotatedLines ++ ['\n', 'c']) = [['a', ' ', '\x7d'], [], ['c']] ∧
      (cleanLines (annotatedLines ++ ['\n', 'c'])).Sublist
        (splitAt '\n' (eraseMarks (annotatedLines ++ ['\n', 'c']))) ∧
      Stands annotatedLines [] ['\n', 'c'] := by
  have sheltered : AllSheltered (annotatedLines ++ ['\n', 'c']) := by decide +kernel
  have at_ : LineAt (annotatedLines ++ ['\n', 'c']) annotatedLines [] ['\n', 'c'] :=
    ⟨rfl, by decide +kernel, by decide, by decide⟩
  obtain ⟨each, all⟩ := stands_iff_sheltered (annotatedLines ++ ['\n', 'c'])
  exact ⟨sheltered, by decide +kernel, all sheltered,
    (each _ _ _ at_ (by decide)).2 (sheltered _ _ _ at_ (by decide))⟩

/-- A comment behind something else glues the next line to it. -/
theorem trailing_comment_joins_lines :
    cleanLines "a // vim: x\nb".toList = [['b']] ∧
      eraseMarks "a // vim: x\nb".toList = "a b".toList ∧
      ¬(cleanLines "a // vim: x\nb".toList).Sublist
        (splitAt '\n' (eraseMarks "a // vim: x\nb".toList)) := by
  decide +kernel

end Bindery.Press
