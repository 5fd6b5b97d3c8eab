import Bindery.Proofs.Text.LineEnd
import Mathlib.Data.List.DropRight
import Mathlib.Data.List.Induction

/-!
Contract: a text as its lines, joined by line feeds.

Owns:
- cutting at line feeds and joining with them as the inverses of each other;
- that empty lines at the end of the lines are line feeds at the end of the text, so that dropping
  the ones is dropping the others.

Does **not** own: where a single line stands in a text (`Bindery.Proofs.Text.LineEnd`).
-/

namespace Bindery.Text

variable {mark : Char} {parts : List (List Char)} {lines : List String}

/-! ## Marks at the end -/

theorem intercalate_concat (parts : List (List Char)) (part : List Char) :
    [mark].intercalate (parts ++ [part]) =
      (if parts = [] then [] else [mark].intercalate parts ++ [mark]) ++ part := by
  induction parts with
  | nil => simp [List.intercalate_singleton]
  | cons first others inductionHypothesis =>
      rw [List.cons_append, List.intercalate_cons_of_ne_nil (by simp), inductionHypothesis,
        if_neg (List.cons_ne_nil first others)]
      by_cases single : others = []
      · simp [single, List.intercalate_singleton]
      · rw [if_neg single, List.intercalate_cons_of_ne_nil single]
        simp only [List.append_assoc]

/-- Dropping empty parts at the end drops the marks at the end. The induction is from the last part,
since one that is not empty keeps all that stands before it. -/
theorem intercalate_rdropWhile (clean : ∀ part ∈ parts, mark ∉ part) :
    [mark].intercalate (parts.rdropWhile (· = [])) =
      ([mark].intercalate parts).rdropWhile (· = mark) := by
  induction parts using List.reverseRecOn with
  | nil => simp
  | append_singleton parts part inductionHypothesis =>
      have others : ∀ part ∈ parts, mark ∉ part :=
        fun other among => clean other (List.mem_append_left _ among)
      by_cases empty : part = []
      · subst empty
        rw [List.rdropWhile_concat_pos _ _ _ (by simp), inductionHypothesis others,
          intercalate_concat, List.append_nil]
        by_cases none : parts = []
        · simp [none]
        · rw [if_neg none, List.rdropWhile_concat_pos _ _ _ (by simp)]
      · rw [List.rdropWhile_concat_neg _ _ _ (by simpa using empty)]
        symm
        rw [List.rdropWhile_eq_self_iff, intercalate_concat]
        intro nonempty
        rw [List.getLast_append_of_ne_nil _ empty]
        have last := List.getLast_mem empty
        have absent := clean part (List.mem_append_right _ List.mem_cons_self)
        simp only [decide_eq_true_eq]
        exact fun same => absent (same ▸ last)

/-! ## Lines -/

theorem toList_joinLines (lines : List String) :
    (joinLines lines).toList = ['\n'].intercalate (lines.map String.toList) :=
  String.toList_intercalate

theorem map_toList_splitNewlines (text : String) :
    (splitNewlines text).map String.toList = splitAt '\n' text.toList := by
  have back : String.toList ∘ String.ofList = id := funext fun _ => String.toList_ofList
  unfold splitNewlines
  rw [List.map_map, back, List.map_id]

theorem joinLines_splitNewlines (text : String) : joinLines (splitNewlines text) = text := by
  rw [← String.toList_inj, toList_joinLines, map_toList_splitNewlines, intercalate_splitAt]

theorem lineFeed_notMem_of_mem_splitNewlines {text line : String}
    (among : line ∈ splitNewlines text) : '\n' ∉ line.toList := by
  apply mark_notMem_of_mem_splitAt '\n' text.toList
  rw [← map_toList_splitNewlines]
  exact List.mem_map_of_mem among

/-- Lines that are joined are cut into the same lines again. -/
theorem splitNewlines_joinLines (whole : ∀ line ∈ lines, '\n' ∉ line.toList) (some : lines ≠ []) :
    splitNewlines (joinLines lines) = lines := by
  have cut : splitAt '\n' (joinLines lines).toList = lines.map String.toList := by
    rw [toList_joinLines]
    exact splitAt_intercalate (by simpa using whole) (by simpa using some)
  have back : String.ofList ∘ String.toList = id := funext fun _ => String.ofList_toList
  unfold splitNewlines
  rw [cut, List.map_map, back, List.map_id]

/-- The text without the line feeds at its end. -/
def withoutFinalLineFeeds (text : String) : String :=
  String.ofList (text.toList.rdropWhile (· = '\n'))

/-- Lines without the empty ones at their end are the text without the line feeds at its end. -/
theorem joinLines_rdropWhile (whole : ∀ line ∈ lines, '\n' ∉ line.toList) :
    joinLines (lines.rdropWhile (· = "")) = withoutFinalLineFeeds (joinLines lines) := by
  have letters : (lines.rdropWhile (· = "")).map String.toList =
      (lines.map String.toList).rdropWhile (· = []) := by
    have empties : ((· = []) : List Char → Bool) ∘ String.toList = (· = "") := by
      funext line
      simp
    unfold List.rdropWhile
    rw [List.map_reverse, ← empties, ← List.dropWhile_map, List.map_reverse]
  rw [← String.toList_inj, withoutFinalLineFeeds, String.toList_ofList, toList_joinLines,
    toList_joinLines, letters]
  exact intercalate_rdropWhile (by simpa using whole)

end Bindery.Text
