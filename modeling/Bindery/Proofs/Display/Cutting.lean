import Bindery.Display.Cells
import Mathlib.Algebra.BigOperators.Group.List.Basic
import Mathlib.Algebra.GroupWithZero.Nat

/-!
Contract: bringing a text without a joiner to a number of cells never fails.

Owns:
- the parts of a text put together are the text, and the cells of its parts are its own;
- a cut of a text that is wider than the cut, and a text that is fitted to a number of cells. Both
  hold nothing but blanks and characters of the text.

Does **not** own: a joiner at the front of a text, for which the parts may have fewer cells than the
text, so that a cut may be beyond their end.
-/

namespace Bindery.Display

/-! ## Parts -/

theorem flatMap_extendLast (more : List Char) (extraCells : Nat) (done : List Grapheme) :
    (extendLast more extraCells done).reverse.flatMap Grapheme.text =
      done.reverse.flatMap Grapheme.text ++ more := by
  cases done with
  | nil => simp [extendLast]
  | cons last before => simp [extendLast]

theorem sum_extendLast (more : List Char) (extraCells : Nat) (done : List Grapheme) :
    ((extendLast more extraCells done).map Grapheme.cells).sum =
      (done.map Grapheme.cells).sum + extraCells := by
  cases done with
  | nil => simp [extendLast]
  | cons last before =>
      simp only [extendLast, List.map_cons, List.sum_cons]
      omega

theorem extendLast_ne_nil (more : List Char) (extraCells : Nat) (done : List Grapheme) :
    extendLast more extraCells done ≠ [] := by
  cases done <;> simp [extendLast]

theorem flatMap_graphemesFrom (done : List Grapheme) (last : Option Char) (text : List Char) :
    (graphemesFrom done last text).reverse.flatMap Grapheme.text =
      done.reverse.flatMap Grapheme.text ++ text := by
  fun_induction graphemesFrom done last text <;>
    simp_all [flatMap_extendLast]

/-- The parts of a text put together are the text. -/
theorem flatMap_graphemes (text : List Char) : (graphemes text).flatMap Grapheme.text = text :=
  flatMap_graphemesFrom [] none text

/-! ## Their cells -/

section Step

variable {last : Option Char} {c : Char} {rest : List Char} {done : List Grapheme}

theorem cellCountFrom_cons (other : c ≠ joiner) :
    cellCountFrom last (c :: rest) =
      if c = pictureSelector then
        (if (last.map hasWidePicture).getD false then 1 else 0) + cellCountFrom none rest
      else charCells c + cellCountFrom (if charCells c = 0 then last else some c) rest := by
  rw [cellCountFrom.eq_def]
  simp only [if_neg other]
  cases last <;> simp

theorem graphemesFrom_cons (other : c ≠ joiner) :
    graphemesFrom done last (c :: rest) =
      if c = pictureSelector then
        if !done.isEmpty && (last.map hasWidePicture).getD false then
          graphemesFrom (extendLast [c] 1 done) none rest
        else graphemesFrom (extendLast [c] 0 done) last rest
      else if charCells c = 0 then graphemesFrom (extendLast [c] 0 done) last rest
      else graphemesFrom (⟨[c], charCells c⟩ :: done) (some c) rest := by
  rw [graphemesFrom.eq_def]
  simp only [if_neg other]

end Step

/-- A character without a wider picture counts as no character before a selector. -/
theorem cellCountFrom_of_not_wide {c : Char} {text : List Char}
    (narrow : hasWidePicture c = false) (free : joiner ∉ text) :
    cellCountFrom (some c) text = cellCountFrom none text := by
  induction text with
  | nil => rw [cellCountFrom, cellCountFrom]
  | cons first rest inductionHypothesis =>
      rw [List.mem_cons, not_or] at free
      have sameBehind := inductionHypothesis free.2
      rw [cellCountFrom_cons (Ne.symm free.1), cellCountFrom_cons (Ne.symm free.1)]
      by_cases cellless : charCells first = 0
      · simp [narrow, cellless, sameBehind]
      · simp [narrow, cellless]

/-- The cells of the parts are those that are done and those of the text behind them. -/
theorem sum_graphemesFrom {done : List Grapheme} {last : Option Char} {text : List Char}
    (free : joiner ∉ text) (led : done = [] → last = none) :
    ((graphemesFrom done last text).map Grapheme.cells).sum =
      (done.map Grapheme.cells).sum + cellCountFrom last text := by
  induction text generalizing done last with
  | nil => rw [graphemesFrom, cellCountFrom, Nat.add_zero]
  | cons c rest inductionHypothesis =>
      rw [List.mem_cons, not_or] at free
      have other : c ≠ joiner := Ne.symm free.1
      have grows (more : List Char) (extraCells : Nat) (next : Option Char) :
          ((graphemesFrom (extendLast more extraCells done) next rest).map Grapheme.cells).sum =
            (done.map Grapheme.cells).sum + extraCells + cellCountFrom next rest := by
        rw [← sum_extendLast more extraCells done]
        exact inductionHypothesis free.2 fun empty => absurd empty (extendLast_ne_nil _ _ _)
      rw [graphemesFrom_cons other, cellCountFrom_cons other]
      by_cases selects : c = pictureSelector
      · rw [if_pos selects, if_pos selects]
        cases last with
        | none => simp [grows]
        | some wide =>
            have begun : done ≠ [] := fun empty => nomatch led empty
            cases widens : hasWidePicture wide with
            | true => simp [begun, widens, grows, Nat.add_assoc]
            | false => simp [grows, widens, cellCountFrom_of_not_wide widens free.2]
      · rw [if_neg selects, if_neg selects]
        by_cases cellless : charCells c = 0
        · simp [cellless, grows]
        · have opens :
              ((graphemesFrom (⟨[c], charCells c⟩ :: done) (some c) rest).map Grapheme.cells).sum =
                charCells c + (done.map Grapheme.cells).sum + cellCountFrom (some c) rest :=
            inductionHypothesis free.2 nofun
          rw [if_neg cellless, if_neg cellless, opens]
          omega

theorem partCells_eq_sum (parts : List Grapheme) :
    partCells parts = (parts.map Grapheme.cells).sum := by
  unfold partCells
  rw [List.sum_eq_foldl, List.foldl_map]

/-- Without a joiner, a text has as many cells as its parts. -/
theorem partCells_graphemes {text : List Char} (free : joiner ∉ text) :
    partCells (graphemes text) = cellCount text := by
  unfold graphemes cellCount
  rw [partCells_eq_sum, List.map_reverse, List.sum_reverse,
    sum_graphemesFrom free fun _ => rfl]
  exact Nat.zero_add _

/-! ## Cuts -/

theorem mem_takeCells {cells : Nat} {parts : List Grapheme} {c : Char}
    (member : c ∈ takeCells cells parts) : c = ' ' ∨ c ∈ parts.flatMap Grapheme.text := by
  induction parts generalizing cells with
  | nil => cases cells <;> simp [takeCells] at member
  | cons part rest inductionHypothesis =>
      cases cells with
      | zero => simp [takeCells] at member
      | succ cells =>
          simp only [takeCells] at member
          rw [List.flatMap_cons, List.mem_append]
          split at member
          · exact .inl (List.mem_singleton.1 member)
          · rcases List.mem_append.1 member with here | behind
            · exact .inr (.inl here)
            · exact (inductionHypothesis behind).imp_right .inr

/-- A text that is wider than a cut can be cut. -/
theorem exists_cutAt {cells : Nat} {text : List Char} (free : joiner ∉ text)
    (wider : cells < cellCount text) :
    ∃ cut, cutAt cells text = .ok cut ∧ ∀ c ∈ cut, c = ' ' ∨ c ∈ text := by
  have reached := partCells_graphemes free
  unfold cutAt
  simp only [reached]
  by_cases nothing : cells = 0
  · rw [if_pos nothing]
    exact ⟨[], rfl, nofun⟩
  · rw [if_neg nothing, if_neg (by omega), if_neg (by omega), if_neg (by omega)]
    refine ⟨_, rfl, fun c member => ?_⟩
    rw [← flatMap_graphemes text]
    exact mem_takeCells member

/-- A text without a joiner can be brought to any number of cells. -/
theorem exists_fitTo {text : List Char} (cells : Nat) (free : joiner ∉ text) :
    ∃ fitted, fitTo cells text = .ok fitted ∧ joiner ∉ fitted := by
  have blank : joiner ≠ ' ' := by decide
  unfold fitTo
  simp only []
  split
  · exact ⟨text, rfl, free⟩
  · split
    · refine ⟨_, rfl, fun member => ?_⟩
      rcases List.mem_append.1 member with own | filled
      · exact free own
      · exact blank (List.eq_of_mem_replicate filled)
    · have wider : cells < cellCount text := by omega
      obtain ⟨cut, cuts, within⟩ := exists_cutAt free wider
      exact ⟨cut, cuts, fun member => (within joiner member).elim blank free⟩

end Bindery.Display
