import Bindery.Proofs.SourceMark.Marks

/-!
Contract: section lines at the seam of two texts.

Owns:
- `leavesOpen`, whether the deletion of section lines comes to an opening that no brace closes;
- when a text of whole lines is treated apart from what follows: if it leaves nothing open, or if no
  brace follows;
- what happens otherwise, seen from a line of any length behind a text: either the two are treated
  apart and then the text has whole lines and leaves nothing open that is closed later, or the line
  is gone, and with it all but what stands behind it.

Does **not** own: the other marks.
-/

namespace Bindery.SourceMark

open Bindery.Text

/-- Section lines, and openings that no brace closes, behind which nothing more is looked at. -/
def openingOrLine : Recogniser Bool := fun text =>
  match toLineEnd afterSectionMark text with
  | some left => some (false, text.length - left.length)
  | none => (afterOpening text).map fun _ => (true, text.length)

/-- Whether the deletion of section lines comes to an opening that no brace closes. -/
def leavesOpen (text : List Char) : Bool :=
  (scan openingOrLine text).contains (.found true)

variable {text left right other after : List Char}

theorem leavesOpen_of_line (found : toLineEnd afterSectionMark text = some left) :
    leavesOpen text = leavesOpen left := by
  obtain ⟨taken, some, rfl⟩ := isMark_afterSectionMark.toLineEnd.consumes text left found
  have here : openingOrLine (taken ++ left) =
      Option.some (false, (taken ++ left).length - left.length) := by
    unfold openingOrLine
    rw [found]
  unfold leavesOpen
  rw [scan_of_taken here some, List.contains_cons]
  rfl

theorem leavesOpen_of_opening {c : Char} {rest name : List Char}
    (opened : afterOpening (c :: rest) = some name)
    (unclosed : afterSectionMark (c :: rest) = none) : leavesOpen (c :: rest) = true := by
  have here : openingOrLine (c :: rest) = some (true, (c :: rest).length) := by
    unfold openingOrLine
    rw [toLineEnd_eq_none_iff.2 unclosed, opened]
    rfl
  unfold leavesOpen
  rw [scan_cons_of_some here, List.contains_cons]
  rfl

theorem leavesOpen_cons {c : Char} {rest : List Char} (nothing : afterOpening (c :: rest) = none) :
    leavesOpen (c :: rest) = leavesOpen rest := by
  have unmarked : afterSectionMark (c :: rest) = none := by
    unfold afterSectionMark
    rw [nothing]
    rfl
  have here : openingOrLine (c :: rest) = none := by
    unfold openingOrLine
    rw [toLineEnd_eq_none_iff.2 unmarked, nothing]
    rfl
  unfold leavesOpen
  rw [scan_cons_of_none here, List.contains_cons]
  rfl

/-- Something that is left open behind a character is left open with it. -/
theorem leavesOpen_of_cons {c : Char} {rest : List Char}
    (unmarked : afterSectionMark (c :: rest) = none) (opened : leavesOpen rest = true) :
    leavesOpen (c :: rest) = true := by
  cases here : afterOpening (c :: rest) with
  | none =>
      rw [leavesOpen_cons here]
      exact opened
  | some name => exact leavesOpen_of_opening here unmarked

/-! ## Deletion in one text -/

theorem eraseSectionLines_cons {c : Char} {rest : List Char}
    (unmarked : afterSectionMark (c :: rest) = none) :
    eraseSectionLines (c :: rest) = c :: eraseSectionLines rest := by
  rw [eraseSectionLines_eq]
  exact eraseBy_cons_of_none (toLineEnd_eq_none_iff.2 unmarked)

theorem eraseSectionLines_of_line (found : toLineEnd afterSectionMark text = some left) :
    eraseSectionLines text = eraseSectionLines left := by
  rw [eraseSectionLines_eq]
  exact isMark_afterSectionMark.toLineEnd.consumes.eraseBy_of_some found

/-- Behind a mark at the front, no more is left than there is behind its line. -/
theorem length_eraseSectionLines_le {tail : List Char}
    (marked : afterSectionMark text = some tail) :
    (eraseSectionLines text).length ≤ (afterLine tail).length := by
  rw [eraseSectionLines_of_line (toLineEnd_of_some marked), eraseSectionLines_eq]
  exact length_eraseBy_le _ _

/-! ## Whole lines in front of a text -/

/-- In a text of whole lines, a section mark is not the last thing. -/
theorem lineFeed_mem_of_afterSectionMark (ended : Ended text)
    (found : afterSectionMark text = some left) : '\n' ∈ left := by
  obtain ⟨taken, closed, rfl, _⟩ := takes_afterSectionMark text left found
  have nonempty : left ≠ [] := by
    rintro rfl
    rw [List.append_nil] at ended
    have some : taken ≠ [] := by
      rintro rfl
      exact absurd (List.suffix_nil.1 closed) (by decide)
    have same := List.suffix_of_suffix_length_le closed (ended.suffix some) (Nat.le_refl 1)
    exact absurd (same.eq_of_length rfl) (by decide)
  exact (ended.of_suffix (List.suffix_append taken left)).lineFeed_mem nonempty

/-- Whole lines are treated apart from what follows, unless that closes what they leave open. -/
theorem separates_section (right : List Char) :
    Separates (toLineEnd afterSectionMark) right fun text =>
      Ended text ∧ (leavesOpen text = true → '\x7d' ∉ right) where
  alike text := by
    rintro ⟨ended, closed⟩ nonempty
    cases found : afterSectionMark text with
    | some left =>
        have lineEnds := lineFeed_mem_of_afterSectionMark ended found
        rw [takes_afterSectionMark.toLineEnd_append found lineEnds, toLineEnd_of_some found]
        rfl
    | none =>
        have nothing : afterSectionMark (text ++ right) = none := by
          show (afterOpening (text ++ right)).bind afterBrace = none
          rw [takes_afterOpening.append_of_ended ended nonempty]
          cases opened : afterOpening text with
          | none => rfl
          | some name =>
              have unclosed : '\x7d' ∉ name := by
                apply afterBrace_eq_none_iff.1
                unfold afterSectionMark at found
                rw [opened] at found
                exact found
              obtain ⟨c, rest, rfl⟩ := List.exists_cons_of_ne_nil nonempty
              show afterBrace (name ++ right) = none
              rw [afterBrace_append_of_notMem unclosed]
              exact afterBrace_eq_none_iff.2 (closed (leavesOpen_of_opening opened found))
        rw [toLineEnd_eq_none_iff.2 nothing, toLineEnd_eq_none_iff.2 found]
        rfl
  plain c rest := by
    rintro ⟨ended, closed⟩ nothing
    refine ⟨ended.of_suffix (List.suffix_cons c rest), fun opened => closed ?_⟩
    exact leavesOpen_of_cons (toLineEnd_eq_none_iff.1 nothing) opened
  found text left := by
    rintro ⟨ended, closed⟩ here
    obtain ⟨taken, _, rfl⟩ := isMark_afterSectionMark.toLineEnd.consumes text left here
    refine ⟨ended.of_suffix (List.suffix_append taken left), fun opened => closed ?_⟩
    rw [leavesOpen_of_line here]
    exact opened

theorem eraseSectionLines_append (ended : Ended left)
    (closed : leavesOpen left = true → '\x7d' ∉ right) :
    eraseSectionLines (left ++ right) = eraseSectionLines left ++ eraseSectionLines right := by
  rw [eraseSectionLines_eq]
  exact isMark_afterSectionMark.toLineEnd.consumes.eraseBy_append (separates_section right)
    ⟨ended, closed⟩

/-! ## A line behind a text -/

/-- A text that is treated apart from what follows. -/
structure Apart (left right : List Char) : Prop where
  split_ : eraseSectionLines (left ++ right) = eraseSectionLines left ++ eraseSectionLines right
  ended : Ended (eraseSectionLines left) → Ended left
  closed : leavesOpen left = true → '\x7d' ∉ right

theorem apart_nil (right : List Char) : Apart [] right :=
  ⟨rfl, fun _ => ended_nil, nofun⟩

/-- A character in front at which no mark begins, not even with what follows. -/
theorem Apart.cons {c : Char} {rest : List Char} (apart : Apart rest right)
    (unmarked : afterSectionMark (c :: rest) = none)
    (together : afterSectionMark (c :: rest ++ right) = none) : Apart (c :: rest) right where
  split_ := by
    rw [List.cons_append] at together ⊢
    rw [eraseSectionLines_cons together, eraseSectionLines_cons unmarked, apart.split_]
    rfl
  ended := by
    rw [eraseSectionLines_cons unmarked]
    intro ended
    by_cases empty : rest = []
    · rw [empty] at ended ⊢
      exact ended
    · have endedRest : Ended rest := apart.ended (ended.of_suffix (List.suffix_cons c _))
      exact (@ended_append_iff [c] rest empty).2 endedRest
  closed := by
    intro opened
    cases here : afterOpening (c :: rest) with
    | none =>
        rw [leavesOpen_cons here] at opened
        exact apart.closed opened
    | some name =>
        unfold afterSectionMark at together
        rw [takes_afterOpening.append_of_some here] at together
        have unclosed : '\x7d' ∉ name ++ right := afterBrace_eq_none_iff.1 together
        exact fun among => unclosed (List.mem_append_right name among)

/-- A section line in front that ends before what follows. -/
theorem Apart.behind {tail : List Char} (apart : Apart (afterLine tail) right)
    (marked : afterSectionMark text = some tail) (lineEnds : '\n' ∈ tail) : Apart text right := by
  have found : toLineEnd afterSectionMark text = some (afterLine tail) := toLineEnd_of_some marked
  have together : toLineEnd afterSectionMark (text ++ right) = some (afterLine tail ++ right) :=
    takes_afterSectionMark.toLineEnd_append marked lineEnds right
  constructor
  case split_ =>
    rw [eraseSectionLines_of_line together, eraseSectionLines_of_line found, apart.split_]
  case ended =>
    rw [eraseSectionLines_of_line found]
    intro ended
    obtain ⟨line, shape, _⟩ := exists_afterLine_of_mem lineEnds
    obtain ⟨taken, _, cut, _⟩ := takes_afterSectionMark text tail marked
    have lines : text = (taken ++ line) ++ ['\n'] ++ afterLine tail := by
      rw [List.append_assoc, List.append_assoc, cut]
      exact congrArg (taken ++ ·) shape
    rw [lines]
    exact ended_append (ended_append_lineFeed _) (apart.ended ended)
  case closed =>
    rw [leavesOpen_of_line found]
    exact apart.closed

/-- A text and a line behind it are treated apart, or nothing is left of the line. The induction
follows the deletion in the text alone. The two differ as soon as a mark takes something of the line
as well, and then it takes the line to its end. -/
theorem short_or_apart (whole : '\n' ∉ other) (left after : List Char) :
    (eraseSectionLines (left ++ (other ++ after))).length ≤ left.length + after.length ∨
      Apart left (other ++ after) := by
  induction left using isMark_afterSectionMark.toLineEnd.consumes.induction with
  | nil => exact .inr (apart_nil _)
  | plain c rest nothing inductionHypothesis =>
      have unmarked : afterSectionMark (c :: rest) = none := toLineEnd_eq_none_iff.1 nothing
      cases together : afterSectionMark (c :: rest ++ (other ++ after)) with
      | some tail =>
          obtain ⟨taken, _, cut⟩ := takes_afterSectionMark.suffix_of_none unmarked together
          left
          calc (eraseSectionLines (c :: rest ++ (other ++ after))).length
              ≤ (afterLine tail).length := length_eraseSectionLines_le together
            _ ≤ after.length := length_afterLine_le whole cut
            _ ≤ (c :: rest).length + after.length := Nat.le_add_left _ _
      | none =>
          rcases inductionHypothesis with short | apart
          · left
            rw [List.cons_append] at together ⊢
            rw [eraseSectionLines_cons together, List.length_cons, List.length_cons]
            omega
          · exact .inr (apart.cons unmarked together)
  | found text left here inductionHypothesis =>
      obtain ⟨tail, marked, rfl⟩ := Option.map_eq_some_iff.1 here
      by_cases lineEnds : '\n' ∈ tail
      · rcases inductionHypothesis with short | apart
        · obtain ⟨taken, _, cut⟩ := isMark_afterSectionMark.toLineEnd.consumes text _ here
          left
          rw [eraseSectionLines_of_line (takes_afterSectionMark.toLineEnd_append marked lineEnds _),
            cut, List.length_append]
          omega
        · exact .inr (apart.behind marked lineEnds)
      · left
        calc (eraseSectionLines (text ++ (other ++ after))).length
            ≤ (afterLine (tail ++ (other ++ after))).length :=
              length_eraseSectionLines_le (takes_afterSectionMark.append_of_some marked _)
          _ = (afterLine after).length := by
              rw [afterLine_append_of_notMem lineEnds, afterLine_append_of_notMem whole]
          _ ≤ after.length := (afterLine_suffix after).length_le
          _ ≤ text.length + after.length := Nat.le_add_left _ _

end Bindery.SourceMark
