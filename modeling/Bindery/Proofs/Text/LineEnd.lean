import Bindery.Proofs.Text.Mark
import Bindery.Text.Lines

/-!
Contract: where a text may be cut without cutting a line.

Owns:
- `Ended` and `Begun`, the texts behind which, and in front of which, a line may stand as a line of
  its own;
- `completeLines`, the lines that are ended by a line feed;
- what the lines of two texts are once they are put together, and the cut that belongs to a line
  among the lines of a text.

Does **not** own: edits of a text.
-/

namespace Bindery.Text

/-! ## Cutting at a mark -/

theorem splitAt_of_notMem {mark : Char} {text : List Char} (absent : mark ∉ text) :
    splitAt mark text = [text] := by
  induction text with
  | nil => rfl
  | cons c rest inductionHypothesis =>
      simp only [List.mem_cons, not_or] at absent
      simp [splitAt, Ne.symm absent.1, inductionHypothesis absent.2]

/-- A mark separates the parts on its two sides. -/
theorem splitAt_append_mark (mark : Char) (left right : List Char) :
    splitAt mark (left ++ mark :: right) = splitAt mark left ++ splitAt mark right := by
  induction left with
  | nil => simp [splitAt]
  | cons c rest inductionHypothesis =>
      simp only [List.cons_append, splitAt, inductionHypothesis]
      split
      · rfl
      · cases shape : splitAt mark rest with
        | nil => exact absurd shape (splitAt_ne_nil mark rest)
        | cons first others => rfl

/-- Parts without a mark that are put together with marks are cut into the same parts again. -/
theorem splitAt_intercalate {mark : Char} {parts : List (List Char)}
    (clean : ∀ part ∈ parts, mark ∉ part) (some : parts ≠ []) :
    splitAt mark ([mark].intercalate parts) = parts := by
  induction parts with
  | nil => exact absurd rfl some
  | cons part rest inductionHypothesis =>
      obtain ⟨absent, others⟩ := List.forall_mem_cons.1 clean
      by_cases last : rest = []
      · rw [last, List.intercalate_singleton, splitAt_of_notMem absent]
      · rw [List.intercalate_cons_of_ne_nil last, List.append_assoc, List.singleton_append,
          splitAt_append_mark, splitAt_of_notMem absent, inductionHypothesis others last]
        rfl

/-- Between two parts of a text there is a mark. -/
theorem exists_of_splitAt_append {mark : Char} {text : List Char} {front behind : List (List Char)}
    (parts : splitAt mark text = front ++ behind) (some : front ≠ []) (more : behind ≠ []) :
    ∃ left right, text = left ++ mark :: right ∧ splitAt mark left = front ∧
      splitAt mark right = behind := by
  induction text generalizing front with
  | nil =>
      obtain ⟨first, others, rfl⟩ := List.exists_cons_of_ne_nil some
      have none : others ++ behind = [] := (List.cons.inj parts).2.symm
      exact absurd (List.append_eq_nil_iff.1 none).2 more
  | cons c rest inductionHypothesis =>
      obtain ⟨first, others, rfl⟩ := List.exists_cons_of_ne_nil some
      by_cases marked : c = mark
      · subst marked
        simp only [splitAt, ↓reduceIte, List.cons_append, List.cons.injEq] at parts
        obtain ⟨rfl, parts⟩ := parts
        rcases others with _ | ⟨second, others⟩
        · exact ⟨[], rest, rfl, rfl, parts⟩
        · obtain ⟨left, right, rfl, onLeft, onRight⟩ := inductionHypothesis parts (by simp)
          exact ⟨c :: left, right, rfl, by simp [splitAt, onLeft], onRight⟩
      · simp only [splitAt, marked, ↓reduceIte] at parts
        cases shape : splitAt mark rest with
        | nil => exact absurd shape (splitAt_ne_nil mark rest)
        | cons part later =>
            rw [shape] at parts
            obtain ⟨rfl, rfl⟩ := List.cons.inj parts
            obtain ⟨left, right, rfl, onLeft, onRight⟩ :=
              @inductionHypothesis (part :: others) shape (by simp)
            exact ⟨c :: left, right, rfl, by simp [splitAt, marked, onLeft], onRight⟩

/-- A text without a mark in it is its only part. -/
theorem eq_of_splitAt_eq_singleton {mark : Char} {text part : List Char}
    (single : splitAt mark text = [part]) : text = part := by
  have together := intercalate_splitAt mark text
  rw [single] at together
  simpa using together.symm

/-! ## Ends of lines -/

/-- Every line of the text is ended. -/
def Ended (text : List Char) : Prop :=
  text = [] ∨ ['\n'] <:+ text

/-- The text goes on with the end of a line, if it goes on at all. -/
def Begun (text : List Char) : Prop :=
  text = [] ∨ ['\n'] <+: text

instance (text : List Char) : Decidable (Ended text) :=
  inferInstanceAs (Decidable (text = [] ∨ ['\n'] <:+ text))

instance (text : List Char) : Decidable (Begun text) :=
  inferInstanceAs (Decidable (text = [] ∨ ['\n'] <+: text))

variable {text left right line after : List Char}

theorem ended_nil : Ended [] :=
  .inl rfl

theorem ended_append_lineFeed (text : List Char) : Ended (text ++ ['\n']) :=
  .inr (List.suffix_append text ['\n'])

theorem begun_cons (rest : List Char) : Begun ('\n' :: rest) :=
  .inr (List.prefix_append ['\n'] rest)

theorem Ended.suffix (ended : Ended text) (nonempty : text ≠ []) : ['\n'] <:+ text :=
  ended.resolve_left nonempty

theorem Ended.lineFeed_mem (ended : Ended text) (nonempty : text ≠ []) : '\n' ∈ text :=
  (ended.suffix nonempty).subset List.mem_cons_self

theorem Ended.of_suffix (ended : Ended text) {place : List Char} (behind : place <:+ text) :
    Ended place := by
  by_cases empty : place = []
  · exact .inl empty
  have nonempty : text ≠ [] := by
    rintro rfl
    exact empty (List.suffix_nil.1 behind)
  rcases List.suffix_or_suffix_of_suffix behind (ended.suffix nonempty) with inside | last
  · rcases List.suffix_cons_iff.1 inside with rfl | nothing
    · exact .inr List.suffix_rfl
    · exact absurd (List.suffix_nil.1 nothing) empty
  · exact .inr last

theorem ended_append_iff (nonempty : right ≠ []) : Ended (left ++ right) ↔ Ended right := by
  constructor
  · intro ended
    exact ended.of_suffix (List.suffix_append left right)
  · intro ended
    exact .inr ((ended.suffix nonempty).trans (List.suffix_append left right))

theorem ended_append (first : Ended left) (second : Ended right) : Ended (left ++ right) := by
  by_cases empty : right = []
  · rw [empty, List.append_nil]
    exact first
  · exact (ended_append_iff empty).2 second

theorem Begun.append (begun : Begun text) (nonempty : text ≠ []) (right : List Char) :
    Begun (text ++ right) :=
  .inr ((begun.resolve_left nonempty).trans (List.prefix_append text right))

/-! ## Lines that are ended -/

/-- The lines of a text that are ended, which are all but the last one. -/
def completeLines (text : List Char) : List (List Char) :=
  (splitAt '\n' text).dropLast

/-- The last line is the one that is not ended. -/
theorem exists_last_line (text : List Char) :
    ∃ last, splitAt '\n' text = completeLines text ++ [last] :=
  ⟨_, (List.dropLast_concat_getLast (splitAt_ne_nil '\n' text)).symm⟩

theorem completeLines_sublist (text : List Char) :
    (completeLines text).Sublist (splitAt '\n' text) :=
  List.dropLast_sublist _

theorem completeLines_append_lineFeed (text : List Char) :
    completeLines (text ++ ['\n']) = splitAt '\n' text := by
  unfold completeLines
  rw [splitAt_append_mark]
  exact List.dropLast_concat

/-- Behind ended lines, the lines are those of the text that follows. -/
theorem splitAt_append_of_ended (ended : Ended left) (right : List Char) :
    splitAt '\n' (left ++ right) = completeLines left ++ splitAt '\n' right := by
  rcases ended with rfl | ⟨front, rfl⟩
  · rfl
  · rw [completeLines_append_lineFeed, List.append_assoc]
    exact splitAt_append_mark '\n' front right

/-- A line between an end of a line and the next one is one of the lines. -/
theorem exists_splitAt_of_begun (ended : Ended left) (whole : '\n' ∉ line) (begun : Begun after) :
    ∃ rest, splitAt '\n' (left ++ (line ++ after)) = completeLines left ++ line :: rest ∧
      (after ≠ [] → rest ≠ []) := by
  rw [splitAt_append_of_ended ended]
  rcases begun with rfl | ⟨rest, rfl⟩
  · refine ⟨[], ?_, fun nonempty => absurd rfl nonempty⟩
    rw [List.append_nil, splitAt_of_notMem whole]
  · refine ⟨splitAt '\n' rest, ?_, fun _ => splitAt_ne_nil '\n' rest⟩
    show _ ++ splitAt '\n' (line ++ '\n' :: rest) = _
    rw [splitAt_append_mark, splitAt_of_notMem whole]
    rfl

/-- Where a line stands in a text. -/
structure LineAt (text before line after : List Char) : Prop where
  cut : text = before ++ (line ++ after)
  ended : Ended before
  whole : '\n' ∉ line
  begun : Begun after

/-- The line that a text begins with. -/
def firstLine (text : List Char) : List Char :=
  text.takeWhile (· != '\n')

theorem firstLine_append (whole : '\n' ∉ line) (begun : Begun after) :
    firstLine (line ++ after) = line := by
  unfold firstLine
  rw [List.takeWhile_append_of_pos (bne_of_notMem whole)]
  rcases begun with rfl | ⟨rest, rfl⟩
  · exact List.append_nil line
  · exact List.append_nil line

theorem lineAt_firstLine (ended : Ended left) (rest : List Char) :
    LineAt (left ++ rest) left (firstLine rest) (rest.dropWhile (· != '\n')) where
  cut := congrArg (left ++ ·) List.takeWhile_append_dropWhile.symm
  ended := ended
  whole among := absurd (List.all_eq_true.1 List.all_takeWhile _ among) (by decide)
  begun := by
    cases shape : rest.dropWhile (· != '\n') with
    | nil => exact .inl rfl
    | cons c others =>
        have stopped := List.head?_dropWhile_not (· != '\n') rest
        rw [shape] at stopped
        obtain rfl : c = '\n' := by simpa using stopped
        exact begun_cons others

/-- Each of the lines of a text stands somewhere, behind the lines before it. -/
theorem exists_lineAt {front behind : List (List Char)}
    (lines : splitAt '\n' text = front ++ line :: behind) :
    ∃ before after, LineAt text before line after ∧ completeLines before = front ∧
      (behind ≠ [] → after ≠ []) := by
  have whole : '\n' ∉ line := by
    apply mark_notMem_of_mem_splitAt '\n' text
    rw [lines]
    exact List.mem_append_right front List.mem_cons_self
  obtain ⟨before, rest, cut, ended, complete, remaining⟩ : ∃ before rest,
      text = before ++ rest ∧ Ended before ∧ completeLines before = front ∧
        splitAt '\n' rest = line :: behind := by
    by_cases first : front = []
    · subst first
      exact ⟨[], text, rfl, ended_nil, rfl, lines⟩
    · obtain ⟨left, right, rfl, rfl, onRight⟩ :=
        exists_of_splitAt_append lines first (List.cons_ne_nil line behind)
      refine ⟨left ++ ['\n'], right, ?_, ended_append_lineFeed left,
        completeLines_append_lineFeed left, onRight⟩
      rw [List.append_assoc]
      rfl
  by_cases last : behind = []
  · subst last
    obtain rfl := eq_of_splitAt_eq_singleton remaining
    exact ⟨before, [], ⟨by rw [List.append_nil, cut], ended, whole, .inl rfl⟩, complete,
      fun more => absurd rfl more⟩
  · obtain ⟨left, right, rfl, onLeft, _⟩ :=
      @exists_of_splitAt_append '\n' rest [line] behind remaining (by simp) last
    obtain rfl := eq_of_splitAt_eq_singleton onLeft
    exact ⟨before, '\n' :: right, ⟨cut, ended, whole, begun_cons right⟩, complete, by simp⟩

end Bindery.Text
