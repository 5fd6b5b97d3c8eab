import Bindery.Proofs.Display.Setting

/-!
Contract: a text of printable ASCII characters that fits a line is set as this line.

Owns:
- `Straight`, the texts of such characters, and `Narrow`, the wider class that also has the
  characters of frames: every character takes one cell, so cells are counted as characters are;
- that a straight text is one line, which is broken nowhere if it is short enough, and that setting
  it fails exactly if one of its styles cannot be read.
-/

namespace Bindery.Display

/-- A text of printable ASCII characters. -/
def Straight (text : List Char) : Prop :=
  ∀ c ∈ text, 0x20 ≤ c.toNat ∧ c.toNat < 0x7f

instance (text : List Char) : Decidable (Straight text) :=
  List.decidableBAll _ text

/-- A text of characters that take one cell each. -/
def Narrow (text : List Char) : Prop :=
  ∀ c ∈ text, charCells c = 1

theorem Straight.narrow {text : List Char} (straight : Straight text) : Narrow text := by
  intro c member
  obtain ⟨least, most⟩ := straight c member
  unfold charCells
  simp only [if_neg (Nat.not_lt.2 least), if_pos most]

theorem Straight.notMem {text : List Char} (straight : Straight text) {c : Char}
    (outside : ¬ (0x20 ≤ c.toNat ∧ c.toNat < 0x7f)) : c ∉ text :=
  fun member => outside (straight c member)

theorem Straight.sublist {text part : List Char} (straight : Straight text)
    (within : part.Sublist text) : Straight part :=
  fun c member => straight c (within.subset member)

theorem Straight.append {left right : List Char} (front : Straight left) (back : Straight right) :
    Straight (left ++ right) :=
  fun c member => (List.mem_append.1 member).elim (front c) (back c)

theorem straight_nil : Straight [] :=
  fun _ member => absurd member List.not_mem_nil

theorem straight_blanks (count : Nat) : Straight (blanks count) := by
  intro c member
  rw [List.eq_of_mem_replicate member]
  decide

theorem Narrow.append {left right : List Char} (front : Narrow left) (back : Narrow right) :
    Narrow (left ++ right) :=
  fun c member => (List.mem_append.1 member).elim (front c) (back c)

theorem Narrow.sublist {text part : List Char} (narrow : Narrow text)
    (within : part.Sublist text) : Narrow part :=
  fun c member => narrow c (within.subset member)

theorem narrow_replicate {c : Char} (one : charCells c = 1) (count : Nat) :
    Narrow (List.replicate count c) := by
  intro other member
  rw [List.eq_of_mem_replicate member]
  exact one

/-! ## Cells -/

theorem cellCountFrom_of_narrow {text : List Char} (last : Option Char) (narrow : Narrow text) :
    cellCountFrom last text = text.length := by
  have joins : charCells joiner = 0 := by decide +kernel
  have selects : charCells pictureSelector = 0 := by decide +kernel
  induction text generalizing last with
  | nil => rw [cellCountFrom, List.length_nil]
  | cons c rest inductionHypothesis =>
      have one := narrow c List.mem_cons_self
      have other : c ≠ joiner := by
        rintro rfl
        exact absurd (joins.symm.trans one) (by decide)
      have plain : c ≠ pictureSelector := by
        rintro rfl
        exact absurd (selects.symm.trans one) (by decide)
      have behind := inductionHypothesis (some c) fun d member =>
        narrow d (List.mem_cons_of_mem c member)
      rw [cellCountFrom_cons other, if_neg plain, one, if_neg (by decide), behind, List.length_cons]
      omega

theorem cellCount_of_narrow {text : List Char} (narrow : Narrow text) :
    cellCount text = text.length :=
  cellCountFrom_of_narrow none narrow

theorem lineCells_eq_sum (line : List Segment) : lineCells line = (line.map cellCount).sum := by
  unfold lineCells
  rw [List.sum_eq_foldl, List.foldl_map]

/-- The cells of a line are its characters. -/
theorem lineCells_of_narrow {line : List Segment} (narrow : Narrow line.flatten) :
    lineCells line = line.flatten.length := by
  rw [lineCells_eq_sum, List.length_flatten]
  refine congrArg List.sum (List.map_congr_left fun segment member => ?_)
  exact cellCount_of_narrow (narrow.sublist (List.sublist_flatten_of_mem member))

theorem shapeTo_eq_self {width : Nat} {line : List Segment} (exact_ : lineCells line = width) :
    shapeTo width line = .ok line := by
  unfold shapeTo
  simp only [exact_, if_neg (Nat.lt_irrefl width)]
  exact cropTo_eq_self (Nat.le_of_eq exact_)

/-! ## Words -/

/-- The words of a text, put together, are the front of it. -/
theorem flatten_wordsFrom_prefix (fuel : Nat) (text : List Char) :
    (wordsFrom fuel text).flatten <+: text := by
  induction fuel generalizing text with
  | zero => exact List.nil_prefix
  | succ fuel inductionHypothesis =>
      rw [wordsFrom]
      split
      · exact List.nil_prefix
      · rw [List.flatten_cons]
        generalize afterShape : (text.dropWhile Text.isBlank).dropWhile
          (fun c => !Text.isBlank c) = after
        have whole : text = text.takeWhile Text.isBlank ++
            (text.dropWhile Text.isBlank).takeWhile (fun c => !Text.isBlank c) ++
            after.takeWhile Text.isBlank ++ after.dropWhile Text.isBlank := by
          rw [List.append_assoc _ (after.takeWhile _), List.takeWhile_append_dropWhile,
            ← afterShape, List.append_assoc, List.takeWhile_append_dropWhile,
            List.takeWhile_append_dropWhile]
        conv => rhs; rw [whole]
        exact List.prefix_append_right_inj _ |>.2 (inductionHypothesis _)

/-- Words that have room on one line start no other. -/
theorem breaksFrom_of_room {width : Nat} {overflow : Overflow} {used : Nat}
    {parts : List (List Char)} (position : Nat) (narrow : Narrow parts.flatten)
    (room : used + parts.flatten.length ≤ width) :
    breaksFrom position (chunksFrom width overflow position used parts) = [] := by
  induction parts generalizing position used with
  | nil => rfl
  | cons word rest inductionHypothesis =>
      rw [List.flatten_cons] at narrow room
      rw [List.length_append] at room
      have own : Narrow word := narrow.sublist (List.sublist_append_left word _)
      have bare := (Text.trimEnd_isPrefix word).sublist
      have fits : used + cellCount (Text.trimEnd word) ≤ width := by
        rw [cellCount_of_narrow (own.sublist bare)]
        have shorter := bare.length_le
        omega
      rw [chunksFrom.eq_def]
      simp only [if_pos fits, breaksFrom, Bool.false_eq_true, if_false]
      apply inductionHypothesis _ (narrow.sublist (List.sublist_append_right word _))
      rw [cellCount_of_narrow own]
      omega

/-- A line that is short enough is broken nowhere. -/
theorem breaks_of_fits {width : Nat} (overflow : Overflow) {line : List Char}
    (narrow : Narrow line) (fits : line.length ≤ width) : breaks width overflow line = [] := by
  have front := flatten_wordsFrom_prefix line.length line
  have shorter := front.length_le
  apply breaksFrom_of_room 0 (narrow.sublist front.sublist)
  show 0 + (wordsFrom line.length line).flatten.length ≤ width
  omega

/-! ## Lines -/

theorem lineEndsFrom_of_notMem {text : List Char} (position : Nat) (absent : '\n' ∉ text) :
    lineEndsFrom position text = [] := by
  induction text generalizing position with
  | nil => rfl
  | cons c rest inductionHypothesis =>
      rw [List.mem_cons, not_or] at absent
      rw [lineEndsFrom, if_neg (Ne.symm absent.1), inductionHypothesis _ absent.2]

theorem breakLines_of_straight {text : List Char} (straight : Straight text) :
    Text.breakLines text = if text = [] then [] else [text] := by
  induction text with
  | nil => rfl
  | cons c rest inductionHypothesis =>
      obtain ⟨least, most⟩ := straight c List.mem_cons_self
      have inside : Text.isLineBoundary c = false := by
        simp only [Text.isLineBoundary, Bool.or_eq_false_iff, Bool.and_eq_false_iff,
          decide_eq_false_iff_not, beq_eq_false_iff_ne]
        omega
      have behind := inductionHypothesis fun d member => straight d (List.mem_cons_of_mem c member)
      have notReturn : c ≠ '\r' := by
        rintro rfl
        exact absurd least (by decide)
      rw [Text.breakLines.eq_def]
      split
      · contradiction
      · rename_i same
        exact absurd (List.cons.inj same).1 notReturn
      · rename_i same
        obtain ⟨rfl, rfl⟩ := List.cons.inj same
        rw [inside, behind]
        cases rest <;> rfl

namespace StyledText

/-- A text with blanks behind it, which no span covers. -/
def filled (count : Nat) (styled : StyledText) : StyledText :=
  { styled with text := styled.text ++ blanks count }

variable {styled : StyledText}

/-- A straight text is a single line. -/
theorem linesOf_of_straight (straight : Straight styled.text) : linesOf styled = [styled] := by
  have absent : '\n' ∉ styled.text := straight.notMem (by decide)
  have kept : styled.text ≠ ['\n'] := by
    intro same
    rw [same] at absent
    exact absent List.mem_cons_self
  unfold linesOf
  rw [lineEndsFrom_of_notMem 0 absent]
  simp [divide, kept]

theorem layOutLine_of_fits (setting : Setting) {width : Nat} (straight : Straight styled.text)
    (fits : styled.text.length ≤ width) :
    layOutLine setting width styled =
      .ok [styled.filled (if setting.fills then width - styled.text.length else 0)] := by
  have noTab : '\t' ∉ styled.text := straight.notMem (by decide)
  have narrow := straight.narrow
  have untabbed : expandTabs styled = styled := by simp [expandTabs, noTab]
  have whole : dropEndBeyond width styled = styled := by
    simp [dropEndBeyond, Nat.sub_eq_zero_of_le fits]
  have set : truncate setting width styled =
      .ok (styled.filled (if setting.fills then width - styled.text.length else 0)) := by
    unfold truncate filled
    simp only [cellCount_of_narrow narrow, if_neg (Nat.not_lt.2 fits)]
    cases setting.fills <;> simp [blanks]
  unfold layOutLine
  simp only [untabbed, breaks_of_fits setting.overflow narrow fits, divide, List.isEmpty_nil,
    if_true, ite_self, List.mapM_cons, List.mapM_nil, whole, set]
  rfl

/-- A straight text that fits a line is set as this line, once its styles have been read. -/
theorem layOut_of_fits (setting : Setting) {width : Nat} (straight : Straight styled.text)
    (fits : styled.text.length ≤ width) :
    layOut setting width styled = styled.checkStyles.map fun _ =>
      [(styled.filled (if setting.fills then width - styled.text.length else 0)).segments] := by
  unfold layOut
  simp only [linesOf_of_straight straight, List.mapM_cons, List.mapM_nil,
    layOutLine_of_fits setting straight fits]
  show (do
    [styled.filled _].forM checkStyles
    return [styled.filled _].map segments) = _
  show (do
    styled.checkStyles >>= fun _ => pure ()
    return [styled.filled _].map segments) = _
  cases styled.checkStyles <;> rfl

/-- A straight text below an empty line is set in two lines. -/
theorem layOut_below_empty {width : Nat} {text : List Char} (straight : Straight text)
    (fits : text.length ≤ width) :
    layOut .running width (plain ('\n' :: text)) =
      .ok [(plain []).segments, (plain text).segments] := by
  have lines : linesOf (plain ('\n' :: text)) = [plain [], plain text] := by
    have absent : '\n' ∉ text := straight.notMem (by decide)
    have kept : text ≠ ['\n'] := by
      rintro rfl
      exact absent List.mem_cons_self
    unfold linesOf
    simp [plain, lineEndsFrom, lineEndsFrom_of_notMem 1 absent, divide, kept]
  have none : Straight (plain []).text := straight_nil
  have first : layOutLine .running width (plain []) = _ :=
    layOutLine_of_fits .running none (Nat.zero_le width)
  have second : layOutLine .running width (plain text) = _ :=
    layOutLine_of_fits .running straight fits
  unfold layOut
  rw [lines]
  simp only [List.mapM_cons, List.mapM_nil, first, second]
  simp [Setting.running, filled, blanks, plain]
  rfl

end StyledText

/-- Lines that are short enough are shown as they are. -/
theorem showLines_of_narrow {width : Nat} {lines : List (List Segment)}
    (fits : ∀ line ∈ lines, Narrow line.flatten ∧ line.flatten.length ≤ width) :
    showLines width lines =
      .ok (String.ofList ((lines.map List.flatten).flatMap fun line => line ++ ['\n'])) := by
  have whole : lines.mapM (cropTo width) = .ok (lines.map id) := by
    refine mapM_eq_map fun line among => ?_
    obtain ⟨narrow, short⟩ := fits line among
    exact cropTo_eq_self (lineCells_of_narrow narrow ▸ short)
  unfold showLines
  rw [whole, List.map_id, List.flatMap_map]
  rfl

end Bindery.Display
