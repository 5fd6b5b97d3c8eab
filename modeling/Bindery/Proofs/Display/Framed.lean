import Bindery.Display.Table
import Bindery.Proofs.Display.Straight

/-!
Contract: drawing a table whose texts can be shown never fails, and a table that fits its page has
one line for each of its rows.

Owns:
- that a table of showable texts is drawn, whatever its widths;
- `Cell.Fits`, cells whose text and padding have room in their column, and the one line that is
  drawn of a row of them. Drawing it fails exactly if a style of a cell cannot be read;
- bounds for the widths of columns.

Does **not** own: tables that are narrowed, whose cells may have several lines.
-/

namespace Bindery.Display

/-! ## Tables that can be shown -/

namespace Table

theorem free_cons {segment : Segment} {line : List Segment} (front : joiner ∉ segment)
    (free : Free line) : Free (segment :: line) :=
  List.forall_mem_cons.2 ⟨front, free⟩

theorem free_side (count : Nat) : Free (if count = 0 then [] else [blanks count]) := by
  split
  · exact nofun
  · exact free_blanks count

theorem exists_cellLines {styled : StyledText} (showable : styled.Showable) (wraps : Bool)
    (padding : Nat × Nat) (width : Nat) :
    ∃ lines, cellLines wraps padding width styled = .ok lines ∧ ∀ line ∈ lines, Free line := by
  unfold cellLines
  simp only []
  split
  · exact ⟨[], rfl, nofun⟩
  · obtain ⟨laid, lays, free⟩ := exists_layOut showable (.cell wraps)
      (width - (padding.1 + padding.2))
    rw [lays]
    refine exists_mapM fun line among => ?_
    obtain ⟨shaped, shapes, within⟩ := exists_shapeTo (width - (padding.1 + padding.2))
      (free line among)
    rw [shapes]
    exact exists_shapeTo width (((free_side padding.1).append within).append (free_side padding.2))

theorem free_fillUp {lines : List (List Segment)} (free : ∀ line ∈ lines, Free line)
    (fromAbove : Bool) (height width : Nat) :
    ∀ line ∈ fillUp fromAbove height width lines, Free line := by
  have missing : ∀ line ∈ List.replicate (height - lines.length) [blanks width], Free line := by
    intro line among
    rw [List.eq_of_mem_replicate among]
    exact free_blanks width
  intro line among
  unfold fillUp at among
  cases fromAbove with
  | true => exact (List.mem_append.1 among).elim (missing line) (free line)
  | false => exact (List.mem_append.1 among).elim (free line) (missing line)

theorem free_intercalate {separator : List Segment} {lines : List (List Segment)}
    (between : Free separator) (free : ∀ line ∈ lines, Free line) :
    Free (separator.intercalate lines) := by
  intro segment among
  obtain ⟨line, inside, member⟩ := List.mem_flatten.1 among
  rcases mem_of_mem_intersperse inside with rfl | own
  · exact between segment member
  · exact free line own segment member

variable {table : Table} {rules : Rules} {isHead : Bool} {widths : List Nat}

/-- The cells of a row, each with its column, its width and its position. -/
def placed (table : Table) (widths : List Nat) (row : List StyledText) :
    List (((Column × Nat) × StyledText) × Nat) :=
  ((table.columns.zip widths).zip row).zipIdx

theorem mem_of_mem_placed {row : List StyledText} {cell : ((Column × Nat) × StyledText) × Nat}
    (among : cell ∈ table.placed widths row) : cell.1.2 ∈ row :=
  (List.of_mem_zip (List.fst_mem_of_mem_zipIdx among)).2

/-- The lines of one of these cells, with its width. -/
def layCell (count : Nat) (cell : ((Column × Nat) × StyledText) × Nat) :
    Except DisplayFault (Nat × List (List Segment)) := do
  let lines ← cellLines cell.1.1.1.wraps (padding count cell.2) cell.1.1.2 cell.1.2
  return (cell.1.1.2, lines)

def rowHeight (cells : List (Nat × List (List Segment))) : Nat :=
  max 1 (greatest (cells.map fun cell => cell.2.length))

def fillCell (fromAbove : Bool) (height : Nat) (cell : Nat × List (List Segment)) :
    Except DisplayFault (List (List Segment)) :=
  (fillUp fromAbove height cell.1 cell.2).mapM (shapeTo cell.1)

/-- The line of a row at some height. -/
def rowLine (rules : Rules) (cells : List (List (List Segment))) (index : Nat) : List Segment :=
  [rules.left] ::
    [[rules.middle]].intercalate (cells.map fun lines => (lines[index]?).getD []) ++
    [[rules.right]]

/-- A row is drawn by laying out its cells, filling them up to one height and going through them
line by line. -/
theorem drawRow_eq (row : List StyledText) :
    table.drawRow rules isHead widths row = (do
      let cells ← (table.placed widths row).mapM (layCell table.columns.length)
      let filled ← cells.mapM (fillCell isHead (rowHeight cells))
      return (List.range (rowHeight cells)).map (rowLine rules filled)) := rfl

theorem exists_layCell {cell : ((Column × Nat) × StyledText) × Nat}
    (showable : cell.1.2.Showable) (count : Nat) :
    ∃ laid, layCell count cell = .ok laid ∧ ∀ line ∈ laid.2, Free line := by
  obtain ⟨lines, lays, free⟩ :=
    exists_cellLines showable cell.1.1.1.wraps (padding count cell.2) cell.1.1.2
  refine ⟨(cell.1.1.2, lines), ?_, free⟩
  unfold layCell
  rw [lays]
  rfl

theorem exists_fillCell {cell : Nat × List (List Segment)} (free : ∀ line ∈ cell.2, Free line)
    (fromAbove : Bool) (height : Nat) :
    ∃ filled, fillCell fromAbove height cell = .ok filled ∧ ∀ line ∈ filled, Free line :=
  exists_mapM fun line among =>
    exists_shapeTo cell.1 (free_fillUp free fromAbove height cell.1 line among)

theorem free_rowLine {cells : List (List (List Segment))}
    (frame : joiner ∉ [rules.left, rules.middle, rules.right])
    (free : ∀ lines ∈ cells, ∀ line ∈ lines, Free line) (index : Nat) :
    Free (rowLine rules cells index) := by
  obtain ⟨outer, inner, last, _⟩ : joiner ≠ rules.left ∧ joiner ≠ rules.middle ∧
      joiner ≠ rules.right ∧ True := by simpa using frame
  have parts : ∀ part ∈ cells.map (fun lines => (lines[index]?).getD []), Free part := by
    intro part member
    obtain ⟨lines, inside, rfl⟩ := List.mem_map.1 member
    cases found : lines[index]? with
    | none => exact nofun
    | some line => exact free lines inside line (List.mem_of_getElem? found)
  have between : Free [[rules.middle]] := by simpa [Free] using inner
  refine free_cons (by simpa using outer) ((free_intercalate between parts).append ?_)
  simpa [Free] using last

theorem exists_drawRow {row : List StyledText} (showable : ∀ cell ∈ row, cell.Showable)
    (frame : joiner ∉ [rules.left, rules.middle, rules.right]) (isHead : Bool)
    (widths : List Nat) :
    ∃ lines, table.drawRow rules isHead widths row = .ok lines ∧ ∀ line ∈ lines, Free line := by
  obtain ⟨cells, laid, free⟩ := exists_mapM fun cell among =>
    exists_layCell (showable cell.1.2 (mem_of_mem_placed among)) table.columns.length
  obtain ⟨filled, fills, within⟩ := exists_mapM fun cell among =>
    exists_fillCell (free cell among) isHead (rowHeight cells)
  refine ⟨(List.range (rowHeight cells)).map (rowLine rules filled), ?_, fun line among => ?_⟩
  · rw [drawRow_eq, laid]
    show (cells.mapM (fillCell isHead (rowHeight cells)) >>= _) = _
    rw [fills]
    rfl
  · obtain ⟨index, _, rfl⟩ := List.mem_map.1 among
    exact free_rowLine frame within index

theorem mem_across {fill c : Char} (member : c ∈ across rules fill widths) :
    c ∈ [rules.left, rules.middle, rules.right, fill] := by
  unfold across at member
  rcases List.mem_append.1 member with front | last
  · rcases List.mem_cons.1 front with rfl | inner
    · exact List.mem_cons_self
    · obtain ⟨part, among, inside⟩ := List.mem_flatten.1 inner
      rcases mem_of_mem_intersperse among with rfl | own
      · simp [List.mem_singleton.1 inside]
      · obtain ⟨width, _, rfl⟩ := List.mem_map.1 own
        simp [List.eq_of_mem_replicate inside]
  · simp [List.mem_singleton.1 last]

theorem free_across {fill : Char} (frame : joiner ∉ [rules.left, rules.middle, rules.right, fill]) :
    Free [across rules fill widths] :=
  List.forall_mem_singleton.2 fun member => frame (mem_across member)

/-- A table of showable texts can be drawn on a page of any width. -/
theorem exists_render (heads : ∀ column ∈ table.columns, joiner ∉ column.head)
    (showable : ∀ row ∈ table.rows, ∀ cell ∈ row, cell.Showable) (pageWidth : Nat) :
    ∃ lines, table.render pageWidth = .ok lines ∧ ∀ line ∈ lines, Free line := by
  unfold render
  simp only []
  generalize table.columnWidths (pageWidth - (table.columns.length + 1)) = widths
  have headsShown : ∀ cell ∈ table.columns.map (fun column => StyledText.plain column.head),
      cell.Showable := by
    intro cell among
    obtain ⟨column, inside, rfl⟩ := List.mem_map.1 among
    exact StyledText.showable_plain (heads column inside)
  obtain ⟨head, headDrawn, headFree⟩ :
      ∃ lines, table.drawRow ⟨'┃', '┃', '┃'⟩ true widths
        (table.columns.map fun column => .plain column.head) = .ok lines ∧
        ∀ line ∈ lines, Free line := exists_drawRow headsShown (by decide) true widths
  obtain ⟨rows, rowsDrawn, rowsFree⟩ :
      ∃ rows, table.rows.mapM (table.drawRow ⟨'│', '│', '│'⟩ false widths) = .ok rows ∧
        ∀ lines ∈ rows, ∀ line ∈ lines, Free line :=
    exists_mapM fun row among => exists_drawRow (showable row among) (by decide) false widths
  rw [headDrawn]
  simp only [bind, Except.bind, rowsDrawn]
  refine ⟨_, rfl, fun line among => ?_⟩
  simp only [List.mem_append, List.mem_cons, List.mem_flatten, List.not_mem_nil, or_false] at among
  rcases among with ((rfl | inHead) | rfl | ⟨lines, inside, member⟩) | rfl
  · exact free_across (by decide)
  · exact headFree line inHead
  · exact free_across (by decide)
  · exact rowsFree lines inside line member
  · exact free_across (by decide)

/-! ## Widths -/

theorem foldl_max_le_iff {numbers : List Nat} {start bound : Nat} :
    numbers.foldl max start ≤ bound ↔ start ≤ bound ∧ ∀ number ∈ numbers, number ≤ bound := by
  induction numbers generalizing start with
  | nil => simp
  | cons number rest inductionHypothesis =>
      rw [List.foldl_cons, inductionHypothesis, List.forall_mem_cons, Nat.max_le, and_assoc]

theorem greatest_le_iff {numbers : List Nat} {bound : Nat} :
    greatest numbers ≤ bound ↔ ∀ number ∈ numbers, number ≤ bound := by
  unfold greatest
  rw [foldl_max_le_iff]
  exact and_iff_right (Nat.zero_le bound)

theorem le_greatest {numbers : List Nat} {number : Nat} (member : number ∈ numbers) :
    number ≤ greatest numbers :=
  greatest_le_iff.1 (Nat.le_refl _) number member

theorem textWidth_of_straight {text : List Char} (straight : Straight text) :
    textWidth text = text.length := by
  unfold textWidth
  rw [breakLines_of_straight straight]
  split
  · rename_i empty
    rw [empty]
    rfl
  · simp [greatest, cellCount_of_narrow straight.narrow]

/-- The width of a cell of straight text is that of its characters and its padding. -/
theorem cellWidth_of_straight {limit : Nat} {padding : Nat × Nat} {text : List Char}
    (straight : Straight text) (room : padding.1 + text.length + padding.2 ≤ limit)
    (wide : padding.1 + padding.2 < limit) :
    cellWidth limit padding text = padding.1 + text.length + padding.2 := by
  unfold cellWidth
  simp only [textWidth_of_straight straight]
  rw [if_neg (by omega), Nat.min_eq_left (by omega)]
  omega

/-- The width of a column of some texts. -/
def columnWidth (limit : Nat) (padding : Nat × Nat) (texts : List (List Char)) : Nat :=
  max 1 (greatest (texts.map (cellWidth limit padding)))

/-- The width of a column of straight texts lies between them and a bound for all of them. -/
theorem columnWidth_bounds {limit bound : Nat} (padding : Nat × Nat) {texts : List (List Char)}
    (each : ∀ text ∈ texts, Straight text ∧ padding.1 + text.length + padding.2 ≤ bound)
    (room : bound ≤ limit) (wide : padding.1 + padding.2 < limit) (positive : 1 ≤ bound) :
    columnWidth limit padding texts ≤ bound ∧
      ∀ text ∈ texts, padding.1 + text.length + padding.2 ≤ columnWidth limit padding texts := by
  have widths : ∀ text ∈ texts,
      cellWidth limit padding text = padding.1 + text.length + padding.2 := fun text among =>
    cellWidth_of_straight (each text among).1 (Nat.le_trans (each text among).2 room) wide
  unfold columnWidth
  constructor
  · refine Nat.max_le.2 ⟨positive, greatest_le_iff.2 fun number among => ?_⟩
    obtain ⟨text, inside, rfl⟩ := List.mem_map.1 among
    rw [widths text inside]
    exact (each text inside).2
  · intro text among
    rw [← widths text among]
    exact Nat.le_trans (le_greatest (List.mem_map_of_mem among)) (Nat.le_max_right 1 _)

/-! ## Rows that fit -/

/-- The characters of a cell: its text behind the blanks on its left, filled up to its width. -/
def cellText (padding : Nat × Nat) (width : Nat) (text : List Char) : List Char :=
  blanks padding.1 ++ text ++ blanks (width - (padding.1 + padding.2) - text.length) ++
    blanks padding.2

/-- A straight text that has room in a cell, beside its padding. -/
structure Fits (padding : Nat × Nat) (width : Nat) (styled : StyledText) : Prop where
  straight : Straight styled.text
  roomy : padding.1 + padding.2 < width
  fits : padding.1 + styled.text.length + padding.2 ≤ width

def cellSegments (padding : Nat × Nat) (width : Nat) (styled : StyledText) : List Segment :=
  (if padding.1 = 0 then [] else [blanks padding.1]) ++
    (styled.filled (width - (padding.1 + padding.2) - styled.text.length)).segments ++
    (if padding.2 = 0 then [] else [blanks padding.2])

theorem flatten_side (count : Nat) :
    (if count = 0 then [] else [blanks count] : List Segment).flatten = blanks count := by
  split
  · rename_i none
    rw [none]
    rfl
  · simp

section Cell

variable {padding : Nat × Nat} {width : Nat} {styled : StyledText}

theorem flatten_cellSegments :
    (cellSegments padding width styled).flatten = cellText padding width styled.text := by
  unfold cellSegments cellText
  rw [List.flatten_append, List.flatten_append, flatten_side, flatten_side,
    StyledText.flatten_segments]
  simp [StyledText.filled]

theorem Fits.straight_cellText (fits : Fits padding width styled) :
    Straight (cellText padding width styled.text) :=
  (((straight_blanks _).append fits.straight).append (straight_blanks _)).append (straight_blanks _)

theorem Fits.length_cellText (fits : Fits padding width styled) :
    (cellText padding width styled.text).length = width := by
  have room := fits.fits
  simp only [cellText, List.length_append, length_blanks]
  omega

theorem Fits.lineCells_cellSegments (fits : Fits padding width styled) :
    lineCells (cellSegments padding width styled) = width := by
  rw [lineCells_of_narrow, flatten_cellSegments, fits.length_cellText]
  rw [flatten_cellSegments]
  exact fits.straight_cellText.narrow

/-- A text that fits its cell is drawn as one line, once its styles have been read. -/
theorem Fits.cellLines_eq (fits : Fits padding width styled) (wraps : Bool) :
    cellLines wraps padding width styled =
      styled.checkStyles.map fun _ => [cellSegments padding width styled] := by
  have room := fits.fits
  have roomy := fits.roomy
  have shorter : styled.text.length ≤ width - (padding.1 + padding.2) := by omega
  have inner : width - (padding.1 + padding.2) ≠ 0 := by omega
  have laid := StyledText.layOut_of_fits (.cell wraps) fits.straight shorter
  simp only [Setting.cell, if_true] at laid
  generalize parts : (styled.filled (width - (padding.1 + padding.2) -
    styled.text.length)).segments = segments at laid
  have own : Narrow segments.flatten ∧
      segments.flatten.length = width - (padding.1 + padding.2) := by
    rw [← parts, StyledText.flatten_segments]
    refine ⟨fits.straight.narrow.append (straight_blanks _).narrow, ?_⟩
    simp only [StyledText.filled, List.length_append, length_blanks]
    omega
  have whole := fits.lineCells_cellSegments
  unfold cellLines
  simp only [if_neg inner, laid, Setting.cell]
  cases styled.checkStyles with
  | error fault => rfl
  | ok _ =>
      have shaped := shapeTo_eq_self ((lineCells_of_narrow own.1).trans own.2)
      unfold cellSegments at whole ⊢
      rw [parts] at whole ⊢
      have placed := shapeTo_eq_self whole
      simp only [Except.map, bind, Except.bind, List.mapM_cons, List.mapM_nil, shaped, placed]
      rfl

end Cell

section Row

variable {table : Table} {rules : Rules} {isHead : Bool} {widths : List Nat}
  {row : List StyledText}

/-- Rows of which every cell fits its column. -/
def RowFits (table : Table) (widths : List Nat) (row : List StyledText) : Prop :=
  ∀ cell ∈ table.placed widths row,
    Fits (padding table.columns.length cell.2) cell.1.1.2 cell.1.2

def rowSegments (table : Table) (rules : Rules) (widths : List Nat) (row : List StyledText) :
    List Segment :=
  [rules.left] ::
    [[rules.middle]].intercalate ((table.placed widths row).map fun cell =>
      cellSegments (padding table.columns.length cell.2) cell.1.1.2 cell.1.2) ++
    [[rules.right]]

/-- The characters of a row: its cells between rules. -/
def rowText (table : Table) (rules : Rules) (widths : List Nat) (row : List StyledText) :
    List Char :=
  rules.left ::
    [rules.middle].intercalate ((table.placed widths row).map fun cell =>
      cellText (padding table.columns.length cell.2) cell.1.1.2 cell.1.2.text) ++
    [rules.right]

theorem flatten_intercalate {α : Type} (separator : List (List α)) (lines : List (List (List α))) :
    (separator.intercalate lines).flatten =
      separator.flatten.intercalate (lines.map List.flatten) := by
  unfold List.intercalate
  induction lines with
  | nil => rfl
  | cons first rest inductionHypothesis =>
      cases rest with
      | nil => simp
      | cons second others =>
          simp only [List.map_cons, List.intersperse_cons_cons, List.flatten_cons,
            List.flatten_append, inductionHypothesis]

theorem flatten_rowSegments :
    (table.rowSegments rules widths row).flatten = table.rowText rules widths row := by
  unfold rowSegments rowText
  rw [List.flatten_append, List.flatten_cons, flatten_intercalate, List.map_map]
  simp only [Function.comp_def, flatten_cellSegments]
  rfl

theorem fillUp_singleton (fromAbove : Bool) (width : Nat) (line : List Segment) :
    fillUp fromAbove 1 width [line] = [line] := by
  cases fromAbove <;> rfl

/-- The line of a cell that fits, with the width of its column. -/
def fitted (count : Nat) (cell : ((Column × Nat) × StyledText) × Nat) :
    Nat × List (List Segment) :=
  (cell.1.1.2, [cellSegments (padding count cell.2) cell.1.1.2 cell.1.2])

theorem Fits.layCell_eq {count : Nat} {cell : ((Column × Nat) × StyledText) × Nat}
    (fits : Fits (padding count cell.2) cell.1.1.2 cell.1.2) :
    layCell count cell = cell.1.2.checkStyles.map fun _ => fitted count cell := by
  unfold layCell
  rw [fits.cellLines_eq]
  cases cell.1.2.checkStyles <;> rfl

theorem Fits.fillCell_eq {count : Nat} {cell : ((Column × Nat) × StyledText) × Nat}
    (fits : Fits (padding count cell.2) cell.1.1.2 cell.1.2) (fromAbove : Bool) :
    fillCell fromAbove 1 (fitted count cell) = .ok (fitted count cell).2 := by
  have whole := shapeTo_eq_self fits.lineCells_cellSegments
  unfold fillCell fitted
  rw [fillUp_singleton, List.mapM_cons, whole]
  rfl

/-- A row that fits is drawn as one line, once the styles of its cells have been read. -/
theorem drawRow_of_fits (fits : table.RowFits widths row)
    (readable : ∀ cell ∈ row, cell.checkStyles = .ok ()) (rules : Rules) (isHead : Bool) :
    table.drawRow rules isHead widths row = .ok [table.rowSegments rules widths row] := by
  have laid : (table.placed widths row).mapM (layCell table.columns.length) =
      .ok ((table.placed widths row).map (fitted table.columns.length)) := by
    refine mapM_eq_map fun cell among => ?_
    rw [(fits cell among).layCell_eq, readable cell.1.2 (mem_of_mem_placed among)]
    rfl
  have height : rowHeight ((table.placed widths row).map (fitted table.columns.length)) = 1 := by
    refine Nat.max_eq_left (greatest_le_iff.2 fun number among => ?_)
    obtain ⟨drawn, inside, rfl⟩ := List.mem_map.1 among
    obtain ⟨cell, _, rfl⟩ := List.mem_map.1 inside
    exact Nat.le_refl 1
  have filled : ((table.placed widths row).map (fitted table.columns.length)).mapM
      (fillCell isHead 1) =
      .ok (((table.placed widths row).map (fitted table.columns.length)).map Prod.snd) := by
    refine mapM_eq_map fun drawn among => ?_
    obtain ⟨cell, inside, rfl⟩ := List.mem_map.1 among
    exact (fits cell inside).fillCell_eq isHead
  rw [drawRow_eq, laid]
  show (List.mapM (fillCell isHead (rowHeight _)) _ >>= _) = _
  rw [height, filled]
  show Except.ok [rowLine rules _ 0] = Except.ok [table.rowSegments rules widths row]
  unfold rowLine rowSegments
  simp only [List.map_map]
  rfl

/-- A row that fits is drawn only if the styles of its cells can be read. -/
theorem readable_of_drawRow {lines : List (List Segment)} (fits : table.RowFits widths row)
    (drawn : table.drawRow rules isHead widths row = .ok lines) :
    ∀ cell ∈ table.placed widths row, cell.1.2.checkStyles = .ok () := by
  intro cell among
  rw [drawRow_eq] at drawn
  obtain ⟨cells, taken, _⟩ := exists_of_bind drawn
  obtain ⟨result, lays⟩ := exists_of_mapM taken cell among
  rw [(fits cell among).layCell_eq] at lays
  cases checked : cell.1.2.checkStyles with
  | ok _ => rfl
  | error fault =>
      rw [checked] at lays
      contradiction

/-! ## Their characters -/

theorem length_intercalate (mark : Char) {texts : List (List Char)} (nonempty : texts ≠ []) :
    ([mark].intercalate texts).length + 1 = (texts.map List.length).sum + texts.length := by
  unfold List.intercalate
  induction texts with
  | nil => contradiction
  | cons first rest inductionHypothesis =>
      cases rest with
      | nil => simp
      | cons second others =>
          have behind := inductionHypothesis (List.cons_ne_nil second others)
          simp only [List.intersperse_cons_cons, List.flatten_cons, List.length_append,
            List.length_nil, List.map_cons, List.sum_cons, List.length_cons] at behind ⊢
          omega

theorem narrow_intercalate {mark : Char} {texts : List (List Char)} (one : charCells mark = 1)
    (narrow : ∀ text ∈ texts, Narrow text) : Narrow ([mark].intercalate texts) := by
  intro c member
  obtain ⟨part, among, inside⟩ := List.mem_flatten.1 member
  rcases mem_of_mem_intersperse among with rfl | own
  · rw [List.mem_singleton.1 inside]
    exact one
  · exact narrow part own c inside

/-- Rules of one cell each. -/
def Rules.Narrow (rules : Rules) : Prop :=
  charCells rules.left = 1 ∧ charCells rules.middle = 1 ∧ charCells rules.right = 1

instance (rules : Rules) : Decidable rules.Narrow :=
  inferInstanceAs (Decidable (_ ∧ _ ∧ _))

theorem narrow_enclosed {rules : Rules} {inner : List Char} (frame : rules.Narrow)
    (narrow : Narrow inner) : Narrow (rules.left :: inner ++ [rules.right]) := by
  intro c member
  rcases List.mem_append.1 member with front | last
  · rcases List.mem_cons.1 front with rfl | inside
    · exact frame.1
    · exact narrow c inside
  · rw [List.mem_singleton.1 last]
    exact frame.2.2

theorem narrow_across (frame : rules.Narrow) {fill : Char} (one : charCells fill = 1) :
    Narrow (across rules fill widths) := by
  refine narrow_enclosed frame (narrow_intercalate frame.2.1 fun text among => ?_)
  obtain ⟨width, _, rfl⟩ := List.mem_map.1 among
  exact narrow_replicate one width

theorem RowFits.narrow_rowText (fits : table.RowFits widths row) (frame : rules.Narrow) :
    Narrow (table.rowText rules widths row) := by
  refine narrow_enclosed frame (narrow_intercalate frame.2.1 fun text among => ?_)
  obtain ⟨cell, inside, rfl⟩ := List.mem_map.1 among
  exact (fits cell inside).straight_cellText.narrow

theorem length_across (rules : Rules) (fill : Char) (nonempty : widths ≠ []) :
    (across rules fill widths).length = widths.sum + widths.length + 1 := by
  have inside : (widths.map fun width => List.replicate width fill) ≠ [] := by
    simpa using nonempty
  have inner := length_intercalate rules.middle inside
  simp only [List.map_map, Function.comp_def, List.length_replicate, List.map_id',
    List.length_map] at inner
  simp only [across, List.length_append, List.length_cons, List.length_nil]
  omega

theorem map_width_placed (rowWhole : row.length = widths.length)
    (whole : table.columns.length = widths.length) :
    (table.placed widths row).map (fun cell => cell.1.1.2) = widths := by
  have shape : (fun cell : ((Column × Nat) × StyledText) × Nat => cell.1.1.2) =
      Prod.snd ∘ Prod.fst ∘ Prod.fst := rfl
  have columnsCovered : table.columns.length ≤ widths.length := Nat.le_of_eq whole
  have rowCovered : (table.columns.zip widths).length ≤ row.length := by
    rw [List.length_zip, whole, rowWhole]
    exact Nat.min_le_left _ _
  unfold placed
  rw [shape, ← List.map_map, ← List.map_map, List.zipIdx_map_fst, List.map_fst_zip rowCovered,
    List.map_snd_zip (Nat.le_of_eq whole.symm)]

theorem map_cell_placed (rowWhole : row.length = widths.length)
    (whole : table.columns.length = widths.length) :
    (table.placed widths row).map (fun cell => cell.1.2) = row := by
  have shape : (fun cell : ((Column × Nat) × StyledText) × Nat => cell.1.2) =
      Prod.snd ∘ Prod.fst := rfl
  have covered : row.length ≤ (table.columns.zip widths).length := by
    rw [List.length_zip, whole, rowWhole]
    exact Nat.le_min.2 ⟨Nat.le_refl _, Nat.le_refl _⟩
  unfold placed
  rw [shape, ← List.map_map, List.zipIdx_map_fst, List.map_snd_zip covered]

theorem RowFits.length_rowText (fits : table.RowFits widths row)
    (rowWhole : row.length = widths.length) (whole : table.columns.length = widths.length)
    (nonempty : widths ≠ []) :
    (table.rowText rules widths row).length = widths.sum + widths.length + 1 := by
  have shape := map_width_placed rowWhole whole
  have lengths : ((table.placed widths row).map fun cell =>
      (cellText (padding table.columns.length cell.2) cell.1.1.2 cell.1.2.text).length) =
      widths := by
    conv => rhs; rw [← shape]
    exact List.map_congr_left fun cell among => (fits cell among).length_cellText
  have count : (table.placed widths row).length = widths.length := by
    rw [← shape, List.length_map, shape]
  have cells : (table.placed widths row).map (fun cell =>
      cellText (padding table.columns.length cell.2) cell.1.1.2 cell.1.2.text) ≠ [] := by
    intro none
    exact nonempty (List.length_eq_zero_iff.1 (by
      rw [← count, List.map_eq_nil_iff.1 none]
      rfl))
  have inner := length_intercalate rules.middle cells
  rw [List.map_map, List.length_map, count] at inner
  simp only [Function.comp_def, lengths] at inner
  simp only [rowText, List.length_append, List.length_cons, List.length_nil]
  omega

end Row

/-! ## Tables -/

section Whole

variable {table : Table} {pageWidth : Nat}

def headCells (table : Table) : List StyledText :=
  table.columns.map fun column => .plain column.head

def headRules : Rules := ⟨'┃', '┃', '┃'⟩

def rowRules : Rules := ⟨'│', '│', '│'⟩

/-- The lines of a table whose columns have given widths. -/
def lineTexts (table : Table) (widths : List Nat) : List (List Char) :=
  [across ⟨'┏', '┳', '┓'⟩ '━' widths, table.rowText headRules widths table.headCells,
      across ⟨'┡', '╇', '┩'⟩ '━' widths] ++
    table.rows.map (table.rowText rowRules widths) ++ [across ⟨'└', '┴', '┘'⟩ '─' widths]

/-- Tables whose rows have a cell for each column, which fits it, and have room on a page. -/
structure HasRoom (table : Table) (pageWidth : Nat) (widths : List Nat) : Prop where
  fitted : table.columnWidths (pageWidth - (table.columns.length + 1)) = widths
  whole : table.columns.length = widths.length
  rowsWhole : ∀ row ∈ table.rows, row.length = widths.length
  nonempty : widths ≠ []
  room : widths.sum + widths.length + 1 ≤ pageWidth
  head : table.RowFits widths table.headCells
  rows : ∀ row ∈ table.rows, table.RowFits widths row

variable {widths : List Nat}

theorem checkStyles_headCells : ∀ cell ∈ table.headCells, cell.checkStyles = .ok () := by
  intro cell among
  obtain ⟨column, _, rfl⟩ := List.mem_map.1 among
  rfl

/-- A table with room is drawn with one line for each row, once the styles of its cells have been
read. -/
theorem HasRoom.exists_render (room : table.HasRoom pageWidth widths)
    (readable : ∀ row ∈ table.rows, ∀ cell ∈ row, cell.checkStyles = .ok ()) :
    ∃ lines, table.render pageWidth = .ok lines ∧
      lines.map List.flatten = table.lineTexts widths := by
  have head := drawRow_of_fits room.head checkStyles_headCells headRules true
  have rows : table.rows.mapM (table.drawRow rowRules false widths) =
      .ok (table.rows.map fun row => [table.rowSegments rowRules widths row]) :=
    mapM_eq_map fun row among =>
      drawRow_of_fits (room.rows row among) (readable row among) rowRules false
  unfold headRules headCells at head
  unfold rowRules at rows
  unfold render
  simp only [room.fitted, head, rows]
  refine ⟨_, rfl, ?_⟩
  simp only [lineTexts, List.map_append, List.map_cons, List.map_nil, List.flatten_singleton,
    List.map_flatten, List.map_map, Function.comp_def, flatten_rowSegments, headRules, rowRules,
    headCells, List.cons_append, List.nil_append]
  rw [← List.flatMap_def, ← List.map_eq_flatMap]

/-- A table with room is drawn only if the styles of its cells can be read. -/
theorem HasRoom.readable_of_render {lines : List (List Segment)}
    (room : table.HasRoom pageWidth widths) (drawn : table.render pageWidth = .ok lines) :
    ∀ row ∈ table.rows, ∀ cell ∈ row, cell.checkStyles = .ok () := by
  unfold render at drawn
  simp only [room.fitted] at drawn
  obtain ⟨_, _, behind⟩ := exists_of_bind drawn
  obtain ⟨_, rows, _⟩ := exists_of_bind behind
  intro row among cell inside
  obtain ⟨_, line⟩ := exists_of_mapM rows row among
  have each := readable_of_drawRow (room.rows row among) line
  rw [← map_cell_placed (room.rowsWhole row among) room.whole] at inside
  obtain ⟨placed, member, rfl⟩ := List.mem_map.1 inside
  exact each placed member

theorem HasRoom.fits_page (room : table.HasRoom pageWidth widths) :
    ∀ line ∈ table.lineTexts widths, Narrow line ∧ line.length ≤ pageWidth := by
  have headWhole : table.headCells.length = widths.length := by
    rw [headCells, List.length_map, room.whole]
  have ruled (rules : Rules) (fill : Char) (frame : rules.Narrow) (one : charCells fill = 1) :
      Narrow (across rules fill widths) ∧ (across rules fill widths).length ≤ pageWidth :=
    ⟨narrow_across frame one, by rw [length_across rules fill room.nonempty]; exact room.room⟩
  have filled (rules : Rules) (row : List StyledText) (fits : table.RowFits widths row)
      (rowWhole : row.length = widths.length) (frame : rules.Narrow) :
      Narrow (table.rowText rules widths row) ∧
        (table.rowText rules widths row).length ≤ pageWidth :=
    ⟨fits.narrow_rowText frame, by
      rw [fits.length_rowText rowWhole room.whole room.nonempty]
      exact room.room⟩
  intro line among
  simp only [lineTexts, List.mem_append, List.mem_cons, List.mem_map, List.not_mem_nil,
    or_false] at among
  rcases among with ((rfl | rfl | rfl) | ⟨row, inside, rfl⟩) | rfl
  · exact ruled _ _ (by decide +kernel) (by decide +kernel)
  · exact filled headRules _ room.head headWhole (by decide +kernel)
  · exact ruled _ _ (by decide +kernel) (by decide +kernel)
  · exact filled rowRules row (room.rows row inside) (room.rowsWhole row inside) (by decide +kernel)
  · exact ruled _ _ (by decide +kernel) (by decide +kernel)

end Whole

end Table

end Bindery.Display
