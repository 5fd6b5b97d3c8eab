import Bindery.Proofs.Report.Rows

/-!
Contract: in which rows of a report a source is named.

Owns:
- `entryLine`, the line of a source in the table of a report: its kind, its name and its state;
- what the shorter report is, word for word, for names of printable ASCII characters that have room
  in the table: one line for each source and the count below them;
- that a source is named in its line exactly if its name is inert, and that reports are given only
  for texts that can be read;
- a build whose shorter report hides a name, and whose longer report is not given at all.

Does **not** own: names that are longer than the table is wide.
-/

namespace Bindery

open Display

namespace Report

/-! ## The lines of the table -/

/-- A text with blanks behind it, up to a width. -/
def fill (width : Nat) (text : List Char) : List Char :=
  text ++ blanks (width - text.length)

/-- The widths of the texts of a table of sources. -/
structure TextWidths where
  kind : Nat
  source : Nat
  state : Nat
deriving DecidableEq, Repr

/-- A line of the table, with a rule at its two ends and between its texts. -/
def ruledLine (rule : Char) (widths : TextWidths) (kind source state : List Char) : List Char :=
  rule :: (fill widths.kind kind ++ [' ', rule, ' '] ++ fill widths.source source ++
    [' ', rule, ' '] ++ fill widths.state state ++ [rule])

/-- The state of a source. -/
def stateText (product : Product) : String :=
  if product.rebuilt then "rebuilt" else "current"

/-- The line of a product of some kind. -/
def entryLine (widths : TextWidths) (entry : String × Product) : List Char :=
  ruledLine '│' widths entry.1.toList (Markup.shown entry.2.source.name.toList).text
    (stateText entry.2).toList

/-- The cells of a product of some kind. -/
def entryCells (entry : String × Product) : List StyledText :=
  [.plain entry.1.toList, Markup.shown entry.2.source.name.toList,
    .plain (stateText entry.2).toList]

/-- The widths of the columns, with their padding. -/
def TextWidths.columns (widths : TextWidths) : List Nat :=
  [widths.kind + 1, widths.source + 2, widths.state + 1]

/-- The lines of the table of some products. -/
def tableLines (widths : TextWidths) (listed : List (String × Product)) : List (List Char) :=
  [Table.across ⟨'┏', '┳', '┓'⟩ '━' widths.columns,
      ruledLine '┃' widths "Kind".toList "Source".toList "State".toList,
      Table.across ⟨'┡', '╇', '┩'⟩ '━' widths.columns] ++
    listed.map (entryLine widths) ++ [Table.across ⟨'└', '┴', '┘'⟩ '─' widths.columns]

/-- The table of some products. -/
def productTable (listed : List (String × Product)) : Table :=
  ⟨artifactColumns false, listed.map entryCells⟩

theorem rowText_eq_ruledLine (table : Table) (columns : table.columns = artifactColumns false)
    (rule : Char) (widths : TextWidths) (kind source state : StyledText) :
    table.rowText ⟨rule, rule, rule⟩ widths.columns [kind, source, state] =
      ruledLine rule widths kind.text source.text state.text := by
  have one : blanks 1 = [' '] := rfl
  have none : blanks 0 = [] := rfl
  simp [Table.rowText, Table.placed, columns, artifactColumns, TextWidths.columns, Table.padding,
    Table.cellText, ruledLine, fill, one, none, List.intercalate]

theorem rowFits_of {table : Table} (columns : table.columns = artifactColumns false)
    {kindWidth sourceWidth stateWidth : Nat} {kind source state : StyledText}
    (kindFits : Table.Fits (0, 1) kindWidth kind)
    (sourceFits : Table.Fits (1, 1) sourceWidth source)
    (stateFits : Table.Fits (1, 0) stateWidth state) :
    table.RowFits [kindWidth, sourceWidth, stateWidth] [kind, source, state] := by
  unfold Table.RowFits Table.placed
  rw [columns]
  simpa [artifactColumns, Table.padding] using ⟨kindFits, sourceFits, stateFits⟩

/-! ## Names with room in the table -/

/-- Names of at most 60 printable ASCII characters. A colon may stand for a picture. -/
structure Presentable (name : String) : Prop where
  straight : Straight name.toList
  short : name.toList.length ≤ 60
  colonless : ':' ∉ name.toList

instance (name : String) : Decidable (Presentable name) :=
  decidable_of_iff (Straight name.toList ∧ name.toList.length ≤ 60 ∧ ':' ∉ name.toList)
    ⟨fun ⟨straight, short, colonless⟩ => ⟨straight, short, colonless⟩,
      fun ⟨straight, short, colonless⟩ => ⟨straight, short, colonless⟩⟩

theorem straight_kind : ∀ kind ∈ kinds, Straight kind.toList ∧ kind.toList.length ≤ 8 := by
  decide

theorem straight_state (product : Product) :
    Straight (stateText product).toList ∧ (stateText product).toList.length ≤ 7 := by
  unfold stateText
  split <;> decide

theorem straight_source {name : String} (presentable : Presentable name) :
    Straight (Markup.shown name.toList).text ∧ (Markup.shown name.toList).text.length ≤ 60 :=
  ⟨presentable.straight.sublist (Markup.shown_sublist _),
    Nat.le_trans (Markup.shown_sublist _).length_le presentable.short⟩

/-- A column of straight texts below a head that is not empty has room for each of them, and is no
wider than a bound for all of them. -/
theorem column_fits {padding : Nat × Nat} {limit bound : Nat} {head : List Char}
    {rest : List (List Char)}
    (each : ∀ text ∈ head :: rest, Straight text ∧ padding.1 + text.length + padding.2 ≤ bound)
    (headed : head ≠ []) (room : bound ≤ limit) :
    Table.columnWidth limit padding (head :: rest) ≤ bound ∧
      ∀ styled : StyledText, styled.text ∈ head :: rest →
        Table.Fits padding (Table.columnWidth limit padding (head :: rest)) styled := by
  have long := List.length_pos_iff.2 headed
  have short := (each head List.mem_cons_self).2
  obtain ⟨most, least⟩ := Table.columnWidth_bounds padding each room (by omega) (by omega)
  have whole := least head List.mem_cons_self
  exact ⟨most, fun styled among => ⟨(each _ among).1, by omega, least _ among⟩⟩

section Room

variable {listed : List (String × Product)}

/-- The texts in the columns of the table, each below its head. -/
def kindTexts (listed : List (String × Product)) : List (List Char) :=
  "Kind".toList :: listed.map fun entry => entry.1.toList

def sourceTexts (listed : List (String × Product)) : List (List Char) :=
  "Source".toList :: listed.map fun entry => (Markup.shown entry.2.source.name.toList).text

def stateTexts (listed : List (String × Product)) : List (List Char) :=
  "State".toList :: listed.map fun entry => (stateText entry.2).toList

theorem straight_kindTexts (known : ∀ entry ∈ listed, entry.1 ∈ kinds) :
    ∀ text ∈ kindTexts listed, Straight text ∧ 0 + text.length + 1 ≤ 9 := by
  refine List.forall_mem_cons.2 ⟨by decide, fun text among => ?_⟩
  obtain ⟨entry, inside, rfl⟩ := List.mem_map.1 among
  obtain ⟨straight, short⟩ := straight_kind _ (known entry inside)
  exact ⟨straight, by omega⟩

theorem straight_sourceTexts (presentable : ∀ entry ∈ listed, Presentable entry.2.source.name) :
    ∀ text ∈ sourceTexts listed, Straight text ∧ 1 + text.length + 1 ≤ 62 := by
  refine List.forall_mem_cons.2 ⟨by decide, fun text among => ?_⟩
  obtain ⟨entry, inside, rfl⟩ := List.mem_map.1 among
  obtain ⟨straight, short⟩ := straight_source (presentable entry inside)
  exact ⟨straight, by omega⟩

theorem straight_stateTexts (listed : List (String × Product)) :
    ∀ text ∈ stateTexts listed, Straight text ∧ 1 + text.length + 0 ≤ 8 := by
  refine List.forall_mem_cons.2 ⟨by decide, fun text among => ?_⟩
  obtain ⟨entry, inside, rfl⟩ := List.mem_map.1 among
  obtain ⟨straight, short⟩ := straight_state entry.2
  exact ⟨straight, by omega⟩

/-- What a page leaves to the columns of the table, beside its four rules. -/
def columnLimit : Nat := reportWidth - 4

/-- The widths of the columns, with their padding, as far as the page has room for them. -/
def kindWidth (listed : List (String × Product)) : Nat :=
  Table.columnWidth columnLimit (0, 1) (kindTexts listed)

def sourceWidth (listed : List (String × Product)) : Nat :=
  Table.columnWidth columnLimit (1, 1) (sourceTexts listed)

def stateWidth (listed : List (String × Product)) : Nat :=
  Table.columnWidth columnLimit (1, 0) (stateTexts listed)

theorem columnWidths_productTable
    (room : kindWidth listed + sourceWidth listed + stateWidth listed ≤ 79) :
    (productTable listed).columnWidths columnLimit =
      [kindWidth listed, sourceWidth listed, stateWidth listed] := by
  have natural : ((productTable listed).measure
      ((productTable listed).columns.map fun _ => columnLimit)).map (max 1) =
      [kindWidth listed, sourceWidth listed, stateWidth listed] := by
    simp [kindWidth, sourceWidth, stateWidth, Table.measure, productTable, artifactColumns,
      Table.texts, Table.padding, Table.columnWidth, kindTexts, sourceTexts, stateTexts, entryCells,
      Function.comp_def, StyledText.plain]
  have fits : Table.total [kindWidth listed, sourceWidth listed, stateWidth listed] ≤
      columnLimit := by
    have least : 79 ≤ columnLimit := by decide
    simp only [Table.total, List.foldl_cons, List.foldl_nil, Nat.add_eq]
    omega
  unfold Table.columnWidths
  simp only [natural]
  rw [if_pos fits]

/-- A table of presentable names has room on the page of a report. -/
theorem exists_hasRoom (known : ∀ entry ∈ listed, entry.1 ∈ kinds)
    (presentable : ∀ entry ∈ listed, Presentable entry.2.source.name) :
    ∃ widths : TextWidths, (productTable listed).HasRoom reportWidth widths.columns := by
  obtain ⟨kindMost, kindFits⟩ : kindWidth listed ≤ 9 ∧ ∀ styled : StyledText,
      styled.text ∈ kindTexts listed → Table.Fits (0, 1) (kindWidth listed) styled :=
    column_fits (straight_kindTexts known) (by decide) (by decide)
  obtain ⟨sourceMost, sourceFits⟩ : sourceWidth listed ≤ 62 ∧ ∀ styled : StyledText,
      styled.text ∈ sourceTexts listed → Table.Fits (1, 1) (sourceWidth listed) styled :=
    column_fits (straight_sourceTexts presentable) (by decide) (by decide)
  obtain ⟨stateMost, stateFits⟩ : stateWidth listed ≤ 8 ∧ ∀ styled : StyledText,
      styled.text ∈ stateTexts listed → Table.Fits (1, 0) (stateWidth listed) styled :=
    column_fits (straight_stateTexts listed) (by decide) (by decide)
  have kindHead := kindFits (.plain "Kind".toList) List.mem_cons_self
  have sourceHead := sourceFits (.plain "Source".toList) List.mem_cons_self
  have stateHead := stateFits (.plain "State".toList) List.mem_cons_self
  refine ⟨⟨kindWidth listed - 1, sourceWidth listed - 2, stateWidth listed - 1⟩, ?_⟩
  have columns : TextWidths.columns
      ⟨kindWidth listed - 1, sourceWidth listed - 2, stateWidth listed - 1⟩ =
      [kindWidth listed, sourceWidth listed, stateWidth listed] := by
    have kindRoomy := kindHead.roomy
    have sourceRoomy := sourceHead.roomy
    have stateRoomy := stateHead.roomy
    simp only [TextWidths.columns, List.cons.injEq, and_true]
    omega
  rw [columns]
  have rows : ∀ row ∈ (productTable listed).rows, ∃ entry ∈ listed, entryCells entry = row :=
    fun row among => List.mem_map.1 among
  refine ⟨columnWidths_productTable (by omega), rfl, ?_, List.cons_ne_nil _ _, ?_,
    rowFits_of rfl kindHead sourceHead stateHead, ?_⟩
  · intro row among
    obtain ⟨entry, _, rfl⟩ := rows row among
    rfl
  · simp only [List.sum_cons, List.sum_nil, List.length_cons, List.length_nil, reportWidth]
    omega
  · intro row among
    obtain ⟨entry, inside, rfl⟩ := rows row among
    exact rowFits_of rfl
      (kindFits _ (List.mem_cons_of_mem _ (List.mem_map_of_mem inside)))
      (sourceFits _ (List.mem_cons_of_mem _ (List.mem_map_of_mem inside)))
      (stateFits _ (List.mem_cons_of_mem _ (List.mem_map_of_mem inside)))

end Room

theorem lineTexts_productTable (widths : TextWidths) (listed : List (String × Product)) :
    (productTable listed).lineTexts widths.columns = tableLines widths listed := by
  have rows : (productTable listed).rows.map
      ((productTable listed).rowText Table.rowRules widths.columns) =
      listed.map (entryLine widths) := by
    rw [productTable, List.map_map]
    exact List.map_congr_left fun entry _ => rowText_eq_ruledLine _ rfl '│' widths _ _ _
  unfold Table.lineTexts tableLines
  rw [rows]
  exact congrArg (fun head => [_, head, _] ++ _ ++ _)
    (rowText_eq_ruledLine (productTable listed) rfl '┃' widths _ _ _)

/-! ## The shorter report -/

section Shorter

variable {listed : List (String × Product)}

theorem allCells_eq (proper : ∀ entry ∈ listed, entry.2.source.IsProper)
    (reads : ∀ entry ∈ listed, Markup.read entry.2.source.name.toList =
      .ok (Markup.shown entry.2.source.name.toList)) :
    allCells false (listed.map fun entry => (entry.1, entry.2.entries)) =
      .ok (listed.map entryCells) := by
  induction listed with
  | nil => rfl
  | cons entry rest inductionHypothesis =>
      rw [List.forall_mem_cons] at proper reads
      have source : shown entry.2.source.name =
          .ok (Markup.shown entry.2.source.name.toList) := by
        unfold shown ofDisplay
        rw [reads.1]
        rfl
      have row : rowCells false entry.1 entry.2.entries = .ok (entryCells entry) := by
        unfold rowCells
        rw [nameOf_entries proper.1, source]
        rfl
      rw [List.map_cons, allCells, row, inductionHypothesis proper.2 reads.2]
      rfl

/-- Names that can be read are read as what they show. -/
theorem read_eq_shown {text : List Char} (reads : ∃ styled, Markup.read text = .ok styled) :
    Markup.read text = .ok (Markup.shown text) := by
  obtain ⟨styled, own⟩ := reads
  rw [Markup.shown_of_read_eq own, own]

/-- The characters of a table below an empty line. -/
def tableText (widths : TextWidths) (listed : List (String × Product)) : List Char :=
  '\n' :: (tableLines widths listed).flatMap fun line => line ++ ['\n']

theorem checkStyles_entryCells {entry : String × Product}
    (readable : Markup.Readable entry.2.source.name.toList) :
    ∀ cell ∈ entryCells entry, cell.checkStyles = .ok () :=
  List.forall_mem_cons.2 ⟨rfl, List.forall_mem_cons.2
    ⟨(Markup.readable_iff.1 readable).2, List.forall_mem_singleton.2 rfl⟩⟩

/-- The table of presentable names that can be read. -/
theorem exists_sourceTable_eq (known : ∀ entry ∈ listed, entry.1 ∈ kinds)
    (proper : ∀ entry ∈ listed, entry.2.source.IsProper)
    (presentable : ∀ entry ∈ listed, Presentable entry.2.source.name) (nonempty : listed ≠ [])
    (readable : ∀ entry ∈ listed, Markup.Readable entry.2.source.name.toList) :
    ∃ widths : TextWidths,
      sourceTable false (listed.map fun entry => (entry.1, entry.2.entries)) =
        .ok (String.ofList (tableText widths listed)) := by
  obtain ⟨widths, room⟩ := exists_hasRoom known presentable
  have cells := allCells_eq proper fun entry among =>
    (Markup.readable_iff.1 (readable entry among)).1
  obtain ⟨lines, renders, texts⟩ := room.exists_render fun row among => by
    obtain ⟨entry, inside, rfl⟩ := List.mem_map.1 among
    exact checkStyles_entryCells (readable entry inside)
  have narrow : ∀ line ∈ lines, Narrow line.flatten ∧ line.flatten.length ≤ reportWidth :=
    fun line among => room.fits_page _ (texts ▸ List.mem_map_of_mem among)
  have shows := showLines_of_narrow narrow
  rw [texts, lineTexts_productTable] at shows
  have rows : (listed.map fun entry => (entry.1, entry.2.entries)).isEmpty = false := by
    simpa using nonempty
  unfold productTable at renders
  refine ⟨widths, ?_⟩
  unfold sourceTable
  rw [rows, cells]
  simp only [Bool.false_eq_true, if_false, bind, Except.bind, ofDisplay, renders, Except.mapError,
    shows]
  show _ = Except.ok (String.ofList (['\n'] ++ _))
  rw [String.ofList_append]
  rfl

/-- A table is there only for names that can be read. -/
theorem readable_of_sourceTable {text : String} (known : ∀ entry ∈ listed, entry.1 ∈ kinds)
    (proper : ∀ entry ∈ listed, entry.2.source.IsProper)
    (presentable : ∀ entry ∈ listed, Presentable entry.2.source.name)
    (shows : sourceTable false (listed.map fun entry => (entry.1, entry.2.entries)) = .ok text) :
    ∀ entry ∈ listed, Markup.Readable entry.2.source.name.toList := by
  intro entry among
  unfold sourceTable at shows
  split at shows
  · rename_i empty
    simp only [List.isEmpty_map, List.isEmpty_iff] at empty
    rw [empty] at among
    contradiction
  · obtain ⟨cells, drawn, behind⟩ := exists_of_bind shows
    have reads (other : String × Product) (inside : other ∈ listed) :
        Markup.read other.2.source.name.toList =
          .ok (Markup.shown other.2.source.name.toList) :=
      read_eq_shown (reads_of_allCells proper drawn _ (name_mem_tableTexts inside))
    rw [allCells_eq proper reads] at drawn
    obtain rfl := Except.ok.inj drawn
    obtain ⟨lines, renders, _⟩ := exists_of_bind behind
    obtain ⟨widths, room⟩ := exists_hasRoom known presentable
    cases rendered : (productTable listed).render reportWidth with
    | error fault =>
        unfold productTable at rendered
        unfold ofDisplay at renders
        rw [rendered] at renders
        contradiction
    | ok _ =>
        have styles := room.readable_of_render rendered (entryCells entry)
          (List.mem_map_of_mem among)
        exact Markup.readable_iff.2 ⟨reads entry among,
          styles _ (List.mem_cons_of_mem _ List.mem_cons_self)⟩

/-! ## The count -/

theorem read_below_empty {text : String} (straight : Straight text.toList)
    (bracket : '[' ∉ text.toList) :
    Markup.read ("\n" ++ text).toList = .ok (.plain ('\n' :: text.toList)) := by
  have characters : ("\n" ++ text).toList = '\n' :: text.toList := by
    rw [String.toList_append]
    rfl
  have here : Markup.dropControls ['\n'] = ['\n'] := rfl
  have free : '[' ∉ '\n' :: text.toList := by
    rw [List.mem_cons, not_or]
    exact ⟨by decide, bracket⟩
  rw [characters, Markup.read_of_no_bracket free, ← List.singleton_append,
    Markup.dropControls_append, here, Markup.dropControls_of_straight straight]

/-- A text below an empty line is shown as it is. -/
theorem say_below_empty {text : String} (straight : Straight text.toList)
    (bracket : '[' ∉ text.toList)
    (short : text.toList.length ≤ reportWidth) :
    say [.markup ("\n" ++ text)] = .ok ("\n" ++ text ++ "\n") := by
  have reads := read_below_empty straight bracket
  have joined : joinParts [.markup ("\n" ++ text)] = .ok (.plain ('\n' :: text.toList)) := by
    unfold joinParts
    simp only [List.mapM_cons, List.mapM_nil, Part.read, reads]
    simp [bind, Except.bind, pure, Except.pure, StyledText.joinWith, StyledText.join,
      StyledText.joinFrom, StyledText.plain]
  have laid := StyledText.layOut_below_empty straight short
  have narrow : ∀ line ∈ [(StyledText.plain []).segments, (StyledText.plain text.toList).segments],
      Narrow line.flatten ∧ line.flatten.length ≤ reportWidth := by
    refine List.forall_mem_cons.2 ⟨?_, List.forall_mem_singleton.2 ?_⟩ <;>
      rw [StyledText.flatten_segments]
    · exact ⟨straight_nil.narrow, Nat.zero_le _⟩
    · exact ⟨straight.narrow, short⟩
  have shows := showLines_of_narrow narrow
  unfold say ofDisplay print
  rw [joined]
  show (printLine reportWidth (.plain ('\n' :: text.toList))).mapError _ = _
  unfold printLine
  rw [if_neg (by decide)]
  show (do
    showLines reportWidth (← layOut .running reportWidth (.plain ('\n' :: text.toList)))).mapError
      ReportFault.display = _
  rw [laid]
  show (showLines reportWidth _).mapError ReportFault.display = _
  rw [shows]
  refine congrArg Except.ok (String.toList_injective ?_)
  simp [StyledText.flatten_segments, StyledText.plain]

/-- The line end behind the last line is dropped, and no other. -/
theorem dropLineEnds_append (front : String) {last : String} {c : Char}
    (ends : last.toList.getLast? = some c) (other : c ≠ '\n') :
    dropLineEnds (front ++ (last ++ "\n")) = front ++ last := by
  obtain ⟨rest, whole⟩ := List.getLast?_eq_some_iff.1 ends
  unfold dropLineEnds
  refine String.toList_injective ?_
  simp [String.toList_append, whole, other]

theorem straight_countText (listed : List (String × Product)) :
    Straight (countText listed).toList := by
  intro c member
  rcases mem_countText member with rfl | numeral
  · decide
  · exact Number.printable_of_isNumeral numeral

theorem getLast?_countText (listed : List (String × Product)) :
    (countText listed).toList.getLast? = some 't' := by
  unfold countText
  rw [String.toList_append, List.getLast?_append_of_ne_nil]
  · rfl
  · decide

end Shorter

/-! ## Names -/

/-- The line of a product with its name as it is. -/
def namedLine (widths : TextWidths) (entry : String × Product) : List Char :=
  ruledLine '│' widths entry.1.toList entry.2.source.name.toList (stateText entry.2).toList

section Named

variable {widths : TextWidths} {entry : String × Product}

/-- An inert name stands in its line as it is. -/
theorem entryLine_of_inert (presentable : Presentable entry.2.source.name)
    (inert : Markup.Inert entry.2.source.name.toList) :
    entryLine widths entry = namedLine widths entry := by
  rw [entryLine, Markup.shown_of_inert presentable.straight inert]
  rfl

theorem infix_namedLine : entry.2.source.name.toList <:+: namedLine widths entry := by
  refine ⟨'│' :: (fill widths.kind entry.1.toList ++ [' ', '│', ' ']),
    blanks (widths.source - entry.2.source.name.toList.length) ++ ([' ', '│', ' '] ++
      (fill widths.state (stateText entry.2).toList ++ ['│'])), ?_⟩
  simp [namedLine, ruledLine, fill]

/-- A name that is not inert is nowhere in its line: some bracket or backslash of it is not shown,
and no other part of the line has one. -/
theorem not_infix_entryLine (known : entry.1 ∈ kinds)
    (readable : Markup.Readable entry.2.source.name.toList)
    (active : ¬ Markup.Inert entry.2.source.name.toList) :
    ¬ entry.2.source.name.toList <:+: entryLine widths entry := by
  intro named
  have kindUnmarked : Markup.marks entry.1.toList = 0 :=
    (show ∀ kind ∈ kinds, Markup.marks kind.toList = 0 by decide) _ known
  have stateUnmarked : Markup.marks (stateText entry.2).toList = 0 := by
    unfold stateText
    split <;> decide
  have blanksUnmarked (count : Nat) : Markup.marks (blanks count) = 0 := by
    simp [Markup.marks, blanks, List.countP_replicate]
  have rulesUnmarked : Markup.marks ['│'] = 0 ∧ Markup.marks [' ', '│', ' '] = 0 := by decide
  have others : Markup.marks (entryLine widths entry) =
      Markup.marks (Markup.shown entry.2.source.name.toList).text := by
    unfold entryLine ruledLine fill
    rw [← List.singleton_append]
    simp only [Markup.marks_append, rulesUnmarked, kindUnmarked, stateUnmarked, blanksUnmarked,
      Nat.zero_add, Nat.add_zero]
  have fewer := Markup.marks_shown_lt (Markup.readable_iff.1 readable).1 active
  have most := Markup.marks_le_of_sublist named.sublist
  omega

end Named

/-- The table of the report, if there are sources. -/
def tableOf (widths : TextWidths) (listed : List (String × Product)) : String :=
  if listed.isEmpty then "" else String.ofList (tableText widths listed)

theorem exists_tableOf {listed : List (String × Product)}
    (known : ∀ entry ∈ listed, entry.1 ∈ kinds)
    (proper : ∀ entry ∈ listed, entry.2.source.IsProper)
    (presentable : ∀ entry ∈ listed, Presentable entry.2.source.name)
    (readable : ∀ entry ∈ listed, Markup.Readable entry.2.source.name.toList) :
    ∃ widths, sourceTable false (listed.map fun entry => (entry.1, entry.2.entries)) =
      .ok (tableOf widths listed) := by
  by_cases empty : listed = []
  · subst empty
    exact ⟨⟨0, 0, 0⟩, rfl⟩
  · obtain ⟨widths, tabled⟩ := exists_sourceTable_eq known proper presentable empty readable
    refine ⟨widths, ?_⟩
    rw [tabled, tableOf, if_neg (by simpa using empty)]

/-- The shorter report: its first lines, the table if there are sources, and the count. -/
def reportText (status fields : String) (widths : TextWidths) (listed : List (String × Product)) :
    String :=
  status ++ fields ++ tableOf widths listed ++ "\n" ++ countText listed

end Report

namespace Outcome.Tells

variable {outcome : Outcome} {report : BuildReport}

theorem exists_full_eq (tells : outcome.Tells report)
    (free : joiner ∉ report.target.render.toList)
    (presentable : ∀ entry ∈ report.listed, Report.Presentable entry.2.source.name)
    (readable : ∀ entry ∈ report.listed, Markup.Readable entry.2.source.name.toList)
    (short : (Report.countText report.listed).toList.length ≤ reportWidth) :
    ∃ status fields widths, Report.headline outcome = .ok status ∧
      Report.buildFields outcome.data = .ok fields ∧
      Report.full false outcome = .ok (Report.reportText status fields widths report.listed) := by
  obtain ⟨status, headed⟩ := tells.exists_headline
  obtain ⟨fields, fielded⟩ := tells.exists_buildFields free
  obtain ⟨widths, tabled⟩ := Report.exists_tableOf Report.kind_mem_of_listed tells.proper
    presentable readable
  have bracket : '[' ∉ (Report.countText report.listed).toList :=
    Report.notMem_countText (by decide) (by decide)
  have counted := Report.say_below_empty (Report.straight_countText report.listed) bracket short
  refine ⟨status, fields, widths, headed, fielded, ?_⟩
  rw [tells.full_eq, headed, fielded, tabled, Report.countLine_products, counted]
  show Except.ok (Report.dropLineEnds (status ++ (fields ++ (Report.tableOf widths report.listed ++
    ("\n" ++ Report.countText report.listed ++ "\n"))) ++ "")) = _
  have ends := Report.dropLineEnds_append
    (status ++ (fields ++ (Report.tableOf widths report.listed ++ "\n")))
    (Report.getLast?_countText report.listed) (by decide)
  simp only [String.append_assoc, String.append_empty] at ends ⊢
  rw [ends]
  simp only [Report.reportText, String.append_assoc]

theorem readable_of_full (tells : outcome.Tells report)
    (presentable : ∀ entry ∈ report.listed, Report.Presentable entry.2.source.name)
    {text : String} (given : Report.full false outcome = .ok text) :
    ∀ entry ∈ report.listed, Markup.Readable entry.2.source.name.toList := by
  rw [tells.full_eq] at given
  obtain ⟨status, _, belowStatus⟩ := exists_of_bind given
  obtain ⟨fields, _, belowFields⟩ := exists_of_bind belowStatus
  obtain ⟨table, shows, _⟩ := exists_of_bind belowFields
  exact Report.readable_of_sourceTable Report.kind_mem_of_listed tells.proper presentable shows

/-- A report is given if the texts of its table can be read, with their styles, and only if they can
be read. The shorter report of presentable names, once it is given, has a line for each source, in
order, and the count below them; the line of a source has its name in it if the name is inert, and
not at all otherwise. -/
theorem names_inert_sources (tells : outcome.Tells report)
    (free : joiner ∉ report.target.render.toList) :
    (∀ verbose,
      ((∀ text ∈ Report.tableTexts verbose report.listed, Report.Presents text) →
        ∃ text, Report.full verbose outcome = .ok text) ∧
      ((∃ text, Report.full verbose outcome = .ok text) →
        ∀ text ∈ Report.tableTexts verbose report.listed,
          ∃ styled, Markup.read text.toList = .ok styled)) ∧
    ((∀ entry ∈ report.listed, Report.Presentable entry.2.source.name) →
      ((∃ text, Report.full false outcome = .ok text) →
        ∀ entry ∈ report.listed, Markup.Readable entry.2.source.name.toList) ∧
      ((∀ entry ∈ report.listed, Markup.Readable entry.2.source.name.toList) →
        (Report.countText report.listed).toList.length ≤ reportWidth →
        ∃ status fields widths, Report.headline outcome = .ok status ∧
          Report.buildFields outcome.data = .ok fields ∧
          Report.full false outcome =
            .ok (Report.reportText status fields widths report.listed) ∧
          ∀ entry ∈ report.listed,
            (Markup.Inert entry.2.source.name.toList →
              Report.entryLine widths entry = Report.namedLine widths entry) ∧
            (entry.2.source.name.toList <:+: Report.entryLine widths entry ↔
              Markup.Inert entry.2.source.name.toList))) := by
  refine ⟨fun verbose => ⟨tells.exists_full verbose free, ?_⟩, fun presentable => ⟨?_, ?_⟩⟩
  · rintro ⟨text, given⟩
    exact tells.reads_of_full given
  · rintro ⟨text, given⟩
    exact tells.readable_of_full presentable given
  · intro readable short
    obtain ⟨status, fields, widths, headed, fielded, given⟩ :=
      tells.exists_full_eq free presentable readable short
    refine ⟨status, fields, widths, headed, fielded, given, fun entry among => ?_⟩
    have asNamed : Markup.Inert entry.2.source.name.toList →
        Report.entryLine widths entry = Report.namedLine widths entry :=
      Report.entryLine_of_inert (presentable entry among)
    refine ⟨asNamed, fun named => ?_, fun inert => asNamed inert ▸ Report.infix_namedLine⟩
    exact by_contra fun active =>
      Report.not_infix_entryLine (Report.kind_mem_of_listed entry among) (readable entry among)
        active named

/-- A build with names and outputs that look like tags, but are none. -/
def indexed : BuildReport where
  target := .ofString "/t[0]"
  demanded := true
  diagrams := [⟨.ofString "/s/a[0].dot", .ofString "/t[0]/a[0].pdf", true⟩]
  fragments := [⟨.ofString "/s/[B].tex", .ofString "/t[0]/[B].tex", false⟩]
  documents := [⟨.ofString "/s/c\\d].latex", .ofString "/t[0]/c\\d].pdf", true⟩]

/-- The timings of that build. -/
def indexedPhase : Phase :=
  .mk "BuildService.build" 0 (some 1024) []
    [.mk "diagrams" 0 (some 512) [("rebuilt", .int 1)] []]

def indexedOutcome : Outcome :=
  ⟨true, "build", indexed.toData, [], none, some [("telemetry", indexedPhase.toValue)]⟩

theorem plain_indexedPhase : indexedPhase.Plain :=
  .mk (by decide) nofun (List.forall_mem_singleton.2 (.mk (by decide) (by decide) nofun))

theorem tells_indexed : indexedOutcome.Tells indexed where
  ok := rfl
  told := .inl ⟨rfl, rfl⟩
  remarks := by
    rintro _ ⟨⟩
    exact ⟨indexedPhase, plain_indexedPhase, rfl⟩
  proper := by decide +kernel

/-- Both reports of that build are given, and the shorter one names every source. -/
theorem names_indexed_sources :
    indexedOutcome.Tells indexed ∧ joiner ∉ indexed.target.render.toList ∧
      (∀ verbose, ∃ text, Report.full verbose indexedOutcome = .ok text) ∧
      ∃ status fields widths, Report.headline indexedOutcome = .ok status ∧
        Report.buildFields indexedOutcome.data = .ok fields ∧
        Report.full false indexedOutcome =
          .ok (Report.reportText status fields widths indexed.listed) ∧
        ∀ entry ∈ indexed.listed,
          Report.entryLine widths entry = Report.namedLine widths entry := by
  have free : joiner ∉ indexed.target.render.toList := by decide +kernel
  have inertTexts : ∀ text ∈ Report.tableTexts true indexed.listed,
      Markup.Inert text.toList ∧ joiner ∉ text.toList := by decide +kernel
  have inertNames : ∀ entry ∈ indexed.listed, Markup.Inert entry.2.source.name.toList := by
    decide +kernel
  have presentable : ∀ entry ∈ indexed.listed, Report.Presentable entry.2.source.name := by
    decide +kernel
  obtain ⟨given, shorter⟩ := names_inert_sources tells_indexed free
  obtain ⟨_, named⟩ := shorter presentable
  obtain ⟨status, fields, widths, headed, fielded, whole, lines⟩ :=
    named (fun entry among => Markup.readable_of_inert (inertNames entry among)) (by decide +kernel)
  refine ⟨tells_indexed, free, fun verbose => (given verbose).1 fun text among => ?_, status,
    fields, widths, headed, fielded, whole,
    fun entry among => (lines entry among).1 (inertNames entry among)⟩
  obtain ⟨inert, joinerFree⟩ := inertTexts text (by
    cases verbose with
    | true => exact among
    | false =>
        obtain ⟨entry, listed, own⟩ := List.mem_flatMap.1 among
        obtain rfl := List.mem_singleton.1 own
        exact Report.name_mem_tableTexts listed)
  exact ⟨Markup.readable_of_inert inert, joinerFree⟩

/-- A build with a tag in the name of a source, and with a closing tag in the path of an output. -/
def tagged : BuildReport where
  target := .ofString "/x["
  demanded := true
  diagrams := [⟨.ofString "/s/a[b].dot", .ofString "/x[/a[b].pdf", true⟩,
    ⟨.ofString "/s/b].dot", .ofString "/x[/b].pdf", true⟩]
  fragments := []
  documents := []

def taggedOutcome : Outcome :=
  .success "build" tagged.toData []

theorem tells_tagged : taggedOutcome.Tells tagged where
  ok := rfl
  told := .inl ⟨rfl, rfl⟩
  remarks := nofun
  proper := by decide +kernel

/-- The shorter report of that build does not show the name, and the longer one is not given. -/
theorem hides_tagged_source :
    (∃ status fields widths, Report.headline taggedOutcome = .ok status ∧
      Report.buildFields taggedOutcome.data = .ok fields ∧
      Report.full false taggedOutcome =
        .ok (Report.reportText status fields widths tagged.listed) ∧
      ∃ entry ∈ tagged.listed, Report.Presentable entry.2.source.name ∧
        Report.entryLine widths entry = Report.ruledLine '│' widths entry.1.toList "a.dot".toList
          (Report.stateText entry.2).toList ∧
        ¬ entry.2.source.name.toList <:+: Report.entryLine widths entry) ∧
      ∃ fault, Report.full true taggedOutcome = .error fault := by
  have presentable : ∀ entry ∈ tagged.listed, Report.Presentable entry.2.source.name := by
    decide +kernel
  have readable : ∀ entry ∈ tagged.listed, Markup.Readable entry.2.source.name.toList := by
    simp only [Markup.readable_iff]
    decide +kernel
  obtain ⟨status, fields, widths, headed, fielded, whole⟩ :=
    tells_tagged.exists_full_eq (by decide +kernel) presentable readable (by decide +kernel)
  have shownName : (Markup.shown (Path.ofString "/s/a[b].dot").name.toList).text =
      "a.dot".toList := by decide +kernel
  have unread : Markup.read "/x[/b].pdf".toList = .error .unmatchedTag := by decide +kernel
  refine ⟨⟨status, fields, widths, headed, fielded, whole, _, List.mem_cons_self,
    presentable _ List.mem_cons_self, ?_, ?_⟩, ?_⟩
  · exact congrArg (fun name => Report.ruledLine '│' widths _ name _) shownName
  · exact Report.not_infix_entryLine (by decide) (readable _ List.mem_cons_self) (by decide +kernel)
  · cases given : Report.full true taggedOutcome with
    | error fault => exact ⟨fault, rfl⟩
    | ok text =>
        obtain ⟨styled, reads⟩ := tells_tagged.reads_of_full given "/x[/b].pdf" (by decide +kernel)
        exact nomatch unread.symm.trans reads

end Outcome.Tells

end Bindery
