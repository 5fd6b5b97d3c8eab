import Bindery.Book
import Bindery.Proofs.Display.Framed
import Bindery.Proofs.Path.Place
import Bindery.Proofs.Report.Remarks
import Bindery.Report.Outcome

/-!
Contract: the report of a build can be shown if the names and outputs in it can be read.

Owns:
- `Outcome.Tells`, the outcomes of a build and of the rendering of diagrams;
- the rows of such an outcome: its diagrams, its fragments and its documents, each with its kind;
- that both reports for people are given, the longer one with its timings, if every text of the
  table can be read and holds no joiner.

Does **not** own: what the reports look like (`Bindery.Proofs.Report.Naming`).
-/

namespace Bindery

open Display

/-- The entries that stand for a product. -/
def Product.entries (product : Product) : Entries :=
  [("source", .str product.source.render), ("output", .str product.output.render),
    ("rebuilt", .bool product.rebuilt)]

/-- The products of a report with their kinds: diagrams, then fragments, then documents. -/
def BuildReport.listed (report : BuildReport) : List (String × Product) :=
  report.diagrams.map ("diagram", ·) ++ report.fragments.map ("fragment", ·) ++
    report.documents.map ("document", ·)

/-- Outcomes of a build, or of the rendering of diagrams alone, that tell a report. -/
structure Outcome.Tells (outcome : Outcome) (report : BuildReport) : Prop where
  ok : outcome.ok = true
  told : (outcome.op = "build" ∧ outcome.data = report.toData) ∨
    (outcome.op = "render_diagrams" ∧
      outcome.data = [("target", .str report.target.render),
        ("diagrams", Product.listValue report.diagrams)] ∧
      report.fragments = [] ∧ report.documents = [])
  remarks : ∀ entries, outcome.remarks = some entries →
    ∃ phase : Phase, phase.Plain ∧ entries = [("telemetry", phase.toValue)]
  proper : ∀ entry ∈ report.listed, entry.2.source.IsProper

namespace Report

variable {report : BuildReport}

theorem rowsOf_lists {entries : Entries}
    (drawn : valueOr entries "diagrams" (.list []) = Product.listValue report.diagrams)
    (refreshed : valueOr entries "fragments" (.list []) = Product.listValue report.fragments)
    (typeset : valueOr entries "documents" (.list []) = Product.listValue report.documents) :
    rowsOf entries kindKeys =
      .ok (report.listed.map fun entry => (entry.1, entry.2.toValue)) := by
  unfold kindKeys BuildReport.listed
  simp only [rowsOf, drawn, refreshed, typeset, Product.listValue, itemsOf, bind, Except.bind, pure,
    Except.pure, List.map_append, List.map_map, Function.comp_def, List.append_nil,
    List.append_assoc]

theorem rowEntries_products (listed : List (String × Product)) :
    rowEntries (listed.map fun entry => (entry.1, entry.2.toValue)) =
      .ok (listed.map fun entry => (entry.1, entry.2.entries)) := by
  induction listed with
  | nil => rfl
  | cons entry rest inductionHypothesis =>
      rw [List.map_cons, rowEntries, inductionHypothesis]
      rfl

end Report

/-- The table has a row for each product of a report, in order. -/
theorem Outcome.Tells.rowsOf_eq {outcome : Outcome} {report : BuildReport}
    (tells : outcome.Tells report) :
    Report.rowsOf outcome.data Report.kindKeys =
      .ok (report.listed.map fun entry => (entry.1, entry.2.toValue)) := by
  rcases tells.told with ⟨_, data⟩ | ⟨_, data, noFragments, noDocuments⟩
  · rw [data]
    exact Report.rowsOf_lists rfl rfl rfl
  · rw [data]
    refine Report.rowsOf_lists rfl ?_ ?_
    · rw [noFragments]
      rfl
    · rw [noDocuments]
      rfl

namespace Report

/-! ## Rows -/

/-- A text that can be read and cut anywhere. -/
def Presents (text : String) : Prop :=
  Markup.Readable text.toList ∧ joiner ∉ text.toList

theorem exists_shown {text : String} (presents : Presents text) :
    ∃ styled, shown text = .ok styled ∧ styled.Showable := by
  obtain ⟨styled, reads, showable⟩ := presents.1.exists_showable presents.2
  refine ⟨styled, ?_, showable⟩
  unfold shown ofDisplay
  rw [reads]
  rfl

/-- The texts of products that a table shows. -/
def tableTexts (verbose : Bool) (listed : List (String × Product)) : List String :=
  listed.flatMap fun entry =>
    entry.2.source.name :: (if verbose then [entry.2.output.render] else [])

theorem nameOf_entries {product : Product} (proper : product.source.IsProper) :
    (Path.ofString (valueOr product.entries "source" (.str "")).display).name =
      product.source.name := by
  show (Path.ofString product.source.render).name = product.source.name
  rw [Path.ofString_render proper]

def kinds : List String := ["diagram", "fragment", "document"]

theorem kind_mem_of_listed {report : BuildReport} :
    ∀ entry ∈ report.listed, entry.1 ∈ kinds := by
  intro entry among
  simp only [BuildReport.listed, List.mem_append, List.mem_map] at among
  rcases among with (⟨_, _, rfl⟩ | ⟨_, _, rfl⟩) | ⟨_, _, rfl⟩ <;> simp [kinds]

theorem exists_rowCells {verbose : Bool} {kind : String} {product : Product}
    (known : kind ∈ kinds) (proper : product.source.IsProper) (named : Presents product.source.name)
    (placed : verbose = true → Presents product.output.render) :
    ∃ cells, rowCells verbose kind product.entries = .ok cells ∧
      ∀ cell ∈ cells, cell.Showable := by
  obtain ⟨source, reads, sourceShowable⟩ := exists_shown named
  have kindFree : joiner ∉ kind.toList :=
    (show ∀ kind ∈ kinds, joiner ∉ kind.toList by decide) kind known
  have stateFree : joiner ∉
      (if wasRebuilt product.entries then "rebuilt" else "current").toList := by
    split <;> decide
  have always : ∀ cell ∈ [StyledText.plain kind.toList, source,
      .plain (if wasRebuilt product.entries then "rebuilt" else "current").toList],
      cell.Showable := by
    simp only [List.forall_mem_cons, List.not_mem_nil, false_implies, implies_true, and_true]
    exact ⟨StyledText.showable_plain kindFree, sourceShowable, StyledText.showable_plain stateFree⟩
  unfold rowCells
  rw [nameOf_entries proper, reads]
  cases verbose with
  | false => exact ⟨_, rfl, by simpa using always⟩
  | true =>
      obtain ⟨output, shows, outputShowable⟩ := exists_shown (placed rfl)
      have outputRead : shown (valueOr product.entries "output" (.str "")).display = .ok output :=
        shows
      simp only [if_true, outputRead]
      refine ⟨_, rfl, fun cell among => ?_⟩
      rcases List.mem_append.1 among with front | last
      · exact always cell front
      · rw [List.mem_singleton.1 last]
        exact outputShowable

theorem exists_allCells {verbose : Bool} {listed : List (String × Product)}
    (known : ∀ entry ∈ listed, entry.1 ∈ kinds)
    (proper : ∀ entry ∈ listed, entry.2.source.IsProper)
    (presents : ∀ text ∈ tableTexts verbose listed, Presents text) :
    ∃ cells, allCells verbose (listed.map fun entry => (entry.1, entry.2.entries)) = .ok cells ∧
      ∀ row ∈ cells, ∀ cell ∈ row, cell.Showable := by
  induction listed with
  | nil => exact ⟨[], rfl, nofun⟩
  | cons entry rest inductionHypothesis =>
      unfold tableTexts at presents
      rw [List.flatMap_cons, List.forall_mem_append] at presents
      obtain ⟨own, others⟩ := presents
      rw [List.forall_mem_cons] at known proper own
      obtain ⟨row, drawn, showable⟩ := exists_rowCells known.1 proper.1 own.1 fun asked =>
        own.2 _ (by rw [if_pos asked]; exact List.mem_cons_self)
      obtain ⟨cells, behind, restShowable⟩ := inductionHypothesis known.2 proper.2 others
      refine ⟨row :: cells, ?_, List.forall_mem_cons.2 ⟨showable, restShowable⟩⟩
      rw [List.map_cons, allCells, drawn, behind]
      rfl

theorem name_mem_tableTexts {verbose : Bool} {listed : List (String × Product)}
    {entry : String × Product} (among : entry ∈ listed) :
    entry.2.source.name ∈ tableTexts verbose listed :=
  List.mem_flatMap.2 ⟨entry, among, List.mem_cons_self⟩

theorem exists_read_of_shown {text : String} {styled : StyledText}
    (shows : shown text = .ok styled) : ∃ read, Markup.read text.toList = .ok read := by
  unfold shown ofDisplay at shows
  cases reads : Markup.read text.toList with
  | ok read => exact ⟨read, rfl⟩
  | error fault =>
      rw [reads] at shows
      contradiction

/-- There are cells only for texts that can be read. -/
theorem reads_of_allCells {verbose : Bool} {listed : List (String × Product)}
    {cells : List (List StyledText)} (proper : ∀ entry ∈ listed, entry.2.source.IsProper)
    (drawn : allCells verbose (listed.map fun entry => (entry.1, entry.2.entries)) = .ok cells) :
    ∀ text ∈ tableTexts verbose listed, ∃ styled, Markup.read text.toList = .ok styled := by
  induction listed generalizing cells with
  | nil => exact nofun
  | cons entry rest inductionHypothesis =>
      rw [List.forall_mem_cons] at proper
      rw [List.map_cons, allCells] at drawn
      obtain ⟨row, here, behind⟩ := exists_of_bind drawn
      obtain ⟨others, later, _⟩ := exists_of_bind behind
      unfold tableTexts
      rw [List.flatMap_cons, List.forall_mem_append]
      refine ⟨List.forall_mem_cons.2 ?_, inductionHypothesis proper.2 later⟩
      obtain ⟨source, named, placed⟩ := exists_of_bind here
      rw [nameOf_entries proper.1] at named
      refine ⟨exists_read_of_shown named, ?_⟩
      cases verbose with
      | false => exact nofun
      | true =>
          refine List.forall_mem_singleton.2 ?_
          cases shows : shown entry.2.output.render with
          | ok output => exact exists_read_of_shown shows
          | error fault =>
              have unread : shown (valueOr entry.2.entries "output" (.str "")).display =
                  .error fault := shows
              rw [if_pos rfl, unread] at placed
              contradiction

/-- There is a table only for texts that can be read. -/
theorem reads_of_sourceTable {verbose : Bool} {listed : List (String × Product)} {text : String}
    (proper : ∀ entry ∈ listed, entry.2.source.IsProper)
    (given : sourceTable verbose (listed.map fun entry => (entry.1, entry.2.entries)) = .ok text) :
    ∀ text ∈ tableTexts verbose listed, ∃ styled, Markup.read text.toList = .ok styled := by
  unfold sourceTable at given
  split at given
  · rename_i empty
    simp only [List.isEmpty_map, List.isEmpty_iff] at empty
    rw [empty]
    exact nofun
  · obtain ⟨cells, drawn, _⟩ := exists_of_bind given
    exact reads_of_allCells proper drawn

theorem exists_sourceTable {verbose : Bool} {listed : List (String × Product)}
    (known : ∀ entry ∈ listed, entry.1 ∈ kinds)
    (proper : ∀ entry ∈ listed, entry.2.source.IsProper)
    (presents : ∀ text ∈ tableTexts verbose listed, Presents text) :
    ∃ text, sourceTable verbose (listed.map fun entry => (entry.1, entry.2.entries)) =
      .ok text := by
  obtain ⟨cells, drawn, showable⟩ := exists_allCells known proper presents
  have heads : ∀ column ∈ artifactColumns verbose, joiner ∉ column.head := by
    cases verbose <;> decide
  obtain ⟨lines, renders, free⟩ : ∃ lines,
      (⟨artifactColumns verbose, cells⟩ : Table).render reportWidth = .ok lines ∧
        ∀ line ∈ lines, Free line := Table.exists_render heads showable reportWidth
  obtain ⟨text, shows⟩ := exists_showLines reportWidth free
  unfold sourceTable
  split
  · exact ⟨"", rfl⟩
  · simp only [drawn, ofDisplay, bind, Except.bind, renders, Except.mapError, shows]
    exact ⟨_, rfl⟩

/-! ## The count -/

/-- How many of all products were made again. -/
def countText (listed : List (String × Product)) : String :=
  toString (listed.countP (·.2.rebuilt)) ++ " of " ++ toString listed.length ++
    " artifacts rebuilt"

theorem mem_countText {listed : List (String × Product)} {c : Char}
    (member : c ∈ (countText listed).toList) : c = ' ' ∨ Number.isNumeral c = true := by
  have words : " of  artifacts rebuilt".toList.all (fun c => c = ' ' || Number.isNumeral c) =
      true := by decide
  simp only [List.all_eq_true, Bool.or_eq_true, decide_eq_true_eq] at words
  simp only [countText, String.toList_append, List.mem_append] at member
  rcases member with ((rebuilt | among) | whole) | noun
  · exact .inr (Number.isNumeral_of_mem_toString rebuilt)
  · exact words c (List.mem_append_left " artifacts rebuilt".toList among)
  · exact .inr (Number.isNumeral_of_mem_toString whole)
  · exact words c (List.mem_append_right " of ".toList noun)

theorem notMem_countText {listed : List (String × Product)} {c : Char} (blank : c ≠ ' ')
    (numeral : Number.isNumeral c = false) : c ∉ (countText listed).toList := by
  intro member
  rcases mem_countText member with same | known
  · exact blank same
  · rw [known] at numeral
    contradiction

theorem countLine_products (listed : List (String × Product)) :
    countLine (listed.map fun entry => (entry.1, entry.2.entries)) =
      say [.markup ("\n" ++ countText listed)] := by
  have rebuilt : (listed.map fun entry => (entry.1, entry.2.entries)).countP
      (fun row => wasRebuilt row.2) = listed.countP (·.2.rebuilt) := List.countP_map
  unfold countLine countText
  rw [rebuilt, List.length_map]
  simp only [String.append_assoc]
  rfl

theorem exists_countLine (listed : List (String × Product)) :
    ∃ text, countLine (listed.map fun entry => (entry.1, entry.2.entries)) = .ok text := by
  have unmarked : Unmarked ("\n" ++ countText listed) :=
    (by decide : Unmarked "\n").append
      ⟨notMem_countText (by decide) (by decide), notMem_countText (by decide) (by decide)⟩
  rw [countLine_products]
  exact exists_say_markup (Markup.readable_of_inert (Markup.inert_of_notMem unmarked.1)) unmarked.2

/-- The remarks that a report shows if it is asked to. -/
def remarksOf (verbose : Bool) (outcome : Outcome) : Except ReportFault String :=
  if verbose then remarkBlock outcome.remarks else .ok ""

/-! ## The lines above the table -/

/-- The names of the styles of reports. None of them is a style by name. -/
def partStyles : List String := ["book.ok", "book.op", "book.key", "book.path"]

theorem exists_read_of_partStyle (style : String) (known : style ∈ partStyles) :
    ∃ meant, StyleName.read style.toList = .ok meant := by
  have unknown : ∀ style ∈ partStyles, StyleName.read style.toList = .ok none := by decide +kernel
  exact ⟨none, unknown style known⟩

theorem exists_headline {outcome : Outcome} (free : joiner ∉ outcome.op.toList) :
    ∃ text, headline outcome = .ok text := by
  have opFree : joiner ∉ ("  " ++ outcome.op).toList := by
    rw [String.toList_append, List.mem_append, not_or]
    exact ⟨by decide, free⟩
  refine exists_say (List.forall_mem_cons.2 ⟨?_, List.forall_mem_singleton.2 ?_⟩)
  · refine exists_read_plain (by decide) ?_
    rintro _ ⟨⟩
    exact exists_read_of_partStyle _ (by decide)
  · refine exists_read_plain opFree ?_
    rintro _ ⟨⟩
    exact exists_read_of_partStyle _ (by decide)

theorem exists_field {key : String} {value : Value} (keyFree : joiner ∉ key.toList)
    (free : joiner ∉ value.display.toList) : ∃ text, field key value = .ok text := by
  have labelFree : joiner ∉ ("  " ++ key ++ ": ").toList := by
    simp only [String.toList_append, List.mem_append, not_or]
    exact ⟨⟨by decide, keyFree⟩, by decide⟩
  refine exists_say (List.forall_mem_cons.2 ⟨?_, List.forall_mem_singleton.2 ?_⟩)
  · refine exists_read_plain labelFree ?_
    rintro _ ⟨⟩
    exact exists_read_of_partStyle _ (by decide)
  · refine exists_read_plain free fun name named => ?_
    split at named
    · obtain rfl := Option.some.inj named
      exact exists_read_of_partStyle _ (by decide)
    · contradiction

end Report

/-! ## Outcomes -/

namespace Outcome.Tells

variable {outcome : Outcome} {report : BuildReport}

theorem op_mem (tells : outcome.Tells report) : outcome.op ∈ Report.artifactOps := by
  rcases tells.told with ⟨op, _⟩ | ⟨op, _⟩ <;> simp [op, Report.artifactOps]

theorem exists_headline (tells : outcome.Tells report) :
    ∃ text, Report.headline outcome = .ok text := by
  have free : ∀ op ∈ Report.artifactOps, joiner ∉ op.toList := by decide
  exact Report.exists_headline (free outcome.op tells.op_mem)

theorem exists_buildFields (tells : outcome.Tells report)
    (free : joiner ∉ report.target.render.toList) :
    ∃ text, Report.buildFields outcome.data = .ok text := by
  obtain ⟨target, shows⟩ : ∃ text, Report.field "target" (.str report.target.render) = .ok text :=
    Report.exists_field (by decide) free
  have verdictFree : joiner ∉ (Value.bool report.demanded).display.toList := by
    cases report.demanded <;> decide
  obtain ⟨verdict, demands⟩ : ∃ text,
      Report.field "needs_rebuild" (.bool report.demanded) = .ok text :=
    Report.exists_field (by decide) verdictFree
  have toldTarget : Report.valueOr outcome.data "target" (.str "") =
      .str report.target.render := by
    rcases tells.told with ⟨_, data⟩ | ⟨_, data, _⟩ <;> rw [data] <;> rfl
  rcases tells.told with ⟨_, data⟩ | ⟨_, data, _⟩
  · have toldVerdict : outcome.data.find? "needs_rebuild" = some (.bool report.demanded) := by
      rw [data]
      rfl
    unfold Report.buildFields
    simp only [toldTarget, shows, toldVerdict, demands]
    exact ⟨_, rfl⟩
  · have noVerdict : outcome.data.find? "needs_rebuild" = none := by
      rw [data]
      rfl
    unfold Report.buildFields
    simp only [toldTarget, shows, noVerdict]
    exact ⟨_, rfl⟩

theorem body_eq (tells : outcome.Tells report) (verbose : Bool) :
    Report.body verbose outcome = (do
      let fields ← Report.buildFields outcome.data
      let table ← Report.sourceTable verbose
        (report.listed.map fun entry => (entry.1, entry.2.entries))
      let count ← Report.countLine (report.listed.map fun entry => (entry.1, entry.2.entries))
      return fields ++ (table ++ count)) := by
  have isArtifactOp : Report.artifactOps.contains outcome.op = true :=
    List.contains_iff_mem.2 tells.op_mem
  unfold Report.body Report.artifacts
  rw [if_pos isArtifactOp, tells.rowsOf_eq]
  simp only [bind, Except.bind, Report.rowEntries_products]
  cases Report.buildFields outcome.data with
  | error fault => rfl
  | ok fields =>
      cases Report.sourceTable verbose _ with
      | error fault => rfl
      | ok table => cases Report.countLine _ <;> rfl

/-- A report is its lines above the table, the table, and the count, with the timings below it if
they are asked for. -/
theorem full_eq (tells : outcome.Tells report) (verbose : Bool) :
    Report.full verbose outcome = (do
      let status ← Report.headline outcome
      let fields ← Report.buildFields outcome.data
      let table ← Report.sourceTable verbose
        (report.listed.map fun entry => (entry.1, entry.2.entries))
      let count ← Report.countLine (report.listed.map fun entry => (entry.1, entry.2.entries))
      let remarks ← Report.remarksOf verbose outcome
      return Report.dropLineEnds (status ++ (fields ++ (table ++ count)) ++ remarks)) := by
  have noContent : ∀ op ∈ Report.artifactOps, op ≠ Report.contentOp := by decide
  unfold Report.full Report.success
  rw [tells.ok, decide_eq_false (noContent _ tells.op_mem), tells.body_eq]
  simp only [bind, Except.bind, Bool.and_false, Bool.false_eq_true, if_false, if_true]
  cases Report.headline outcome with
  | error fault => rfl
  | ok status =>
      cases Report.buildFields outcome.data with
      | error fault => rfl
      | ok fields =>
          cases Report.sourceTable verbose _ with
          | error fault => rfl
          | ok table =>
              cases Report.countLine _ with
              | error fault => rfl
              | ok count =>
                  cases verbose with
                  | false => rfl
                  | true =>
                      unfold Report.remarksOf
                      cases Report.remarkBlock outcome.remarks <;> rfl

/-- A report is given if all texts of its table can be read, and none of them and neither the target
holds a joiner. -/
theorem exists_full (tells : outcome.Tells report) (verbose : Bool)
    (free : joiner ∉ report.target.render.toList)
    (presents : ∀ text ∈ Report.tableTexts verbose report.listed, Report.Presents text) :
    ∃ text, Report.full verbose outcome = .ok text := by
  obtain ⟨status, headed⟩ := tells.exists_headline
  obtain ⟨fields, fielded⟩ := tells.exists_buildFields free
  obtain ⟨table, tabled⟩ :=
    Report.exists_sourceTable Report.kind_mem_of_listed tells.proper presents
  obtain ⟨count, counted⟩ := Report.exists_countLine report.listed
  obtain ⟨remarks, remarked⟩ : ∃ text,
      Report.remarksOf verbose outcome = .ok text := by
    cases verbose with
    | false => exact ⟨"", rfl⟩
    | true =>
        show ∃ text, Report.remarkBlock outcome.remarks = .ok text
        cases told : outcome.remarks with
        | none => exact ⟨"", rfl⟩
        | some entries =>
            obtain ⟨phase, plain, rfl⟩ := tells.remarks entries told
            exact Report.exists_remarkBlock plain
  rw [tells.full_eq, headed, fielded, tabled, counted, remarked]
  exact ⟨_, rfl⟩

theorem reads_of_full (tells : outcome.Tells report) {verbose : Bool} {text : String}
    (given : Report.full verbose outcome = .ok text) :
    ∀ text ∈ Report.tableTexts verbose report.listed,
      ∃ styled, Markup.read text.toList = .ok styled := by
  rw [tells.full_eq] at given
  obtain ⟨status, _, belowStatus⟩ := exists_of_bind given
  obtain ⟨fields, _, belowFields⟩ := exists_of_bind belowStatus
  obtain ⟨table, shows, _⟩ := exists_of_bind belowFields
  exact Report.reads_of_sourceTable tells.proper shows

end Outcome.Tells

end Bindery
