import Bindery.Proofs.Build.Operation

/-!
Contract: a build is decided before anything is done.

Owns:
- `plan`, the report of a build, and `plannedTools`, its commands, both read off the files before
  the build;
- `Runs.follows`, that along a run of items which do not disturb each other every decision is the
  one that the files at the start give;
- the theorem that a build which succeeds reports its plan and runs the planned commands.

Does not own: whether a build succeeds.
-/

namespace Bindery

open Source

namespace Book

/-! ## The plan -/

/-- Whether the product of an item is missing or strictly older than its source. -/
def overdue (book : Book) (store : FileStore) (base : Place) (item : Item) : Bool :=
  store.isOverdue (sourcePlace base item) (book.outputPlace base item)

/-- Whether some diagram or fragment is overdue, so that every document has to be typeset. -/
def demands (book : Book) (store : FileStore) (base : Place) (sources : Collection) : Bool :=
  sources.diagrams.any (fun path => book.overdue store base ⟨.diagram, path⟩) ||
    sources.fragments.any fun path => book.overdue store base ⟨.fragment, path⟩

def documentDue (book : Book) (store : FileStore) (base : Place) (sources : Collection)
    (document : Path) : Bool :=
  book.demands store base sources || book.overdue store base ⟨.document, document⟩

/-- The report that the files before a build promise. -/
def plan (book : Book) (store : FileStore) (base : Place) (sources : Collection) : BuildReport where
  target := book.targetDirectory
  demanded := book.demands store base sources
  diagrams := sources.diagrams.map fun path =>
    ⟨path, book.output ⟨.diagram, path⟩, book.overdue store base ⟨.diagram, path⟩⟩
  fragments := sources.fragments.map fun path =>
    ⟨path, book.output ⟨.fragment, path⟩, book.overdue store base ⟨.fragment, path⟩⟩
  documents := sources.documents.map fun path =>
    ⟨path, book.output ⟨.document, path⟩, book.documentDue store base sources path⟩

/-- The commands that the files before a build promise: a renderer's for each diagram that is
overdue, then the engine's for each document that has to be typeset. -/
def plannedTools (book : Book) (store : FileStore) (base : Place) (sources : Collection) :
    List Command :=
  (sources.diagrams.filter fun path => book.overdue store base ⟨.diagram, path⟩).map
      (fun path => Diagram.command ((Path.ofPlace base).join path)
        (Diagram.target book.targetDirectory path)) ++
    (sources.documents.filter fun path => book.documentDue store base sources path).map
      fun path => book.typesetter.command path.stem (book.manuscript path)

/-! ## Runs follow their start -/

/-- Along a run of items which do not disturb each other, every decision is the one that the files
at the start give. -/
theorem Runs.follows {book : Book} {demanded : Bool} {before after : World}
    {records : List Record} (run : book.Runs demanded before records after)
    (sound : book.Sound before.runner) (ready : book.Ready before)
    (fit : ∀ record ∈ records, book.Fit before.base record.1)
    (independent : (records.map Prod.fst).Pairwise (book.Independent before.base)) :
    ∀ record ∈ records, record.2 = book.isDue demanded before.files before.base record.1 := by
  induction run with
  | done kept => simp
  | @step before start middle after item made rest kept treated onward inductionHypothesis =>
      have treatment := treated_of_step kept sound ready (fit _ List.mem_cons_self) treated
      have effect := treatment.effect
      rw [List.map_cons, List.pairwise_cons] at independent
      -- The induction hypothesis decides by the files behind the first item, which has touched
      -- nothing that the decisions on the others look at.
      have decided := inductionHypothesis (effect.runner ▸ sound)
        (ready.of_resembles effect.resembles)
        (effect.base ▸ fun record member => fit record (List.mem_cons_of_mem _ member))
        (effect.base ▸ independent.2)
      rw [effect.base] at decided
      intro record member
      rcases List.mem_cons.1 member with rfl | among
      · exact treatment.due
      · have undisturbed := (independent.1 record.1 (List.mem_map_of_mem among)).forward.mono
          (book.touches_subset before.base item made)
        rw [decided record among, ← isDue_congr effect.files undisturbed]

/-! ## The plan is what the decisions report -/

/-- The decisions that the files give for items, as records. -/
def decisions (book : Book) (demanded : Bool) (store : FileStore) (base : Place)
    (items : List Item) : List Record :=
  items.map fun item => (item, book.isDue demanded store base item)

section Decisions

variable {book : Book} {demanded : Bool} {store : FileStore} {base : Place} {sources : Collection}

@[simp]
theorem isDue_diagram (path : Path) :
    book.isDue demanded store base ⟨.diagram, path⟩ = book.overdue store base ⟨.diagram, path⟩ := by
  simp [isDue, overdue]

@[simp]
theorem isDue_fragment (path : Path) :
    book.isDue demanded store base ⟨.fragment, path⟩ =
      book.overdue store base ⟨.fragment, path⟩ := by
  simp [isDue, overdue]

@[simp]
theorem isDue_document (path : Path) :
    book.isDue demanded store base ⟨.document, path⟩ =
      (demanded || book.overdue store base ⟨.document, path⟩) := by
  simp [isDue, overdue]

theorem isDue_of_not_document {item : Item} (role : item.kind ≠ .document) :
    book.isDue demanded store base item = book.overdue store base item := by
  simp [isDue, overdue, role]

theorem demands_eq_true_iff :
    book.demands store base sources = true ↔
      ∃ item ∈ sources.items, item.kind ≠ .document ∧ book.overdue store base item = true := by
  simp [demands, Collection.items, or_and_right, exists_or]

/-- Whatever was demanded, the verdict follows from the diagrams and fragments. -/
theorem refreshes_decisions :
    refreshes (book.decisions demanded store base sources.items) =
      book.demands store base sources := by
  have report := book.reportOn_map sources (book.isDue demanded store base)
  simp only [isDue_diagram, isDue_fragment] at report
  exact congrArg BuildReport.demanded report

theorem reportOn_decisions :
    book.reportOn (book.decisions (book.demands store base sources) store base sources.items) =
      book.plan store base sources := by
  rw [decisions, reportOn_map]
  simp only [isDue_diagram, isDue_fragment, isDue_document]
  rfl

/-- Issuing commands as items fall due is choosing the items that are due, and then their
commands. -/
theorem flatMap_if {α β : Type} (due : α → Bool) (command : α → β) (items : List α) :
    (items.flatMap fun item => if due item then [command item] else []) =
      (items.filter due).map command := by
  induction items with
  | nil => rfl
  | cons item rest inductionHypothesis =>
      by_cases now : due item = true <;> simp [now, inductionHypothesis]

theorem toolsOf_decisions :
    book.toolsOf base (book.decisions (book.demands store base sources) store base sources.items) =
      book.plannedTools store base sources := by
  have silent : (sources.fragments.flatMap fun _ => ([] : List Command)) = [] :=
    List.flatMap_eq_nil_iff.2 fun _ _ => rfl
  rw [plannedTools, ← flatMap_if, ← flatMap_if]
  simp only [toolsOf, decisions, Collection.items, List.map_append, List.map_map,
    List.flatMap_append, List.flatMap_map, Function.comp_def, isDue_diagram, isDue_fragment,
    isDue_document, tools, ite_self, silent, List.nil_append, documentDue]
  rfl

end Decisions

/-! ## Builds follow their plan -/

/-- Making the target directory changes no decision on items whose files are no directories. -/
theorem isDue_prepared {book : Book} {world : World} {base : Place}
    (made : world.files.makeDirectories world.base book.targetDirectory =
      (.ok (), (book.prepared world).files))
    {item : Item} (plain : book.Plain base (book.prepared world).files item) (demanded : Bool) :
    book.isDue demanded (book.prepared world).files base item =
      book.isDue demanded world.files base item := by
  have grown := (FileStore.makeDirectories_eq_ok made).1
  rw [isDue, isDue,
    FileStore.isOverdue_congr (grown.unchanged plain.source) (grown.unchanged plain.output)]

/-- A build that succeeds is a run of the decisions that the files before it give, and reports
them. -/
theorem decisions_of_build {book : Book} {chosen : Option Collection} {sources : Collection}
    {world after : World} {outcome : Outcome} (sound : book.Sound world.runner)
    (found : ((book.sourcesOr chosen).exec world).1 = .ok sources)
    (named : ∀ item ∈ sources.items, item.path.NamesFile)
    (separate : book.Separate sources world.base)
    (plain : ∀ item ∈ sources.items, book.Plain world.base (book.prepared world).files item)
    (ran : (book.build chosen).exec world = (.ok outcome, after)) (ok : outcome.ok = true) :
    outcome.data = (book.plan world.files world.base sources).toData ∧
      World.Effect (book.prepared world) after
        (book.touchedBy world.base (book.decisions (book.demands world.files world.base sources)
          world.files world.base sources.items))
        (book.plannedTools world.files world.base sources) := by
  obtain ⟨records, made, run, items, data⟩ := build_eq_ok found ran ok
  have started := world.kept_starting
  have base := book.base_prepared world
  have ready := ready_prepared made
  have among : ∀ record ∈ records, record.1 ∈ sources.items :=
    fun record member => items ▸ List.mem_map_of_mem member
  have fit : ∀ record ∈ records, book.Fit (book.prepared world).base record.1 :=
    fun record member => base ▸ separate.fit named _ (among record member)
  have decided := run.follows (started.runner ▸ sound) ready fit
    (by rw [items, base]; exact separate.independent)
  have effect := (run.effect (started.runner ▸ sound) ready fit).1
  rw [base] at decided effect
  have decisions : records =
      book.decisions (refreshes records) world.files world.base sources.items := by
    rw [← items]
    exact eq_map_of_rule fun record member =>
      (decided record member).trans (isDue_prepared made (plain _ (among record member)) _)
  have verdict : refreshes records = book.demands world.files world.base sources := by
    rw [decisions, refreshes_decisions]
  rw [verdict] at decisions
  rw [decisions, toolsOf_decisions] at effect
  exact ⟨by rw [data, decisions, reportOn_decisions], effect⟩

/-- A build that succeeds reports what the files before it promised, and runs exactly the promised
tools. -/
theorem build_follows_plan {book : Book} {chosen : Option Collection} {sources : Collection}
    {world after : World} {outcome : Outcome} (sound : book.Sound world.runner)
    (found : ((book.sourcesOr chosen).exec world).1 = .ok sources)
    (named : ∀ item ∈ sources.items, item.path.NamesFile)
    (separate : book.Separate sources world.base)
    (plain : ∀ item ∈ sources.items, book.Plain world.base (book.prepared world).files item)
    (ran : (book.build chosen).exec world = (.ok outcome, after)) (ok : outcome.ok = true) :
    outcome.data = (book.plan world.files world.base sources).toData ∧
      ∃ issued, after.commands = world.commands ++ issued ∧
        issued.filter (fun command => !command.isRequest) =
          book.plannedTools world.files world.base sources := by
  obtain ⟨data, effect⟩ := decisions_of_build sound found named separate plain ran ok
  refine ⟨data, ?_⟩
  obtain ⟨requests, asked, onlyRequests⟩ := world.kept_starting.asked
  obtain ⟨issued, commands, tools⟩ := effect.ran
  refine ⟨requests ++ issued, ?_, ?_⟩
  · rw [commands, ← List.append_assoc, ← asked]
    rfl
  · have silent : requests.filter (fun command => !command.isRequest) = [] := by
      simpa using onlyRequests
    rw [List.filter_append, silent, List.nil_append, tools]

set_option maxRecDepth 4000 in
/-- The build of the small project follows its plan, by which the document is typeset since the
diagram is rendered. -/
theorem build_follows_plan_sample :
    (sampleBook.plan drawnWorld.files drawnWorld.base sampleSources).demanded = true ∧
      ∃ outcome after, (sampleBook.build (some sampleSources)).exec drawnWorld =
          (.ok outcome, after) ∧ outcome.ok = true ∧
        outcome.data =
          (sampleBook.plan drawnWorld.files drawnWorld.base sampleSources).toData ∧
        ∃ issued, after.commands = drawnWorld.commands ++ issued ∧
          issued.filter (fun command => !command.isRequest) =
            sampleBook.plannedTools drawnWorld.files drawnWorld.base sampleSources := by
  refine ⟨by decide +kernel, ?_⟩
  have found : ((sampleBook.sourcesOr (some sampleSources)).exec drawnWorld).1 =
      .ok sampleSources := rfl
  have named : ∀ item ∈ sampleSources.items, item.path.NamesFile := by decide
  have separate : sampleBook.Separate sampleSources drawnWorld.base := by decide +kernel
  have plain : ∀ item ∈ sampleSources.items,
      sampleBook.Plain drawnWorld.base (sampleBook.prepared drawnWorld).files item := by
    decide +kernel
  have succeeds : okOf ((sampleBook.build (some sampleSources)).exec drawnWorld).1 = some true := by
    decide +kernel
  rcases ran : (sampleBook.build (some sampleSources)).exec drawnWorld with ⟨answer, after⟩
  rw [ran] at succeeds
  obtain ⟨outcome, rfl, ok⟩ := exists_of_okOf succeeds
  have follows := build_follows_plan (sound_sampleBook _) found named separate plain ran ok
  exact ⟨outcome, after, rfl, ok, follows⟩

end Book

end Bindery
