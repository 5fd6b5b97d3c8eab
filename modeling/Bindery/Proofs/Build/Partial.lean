import Bindery.Proofs.Build.Boundary
import Bindery.Proofs.Build.Rerun
import Bindery.Proofs.Build.Treatable

/-!
Contract: a build after an operation that has done a part of it.

Owns:
- `Portion`, the parts of a build with an operation of their own, and `Refreshed`, what such an
  operation leaves: it has touched nothing but the places of its items, and has settled them;
- that the operation on diagrams, and a build after either operation, succeed whenever a build in
  their place does;
- `Swallowed`, a document that only the refreshed items would have demanded, and the theorem that
  a build decides otherwise after the part than in its place exactly on these documents;
- a project in which the document is lost in this way.

Does not own: what a build decides by itself (`Bindery.Proofs.Build.Plan`).
-/

namespace Bindery

open Source

namespace Book

/-! ## Parts of a build -/

/-- A part of a build that has an operation of its own: all diagrams, or one fragment, which is
written under its own name. -/
inductive Portion where
  | diagrams
  | fragment (path : Path)

namespace Portion

def operation (chosen : Option Collection) : Portion → Operation
  | diagrams => .drawDiagrams chosen
  | fragment path => .renderManuscript path none

def items (sources : Collection) : Portion → List Item
  | diagrams => sources.diagrams.map (Item.mk .diagram)
  | fragment path => [⟨.fragment, path⟩]

theorem kind_ne_document {portion : Portion} {sources : Collection} {item : Item}
    (member : item ∈ portion.items sources) : item.kind ≠ .document := by
  cases portion with
  | diagrams =>
      obtain ⟨path, _, rfl⟩ := List.mem_map.1 member
      simp
  | fragment path =>
      obtain rfl := List.mem_singleton.1 member
      simp

end Portion

/-- What a part of a build leaves of its items: nothing but their places is touched, and they are
settled. -/
structure Refreshed (book : Book) (items : List Item) (before after : World) : Prop where
  stamps : ∃ touched, book.Stamps before after touched ∧
    touched ⊆ items.flatMap fun item => book.touches before.base item true
  settled : ∀ item ∈ items, book.Settled after item

section Operations

variable {book : Book} {chosen : Option Collection} {sources : Collection} {world after : World}
  {outcome : Outcome}

/-- The target directory is made alike, whatever notes were taken before. -/
theorem kept_prepared {opened : World} (kept : World.Kept world opened) (book : Book) :
    World.Kept (book.prepared world) { opened with files := (book.prepared world).files } := by
  have commands : (book.prepared world).commands = world.commands := by
    unfold prepared World.starting World.opening
    split <;> rfl
  obtain ⟨requests, asked, only⟩ := kept.asked
  have now : (book.prepared world).now = world.now := world.kept_starting.now
  refine ⟨rfl, kept.now.trans now.symm, kept.base.trans (book.base_prepared world).symm,
    kept.runner.trans (book.runner_prepared world).symm, requests, ?_, only⟩
  rw [commands]
  exact asked

theorem drawAll_eq (book : Book) (diagrams : List Path) :
    book.drawAll diagrams = book.treatKind false .diagram diagrams := rfl

/-- The operation on diagrams is a run over them. -/
theorem drawDiagrams_eq_ok (found : ((book.sourcesOr chosen).exec world).1 = .ok sources)
    (ran : (book.drawDiagrams chosen).exec world = (.ok outcome, after)) (ok : outcome.ok = true) :
    ∃ records, book.Runs false (book.prepared world) records after ∧
      records.map Prod.fst = sources.diagrams.map (Item.mk .diagram) := by
  obtain ⟨opened, told, inside, kept, acted, okTold, closed⟩ := acted_of_recorded ran ok
  have finding := (book.looks_sourcesOr chosen).exec_eq kept.files kept.base found
  rw [Action.exec_bind_of_ok finding] at acted
  obtain ⟨_, start, making, drawing⟩ :=
    Action.exec_bind_eq_ok_iff.1 (settle_eq_ok acted okTold)
  obtain ⟨products, finish, drawn, done⟩ := Action.exec_bind_eq_ok_iff.1 drawing
  obtain ⟨_, rfl⟩ := Prod.mk.inj done
  have begins : World.Kept (book.prepared world) start := by
    have same : (opened.files.makeDirectories opened.base book.targetDirectory).2 =
        (book.prepared world).files := by
      rw [kept.files, kept.base]
      rfl
    obtain ⟨_, rfl⟩ := Prod.mk.inj making
    have there := kept_prepared kept book
    rw [← same] at there
    exact there
  rw [drawAll_eq] at drawn
  obtain ⟨run, items, _⟩ := runs_of_treatKind drawn
  exact ⟨_, (run.of_kept begins).trans_kept closed, items⟩

/-- Obliging tools draw the diagrams among treatable sources. -/
theorem exists_drawDiagrams (sound : book.Sound world.runner) (obliging : world.runner.Obliging)
    (steady : book.repository.Steady world.runner (book.targetDirectory.placeFrom world.base))
    (made : world.files.makeDirectories world.base book.targetDirectory =
      (.ok (), (book.prepared world).files))
    (found : ((book.sourcesOr chosen).exec world).1 = .ok sources)
    (named : ∀ item ∈ sources.items, item.path.NamesFile)
    (separate : book.Separate sources world.base)
    (treatable : ∀ item ∈ sources.items, book.Treatable (book.prepared world) item) :
    ∃ told finish, (book.drawDiagrams chosen).exec world = (.ok told, finish) ∧
      told.ok = true := by
  obtain ⟨answer, finish, ran, _, tells⟩ := exec_recorded "BuildService.render_diagrams" (do
    let sources ← book.sourcesOr chosen
    settle "render_diagrams" silent do
      .makeDirectories book.targetDirectory
      let diagrams ← book.drawAll sources.diagrams
      return .success "render_diagrams"
        [("target", .str book.targetDirectory.render), ("diagrams", Product.listValue diagrams)] [])
    world
  have kept := world.kept_opening "BuildService.render_diagrams"
  generalize world.opening "BuildService.render_diagrams" = opened at kept tells
  have finding := (book.looks_sourcesOr chosen).exec_eq kept.files kept.base found
  have making : (Action.makeDirectories book.targetDirectory).exec opened =
      (.ok (), { opened with files := (book.prepared world).files }) := by
    rw [← kept.files, ← kept.base] at made
    simp only [Action.makeDirectories, Action.exec_ofEffect, made]
  have diagrams : List.Sublist (sources.diagrams.map (Item.mk .diagram)) sources.items :=
    List.sublist_append_left _ _
  rcases drawing : (book.treatKind false .diagram sources.diagrams).exec
    { opened with files := (book.prepared world).files } with ⟨fault | products, inside⟩
  · obtain ⟨path, rest, start, run, items, failed⟩ := stops_of_treatKind drawing
    rw [items] at diagrams
    rw [← book.runner_prepared world] at sound obliging steady
    rw [← book.base_prepared world] at steady separate
    have member : ⟨.diagram, path⟩ ∈ sources.items := diagrams.subset (by simp)
    refine absurd ⟨start, inside, run.of_kept (kept_prepared kept book), failed, .refl _⟩
      (not_stops_of_treatable sound obliging steady (ready_prepared made)
        (fun other among => separate.fit named other (diagrams.subset among))
        (separate.independent.sublist diagrams) (treatable _ member))
  · rw [Action.exec_bind_of_ok finding] at tells
    have drawn : (book.drawAll sources.diagrams).exec
        { opened with files := (book.prepared world).files } = (.ok products, inside) := drawing
    unfold settle at tells
    rw [Action.exec_ofEffect, Action.exec_bind_of_ok making, Action.exec_bind_of_ok drawn] at tells
    cases tells with
    | same => exact ⟨_, finish, ran, rfl⟩
    | remarked told key value => exact ⟨_, finish, ran, rfl⟩

/-- The operation on a fragment is publishing it. -/
theorem renderManuscript_eq_ok {source : Path}
    (made : world.files.makeDirectories world.base book.targetDirectory =
      (.ok (), (book.prepared world).files))
    (file : source.NamesFile) (reads : book.repository.ReadOnly world.runner)
    (ran : (book.renderManuscript source none).exec world = (.ok outcome, after))
    (ok : outcome.ok = true) :
    World.Effect (book.prepared world) after [book.outputPlace world.base ⟨.fragment, source⟩] [] ∧
      after.files.timeAt (book.outputPlace world.base ⟨.fragment, source⟩) = some world.now := by
  obtain ⟨opened, told, inside, opening, acted, okTold, closed⟩ := acted_of_recorded ran ok
  have kept : World.Kept world { opened with missing := [] } :=
    ⟨opening.files, opening.now, opening.base, opening.runner, opening.asked⟩
  have forgets : Excerpt.forgetMissing.exec opened = (.ok (), { opened with missing := [] }) := rfl
  rw [Action.exec_bind_of_ok forgets] at acted
  obtain ⟨written, finish, published, done⟩ :=
    Action.exec_bind_eq_ok_iff.1 (settle_eq_ok acted okTold)
  obtain ⟨_, rfl⟩ := Prod.mk.inj done
  rw [← kept.files, ← kept.base] at made
  rw [← kept.runner] at reads
  obtain ⟨effect, stamped⟩ :=
    Press.effect_of_publish made file.isPart_name reads published
  rw [← kept.base, ← kept.now]
  refine ⟨(World.Effect.kept_trans (kept_prepared kept book) effect).trans_kept closed, ?_⟩
  rw [closed.files]
  exact stamped

/-- The operation on diagrams refreshes them. -/
theorem refreshed_of_drawDiagrams (sound : book.Sound world.runner)
    (punctual : world.runner.Punctual)
    (steady : book.repository.Steady world.runner (book.targetDirectory.placeFrom world.base))
    (ready : book.Ready (book.prepared world))
    (found : ((book.sourcesOr chosen).exec world).1 = .ok sources)
    (grounded : ∀ item ∈ sources.items, book.Grounded (book.prepared world) item)
    (ran : (book.drawDiagrams chosen).exec world = (.ok outcome, after)) (ok : outcome.ok = true) :
    book.Refreshed (sources.diagrams.map (Item.mk .diagram)) (book.prepared world) after := by
  obtain ⟨records, run, items⟩ := drawDiagrams_eq_ok found ran ok
  rw [← book.runner_prepared world] at sound punctual steady
  rw [← book.base_prepared world] at steady
  have groundedRun : ∀ record ∈ records, book.Grounded (book.prepared world) record.1 := by
    intro record member
    have among : record.1 ∈ sources.diagrams.map (Item.mk .diagram) :=
      items ▸ List.mem_map_of_mem member
    exact grounded record.1 (List.mem_append_left _ among)
  refine ⟨⟨_, run.stamps sound punctual ready groundedRun, fun place member => ?_⟩, ?_⟩
  · obtain ⟨record, recorded, touched⟩ := List.mem_flatMap.1 member
    rw [← items]
    exact List.mem_flatMap.2 ⟨record.1, List.mem_map_of_mem recorded,
      touches_subset _ _ _ _ touched⟩
  · rw [← items]
    intro item member
    obtain ⟨record, recorded, rfl⟩ := List.mem_map.1 member
    exact run.settles sound punctual steady ready groundedRun record recorded

/-- The operation on a fragment refreshes it. -/
theorem refreshed_of_renderManuscript {fragment : Path}
    (made : world.files.makeDirectories world.base book.targetDirectory =
      (.ok (), (book.prepared world).files))
    (reads : book.repository.ReadOnly world.runner)
    (grounded : book.Grounded (book.prepared world) ⟨.fragment, fragment⟩)
    (treatable : book.Treatable (book.prepared world) ⟨.fragment, fragment⟩)
    (ran : (book.renderManuscript fragment none).exec world = (.ok outcome, after))
    (ok : outcome.ok = true) :
    book.Refreshed [⟨.fragment, fragment⟩] (book.prepared world) after := by
  obtain ⟨effect, stamped⟩ := renderManuscript_eq_ok made grounded.named reads ran ok
  have now : (book.prepared world).now = world.now := world.kept_starting.now
  rw [← book.base_prepared world] at effect stamped
  rw [← now] at stamped
  have stamps : book.Stamps (book.prepared world) after
      [book.outputPlace (book.prepared world).base ⟨.fragment, fragment⟩] := by
    refine ⟨effect.resembles, ?_, ?_, Int.le_of_eq effect.now.symm⟩
    · intro place member
      rw [List.mem_singleton.1 member]
      exact ⟨_, outputPlace_eq grounded.named⟩
    · intro place member
      rw [List.mem_singleton.1 member]
      exact stamped
  refine ⟨⟨_, stamps, by simp [touches]⟩, fun item member => ?_⟩
  rw [List.mem_singleton.1 member]
  have base := stamps.resembles.base
  refine ⟨?_, ?_, ?_, rfl⟩
  · rw [← base]
    exact treatable.finds.of_agreesOn stamps.resembles.files (stamps.source_notMem grounded)
  · rw [← base]
    exact treatable.reaches.of_agreesOn stamps.resembles.files
  · rw [← base]
    exact stamps.current grounded List.mem_cons_self

end Operations

/-! ## What is left for a build -/

namespace Refreshed

variable {book : Book} {sources : Collection} {items : List Item} {before after : World}
  {item : Item}

/-- Items beside the refreshed ones are spared. -/
theorem spares (refreshed : book.Refreshed items before after) (among : items ⊆ sources.items)
    (separate : book.Separate sources before.base) (member : item ∈ sources.items)
    (beside : item ∉ items) : book.Spares item before after := by
  obtain ⟨touched, stamps, only⟩ := refreshed.stamps
  refine ⟨touched, stamps.resembles, fun place reached => ?_, fun reached => ?_,
    fun reached => ?_⟩
  · obtain ⟨name, rfl⟩ := stamps.inside place reached
    exact List.prefix_append _ _
  · obtain ⟨other, refreshes, own⟩ := List.mem_flatMap.1 (only reached)
    exact separate.apart item member other (among refreshes) own
  · obtain ⟨other, refreshes, own⟩ := List.mem_flatMap.1 (only reached)
    have different : other ≠ item := fun same => beside (same ▸ refreshes)
    exact (separate.independent.forall (among refreshes) member different).forward.output own

/-- What is refreshed is overdue no more, and everything else as it was. -/
theorem overdue_iff (refreshed : book.Refreshed items before after) (among : items ⊆ sources.items)
    (separate : book.Separate sources before.base) (member : item ∈ sources.items) :
    book.overdue after.files after.base item = true ↔
      book.overdue before.files before.base item = true ∧ item ∉ items := by
  by_cases covered : item ∈ items
  · have current : book.overdue after.files after.base item = false :=
      (refreshed.settled item covered).current
    simp [current, covered]
  · rw [(refreshed.spares among separate member covered).overdue_eq]
    simp [covered]

/-- Sources that could be treated before can be treated after a part of them was refreshed. -/
theorem treatable (refreshed : book.Refreshed items before after) (among : items ⊆ sources.items)
    (separate : book.Separate sources before.base)
    (named : ∀ item ∈ sources.items, item.path.NamesFile)
    (steady : book.repository.Steady before.runner (book.targetDirectory.placeFrom before.base))
    (ready : book.Ready before) (able : ∀ item ∈ sources.items, book.Treatable before item) :
    ∀ item ∈ sources.items, book.Treatable after item := by
  intro item member
  by_cases covered : item ∈ items
  · have settled := refreshed.settled item covered
    have current : book.overdue after.files after.base item = false := settled.current
    refine ⟨settled.finds, settled.reaches, ?_, settled.publishable, by simp [current]⟩
    obtain ⟨touched, stamps, _⟩ := refreshed.stamps
    rw [← stamps.resembles.base]
    exact fun there => (able item member).free
      ((stamps.resembles.files.directories _).2 there)
  · exact (able item member).of_spares (refreshed.spares among separate member covered)
      (named item member) steady ready

/-- A build at any time after a part of treatable sources was refreshed succeeds with obliging
tools, and reports what the files promise that the part has left. -/
theorem exists_build {anew : Option Collection} (refreshed : book.Refreshed items before after)
    (among : items ⊆ sources.items) (separate : book.Separate sources before.base)
    (named : ∀ item ∈ sources.items, item.path.NamesFile) (sound : book.Sound before.runner)
    (obliging : before.runner.Obliging)
    (steady : book.repository.Steady before.runner (book.targetDirectory.placeFrom before.base))
    (ready : book.Ready before)
    (plain : ∀ item ∈ sources.items, book.Plain before.base before.files item)
    (able : ∀ item ∈ sources.items, book.Treatable before item)
    (found : ((book.sourcesOr anew).exec after).1 = .ok sources) (later : Int) :
    ∃ outcome final, (book.build anew).exec { after with now := later } = (.ok outcome, final) ∧
      outcome.ok = true ∧ outcome.data = (book.plan after.files after.base sources).toData := by
  have treatable := refreshed.treatable among separate named steady ready able
  obtain ⟨touched, stamps, _⟩ := refreshed.stamps
  have resembles := stamps.resembles
  have plainAfter : ∀ item ∈ sources.items, book.Plain before.base after.files item :=
    fun item member =>
      ⟨fun there => (plain item member).source ((resembles.files.directories _).2 there),
        fun there => (plain item member).output ((resembles.files.directories _).2 there)⟩
  rw [resembles.runner] at sound obliging steady
  rw [resembles.base] at steady separate plainAfter
  -- The clock makes no difference to what the build finds.
  have waiting : World.Resembles [] after { after with now := later } := ⟨rfl, rfl, .refl _ _⟩
  have sameFiles : ({ after with now := later } : World).files = after.files := rfl
  have looking := (book.looks_sourcesOr anew).exec_eq sameFiles rfl found
  have readyAfter := ready.of_resembles resembles
  have treatableLater : ∀ item ∈ sources.items,
      book.Treatable { after with now := later } item := fun item member =>
    (treatable item member).of_spares (.of_resembles book item waiting) (named item member) steady
      readyAfter
  exact @exists_build_by_plan book sources { after with now := later } anew sound obliging steady
    (readyAfter.of_resembles waiting) (congrArg Prod.fst looking) named separate
    plainAfter treatableLater

end Refreshed

/-! ## Documents that are swallowed -/

/-- The decision that the report on a product tells. -/
def rebuiltFlag? : Value → Option Bool
  | .map fields =>
      match Entries.find? fields "rebuilt" with
      | some (.bool flag) => some flag
      | _ => none
  | _ => none

/-- The decisions on documents that the data of a build tell, in their order. -/
def rebuiltFlags (data : Entries) : List Bool :=
  match Entries.find? data "documents" with
  | some (.list products) => products.filterMap rebuiltFlag?
  | _ => []

theorem rebuiltFlags_plan (book : Book) (store : FileStore) (base : Place)
    (sources : Collection) :
    rebuiltFlags (book.plan store base sources).toData =
      sources.documents.map (book.documentDue store base sources) := by
  show List.filterMap rebuiltFlag? (List.map Product.toValue (List.map _ sources.documents)) = _
  rw [List.map_map, List.filterMap_map, ← List.filterMap_eq_map]
  rfl

/-- A document that would have been demanded by items which have been refreshed since, and by
nothing else. -/
structure Swallowed (book : Book) (sources : Collection) (items : List Item) (store : FileStore)
    (base : Place) (document : Path) : Prop where
  refreshed : ∃ item ∈ items, book.overdue store base item = true
  alone : ∀ item ∈ sources.items, item.kind ≠ .document → book.overdue store base item = true →
    item ∈ items
  current : book.overdue store base ⟨.document, document⟩ = false

theorem swallowed_limitedTo_iff {book : Book} {asked : Request → Bool} {sources : Collection}
    {items : List Item} {store : FileStore} {base : Place} {document : Path} :
    (book.limitedTo asked).Swallowed sources items store base document ↔
      book.Swallowed sources items store base document :=
  ⟨fun ⟨refreshed, alone, current⟩ => ⟨refreshed, alone, current⟩,
    fun ⟨refreshed, alone, current⟩ => ⟨refreshed, alone, current⟩⟩

/-- Where some items are overdue no more and all others as they were, the decision on a document is
another one exactly if the document is swallowed. -/
theorem documentDue_ne_iff {book : Book} {sources : Collection} {items : List Item}
    {store later : FileStore} {base : Place} {document : Path} (among : items ⊆ sources.items)
    (role : ∀ item ∈ items, item.kind ≠ .document)
    (overdue : ∀ item ∈ sources.items, book.overdue later base item = true ↔
      book.overdue store base item = true ∧ item ∉ items)
    (member : document ∈ sources.documents) :
    book.documentDue later base sources document ≠ book.documentDue store base sources document ↔
      book.Swallowed sources items store base document := by
  have own : ⟨.document, document⟩ ∉ items := fun covered => role _ covered rfl
  have same : book.overdue later base ⟨.document, document⟩ =
      book.overdue store base ⟨.document, document⟩ := by
    rw [Bool.eq_iff_iff, overdue _ (Collection.document_mem_items.2 member)]
    exact and_iff_left own
  rw [documentDue, documentDue, same]
  constructor
  · intro differs
    have current : book.overdue store base ⟨.document, document⟩ = false := by
      cases due : book.overdue store base ⟨.document, document⟩ with
      | false => rfl
      | true => simp [due] at differs
    have idle : book.demands later base sources = false := by
      cases demanded : book.demands later base sources with
      | false => rfl
      | true =>
          obtain ⟨item, also, kind, late⟩ := demands_eq_true_iff.1 demanded
          have before : book.demands store base sources = true :=
            demands_eq_true_iff.2 ⟨item, also, kind, ((overdue item also).1 late).1⟩
          simp [demanded, before] at differs
    have demanded : book.demands store base sources = true := by
      simpa [idle, current] using differs
    have alone : ∀ item ∈ sources.items, item.kind ≠ .document →
        book.overdue store base item = true → item ∈ items := by
      intro item also kind late
      by_contra beside
      have still := demands_eq_true_iff.2 ⟨item, also, kind, (overdue item also).2 ⟨late, beside⟩⟩
      exact Bool.false_ne_true (idle.symm.trans still)
    obtain ⟨item, also, kind, late⟩ := demands_eq_true_iff.1 demanded
    exact ⟨⟨item, alone item also kind late, late⟩, alone, current⟩
  · rintro ⟨⟨item, covered, late⟩, alone, current⟩
    have demanded : book.demands store base sources = true :=
      demands_eq_true_iff.2 ⟨item, among covered, role item covered, late⟩
    have idle : book.demands later base sources = false := by
      refine Bool.eq_false_iff.2 fun still => ?_
      obtain ⟨other, also, kind, stillLate⟩ := demands_eq_true_iff.1 still
      obtain ⟨before, beside⟩ := (overdue other also).1 stillLate
      exact beside (alone other also kind before)
    simp [demanded, idle, current]

section Theorem

/-- Making the target directory makes nothing overdue. -/
theorem overdue_prepared {book : Book} {world : World} {base : Place} {item : Item}
    (made : world.files.makeDirectories world.base book.targetDirectory =
      (.ok (), (book.prepared world).files))
    (plain : book.Plain base (book.prepared world).files item) :
    book.overdue (book.prepared world).files base item = book.overdue world.files base item := by
  simpa [isDue, overdue] using isDue_prepared made plain false

variable {book : Book} {chosen anew : Option Collection} {sources : Collection} {portion : Portion}
  {world after middle : World} {outcome told : Outcome}

/-- The operation on a part of a build refreshes it. That on diagrams cannot fail. -/
theorem refreshed_of_portion (sound : book.Sound world.runner) (punctual : world.runner.Punctual)
    (obliging : world.runner.Obliging)
    (steady : book.repository.Steady world.runner (book.targetDirectory.placeFrom world.base))
    (made : world.files.makeDirectories world.base book.targetDirectory =
      (.ok (), (book.prepared world).files))
    (found : ((book.sourcesOr chosen).exec world).1 = .ok sources)
    (separate : book.Separate sources world.base)
    (grounded : ∀ item ∈ sources.items, book.Grounded (book.prepared world) item)
    (treatable : ∀ item ∈ sources.items, book.Treatable (book.prepared world) item)
    (among : portion.items sources ⊆ sources.items)
    (ran : (book.perform (portion.operation chosen)).exec world = (.ok told, middle))
    (ok : ∀ path, portion = .fragment path → told.ok = true) :
    book.Refreshed (portion.items sources) (book.prepared world) middle := by
  cases portion with
  | diagrams =>
      obtain ⟨_, _, drawing, drawn⟩ := exists_drawDiagrams sound obliging steady made found
        (fun item member => (grounded item member).named) separate treatable
      obtain ⟨same, rfl⟩ := Prod.mk.inj (drawing.symm.trans ran)
      obtain rfl := Except.ok.inj same
      exact refreshed_of_drawDiagrams sound punctual steady (ready_prepared made) found grounded
        drawing drawn
  | fragment path =>
      have member : ⟨.fragment, path⟩ ∈ sources.items := among List.mem_cons_self
      exact refreshed_of_renderManuscript made sound.reads (grounded _ member) (treatable _ member)
        ran (ok path rfl)

/-- The case of a version control that is steady for all requests. -/
theorem portion_of_steady (later : Int) (sound : book.Sound world.runner)
    (punctual : world.runner.Punctual) (obliging : world.runner.Obliging)
    (steady : book.repository.Steady world.runner (book.targetDirectory.placeFrom world.base))
    (found : ((book.sourcesOr chosen).exec world).1 = .ok sources)
    (foundAgain : ((book.sourcesOr anew).exec middle).1 = .ok sources)
    (grounded : ∀ item ∈ sources.items, book.Grounded (book.prepared world) item)
    (separate : book.Separate sources world.base)
    (plain : ∀ item ∈ sources.items, book.Plain world.base (book.prepared world).files item)
    (among : portion.items sources ⊆ sources.items)
    (built : (book.build chosen).exec world = (.ok outcome, after)) (succeeded : outcome.ok = true)
    (ran : (book.perform (portion.operation chosen)).exec world = (.ok told, middle))
    (ok : ∀ path, portion = .fragment path → told.ok = true) :
    rebuiltFlags outcome.data =
        sources.documents.map (book.documentDue world.files world.base sources) ∧
      ∃ again final, (book.build anew).exec { middle with now := later } = (.ok again, final) ∧
        again.ok = true ∧
        rebuiltFlags again.data =
          sources.documents.map (book.documentDue middle.files world.base sources) ∧
        ∀ document ∈ sources.documents,
          (book.documentDue middle.files world.base sources document ≠
              book.documentDue world.files world.base sources document ↔
            book.Swallowed sources (portion.items sources) world.files world.base document) := by
  have named : ∀ item ∈ sources.items, item.path.NamesFile :=
    fun item member => (grounded item member).named
  have direct := (decisions_of_build sound found named separate plain built succeeded).1
  obtain ⟨made, treatable⟩ :=
    treatable_of_build sound steady found named separate plain built succeeded
  have refreshed := refreshed_of_portion sound punctual obliging steady made found separate grounded
    treatable among ran ok
  have base := book.base_prepared world
  have baseMiddle : middle.base = world.base :=
    refreshed.stamps.choose_spec.1.resembles.base.symm.trans base
  have plainHere := plain
  rw [← book.runner_prepared world] at sound obliging steady
  rw [← base] at steady separate plainHere
  obtain ⟨again, final, rebuilt, passes, data⟩ := refreshed.exists_build among separate named sound
    obliging steady (ready_prepared made) plainHere treatable foundAgain later
  have overdue : ∀ item ∈ sources.items, book.overdue middle.files world.base item = true ↔
      book.overdue world.files world.base item = true ∧ item ∉ portion.items sources := by
    intro item member
    have beside := refreshed.overdue_iff among separate member
    rw [baseMiddle, base, overdue_prepared made (plain item member)] at beside
    exact beside
  rw [baseMiddle] at data
  refine ⟨by rw [direct, rebuiltFlags_plan], again, final, rebuilt, passes, ?_, ?_⟩
  · rw [data, rebuiltFlags_plan]
  · intro document member
    exact documentDue_ne_iff among (fun item => Portion.kind_ne_document) overdue member

/-- Where a build succeeds, with tools that succeed wherever they can write, so does a build at any
time after the operation on a part of it, given that a fragment could be rendered which need not be
overdue. Both report the decisions that the files before them give, and these differ on a document
exactly if the part has swallowed it. Version control has to be steady for what the build and the
operation ask it. -/
theorem build_after_portion_iff {asked : Request → Bool} (later : Int)
    (sound : book.Sound world.runner) (punctual : world.runner.Punctual)
    (obliging : world.runner.Obliging)
    (steady : book.repository.SteadyFor asked world.runner
      (book.targetDirectory.placeFrom world.base))
    (asks : book.AsksOnly asked (·.build chosen) world)
    (asksPart : book.AsksOnly asked (·.perform (portion.operation chosen)) world)
    (found : ((book.sourcesOr chosen).exec world).1 = .ok sources)
    (foundAgain : ((book.sourcesOr anew).exec middle).1 = .ok sources)
    (grounded : ∀ item ∈ sources.items, book.Grounded (book.prepared world) item)
    (separate : book.Separate sources world.base)
    (plain : ∀ item ∈ sources.items, book.Plain world.base (book.prepared world).files item)
    (among : portion.items sources ⊆ sources.items)
    (built : (book.build chosen).exec world = (.ok outcome, after)) (succeeded : outcome.ok = true)
    (ran : (book.perform (portion.operation chosen)).exec world = (.ok told, middle))
    (ok : ∀ path, portion = .fragment path → told.ok = true) :
    rebuiltFlags outcome.data =
        sources.documents.map (book.documentDue world.files world.base sources) ∧
      ∃ again final, (book.build anew).exec { middle with now := later } = (.ok again, final) ∧
        again.ok = true ∧
        rebuiltFlags again.data =
          sources.documents.map (book.documentDue middle.files world.base sources) ∧
        ∀ document ∈ sources.documents,
          (book.documentDue middle.files world.base sources document ≠
              book.documentDue world.files world.base sources document ↔
            book.Swallowed sources (portion.items sources) world.files world.base document) := by
  obtain ⟨direct, again, final, rebuilt, passes, flags, decides⟩ :=
    portion_of_steady later (sound.limitedTo asked) punctual obliging steady.limitedTo found
      foundAgain (fun item member => (grounded item member).limitedTo asked)
      (separate.limitedTo asked) (fun item member => (plain item member).limitedTo asked) among
      (asks.trans built) succeeded (asksPart.trans ran) ok
  refine ⟨direct, again, final, (follows_build book anew).exec_eq rebuilt, passes, flags, ?_⟩
  intro document member
  exact (decides document member).trans swallowed_limitedTo_iff

end Theorem

/-! ## Two documents that are swallowed -/

def sampleFragment : Path :=
  .ofPlace ["tex", "b.tex"]

set_option maxRecDepth 4000 in
/-- Where the fragment alone is overdue, writing it first leaves the document as it is. -/
theorem build_after_portion_iff_sample :
    ∃ outcome after told middle again final,
      (sampleBook.build (some sampleSources)).exec writtenWorld = (.ok outcome, after) ∧
      outcome.ok = true ∧
      (sampleBook.perform ((Portion.fragment sampleFragment).operation (some sampleSources))).exec
        writtenWorld = (.ok told, middle) ∧ told.ok = true ∧
      (sampleBook.build (some sampleSources)).exec { middle with now := 5001 } =
        (.ok again, final) ∧ again.ok = true ∧
      ∀ document ∈ sampleSources.documents,
        sampleBook.documentDue middle.files [] sampleSources document ≠
          sampleBook.documentDue writtenWorld.files [] sampleSources document := by
  have found : ((sampleBook.sourcesOr (some sampleSources)).exec writtenWorld).1 =
      .ok sampleSources := rfl
  have grounded : ∀ item ∈ sampleSources.items,
      sampleBook.Grounded (sampleBook.prepared writtenWorld) item := by decide +kernel
  have separate : sampleBook.Separate sampleSources writtenWorld.base := by decide +kernel
  have plain : ∀ item ∈ sampleSources.items,
      sampleBook.Plain writtenWorld.base (sampleBook.prepared writtenWorld).files item := by
    decide +kernel
  have among : (Portion.fragment sampleFragment).items sampleSources ⊆ sampleSources.items := by
    decide
  have succeeds : okOf ((sampleBook.build (some sampleSources)).exec writtenWorld).1 =
      some true := by
    decide +kernel
  have passes : okOf ((sampleBook.perform ((Portion.fragment sampleFragment).operation
      (some sampleSources))).exec writtenWorld).1 = some true := by
    decide +kernel
  rcases built : (sampleBook.build (some sampleSources)).exec writtenWorld with ⟨answer, after⟩
  rw [built] at succeeds
  obtain ⟨outcome, rfl, ok⟩ := exists_of_okOf succeeds
  rcases ran : (sampleBook.perform ((Portion.fragment sampleFragment).operation
    (some sampleSources))).exec writtenWorld with ⟨other, middle⟩
  rw [ran] at passes
  obtain ⟨told, rfl, okTold⟩ := exists_of_okOf passes
  obtain ⟨_, again, final, rebuilt, okAgain, _, decides⟩ :=
    build_after_portion_iff 5001 (sound_sampleBook _) (Runner.punctual_scripted _)
      Runner.obliging_scripted ((Repository.steady_ofSnapshot _ _ _).steadyFor fun _ => true)
      (asksOnly_all _ _ _) (asksOnly_all _ _ _) found
      (show ((sampleBook.sourcesOr (some sampleSources)).exec middle).1 = .ok sampleSources
        from rfl)
      grounded separate plain among built ok ran fun _ _ => okTold
  refine ⟨outcome, after, told, middle, again, final, rfl, ok, rfl, okTold, rebuilt, okAgain, ?_⟩
  intro document member
  obtain rfl := List.mem_singleton.1 member
  refine (decides _ List.mem_cons_self).2 ⟨⟨_, List.mem_cons_self, ?_⟩, ?_, ?_⟩
  · decide +kernel
  · decide +kernel
  · decide +kernel

set_option maxRecDepth 4000 in
/-- Where the diagram alone is overdue, a build typesets the document again. After the operation on
diagrams it does not. -/
theorem document_swallowed_sample :
    sampleBook.Sound drawnWorld.runner ∧ drawnWorld.runner.Punctual ∧
      drawnWorld.runner.Obliging ∧
      ∃ outcome after drawn middle again final,
        (sampleBook.build (some sampleSources)).exec drawnWorld = (.ok outcome, after) ∧
        rebuiltFlags outcome.data = [true] ∧
        (sampleBook.drawDiagrams (some sampleSources)).exec drawnWorld = (.ok drawn, middle) ∧
        drawn.ok = true ∧
        (sampleBook.build (some sampleSources)).exec middle = (.ok again, final) ∧
        rebuiltFlags again.data = [false] := by
  refine ⟨sound_sampleBook _, Runner.punctual_scripted _, Runner.obliging_scripted, ?_⟩
  have direct : ((sampleBook.build (some sampleSources)).exec drawnWorld).1.toOption.map
      (fun outcome => rebuiltFlags outcome.data) = some [true] := by decide +kernel
  have draws : okOf ((sampleBook.drawDiagrams (some sampleSources)).exec drawnWorld).1 =
      some true := by
    decide +kernel
  have behind : ((sampleBook.build (some sampleSources)).exec
      ((sampleBook.drawDiagrams (some sampleSources)).exec drawnWorld).2).1.toOption.map
        (fun outcome => rebuiltFlags outcome.data) = some [false] := by decide +kernel
  rcases built : (sampleBook.build (some sampleSources)).exec drawnWorld with ⟨first, after⟩
  rcases drew : (sampleBook.drawDiagrams (some sampleSources)).exec drawnWorld with ⟨answer, middle⟩
  rw [drew] at draws behind
  rcases rebuilt : (sampleBook.build (some sampleSources)).exec middle with ⟨second, final⟩
  rw [built] at direct
  rw [rebuilt] at behind
  obtain ⟨drawn, rfl, ok⟩ := exists_of_okOf draws
  obtain ⟨outcome, told, flags⟩ := Option.map_eq_some_iff.1 direct
  obtain ⟨again, toldAgain, flagsAgain⟩ := Option.map_eq_some_iff.1 behind
  obtain rfl := eq_ok_of_toOption told
  obtain rfl := eq_ok_of_toOption toldAgain
  exact ⟨outcome, after, drawn, middle, again, final, rfl, flags, rfl, ok, rebuilt, flagsAgain⟩

end Book

end Bindery
