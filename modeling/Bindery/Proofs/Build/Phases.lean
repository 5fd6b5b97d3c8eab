import Bindery.Proofs.Build.Treatment

/-!
Contract: a build as a run of treatments.

Owns:
- that sources treated one after another have what their treatments have in common;
- `Runs`, treatments one after another, between which only notes are taken. One run goes through
  all three phases, since only documents look at the verdict;
- that each phase of a build is a run, which ends with the phase or stops at its first fault;
- `buildSources_ends`, the three ends of a build: the target directory cannot be made, an item
  fails, or all items are treated;
- `buildSources_passes`, the phases that are entered on the way to each end, as anything sees them
  to which each phase adds itself;
- how an operation reports what its build came to.

Does not own: what holds along a run (`Bindery.Proofs.Build.Plan` and the modules beside it).
-/

namespace Bindery

open Source

namespace World

def entering (world : World) (name : String) : World :=
  if world.recording.recordsChildren then
    { world with recording := world.recording.push name false }
  else world

theorem kept_entering (world : World) (name : String) : Kept world (world.entering name) := by
  unfold entering
  split
  · exact .of_noted rfl rfl rfl rfl rfl
  · exact .refl world

end World

/-- Sources treated one after another have a property when each of their treatments has it. -/
theorem Action.Composes.treatAll {Holds : ∀ {α : Type}, Action α → Prop}
    (composes : Action.Composes Holds) {output : Path → Path} {treat : Path → Action Bool}
    {sources : List Path} (treats : ∀ source ∈ sources, Holds (treat source)) :
    Holds (Book.treatAll output treat sources) := by
  induction sources with
  | nil => exact composes.pure _
  | cons source rest inductionHypothesis =>
      refine composes.bind (treats source List.mem_cons_self) fun rebuilt => ?_
      have onward := inductionHypothesis fun other member =>
        treats other (List.mem_cons_of_mem source member)
      exact composes.bind onward fun _ => composes.pure _

namespace Book

/-! ## Runs -/

/-- A treatment that succeeded: the item, and whether its product was made. -/
abbrev Record := Item × Bool

/-- Treatments one after another, all of which succeed. -/
inductive Runs (book : Book) (demanded : Bool) : World → List Record → World → Prop where
  | done {before after : World} (kept : World.Kept before after) :
      Runs book demanded before [] after
  | step {before start middle after : World} {item : Item} {made : Bool} {rest : List Record}
      (kept : World.Kept before start)
      (treated : (book.treat demanded item).exec start = (.ok made, middle))
      (onward : Runs book demanded middle rest after) :
      Runs book demanded before ((item, made) :: rest) after

/-- A step of a run has done what its treatment does. -/
theorem treated_of_step {book : Book} {demanded made : Bool} {item : Item}
    {before start after : World} (kept : World.Kept before start) (sound : book.Sound before.runner)
    (ready : book.Ready before) (fit : book.Fit before.base item)
    (ran : (book.treat demanded item).exec start = (.ok made, after)) :
    book.Treated demanded item made before after := by
  have treated := treat_eq_ok (kept.runner ▸ sound) (ready.of_resembles (kept.resembles []))
    (kept.base ▸ fit) ran
  refine ⟨?_, ?_, ?_, ?_, ?_⟩
  · rw [← kept.files, ← kept.base]
    exact treated.due
  · rw [← kept.base]
    exact World.Effect.kept_trans kept treated.effect
  · rw [← kept.files, ← kept.base]
    exact treated.finds
  · rw [← kept.files, ← kept.base]
    exact treated.reaches
  · rw [← kept.runner, ← kept.base, ← kept.now]
    exact treated.stamped

namespace Runs

variable {book : Book} {demanded : Bool} {before middle after : World} {records more : List Record}

theorem of_kept (kept : World.Kept before middle) (run : book.Runs demanded middle records after) :
    book.Runs demanded before records after := by
  cases run with
  | done later => exact .done (kept.trans later)
  | step later treated onward => exact .step (kept.trans later) treated onward

theorem append (first : book.Runs demanded before records middle)
    (second : book.Runs demanded middle more after) :
    book.Runs demanded before (records ++ more) after := by
  induction first with
  | done kept => exact second.of_kept kept
  | step kept treated _ inductionHypothesis =>
      exact .step kept treated (inductionHypothesis second)

theorem trans_kept (run : book.Runs demanded before records middle)
    (kept : World.Kept middle after) : book.Runs demanded before records after := by
  simpa using run.append (.done kept)

/-- A run goes through its beginning, and on from where that ends. -/
theorem of_append {front back : List Record}
    (run : book.Runs demanded before (front ++ back) after) :
    ∃ middle, book.Runs demanded before front middle ∧ book.Runs demanded middle back after := by
  induction front generalizing before with
  | nil => exact ⟨before, .done (.refl before), run⟩
  | cons record rest inductionHypothesis =>
      cases run with
      | step kept treated onward =>
          obtain ⟨middle, first, second⟩ := inductionHypothesis onward
          exact ⟨middle, .step kept treated first, second⟩

/-- The part of a run in which no document is treated does not depend on the demand. -/
theorem of_not_document (run : book.Runs demanded before records after)
    (undemanding : ∀ record ∈ records, record.1.kind ≠ .document) (other : Bool) :
    book.Runs other before records after := by
  induction run with
  | done kept => exact .done kept
  | step kept treated _ inductionHypothesis =>
      rw [book.treat_of_not_document (undemanding _ List.mem_cons_self) _ other] at treated
      exact .step kept treated (inductionHypothesis fun record member =>
        undemanding record (List.mem_cons_of_mem _ member))

end Runs

/-! ## What a run does -/

def touchedBy (book : Book) (base : Place) (records : List Record) : List Place :=
  records.flatMap fun record => book.touches base record.1 record.2

def toolsOf (book : Book) (base : Place) (records : List Record) : List Command :=
  records.flatMap fun record => if record.2 then book.tools base record.1 else []

/-- A run does what its treatments do, and stamps all that it touches. -/
theorem Runs.effect {book : Book} {demanded : Bool} {before after : World}
    {records : List Record} (run : book.Runs demanded before records after)
    (sound : book.Sound before.runner) (ready : book.Ready before)
    (fit : ∀ record ∈ records, book.Fit before.base record.1) :
    World.Effect before after (book.touchedBy before.base records)
        (book.toolsOf before.base records) ∧
      (before.runner.Punctual → ∀ place ∈ book.touchedBy before.base records,
        after.files.timeAt place = some before.now) := by
  induction run with
  | done kept => exact ⟨by simpa [touchedBy, toolsOf] using kept.effect, by simp [touchedBy]⟩
  | @step before start middle after item made rest kept treated onward inductionHypothesis =>
      have treatment := treated_of_step kept sound ready (fit _ List.mem_cons_self) treated
      have effect := treatment.effect
      obtain ⟨later, stampedLater⟩ := inductionHypothesis (effect.runner ▸ sound)
        (ready.of_resembles effect.resembles)
        (effect.base ▸ fun record member => fit record (List.mem_cons_of_mem _ member))
      rw [effect.base] at later
      rw [effect.base, effect.runner, effect.now] at stampedLater
      refine ⟨effect.trans later, fun punctual place member => ?_⟩
      rcases List.mem_append.1 member with early | late
      · by_cases again : place ∈ book.touchedBy before.base rest
        · exact stampedLater punctual place again
        · rw [FileStore.timeAt, ← later.files.nodes place again]
          exact treatment.stamped punctual place early
      · exact stampedLater punctual place late

/-- Treatments one after another, until that of an item fails. -/
def Stops (book : Book) (demanded : Bool) (before : World) (records : List Record) (item : Item)
    (fault : Fault) (after : World) : Prop :=
  ∃ start stopped, book.Runs demanded before records start ∧
    (book.treat demanded item).exec start = (.error fault, stopped) ∧ World.Kept stopped after

/-- What a report says of a treatment. -/
def product (book : Book) (record : Record) : Product :=
  ⟨record.1.path, book.output record.1, record.2⟩

/-- Whether a diagram or a fragment was made again, so that every document has to follow. -/
def refreshes (records : List Record) : Bool :=
  records.any fun record => record.1.kind ≠ .document && record.2

/-- What a report says of the treatments of one kind. -/
def productsOf (book : Book) (kind : Kind) (records : List Record) : List Product :=
  (records.filter fun record => record.1.kind = kind).map book.product

def reportOn (book : Book) (records : List Record) : BuildReport :=
  ⟨book.targetDirectory, refreshes records, book.productsOf .diagram records,
    book.productsOf .fragment records, book.productsOf .document records⟩

/-! ## Phases -/

def treatKind (book : Book) (demanded : Bool) (kind : Kind) (paths : List Path) :
    Action (List Product) :=
  treatAll (fun path => book.output ⟨kind, path⟩) (fun path => book.treat demanded ⟨kind, path⟩)
    paths

/-- Treating sources is treating the first one and then the others. -/
theorem treatAll_cons_eq_ok_iff {output : Path → Path} {treat : Path → Action Bool} {path : Path}
    {rest : List Path} {products : List Product} {world after : World} :
    (treatAll output treat (path :: rest)).exec world = (.ok products, after) ↔
      ∃ rebuilt others middle, (treat path).exec world = (.ok rebuilt, middle) ∧
        (treatAll output treat rest).exec middle = (.ok others, after) ∧
        products = ⟨path, output path, rebuilt⟩ :: others := by
  constructor
  · intro ran
    obtain ⟨rebuilt, middle, treated, onward⟩ := Action.exec_bind_eq_ok_iff.1 ran
    obtain ⟨others, finish, treatedRest, done⟩ := Action.exec_bind_eq_ok_iff.1 onward
    obtain ⟨same, rfl⟩ := Prod.mk.inj done
    exact ⟨rebuilt, others, middle, treated, treatedRest, (Except.ok.inj same).symm⟩
  · rintro ⟨rebuilt, others, middle, treated, treatedRest, rfl⟩
    exact (Action.exec_bind_of_ok treated _).trans (Action.exec_bind_of_ok treatedRest _)

/-- The treatments of the sources of one kind that succeed, up to the first that fails. -/
def treatments (book : Book) (demanded : Bool) (kind : Kind) : List Path → World → List Record
  | [], _ => []
  | path :: rest, world =>
      match (book.treat demanded ⟨kind, path⟩).exec world with
      | (.ok made, after) => (⟨kind, path⟩, made) :: book.treatments demanded kind rest after
      | (.error _, _) => []

section Phases

variable {book : Book} {demanded : Bool} {kind : Kind} {paths : List Path} {world after : World}

theorem runs_of_treatKind {products : List Product}
    (ran : (book.treatKind demanded kind paths).exec world = (.ok products, after)) :
    book.Runs demanded world (book.treatments demanded kind paths world) after ∧
      (book.treatments demanded kind paths world).map Prod.fst = paths.map (Item.mk kind) ∧
      products = (book.treatments demanded kind paths world).map book.product := by
  induction paths generalizing world products with
  | nil =>
      obtain ⟨same, rfl⟩ := Prod.mk.inj ran
      exact ⟨.done (.refl _), rfl, (Except.ok.inj same).symm⟩
  | cons path rest inductionHypothesis =>
      obtain ⟨made, others, middle, treated, treatedRest, rfl⟩ := treatAll_cons_eq_ok_iff.1 ran
      obtain ⟨run, items, rfl⟩ := inductionHypothesis treatedRest
      simp only [treatments, treated]
      exact ⟨.step (.refl world) treated run, by simp [items], rfl⟩

/-- A phase that fails has stopped at the first item that failed. -/
theorem stops_of_treatKind {fault : Fault}
    (ran : (book.treatKind demanded kind paths).exec world = (.error fault, after)) :
    ∃ path rest start,
      book.Runs demanded world (book.treatments demanded kind paths world) start ∧
      paths.map (Item.mk kind) =
        (book.treatments demanded kind paths world).map Prod.fst ++ ⟨kind, path⟩ :: rest ∧
      (book.treat demanded ⟨kind, path⟩).exec start = (.error fault, after) := by
  induction paths generalizing world with
  | nil => simp [treatKind, treatAll] at ran
  | cons path rest inductionHypothesis =>
      rcases Action.exec_bind_eq_error_iff.1 ran with failed | ⟨made, middle, treated, onward⟩
      · simp only [treatments, failed]
        exact ⟨path, rest.map (Item.mk kind), world, .done (.refl _), by simp, failed⟩
      · rcases Action.exec_bind_eq_error_iff.1 onward with stopped | ⟨_, _, _, done⟩
        · obtain ⟨last, others, start, run, items, failed⟩ := inductionHypothesis stopped
          simp only [treatments, treated]
          exact ⟨last, others, start, .step (.refl world) treated run, by simp [items], failed⟩
        · simp at done

/-- A phase is its action, with notes before and after it. -/
theorem exec_phase {α : Type} (name : String) (action : Bool → Action α) (world : World) :
    ∃ recorded closed, World.Kept ((action recorded).exec (world.entering name)).2 closed ∧
      (Action.phase name action).exec world =
        (((action recorded).exec (world.entering name)).1, closed) := by
  unfold Action.phase World.entering
  rw [Action.exec_ofEffect]
  split
  · rw [Action.exec_bind, Action.within, Action.exec_ofEffect]
    dsimp only
    refine ⟨true, ?_⟩
    rcases (action true).exec { world with recording := world.recording.push name false }
      with ⟨answer, inside⟩
    refine ⟨{ inside with recording := inside.recording.pop.2 },
      .of_noted rfl rfl rfl rfl rfl, ?_⟩
    cases answer <;> rfl
  · exact ⟨false, _, .refl _, rfl⟩

/-- A recorded phase is its treatments, with notes before and after them. -/
theorem exec_treatPhase (name : String) (output : Path → Path) (treat : Path → Action Bool)
    (sources : List Path) (world : World) :
    ∃ closed,
      World.Kept ((treatAll output treat sources).exec (world.entering name)).2 closed ∧
      (treatPhase name output treat sources).exec world =
        (((treatAll output treat sources).exec (world.entering name)).1, closed) := by
  obtain ⟨recorded, closed, kept, ran⟩ := exec_phase name (fun recorded => do
    let products ← treatAll output treat sources
    if recorded then
      .annotate "rebuilt" (.int (Product.rebuiltCount products))
    return products) world
  refine ⟨closed, ?_, ran.trans ?_⟩
  · refine World.Kept.trans ?_ kept
    rw [Action.exec_bind]
    rcases (treatAll output treat sources).exec (world.entering name)
      with ⟨fault | products, inside⟩
    · exact .refl _
    · cases recorded with
      | true => exact .of_noted rfl rfl rfl rfl rfl
      | false => exact .refl _
  · rw [Action.exec_bind]
    rcases (treatAll output treat sources).exec (world.entering name)
      with ⟨fault | products, inside⟩
    · rfl
    · cases recorded <;> rfl

/-- A phase of one kind runs to its end or stops at an item. -/
theorem phase_cases {name : String} {answer : Except Fault (List Product)}
    {records : List Record}
    (treats : book.treatments demanded kind paths (world.entering name) = records)
    (ran : (treatPhase name (fun path => book.output ⟨kind, path⟩)
      (fun path => book.treat demanded ⟨kind, path⟩) paths).exec world = (answer, after)) :
    (answer = .ok (records.map book.product) ∧ book.Runs demanded world records after ∧
      records.map Prod.fst = paths.map (Item.mk kind)) ∨
    ∃ path rest fault, answer = .error fault ∧
      book.Stops demanded world records ⟨kind, path⟩ fault after ∧
      paths.map (Item.mk kind) = records.map Prod.fst ++ ⟨kind, path⟩ :: rest := by
  subst treats
  obtain ⟨closed, closing, phase⟩ := exec_treatPhase name (fun path => book.output ⟨kind, path⟩)
    (fun path => book.treat demanded ⟨kind, path⟩) paths world
  obtain ⟨rfl, rfl⟩ := Prod.mk.inj (phase.symm.trans ran)
  have opening := world.kept_entering name
  rcases treated : (book.treatKind demanded kind paths).exec (world.entering name)
    with ⟨fault | products, inside⟩
  · right
    obtain ⟨path, rest, start, run, items, failed⟩ := stops_of_treatKind treated
    rw [treatKind] at treated
    rw [treated] at closing ⊢
    exact ⟨path, rest, fault, rfl, ⟨start, inside, run.of_kept opening, failed, closing⟩, items⟩
  · left
    obtain ⟨run, items, rfl⟩ := runs_of_treatKind treated
    rw [treatKind] at treated
    rw [treated] at closing ⊢
    exact ⟨rfl, (run.of_kept opening).trans_kept closing, items⟩

end Phases

/-! ## The phases of a build -/

section Records

variable {kind other : Kind} {records : List Record}

/-- Treatments of one kind. -/
def OfKind (kind : Kind) (records : List Record) : Prop :=
  ∀ record ∈ records, record.1.kind = kind

theorem ofKind_of_subset {paths : List Path}
    (among : records.map Prod.fst ⊆ paths.map (Item.mk kind)) : OfKind kind records := by
  intro record member
  obtain ⟨path, _, same⟩ := List.mem_map.1 (among (List.mem_map_of_mem member))
  rw [← same]

theorem ofKind_of_eq {paths : List Path}
    (items : records.map Prod.fst = paths.map (Item.mk kind)) : OfKind kind records := by
  have among : records.map Prod.fst ⊆ paths.map (Item.mk kind) := by simp [items]
  exact ofKind_of_subset among

theorem OfKind.productsOf_same (same : OfKind kind records) (book : Book) :
    book.productsOf kind records = records.map book.product := by
  rw [productsOf, List.filter_eq_self.2]
  exact fun record member => decide_eq_true (same record member)

theorem OfKind.productsOf_other (same : OfKind kind records) (book : Book)
    (different : kind ≠ other) : book.productsOf other records = [] := by
  rw [productsOf, List.filter_eq_nil_iff.2]
  · rfl
  · intro record member
    simpa [same record member] using different

theorem OfKind.refreshes_eq (same : OfKind kind records) (book : Book)
    (role : kind ≠ .document) :
    refreshes records = (records.map book.product).any (·.rebuilt) := by
  rw [refreshes, List.any_map, Bool.eq_iff_iff, List.any_eq_true, List.any_eq_true]
  refine exists_congr fun record => and_congr_right fun member => ?_
  simp [same record member, role, product]

theorem OfKind.refreshes_documents (same : OfKind .document records) :
    refreshes records = false := by
  rw [refreshes, List.any_eq_false]
  intro record member
  simp [same record member]

@[simp]
theorem refreshes_append (front back : List Record) :
    refreshes (front ++ back) = (refreshes front || refreshes back) :=
  List.any_append

@[simp]
theorem productsOf_append (book : Book) (kind : Kind) (front back : List Record) :
    book.productsOf kind (front ++ back) =
      book.productsOf kind front ++ book.productsOf kind back := by
  simp [productsOf]

end Records

def verdictNote (demanded : Bool) : Event :=
  ⟨.debug, logger, "build.verdict", [("needs_rebuild", .bool demanded)]⟩

/-- The treatments in a build of sources that succeed, in their order. -/
def deeds (book : Book) (sources : Collection) (world : World) : List Record :=
  match (Action.makeDirectories book.targetDirectory).exec world with
  | (.error _, _) => []
  | (.ok _, ready) =>
      let diagrams := book.treatments false .diagram sources.diagrams (ready.entering "diagrams")
      match (treatPhase "diagrams" (fun path => book.output ⟨.diagram, path⟩)
        (fun path => book.treat false ⟨.diagram, path⟩) sources.diagrams).exec ready with
      | (.error _, _) => diagrams
      | (.ok _, drawn) =>
          let fragments :=
            book.treatments false .fragment sources.fragments (drawn.entering "fragments")
          match (treatPhase "fragments" (fun path => book.output ⟨.fragment, path⟩)
            (fun path => book.treat false ⟨.fragment, path⟩) sources.fragments).exec drawn with
          | (.error _, _) => diagrams ++ fragments
          | (.ok _, written) =>
              let demanded := refreshes (diagrams ++ fragments)
              diagrams ++ fragments ++ book.treatments demanded .document sources.documents
                ((written.logged (verdictNote demanded)).entering "documents")

/-- How a build of sources can end, with the treatments that succeeded in it. -/
inductive Ends (book : Book) (sources : Collection) (world : World) :
    List Record → Except Fault BuildReport → World → Prop where
  | unprepared {fault : Fault} {files : FileStore}
      (refused : world.files.makeDirectories world.base book.targetDirectory =
        (.error fault, files)) :
      Ends book sources world [] (.error fault) { world with files := files }
  | stopped {demanded : Bool} {files : FileStore} {records : List Record} {item : Item}
      {rest : List Item} {fault : Fault} {after : World}
      (prepared : world.files.makeDirectories world.base book.targetDirectory = (.ok (), files))
      (stops : book.Stops demanded { world with files := files } records item fault after)
      (items : sources.items = records.map Prod.fst ++ item :: rest)
      (verdict : item.kind = .document → demanded = refreshes records) :
      Ends book sources world records (.error fault) after
  | complete {files : FileStore} {records : List Record} {after : World}
      (prepared : world.files.makeDirectories world.base book.targetDirectory = (.ok (), files))
      (run : book.Runs (refreshes records) { world with files := files } records after)
      (items : records.map Prod.fst = sources.items) :
      Ends book sources world records (.ok (book.reportOn records)) after

def phaseName : Kind → String
  | .diagram => "diagrams"
  | .fragment => "fragments"
  | .document => "documents"

/-- The recorded treatment of the sources of one kind. -/
def phase (book : Book) (demanded : Bool) (kind : Kind) (paths : List Path) :
    Action (List Product) :=
  treatPhase (phaseName kind) (fun path => book.output ⟨kind, path⟩)
    (fun path => book.treat demanded ⟨kind, path⟩) paths

/-- A phase that was entered: its kind, and how many products were made in it, if it has ended. -/
abbrev Passage := Kind × Option Nat

/-- The phases that a build enters when these of its treatments succeed, and it stops in a phase if
it does. -/
def course (book : Book) (records : List Record) (stopped : Option Kind) : List Passage :=
  let ended := fun kind : Kind =>
    (kind, some (Product.rebuiltCount (book.productsOf kind records)))
  match stopped with
  | some .diagram => [(.diagram, none)]
  | some .fragment => [ended .diagram, (.fragment, none)]
  | some .document => [ended .diagram, ended .fragment, (.document, none)]
  | none => [ended .diagram, ended .fragment, ended .document]

/-- How a build of sources can end, with the phases that it has entered. -/
inductive Passes (book : Book) (sources : Collection) (world : World) :
    List Record → Except Fault BuildReport → World → List Passage → Prop where
  | unprepared {fault : Fault} {files : FileStore}
      (refused : world.files.makeDirectories world.base book.targetDirectory =
        (.error fault, files)) :
      Passes book sources world [] (.error fault) { world with files := files } []
  | stopped {demanded : Bool} {files : FileStore} {records : List Record} {item : Item}
      {rest : List Item} {fault : Fault} {after : World}
      (prepared : world.files.makeDirectories world.base book.targetDirectory = (.ok (), files))
      (stops : book.Stops demanded { world with files := files } records item fault after)
      (items : sources.items = records.map Prod.fst ++ item :: rest)
      (verdict : item.kind = .document → demanded = refreshes records) :
      Passes book sources world records (.error fault) after (book.course records (some item.kind))
  | complete {files : FileStore} {records : List Record} {after : World}
      (prepared : world.files.makeDirectories world.base book.targetDirectory = (.ok (), files))
      (run : book.Runs (refreshes records) { world with files := files } records after)
      (items : records.map Prod.fst = sources.items) :
      Passes book sources world records (.ok (book.reportOn records)) after
        (book.course records none)

/-- Something that is seen of a build from its start, to which each phase adds itself. -/
structure Watches (book : Book) (start : World) (Seen : List Passage → World → Prop) : Prop where
  opened : ∀ files : FileStore, Seen [] { start with files := files }
  logged : ∀ {passages : List Passage} {world : World} (event : Event), Seen passages world →
    Seen passages (world.logged event)
  passed : ∀ {passages : List Passage} {world after : World} {demanded : Bool} {kind : Kind}
    {paths : List Path} {answer : Except Fault (List Product)}, Seen passages world →
    (book.phase demanded kind paths).exec world = (answer, after) →
    Seen (passages ++ [(kind, answer.toOption.map Product.rebuiltCount)]) after

section Ending

variable {book : Book} {sources : Collection} {world after : World}

/-- A build treats its items from the first one on. -/
theorem Ends.front {answer : Except Fault BuildReport} {records : List Record}
    (ends : book.Ends sources world records answer after) :
    ∃ rest, sources.items = records.map Prod.fst ++ rest := by
  cases ends with
  | unprepared refused => exact ⟨_, rfl⟩
  | stopped prepared stops items verdict => exact ⟨_, items⟩
  | complete prepared run items => exact ⟨[], by simp [items]⟩

/-- Where the target directory is there, a build goes through its items or stops at one. -/
theorem Ends.cases_of_ready {answer : Except Fault BuildReport} {records : List Record}
    (ends : book.Ends sources world records answer after) (ready : book.Ready world) :
    (∃ demanded item rest fault, answer = .error fault ∧
      book.Stops demanded world records item fault after ∧
      sources.items = records.map Prod.fst ++ item :: rest ∧
      (item.kind = .document → demanded = refreshes records)) ∨
    (answer = .ok (book.reportOn records) ∧
      book.Runs (refreshes records) world records after ∧
      records.map Prod.fst = sources.items) := by
  have there := FileStore.makeDirectories_of_isDirectory ready
  cases ends with
  | unprepared refused =>
      rw [there] at refused
      simp at refused
  | @stopped demanded files _ item rest fault _ made stops items verdict =>
      obtain rfl : world.files = files := (Prod.mk.inj (there.symm.trans made)).2
      exact .inl ⟨demanded, item, rest, fault, rfl, stops, items, verdict⟩
  | @complete files _ _ made run items =>
      obtain rfl : world.files = files := (Prod.mk.inj (there.symm.trans made)).2
      exact .inr ⟨rfl, run, items⟩

theorem Passes.ends {answer : Except Fault BuildReport} {records : List Record}
    {passages : List Passage} (passes : book.Passes sources world records answer after passages) :
    book.Ends sources world records answer after := by
  cases passes with
  | unprepared refused => exact .unprepared refused
  | stopped prepared stops items verdict => exact .stopped prepared stops items verdict
  | complete prepared run items => exact .complete prepared run items

/-- A phase that stops, behind treatments that succeeded, ends the build. -/
theorem passes_of_stops {demanded : Bool} {files : FileStore} {middle : World}
    {front records : List Record} {kind : Kind} {path : Path} {paths : List Path}
    {rest later : List Item} {fault : Fault}
    (prepared : world.files.makeDirectories world.base book.targetDirectory = (.ok (), files))
    (run : book.Runs demanded { world with files := files } front middle)
    (stops : book.Stops demanded middle records ⟨kind, path⟩ fault after)
    (whole : sources.items = front.map Prod.fst ++ (paths.map (Item.mk kind) ++ later))
    (items : paths.map (Item.mk kind) = records.map Prod.fst ++ ⟨kind, path⟩ :: rest)
    (verdict : kind = .document → demanded = refreshes (front ++ records)) :
    book.Passes sources world (front ++ records) (.error fault) after
      (book.course (front ++ records) (some kind)) := by
  obtain ⟨start, stopped, onward, failed, kept⟩ := stops
  have split : sources.items =
      (front ++ records).map Prod.fst ++ ⟨kind, path⟩ :: (rest ++ later) := by
    rw [whole, items]
    simp
  exact .stopped prepared ⟨start, stopped, run.append onward, failed, kept⟩ split verdict

theorem verdict_eq_refreshes {diagrams fragments : List Record}
    (drawn : OfKind .diagram diagrams) (written : OfKind .fragment fragments) :
    verdict (diagrams.map book.product) (fragments.map book.product) =
      refreshes (diagrams ++ fragments) := by
  rw [verdict, List.any_append, refreshes_append, drawn.refreshes_eq book (by simp),
    written.refreshes_eq book (by simp)]

theorem reportOn_eq {diagrams fragments documents : List Record}
    (drawn : OfKind .diagram diagrams) (written : OfKind .fragment fragments)
    (typeset : OfKind .document documents) :
    book.reportOn (diagrams ++ fragments ++ documents) =
      ⟨book.targetDirectory, refreshes (diagrams ++ fragments), diagrams.map book.product,
        fragments.map book.product, documents.map book.product⟩ := by
  simp [reportOn, typeset.refreshes_documents, drawn.productsOf_same, drawn.productsOf_other,
    written.productsOf_same, written.productsOf_other, typeset.productsOf_same,
    typeset.productsOf_other]

theorem course_fragment {diagrams fragments : List Record} (drawn : OfKind .diagram diagrams)
    (written : OfKind .fragment fragments) :
    book.course (diagrams ++ fragments) (some .fragment) =
      [(.diagram, some (Product.rebuiltCount (diagrams.map book.product))), (.fragment, none)] := by
  simp [course, drawn.productsOf_same, written.productsOf_other]

theorem course_document {diagrams fragments documents : List Record}
    (drawn : OfKind .diagram diagrams) (written : OfKind .fragment fragments)
    (typeset : OfKind .document documents) :
    book.course (diagrams ++ fragments ++ documents) (some .document) =
      [(.diagram, some (Product.rebuiltCount (diagrams.map book.product))),
        (.fragment, some (Product.rebuiltCount (fragments.map book.product))),
        (.document, none)] := by
  simp [course, drawn.productsOf_same, drawn.productsOf_other, written.productsOf_same,
    written.productsOf_other, typeset.productsOf_other]

theorem course_complete {diagrams fragments documents : List Record}
    (drawn : OfKind .diagram diagrams) (written : OfKind .fragment fragments)
    (typeset : OfKind .document documents) :
    book.course (diagrams ++ fragments ++ documents) none =
      [(.diagram, some (Product.rebuiltCount (diagrams.map book.product))),
        (.fragment, some (Product.rebuiltCount (fragments.map book.product))),
        (.document, some (Product.rebuiltCount (documents.map book.product)))] := by
  simp [course, drawn.productsOf_same, drawn.productsOf_other, written.productsOf_same,
    written.productsOf_other, typeset.productsOf_same, typeset.productsOf_other]

theorem eq_map_of_rule {records : List Record} {rule : Item → Bool}
    (decided : ∀ record ∈ records, record.2 = rule record.1) :
    records = (records.map Prod.fst).map fun item => (item, rule item) := by
  rw [List.map_map]
  refine (List.map_id records).symm.trans (List.map_congr_left fun record member => ?_)
  exact Prod.ext rfl (decided record member)

theorem refreshes_map (sources : Collection) (flag : Item → Bool) :
    refreshes (sources.diagrams.map (fun path => (⟨.diagram, path⟩, flag ⟨.diagram, path⟩)) ++
      sources.fragments.map fun path => (⟨.fragment, path⟩, flag ⟨.fragment, path⟩)) =
        (sources.diagrams.any (fun path => flag ⟨.diagram, path⟩) ||
          sources.fragments.any fun path => flag ⟨.fragment, path⟩) := by
  simp [refreshes, List.any_map, Function.comp_def]

theorem reportOn_map (book : Book) (sources : Collection) (flag : Item → Bool) :
    book.reportOn (sources.items.map fun item => (item, flag item)) =
      { target := book.targetDirectory
        demanded := sources.diagrams.any (fun path => flag ⟨.diagram, path⟩) ||
          sources.fragments.any fun path => flag ⟨.fragment, path⟩
        diagrams := sources.diagrams.map fun path =>
          ⟨path, book.output ⟨.diagram, path⟩, flag ⟨.diagram, path⟩⟩
        fragments := sources.fragments.map fun path =>
          ⟨path, book.output ⟨.fragment, path⟩, flag ⟨.fragment, path⟩⟩
        documents := sources.documents.map fun path =>
          ⟨path, book.output ⟨.document, path⟩, flag ⟨.document, path⟩⟩ } := by
  have ofKind : ∀ (kind : Kind) (paths : List Path),
      OfKind kind (paths.map fun path => (⟨kind, path⟩, flag ⟨kind, path⟩)) := by
    intro kind paths record member
    obtain ⟨path, _, rfl⟩ := List.mem_map.1 member
    rfl
  have split : (sources.items.map fun item => (item, flag item)) =
      sources.diagrams.map (fun path => (⟨.diagram, path⟩, flag ⟨.diagram, path⟩)) ++
        sources.fragments.map (fun path => (⟨.fragment, path⟩, flag ⟨.fragment, path⟩)) ++
        sources.documents.map fun path => (⟨.document, path⟩, flag ⟨.document, path⟩) := by
    simp [Collection.items, Function.comp_def]
  rw [split, reportOn_eq (ofKind _ _) (ofKind _ _) (ofKind _ _), refreshes_map]
  simp [product]

/-- Where diagrams and fragments have been treated, a build ends with its documents, or stops at one
of them. -/
theorem passes_of_documents {files : FileStore} {middle : World}
    {diagrams fragments documents : List Record} {answer : Except Fault (List Product)}
    (prepared : world.files.makeDirectories world.base book.targetDirectory = (.ok (), files))
    (run : book.Runs (refreshes (diagrams ++ fragments)) { world with files := files }
      (diagrams ++ fragments) middle)
    (itemsDiagrams : diagrams.map Prod.fst = sources.diagrams.map (Item.mk .diagram))
    (itemsFragments : fragments.map Prod.fst = sources.fragments.map (Item.mk .fragment))
    (treats : book.treatments (refreshes (diagrams ++ fragments)) .document sources.documents
      (middle.entering "documents") = documents)
    (typesetting : (treatPhase "documents" (fun path => book.output ⟨.document, path⟩)
      (fun path => book.treat (refreshes (diagrams ++ fragments)) ⟨.document, path⟩)
        sources.documents).exec middle = (answer, after)) :
    book.Passes sources world (diagrams ++ fragments ++ documents)
      (answer.map fun products => ⟨book.targetDirectory, refreshes (diagrams ++ fragments),
        diagrams.map book.product, fragments.map book.product, products⟩) after
      [(.diagram, some (Product.rebuiltCount (diagrams.map book.product))),
        (.fragment, some (Product.rebuiltCount (fragments.map book.product))),
        (.document, answer.toOption.map Product.rebuiltCount)] := by
  have drawn : OfKind .diagram diagrams := ofKind_of_eq itemsDiagrams
  have written : OfKind .fragment fragments := ofKind_of_eq itemsFragments
  have whole : sources.items = (diagrams ++ fragments).map Prod.fst ++
      (sources.documents.map (Item.mk .document) ++ []) := by
    rw [List.map_append, itemsDiagrams, itemsFragments, List.append_assoc, List.append_nil]
    rfl
  have undemanding {documents : List Record} (typeset : OfKind .document documents) :
      refreshes (diagrams ++ fragments ++ documents) = refreshes (diagrams ++ fragments) := by
    rw [refreshes_append _ documents, typeset.refreshes_documents, Bool.or_false]
  rcases phase_cases treats typesetting with ⟨rfl, runDocuments, itemsDocuments⟩ |
    ⟨path, rest, fault, rfl, stops, items⟩
  · have typeset : OfKind .document documents := ofKind_of_eq itemsDocuments
    show book.Passes sources world _ (.ok ⟨_, _, _, _, documents.map book.product⟩) after
      [_, _, (.document, some _)]
    rw [← reportOn_eq drawn written typeset, ← course_complete drawn written typeset]
    refine .complete prepared ?_ ?_
    · rw [undemanding typeset]
      exact run.append runDocuments
    · rw [List.map_append, itemsDocuments, whole, List.append_nil]
  · have among : documents.map Prod.fst ⊆ sources.documents.map (Item.mk .document) := by
      rw [items]
      exact List.subset_append_left _ _
    have typeset := ofKind_of_subset among
    show book.Passes sources world _ (.error _) after [_, _, (.document, none)]
    rw [← course_document drawn written typeset]
    exact passes_of_stops prepared run stops whole items fun _ => (undemanding typeset).symm

/-- A build goes through its phases, each of which is seen, up to the first that stops. -/
theorem buildSources_passes {answer : Except Fault BuildReport}
    {Seen : List Passage → World → Prop} (watches : book.Watches world Seen)
    (ran : (book.buildSources sources).exec world = (answer, after)) :
    ∃ passages, book.Passes sources world (book.deeds sources world) answer after passages ∧
      Seen passages after := by
  unfold buildSources at ran
  unfold deeds
  rcases prepared : world.files.makeDirectories world.base book.targetDirectory
    with ⟨fault | _, files⟩
  · have making : (Action.makeDirectories book.targetDirectory).exec world =
        (.error fault, { world with files := files }) := by
      simp [Action.makeDirectories, prepared]
    obtain ⟨rfl, rfl⟩ := Prod.mk.inj ((Action.exec_bind_of_error making _).symm.trans ran)
    rw [making]
    exact ⟨[], .unprepared prepared, watches.opened files⟩
  have making : (Action.makeDirectories book.targetDirectory).exec world =
      (.ok (), { world with files := files }) := by
    simp [Action.makeDirectories, prepared]
  replace ran := (Action.exec_bind_of_ok making _).symm.trans ran
  rw [making]
  dsimp only
  rcases drawing : (treatPhase "diagrams" (fun path => book.output ⟨.diagram, path⟩)
    (fun path => book.treat false ⟨.diagram, path⟩) sources.diagrams).exec
      { world with files := files } with ⟨drawn, afterDiagrams⟩
  have seenDiagrams := watches.passed (watches.opened files) drawing
  generalize treatsDiagrams : book.treatments false .diagram sources.diagrams
    (({ world with files := files } : World).entering "diagrams") = diagrams
  rcases phase_cases treatsDiagrams drawing with ⟨rfl, runDiagrams, itemsDiagrams⟩ |
    ⟨path, rest, fault, rfl, stops, items⟩
  swap
  · obtain ⟨rfl, rfl⟩ := Prod.mk.inj ((Action.exec_bind_of_error drawing _).symm.trans ran)
    exact ⟨_, passes_of_stops prepared (.done (.refl _)) stops rfl items (by simp), seenDiagrams⟩
  replace ran := (Action.exec_bind_of_ok drawing _).symm.trans ran
  dsimp only
  rcases refreshing : (treatPhase "fragments" (fun path => book.output ⟨.fragment, path⟩)
    (fun path => book.treat false ⟨.fragment, path⟩) sources.fragments).exec afterDiagrams
      with ⟨refreshed, afterFragments⟩
  have seenFragments := watches.passed seenDiagrams refreshing
  generalize treatsFragments : book.treatments false .fragment sources.fragments
    (afterDiagrams.entering "fragments") = fragments
  rcases phase_cases treatsFragments refreshing with ⟨rfl, runFragments, itemsFragments⟩ |
    ⟨path, rest, fault, rfl, stops, items⟩
  swap
  · obtain ⟨rfl, rfl⟩ := Prod.mk.inj ((Action.exec_bind_of_error refreshing _).symm.trans ran)
    have whole : sources.items = diagrams.map Prod.fst ++
        (sources.fragments.map (Item.mk .fragment) ++
          sources.documents.map (Item.mk .document)) := by
      rw [itemsDiagrams]
      rfl
    have among : fragments.map Prod.fst ⊆ sources.fragments.map (Item.mk .fragment) := by
      rw [items]
      exact List.subset_append_left _ _
    refine ⟨_, passes_of_stops prepared runDiagrams stops whole items (by simp), ?_⟩
    rw [course_fragment (ofKind_of_eq itemsDiagrams) (ofKind_of_subset among)]
    exact seenFragments
  replace ran := (Action.exec_bind_of_ok refreshing _).symm.trans ran
  dsimp only
  -- Only now the demand is known, and the run so far does not depend on it.
  have drawn : OfKind .diagram diagrams := ofKind_of_eq itemsDiagrams
  have written : OfKind .fragment fragments := ofKind_of_eq itemsFragments
  have undemanding : ∀ record ∈ diagrams ++ fragments, record.1.kind ≠ .document := by
    intro record member
    rcases List.mem_append.1 member with early | late
    · simp [drawn record early]
    · simp [written record late]
  rw [verdict_eq_refreshes drawn written] at ran
  replace ran := (Action.exec_bind_of_ok (Action.exec_log ..) _).symm.trans ran
  have runBoth := ((runDiagrams.append runFragments).of_not_document undemanding
    (refreshes (diagrams ++ fragments))).trans_kept
      (afterFragments.kept_logged (verdictNote (refreshes (diagrams ++ fragments))))
  rcases typesetting : (treatPhase "documents" (fun path => book.output ⟨.document, path⟩)
    (fun path => book.treat (refreshes (diagrams ++ fragments)) ⟨.document, path⟩)
      sources.documents).exec
        (afterFragments.logged (verdictNote (refreshes (diagrams ++ fragments))))
    with ⟨typeset, afterAll⟩
  have passes := passes_of_documents prepared runBoth itemsDiagrams itemsFragments rfl typesetting
  have seenDocuments := watches.passed (watches.logged _ seenFragments) typesetting
  cases typeset with
  | ok products =>
      obtain ⟨rfl, rfl⟩ := Prod.mk.inj ((Action.exec_bind_of_ok typesetting _).symm.trans ran)
      exact ⟨_, passes, seenDocuments⟩
  | error fault =>
      obtain ⟨rfl, rfl⟩ := Prod.mk.inj ((Action.exec_bind_of_error typesetting _).symm.trans ran)
      exact ⟨_, passes, seenDocuments⟩

theorem buildSources_ends {answer : Except Fault BuildReport}
    (ran : (book.buildSources sources).exec world = (answer, after)) :
    book.Ends sources world (book.deeds sources world) answer after := by
  have watches : book.Watches world fun _ _ => True :=
    ⟨fun _ => trivial, fun _ _ => trivial, fun _ _ => trivial⟩
  obtain ⟨_, passes, _⟩ := buildSources_passes watches ran
  exact passes.ends

end Ending

end Book

end Bindery
