import Bindery.Proofs.Build.Operation
import Bindery.Proofs.World.Recording

/-!
Contract: that the timings of a build mirror its run.

Owns:
- `Action.LeavesRecording`, the actions that neither open nor close phases nor add notes to them.
  The treatments of a build are such;
- `Recording.Inside`, a recording inside an open phase with some closed children, and that each
  phase of a build closes as one more child: with the count of what was made in it if all of it
  succeeded, and without a note if not;
- the theorem that the tree that is added to the outcome of a build has these children and no
  others, for each of the three ends of a build.

Does not own: which phases a build enters (`Bindery.Proofs.Build.Phases`), and the times of phases
(`Bindery.Proofs.Phase.Nesting`).
-/

namespace Bindery

open Source

/-! ## Actions that leave the recording alone -/

namespace Action

variable {α β : Type}

/-- An action that leaves the recording of phases as it is. -/
def LeavesRecording (action : Action α) : Prop :=
  ∀ world : World, (action.exec world).2.recording = world.recording

theorem leavesRecording_bind {action : Action α} {next : α → Action β}
    (first : action.LeavesRecording) (rest : ∀ value, (next value).LeavesRecording) :
    (action >>= next).LeavesRecording := by
  intro world
  have start := first world
  rcases ran : action.exec world with ⟨fault | value, middle⟩
  · rw [ran] at start
    rwa [exec_bind_of_error ran]
  · rw [ran] at start
    rw [exec_bind_of_ok ran]
    exact (rest value middle).trans start

theorem composes_leavesRecording : Composes LeavesRecording where
  pure _ _ := rfl
  fail _ _ := rfl
  log _ _ _ _ _ := rfl
  bind := leavesRecording_bind

theorem leavesRecording_run (command : Command) : (run command).LeavesRecording := fun _ => rfl

theorem leavesRecording_makeDirectories (path : Path) :
    (makeDirectories path).LeavesRecording := fun _ => rfl

theorem leavesRecording_writeFile (path : Path) (content : List UInt8) :
    (writeFile path content).LeavesRecording := by
  intro world
  rw [writeFile, exec_ofEffect]
  split
  · rfl
  · rfl

theorem Looks.leavesRecording {action : Action α} (looks : Looks action) :
    action.LeavesRecording := by
  obtain ⟨reading, reads⟩ := looks
  intro world
  rw [reads]

end Action

theorem inherited_leavesRecording : Inherited Action.LeavesRecording :=
  Action.composes_leavesRecording.inherited (fun _ _ => rfl) fun _ _ => rfl

namespace Repository

/-- A version control that leaves the recording alone. -/
def Untimed (repository : Repository) : Prop :=
  repository.All Action.LeavesRecording

theorem untimed_ofSnapshot (snapshot : Snapshot) : (ofSnapshot snapshot).Untimed :=
  Action.composes_leavesRecording.ofSnapshot snapshot

theorem untimed_git (root : Path) : (Repository.git root).Untimed :=
  Action.composes_leavesRecording.git (Action.leavesRecording_run _)
    (fun _ => Action.leavesRecording_run _)
    (fun path => (Source.looks_isFile path).leavesRecording)
    (fun path => (Action.looks_readText path).leavesRecording)

end Repository

theorem Press.leavesRecording_publish {press : Press} (untimed : press.repository.Untimed)
    (source : Path) (name : String) : (press.publish source name).LeavesRecording := by
  have composes := Action.composes_leavesRecording
  refine composes.bind (Action.looks_readText source).leavesRecording fun text => ?_
  refine composes.bind (inherited_leavesRecording.render untimed text) fun rendered => ?_
  have writes : ∀ path text, (Action.writeText path text).LeavesRecording := fun path text =>
    composes.bind (Action.leavesRecording_makeDirectories _) fun _ =>
      composes.bind (Action.leavesRecording_writeFile _ _) fun _ => composes.pure _
  refine composes.bind (writes _ _) fun written => ?_
  exact composes.bind (composes.log _ _ _ _) fun _ => composes.pure _

namespace Book

/-- No treatment opens phases of its own. -/
theorem leavesRecording_treat {book : Book} (untimed : book.repository.Untimed) (demanded : Bool)
    (item : Item) : (book.treat demanded item).LeavesRecording := by
  have composes := Action.composes_leavesRecording
  obtain ⟨kind, path⟩ := item
  cases kind with
  | diagram =>
      refine composes.bind Action.looks_workingDirectory.leavesRecording fun here => ?_
      exact composes.whenDue (Action.looks_isStaleFor _ _).leavesRecording
        (composes.runTool (Action.leavesRecording_run _))
  | fragment =>
      refine composes.whenDue (Action.looks_isStaleFor _ _).leavesRecording ?_
      exact composes.bind (Press.leavesRecording_publish untimed _ _) fun _ => composes.pure _
  | document =>
      refine composes.bind (Press.leavesRecording_publish untimed _ _) fun manuscript => ?_
      cases demanded with
      | true =>
          exact composes.whenDue (composes.pure true)
            (composes.runTool (Action.leavesRecording_run _))
      | false =>
          exact composes.whenDue (Action.looks_isStaleFor _ _).leavesRecording
            (composes.runTool (Action.leavesRecording_run _))

end Book

/-! ## Phases inside a phase -/

/-- A recording that is on, inside an open phase with some closed children. -/
structure Recording.Inside (outer : OpenPhase) (around : List OpenPhase) (children : List Phase)
    (recording : Recording) : Prop where
  enabled : recording.enabled = true
  active : recording.active = { outer with children := children } :: around

namespace Recording.Inside

variable {outer inner : OpenPhase} {around : List OpenPhase} {children : List Phase}

theorem recordsChildren {recording : Recording} (inside : recording.Inside outer around children) :
    recording.recordsChildren = true := by
  simp [Recording.recordsChildren, inside.enabled, inside.active]

/-- A child that is closed is the last one. -/
theorem pop {recording : Recording} (enabled : recording.enabled = true)
    (active : recording.active = inner :: { outer with children := children } :: around)
    (child : inner.isRoot = false) :
    recording.pop.2.Inside outer around
      (children ++ [inner.toPhase (some recording.reading)]) := by
  unfold Recording.pop
  rw [active]
  exact ⟨enabled, by simp [child, Recording.adopt]⟩

/-- A phase that is opened inside another one does its action there, and is closed after it. -/
theorem exec_phase {α : Type} {name : String} {action : Bool → Action α} {world middle : World}
    {answer : Except Fault α} (inside : world.recording.Inside outer around children)
    (ran : (action true).exec { world with recording := world.recording.push name false } =
      (answer, middle)) :
    (Action.phase name action).exec world =
      (answer, { middle with recording := middle.recording.pop.2 }) := by
  unfold Action.phase
  rw [Action.exec_ofEffect, if_pos inside.recordsChildren, Action.exec_bind, Action.exec_within]
  simp only [ran]
  cases answer <;> rfl

end Recording.Inside

namespace Book

/-- A closed phase of a build, with the count of what was made in it if it has ended. -/
def Shows (passage : Passage) (phase : Phase) : Prop :=
  ∃ started finished, phase = .mk (phaseName passage.1) started (some finished)
    (match passage.2 with
      | some count => [("rebuilt", .int count)]
      | none => []) []

section Phases

variable {outer : OpenPhase} {around : List OpenPhase} {children : List Phase}

/-- A phase of a build closes as one more child, also when it stops. -/
theorem inside_treatPhase {kind : Kind} {output : Path → Path} {treat : Path → Action Bool}
    {paths : List Path} {world after : World} {answer : Except Fault (List Product)}
    (leaves : ∀ path, (treat path).LeavesRecording)
    (inside : world.recording.Inside outer around children)
    (ran : (treatPhase (phaseName kind) output treat paths).exec world = (answer, after)) :
    ∃ phase, Shows (kind, answer.toOption.map Product.rebuiltCount) phase ∧
      after.recording.Inside outer around (children ++ [phase]) := by
  set opened : World := { world with recording := world.recording.push (phaseName kind) false }
    with opening
  have kept : ((treatAll output treat paths).exec opened).2.recording = opened.recording :=
    Action.composes_leavesRecording.treatAll (fun path _ => leaves path) opened
  have enabled : opened.recording.enabled = true := inside.enabled
  have active : opened.recording.active =
      ⟨phaseName kind, world.recording.reading, false, [], []⟩ ::
        { outer with children := children } :: around := by
    simp [opening, Recording.push, inside.active]
  unfold treatPhase at ran
  rcases treated : (treatAll output treat paths).exec opened with ⟨fault | products, middle⟩
  · rw [treated] at kept
    rw [inside.exec_phase (Action.exec_bind_of_error treated _)] at ran
    obtain ⟨rfl, rfl⟩ := Prod.mk.inj ran
    refine ⟨_, ?_, .pop (kept ▸ enabled) (kept ▸ active) rfl⟩
    exact ⟨_, _, rfl⟩
  · rw [treated] at kept
    let count : Value := .int (Product.rebuiltCount products)
    have noted : (Action.annotate "rebuilt" count >>= fun _ =>
        (pure products : Action (List Product))).exec middle =
      (.ok products, { middle with recording := middle.recording.annotate "rebuilt" count }) := rfl
    rw [inside.exec_phase ((Action.exec_bind_of_ok treated _).trans noted)] at ran
    obtain ⟨rfl, rfl⟩ := Prod.mk.inj ran
    have counted : (middle.recording.annotate "rebuilt" count).active =
        ⟨phaseName kind, world.recording.reading, false, [("rebuilt", count)], []⟩ ::
          { outer with children := children } :: around := by
      rw [kept, Recording.annotate, active]
      rfl
    have on : (middle.recording.annotate "rebuilt" count).enabled = true := by
      rw [kept, Recording.annotate, active]
      exact enabled
    exact ⟨_, ⟨_, _, rfl⟩, .pop on counted rfl⟩

/-- The children of the phase around a build are the phases that have passed. -/
def Mirrored (outer : OpenPhase) (around : List OpenPhase) (passages : List Passage)
    (world : World) : Prop :=
  ∃ children, List.Forall₂ Shows passages children ∧
    world.recording.Inside outer around children

theorem watches_mirrored {book : Book} {world : World} (untimed : book.repository.Untimed)
    (inside : world.recording.Inside outer around []) :
    book.Watches world (Mirrored outer around) where
  opened _ := ⟨[], .nil, inside⟩
  logged _ := id
  passed := by
    rintro passages before after demanded kind paths answer ⟨children, told, inside⟩ ran
    obtain ⟨phase, shows, onward⟩ := inside_treatPhase
      (fun path => leavesRecording_treat untimed demanded ⟨kind, path⟩) inside ran
    exact ⟨children ++ [phase], List.rel_append told (.cons shows .nil), onward⟩

end Phases

/-! ## The tree of an operation -/

/-- An operation that is recorded tells the tree of the phase that was opened for it. -/
theorem recorded_tree {name : String} {operation : Action Outcome} {world after : World}
    {outcome : Outcome} (enabled : world.recording.enabled = true)
    (ran : (recorded name operation).exec world = (.ok outcome, after)) :
    ∃ plain inside, operation.exec (world.opening name) = (.ok plain, inside) ∧
      World.Kept inside after ∧
      ∀ outer around, inside.recording.active = outer :: around →
        outcome = plain.remark "telemetry"
          (outer.toPhase (some inside.recording.reading)).toValue := by
  have opening : world.opening name =
      { world with recording := world.recording.push name true } := if_pos enabled
  unfold recorded at ran
  rw [Action.exec_ofEffect, if_pos enabled, Action.exec_bind, Action.exec_within, ← opening] at ran
  dsimp only at ran
  rcases operated : operation.exec (world.opening name) with ⟨fault | plain, inside⟩
  · rw [operated] at ran
    simp [Except.map] at ran
  · have closing : World.Kept inside { inside with recording := inside.recording.pop.2 } :=
      .of_noted rfl rfl rfl rfl rfl
    rw [operated] at ran
    simp only [Except.map] at ran
    refine ⟨plain, inside, rfl, ?_⟩
    cases active : inside.recording.active with
    | nil =>
        simp only [Recording.pop, active] at ran
        obtain ⟨_, rfl⟩ := Prod.mk.inj ran
        exact ⟨.refl _, by simp⟩
    | cons outer around =>
        simp only [Recording.pop, active] at ran closing
        obtain ⟨same, rfl⟩ := Prod.mk.inj ran
        refine ⟨closing.trans (World.kept_logged _ _), ?_⟩
        rintro _ _ ⟨rfl, rfl⟩
        exact (Except.ok.inj same).symm

/-- Settling and reporting leave the recording alone, and add no remarks. -/
theorem recording_settle {book : Book} {sources : Collection} {start inside done : World}
    {answer : Except Fault BuildReport} {plain : Outcome}
    (building : (book.buildSources sources).exec start = (answer, done))
    (ran : (settle "build" noteFailure (do
      let report ← book.buildSources sources
      return .success "build" report.toData (← warnings))).exec start = (.ok plain, inside)) :
    inside.recording = done.recording ∧ plain.remarks = none := by
  unfold settle at ran
  rw [Action.exec_ofEffect, Action.exec_bind, building] at ran
  cases answer with
  | ok report =>
      obtain ⟨same, rfl⟩ := Prod.mk.inj ran
      obtain rfl := Except.ok.inj same
      exact ⟨rfl, rfl⟩
  | error fault =>
      cases reporting : reported? fault with
      | none => simp [reporting] at ran
      | some failure =>
          simp only [reporting] at ran
          obtain ⟨same, rfl⟩ := Prod.mk.inj ran
          obtain rfl := Except.ok.inj same
          exact ⟨rfl, rfl⟩

/-- Whether an entry of an outcome's data says that a product was made. -/
def saysRebuilt : Value → Bool
  | .map entries =>
      match Entries.find? entries "rebuilt" with
      | some (.bool rebuilt) => rebuilt
      | _ => false
  | _ => false

/-- How many entries in a list of an outcome's data say that a product was made. -/
def rebuiltIn (data : Entries) (key : String) : Nat :=
  match Entries.find? data key with
  | some (.list entries) => entries.countP saysRebuilt
  | _ => 0

theorem countP_saysRebuilt (products : List Product) :
    (products.map Product.toValue).countP saysRebuilt = Product.rebuiltCount products := by
  rw [List.countP_map]
  rfl

theorem rebuiltIn_toData (book : Book) (records : List Record) (kind : Kind) :
    rebuiltIn (book.reportOn records).toData (phaseName kind) =
      Product.rebuiltCount (book.productsOf kind records) := by
  cases kind with
  | diagram => exact countP_saysRebuilt _
  | fragment => exact countP_saysRebuilt _
  | document => exact countP_saysRebuilt _

theorem map_name_of_shows {passages : List Passage} {children : List Phase}
    (shows : List.Forall₂ Shows passages children) :
    children.map Phase.name = passages.map fun passage => phaseName passage.1 := by
  induction shows with
  | nil => rfl
  | cons first _ inductionHypothesis =>
      obtain ⟨started, finished, rfl⟩ := first
      simp [inductionHypothesis, Phase.name]

/-- A build that stops has entered the phases up to that of the item at which it stopped. -/
theorem isPrefix_course (book : Book) (records : List Record) (stopped : Option Kind) :
    (book.course records stopped).map (fun passage => phaseName passage.1) <+:
      ["diagrams", "fragments", "documents"] := by
  rcases stopped with _ | kind
  · exact List.prefix_rfl
  · cases kind <;> simp [course, phaseName]

theorem remarks_remark {outcome : Outcome} (unremarked : outcome.remarks = none) (key : String)
    (value : Value) : (outcome.remark key value).remarks = some [(key, value)] := by
  simp [Outcome.remark, unremarked, Entries.set]

section Build

variable {book : Book} {chosen : Option Collection} {world after : World} {outcome : Outcome}

/-- A recorded build tells the tree of the phases that it has passed. -/
theorem build_passes (untimed : book.repository.Untimed)
    (enabled : world.recording.enabled = true)
    (ran : (book.build chosen).exec world = (.ok outcome, after)) :
    ∃ (tree : Phase) (sources : Collection) (passages : List Passage)
      (answer : Except Fault BuildReport) (done : World),
      outcome.remarks = some [("telemetry", tree.toValue)] ∧ tree.name = "BuildService.build" ∧
      tree.notes = [] ∧ ((book.sourcesOr chosen).exec world).1 = .ok sources ∧
      List.Forall₂ Shows passages tree.children ∧
      book.Passes sources world.starting (book.deeds sources world.starting) answer done passages ∧
      Concludes answer (.ok outcome) ∧ World.Kept done after := by
  obtain ⟨plain, inside, operated, keptAfter, told⟩ := recorded_tree enabled ran
  have opened := world.kept_opening "BuildService.build"
  obtain ⟨sources, middle, finding, onward⟩ := Action.exec_bind_eq_ok_iff.1 operated
  have found := (book.looks_sourcesOr chosen).exec_eq opened.files.symm opened.base.symm
    (congrArg Prod.fst finding)
  have again := (book.looks_sourcesOr chosen).exec_eq rfl rfl (congrArg Prod.fst finding)
  obtain rfl : world.opening "BuildService.build" = middle :=
    (Prod.mk.inj (again.symm.trans finding)).2
  have forgetting : Excerpt.forgetMissing.exec (world.opening "BuildService.build") =
      (.ok (), world.starting) := rfl
  replace onward := (Action.exec_bind_of_ok forgetting _).symm.trans onward
  rcases building : (book.buildSources sources).exec world.starting with ⟨answer, done⟩
  obtain ⟨sameRecording, unremarked⟩ := recording_settle building onward
  obtain ⟨_, _, settling, keptDone, concludes⟩ := exec_settle book sources world.starting
  obtain ⟨rfl, rfl⟩ := Prod.mk.inj (onward.symm.trans settling)
  rw [building] at keptDone concludes
  have starting : world.starting.recording = world.recording.push "BuildService.build" true := by
    rw [World.starting, World.opening, if_pos enabled]
  let root : OpenPhase := ⟨"BuildService.build", world.recording.reading, true, [], []⟩
  have initial : world.starting.recording.Inside root world.recording.active [] := by
    rw [starting]
    exact ⟨enabled, rfl⟩
  obtain ⟨passages, passes, children, shows, insideDone⟩ :=
    buildSources_passes (watches_mirrored untimed initial) building
  obtain rfl := told _ _ (sameRecording ▸ insideDone.active)
  let whole : OpenPhase := { root with children := children }
  refine ⟨whole.toPhase (some inside.recording.reading), sources, passages, answer, done, ?_, rfl,
    rfl, congrArg Prod.fst found, shows, passes, ?_, keptDone.trans keptAfter⟩
  · exact remarks_remark unremarked _ _
  · cases concludes with
    | success ok data => exact .success ok data
    | failure reported failed => exact .failure reported failed

/-- The children of a recorded build mirror how it went. They are the three phases in their order,
up to the one in which it stopped: each phase that ended notes how many products were made in it,
and the one that stopped notes nothing. -/
theorem build_mirrored (untimed : book.repository.Untimed)
    (enabled : world.recording.enabled = true)
    (ran : (book.build chosen).exec world = (.ok outcome, after)) :
    ∃ (tree : Phase) (sources : Collection) (records : List Record),
      outcome.remarks = some [("telemetry", tree.toValue)] ∧ tree.name = "BuildService.build" ∧
      ((book.sourcesOr chosen).exec world).1 = .ok sources ∧
      tree.children.map Phase.name <+: ["diagrams", "fragments", "documents"] ∧
      ((outcome.ok = true ∧ records.map Prod.fst = sources.items ∧
          outcome.data = (book.reportOn records).toData ∧
          List.Forall₂ Shows ([Kind.diagram, .fragment, .document].map fun kind =>
            (kind, some (rebuiltIn outcome.data (phaseName kind)))) tree.children) ∨
        (outcome.ok = false ∧ tree.children = [] ∧ ∃ fault files,
          world.files.makeDirectories world.base book.targetDirectory = (.error fault, files)) ∨
        (outcome.ok = false ∧ ∃ demanded item rest fault,
          book.Stops demanded (book.prepared world) records item fault after ∧
          sources.items = records.map Prod.fst ++ item :: rest ∧
          (item.kind = .document → demanded = refreshes records) ∧
          List.Forall₂ Shows (book.course records (some item.kind)) tree.children)) := by
  obtain ⟨tree, sources, passages, answer, done, remarked, named, _, found, shows, passes,
    concludes, kept⟩ := build_passes untimed enabled ran
  have started := world.kept_starting
  have names := map_name_of_shows shows
  generalize book.deeds sources world.starting = records at passes
  refine ⟨tree, sources, records, remarked, named, found, ?_⟩
  rw [names]
  cases passes with
  | unprepared refused =>
      rw [started.files, started.base] at refused
      cases concludes with
      | failure _ failed =>
          cases childless : tree.children with
          | nil => exact ⟨List.nil_prefix, .inr (.inl ⟨failed, rfl, _, _, refused⟩)⟩
          | cons first others =>
              rw [childless] at shows
              contradiction
  | @stopped demanded files _ item rest fault _ made stops items verdict =>
      refine ⟨isPrefix_course _ _ _, .inr (.inr ?_)⟩
      rw [started.files, started.base] at made
      obtain ⟨start, stopped, run, failing, keptStopped⟩ := stops
      cases concludes with
      | failure _ failed =>
          refine ⟨failed, demanded, item, rest, fault, ?_, items, verdict, shows⟩
          simp only [prepared, made]
          exact ⟨start, stopped, run, failing, keptStopped.trans kept⟩
  | complete made run items =>
      refine ⟨isPrefix_course _ _ _, .inl ?_⟩
      cases concludes with
      | success ok data =>
          refine ⟨ok, items, data, ?_⟩
          rw [data]
          simp only [rebuiltIn_toData]
          exact shows

end Build

/-- The project with a diagram that is newer than its rendering, while phases are recorded. -/
def timedWorld : World :=
  { drawnWorld with recording := .start true fun taken => taken }

theorem build_mirrored_drawn :
    sampleBook.repository.Untimed ∧ timedWorld.recording.enabled = true ∧
      ∃ outcome after, (sampleBook.build none).exec timedWorld = (.ok outcome, after) ∧
        ∃ tree : Phase, outcome.remarks = some [("telemetry", tree.toValue)] ∧
          List.Forall₂ Shows [(.diagram, some 1), (.fragment, some 0), (.document, some 1)]
            tree.children := by
  have untimed : sampleBook.repository.Untimed := Repository.untimed_ofSnapshot _
  refine ⟨untimed, rfl, ?_⟩
  have succeeds : okOf ((sampleBook.build none).exec timedWorld).1 = some true := by
    decide +kernel
  have counts : ((sampleBook.build none).exec timedWorld).1.toOption.map (fun outcome =>
      [Kind.diagram, .fragment, .document].map fun kind =>
        rebuiltIn outcome.data (phaseName kind)) = some [1, 0, 1] := by
    decide +kernel
  rcases ran : (sampleBook.build none).exec timedWorld with ⟨answer, after⟩
  rw [ran] at succeeds counts
  obtain ⟨outcome, rfl, ok⟩ := exists_of_okOf succeeds
  obtain ⟨tree, _, _, remarked, _, _, _, complete | ⟨failed, _⟩ | ⟨failed, _⟩⟩ :=
    build_mirrored untimed rfl ran
  · obtain ⟨_, _, _, shows⟩ := complete
    have each : [Kind.diagram, .fragment, .document].map (fun kind =>
        rebuiltIn outcome.data (phaseName kind)) = [1, 0, 1] := Option.some.inj counts
    simp only [List.map_cons, List.map_nil, List.cons.injEq, and_true] at each
    simp only [List.map_cons, List.map_nil, each] at shows
    exact ⟨outcome, after, rfl, tree, remarked, shows⟩
  · rw [ok] at failed
    contradiction
  · rw [ok] at failed
    contradiction

end Book

end Bindery
