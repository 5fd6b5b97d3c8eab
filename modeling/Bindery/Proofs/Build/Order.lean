import Bindery.Proofs.Build.Fresh
import Bindery.Proofs.Build.Transparency
import Bindery.Proofs.World.Exchange

/-!
Contract: that the order of the sources of one kind does not matter.

Owns:
- `Concerns`, the places that the treatment of an item looks at, and its footprint;
- `Permutes`, source lists and reports that differ by the order inside each kind, and `Lists`, a
  report whose entries follow a source list;
- that sources of one kind which do not concern each other can be treated in any order;
- the theorem that a build which succeeded succeeds with its sources in another order as well, and
  comes to the same.

Does not own: sources whose products get in each other's way (`Bindery.Proofs.Build.Fresh`).
-/

namespace Bindery

open Source

/-- Source lists with the same sources of each kind, each kind in its own order. -/
structure Source.Collection.Permutes (sources other : Collection) : Prop where
  diagrams : sources.diagrams.Perm other.diagrams
  fragments : sources.fragments.Perm other.fragments
  documents : sources.documents.Perm other.documents

/-- Reports that say the same, with the entries of each kind in their own order. -/
structure BuildReport.Permutes (report other : BuildReport) : Prop where
  target : report.target = other.target
  demanded : report.demanded = other.demanded
  diagrams : report.diagrams.Perm other.diagrams
  fragments : report.fragments.Perm other.fragments
  documents : report.documents.Perm other.documents

/-- A report with one entry for each source, in the order of the sources. -/
structure BuildReport.Lists (report : BuildReport) (sources : Collection) : Prop where
  diagrams : report.diagrams.map Product.source = sources.diagrams
  fragments : report.fragments.map Product.source = sources.fragments
  documents : report.documents.map Product.source = sources.documents

/-- The world in which nothing is missed yet. -/
def World.unmissed (world : World) : World :=
  { world with missing := [] }

namespace Book

/-! ## The footprint of a treatment -/

/-- The places that concern an item: all beside the target directory, and what is written when it
is treated. -/
def Concerns (book : Book) (base : Place) (item : Item) (place : Place) : Prop :=
  ¬ book.targetDirectory.placeFrom base <+: place ∨ place ∈ book.touches base item true

/-- What makes a build repeatable: tools that make the same of the same command line, and a version
control with fixed answers. -/
structure Repeatable (book : Book) (runner : Runner) (base : Place) : Prop where
  sound : book.Sound runner
  reproducible : runner.Reproducible
  fixed : book.repository.Fixed runner (book.targetDirectory.placeFrom base)
  unrecorded : book.repository.Unrecorded

/-- What makes a build repeatable that asks for chosen requests only. -/
structure RepeatableFor (asked : Request → Bool) (book : Book) (runner : Runner) (base : Place) :
    Prop where
  sound : book.Sound runner
  reproducible : runner.Reproducible
  fixed : book.repository.FixedFor asked runner (book.targetDirectory.placeFrom base)
  unrecorded : book.repository.Unrecorded

theorem RepeatableFor.limitedTo {asked : Request → Bool} {book : Book} {runner : Runner}
    {base : Place} (repeatable : book.RepeatableFor asked runner base) :
    (book.limitedTo asked).Repeatable runner base :=
  ⟨repeatable.sound.limitedTo asked, repeatable.reproducible, repeatable.fixed.limitedTo,
    repeatable.unrecorded.limitedTo asked⟩

section Treatment

variable {book : Book} {runner : Runner} {base : Place} {item : Item}

theorem concerns_source
    (outside : ¬ book.targetDirectory.placeFrom base <+: sourcePlace base item) :
    book.Concerns base item ((sourcePath base item).placeFrom base) :=
  .inl outside

theorem concerns_output (book : Book) (base : Place) (item : Item) :
    book.Concerns base item ((book.output item).placeFrom base) :=
  .inr (List.mem_append_right _ List.mem_cons_self)

theorem concerns_manuscript (book : Book) (base : Place) (document : Path) :
    book.Concerns base ⟨.document, document⟩ ((book.manuscript document).placeFrom base) :=
  .inr (List.mem_append_left _ List.mem_cons_self)

/-- Whether a product is due depends on no place but those that concern its item. -/
theorem replays_isStaleFor (runner : Runner)
    (outside : ¬ book.targetDirectory.placeFrom base <+: sourcePlace base item) :
    Action.Replays runner base book.targetDirectory (book.Concerns base item)
      (Staleness.isStaleFor (sourcePath base item) (book.output item)) :=
  Action.replays_isStaleFor (concerns_source outside) (concerns_output book base item)

/-- A tool that names the product of an item depends on no place but those that concern it. -/
theorem Repeatable.replays_runTool (repeatable : book.Repeatable runner base) (item : Item)
    {command : Command} (named : command.artifact? = some (book.output item))
    (logger message : String) (source : Path) (report : Completion → BuildError) :
    Action.Replays runner base book.targetDirectory (book.Concerns base item)
      (Action.runTool logger message source report command) :=
  Action.composes_replays.runTool (Action.replays_run repeatable.sound.tidy
    repeatable.reproducible named (concerns_output book base item))

/-- A treatment looks at no place but those that concern its item. -/
theorem replays_treat (repeatable : book.Repeatable runner base) (file : item.path.NamesFile)
    (outside : ¬ book.targetDirectory.placeFrom base <+: sourcePlace base item) (demanded : Bool) :
    Action.Replays runner base book.targetDirectory (book.Concerns base item)
      (book.treat demanded item) := by
  have proper := repeatable.sound.proper
  have asks := replays_isStaleFor runner outside
  obtain ⟨kind, path⟩ := item
  cases kind with
  | diagram =>
      have target : Diagram.target book.targetDirectory ((Path.ofPlace base).join path) =
          Diagram.target book.targetDirectory path := by
        rw [Diagram.target, Path.stem_join file.named, Diagram.target]
      refine Action.replays_workingDirectory_bind ?_
      dsimp only
      rw [target]
      exact Action.composes_replays.whenDue asks (repeatable.replays_runTool ⟨.diagram, path⟩
        (Command.artifact?_diagram _ (isProper_output proper file)) _ _ _ _)
  | fragment =>
      refine Action.composes_replays.whenDue asks ?_
      have publishes := book.press.replays_publish file.isPart_name
        repeatable.fixed (fun place => .inl) (concerns_source outside)
        (concerns_output book base ⟨.fragment, path⟩)
      exact Action.replays_bind publishes fun _ => Action.replays_pure true
  | document =>
      have publishes := book.press.replays_publish (isPart_manuscriptName file)
        repeatable.fixed (fun place => .inl) (concerns_source outside)
        (concerns_manuscript book base path)
      refine Action.replays_bind publishes fun written => ?_
      have engine : (book.typesetter.command path.stem written).artifact? =
          some (book.output ⟨.document, path⟩) :=
        Command.artifact?_typesetter proper path.stem written
      have typesets := repeatable.replays_runTool ⟨.document, path⟩ engine Typesetter.logger
        "document.failed" path (Typesetter.failure path)
      cases demanded with
      | true => exact Action.composes_replays.whenDue (Action.replays_pure true) typesets
      | false => exact Action.composes_replays.whenDue asks typesets

theorem footprint_treat (repeatable : book.Repeatable runner base) (file : item.path.NamesFile)
    (outside : ¬ book.targetDirectory.placeFrom base <+: sourcePlace base item) (demanded : Bool) :
    Action.Footprint runner base book.targetDirectory (book.Concerns base item)
      (book.touches base item true) (book.treat demanded item) where
  replays := replays_treat repeatable file outside demanded
  confined := confined_treat repeatable.sound file demanded
  own _ written := .inr written

/-- What is written for one item does not concern another one that writes something else. -/
theorem not_concerns {other : Item} (file : item.path.NamesFile)
    (apart : (book.touches base item true).Disjoint (book.touches base other true)) :
    ∀ place ∈ book.touches base item true, ¬ book.Concerns base other place := by
  rintro place written (outside | also)
  · exact outside (prefix_of_mem_touches file written)
  · exact apart written also

end Treatment

/-! ## Treatments in another order -/

section Orders

variable {runner : Runner} {base : Place} {directory : Path} {output : Path → Path}
  {treat : Path → Action Bool} {seen : Path → Place → Prop} {touched : Path → List Place}

/-- Neither of two sources is disturbed when the other one is treated. -/
def Apart (seen : Path → Place → Prop) (touched : Path → List Place) (first second : Path) : Prop :=
  (∀ place ∈ touched first, ¬ seen second place) ∧ ∀ place ∈ touched second, ¬ seen first place

theorem Apart.symm {first second : Path} (apart : Apart seen touched first second) :
    Apart seen touched second first :=
  ⟨apart.2, apart.1⟩

/-- The products of a phase follow its sources. -/
theorem sources_of_treatAll {paths : List Path} {products : List Product} {world after : World}
    (ran : (treatAll output treat paths).exec world = (.ok products, after)) :
    products.map Product.source = paths := by
  induction paths generalizing world products with
  | nil =>
      obtain ⟨same, _⟩ := Prod.mk.inj ran
      rw [← Except.ok.inj same, List.map_nil]
  | cons path rest inductionHypothesis =>
      obtain ⟨_, others, _, _, treatedRest, rfl⟩ := treatAll_cons_eq_ok_iff.1 ran
      rw [List.map_cons, inductionHypothesis treatedRest]

/-- Two sources that do not disturb each other can be treated in the other order. -/
theorem reorders_treatAll_swap {first second : Path} {rest : List Path}
    (footprint : ∀ path ∈ first :: second :: rest,
      Action.Footprint runner base directory (seen path) (touched path) (treat path))
    (apart : Apart seen touched first second) :
    Action.Reorders runner base directory List.Perm
      (treatAll output treat (first :: second :: rest))
      (treatAll output treat (second :: first :: rest)) := by
  intro left right after products offers matching ran
  obtain ⟨made, _, middle, treatedFirst, onward, rfl⟩ := treatAll_cons_eq_ok_iff.1 ran
  obtain ⟨also, others, start, treatedSecond, treatedRest, rfl⟩ :=
    treatAll_cons_eq_ok_iff.1 onward
  obtain ⟨between, startAgain, secondFirst, firstSecond, front⟩ :=
    Action.exchange (footprint first (by simp)) (footprint second (by simp)) apart.1 apart.2 offers
      matching treatedFirst treatedSecond
  have onwards : Action.Replays runner base directory (fun _ => True)
      (treatAll output treat rest) := Action.composes_replays.treatAll fun path member =>
    (footprint path (by simp [member])).replays_everywhere
  obtain ⟨later, restAgain, replayed⟩ := onwards start startAgain after others
    (offers.of_matches front.still) front.matching treatedRest
  refine ⟨_, later, treatAll_cons_eq_ok_iff.2 ⟨also, _, between, secondFirst,
    treatAll_cons_eq_ok_iff.2 ⟨made, others, startAgain, firstSecond, restAgain, rfl⟩, rfl⟩, ?_,
    front.append replayed.reordered⟩
  exact .swap _ _ _

/-- Sources that do not disturb each other can be treated in any order. -/
theorem reorders_treatAll {paths others : List Path} (permuted : paths.Perm others)
    (footprint : ∀ path ∈ paths,
      Action.Footprint runner base directory (seen path) (touched path) (treat path))
    (apart : paths.Pairwise (Apart seen touched)) :
    Action.Reorders runner base directory List.Perm (treatAll output treat paths)
      (treatAll output treat others) := by
  induction permuted with
  | nil => exact Action.reorders_pure (.refl [])
  | cons path _ inductionHypothesis =>
      have onward := inductionHypothesis
        (fun other member => footprint other (List.mem_cons_of_mem path member))
        (List.pairwise_cons.1 apart).2
      refine Action.reorders_bind
        (footprint path List.mem_cons_self).replays_everywhere.reorders ?_
      rintro rebuilt _ rfl
      exact Action.reorders_bind onward fun _ _ same => Action.reorders_pure (same.cons _)
  | swap first second rest =>
      exact reorders_treatAll_swap footprint ((List.pairwise_cons.1 apart).1 first (by simp))
  | trans front _ first second =>
      refine Action.Reorders.trans List.Perm.trans (first footprint apart) (second ?_ ?_)
      · exact fun path member => footprint path (front.mem_iff.2 member)
      · exact front.pairwise apart Apart.symm

end Orders

/-! ## A build with its sources in another order -/

section Builds

variable {book : Book} {runner : Runner} {base : Place} {items : List Item}
  {sources permuted : Collection}

/-- The sources of one kind can be treated in any order. -/
theorem reorders_treatKind (repeatable : book.Repeatable runner base)
    (named : ∀ item ∈ items, item.path.NamesFile)
    (outside : ∀ item ∈ items,
      ¬ book.targetDirectory.placeFrom base <+: sourcePlace base item)
    (distinct : (items.flatMap fun item => book.touches base item true).Nodup)
    (demanded : Bool) {kind : Kind} {paths others : List Path}
    (among : (paths.map (Item.mk kind)).Sublist items) (same : paths.Perm others) :
    Action.Reorders runner base book.targetDirectory List.Perm
      (book.treatKind demanded kind paths) (book.treatKind demanded kind others) := by
  have member : ∀ path ∈ paths, ⟨kind, path⟩ ∈ items :=
    fun path here => among.subset (List.mem_map_of_mem here)
  have disjoint : paths.Pairwise fun first second =>
      (book.touches base ⟨kind, first⟩ true).Disjoint (book.touches base ⟨kind, second⟩ true) := by
    have apart := (List.nodup_flatMap.1 distinct).2.sublist among
    rwa [List.pairwise_map] at apart
  refine reorders_treatAll same (fun path here => footprint_treat repeatable
    (named _ (member path here)) (outside _ (member path here)) demanded) ?_
  refine disjoint.imp_of_mem fun {first second} here there apart => ⟨?_, ?_⟩
  · exact not_concerns (named _ (member first here)) apart
  · exact not_concerns (named _ (member second there)) fun _ also written => apart written also

/-- The report of treated sources lists them in their order. -/
theorem lists_of_treatSources {world after : World} {report : BuildReport}
    (ran : (book.treatSources sources).exec world = (.ok report, after)) :
    report.Lists sources := by
  obtain ⟨diagrams, drawn, drawing, onward⟩ := Action.exec_bind_eq_ok_iff.1 ran
  obtain ⟨fragments, written, writing, rest⟩ := Action.exec_bind_eq_ok_iff.1 onward
  obtain ⟨documents, typeset, typesetting, done⟩ := Action.exec_bind_eq_ok_iff.1 rest
  obtain ⟨same, _⟩ := Prod.mk.inj done
  rw [← Except.ok.inj same]
  exact ⟨sources_of_treatAll drawing, sources_of_treatAll writing, sources_of_treatAll typesetting⟩

theorem verdict_eq_of_perm {diagrams fragments otherDiagrams otherFragments : List Product}
    (drawn : diagrams.Perm otherDiagrams) (written : fragments.Perm otherFragments) :
    verdict diagrams fragments = verdict otherDiagrams otherFragments :=
  (drawn.append written).any_eq

/-- Sources can be treated in any order inside each kind. -/
theorem reorders_treatSources (repeatable : book.Repeatable runner base)
    (named : ∀ item ∈ sources.items, item.path.NamesFile)
    (outside : ∀ item ∈ sources.items,
      ¬ book.targetDirectory.placeFrom base <+: sourcePlace base item)
    (distinct : (sources.items.flatMap fun item => book.touches base item true).Nodup)
    (permutes : sources.Permutes permuted) :
    Action.Reorders runner base book.targetDirectory BuildReport.Permutes
      (book.treatSources sources) (book.treatSources permuted) := by
  have kinds : ∀ (demanded : Bool) (kind : Kind) (paths others : List Path),
      (paths.map (Item.mk kind)).Sublist sources.items → paths.Perm others →
        Action.Reorders runner base book.targetDirectory List.Perm
          (book.treatKind demanded kind paths) (book.treatKind demanded kind others) :=
    fun demanded _ _ _ => reorders_treatKind repeatable named outside distinct demanded
  refine Action.reorders_bind (kinds false .diagram _ _ (List.sublist_append_left _ _)
    permutes.diagrams) fun diagrams otherDiagrams drawn => ?_
  refine Action.reorders_bind (kinds false .fragment _ _
    ((List.sublist_append_left _ _).trans (List.sublist_append_right _ _))
    permutes.fragments) fun fragments otherFragments written => ?_
  rw [← verdict_eq_of_perm drawn written]
  refine Action.reorders_bind (kinds _ .document _ _
    ((List.sublist_append_right _ _).trans (List.sublist_append_right _ _))
    permutes.documents) fun documents otherDocuments typeset => ?_
  exact Action.reorders_pure ⟨rfl, rfl, drawn, written, typeset⟩

/-- A build of sources that succeeds does so with the sources in another order. -/
theorem exists_buildPlainly_permuted {world after : World} {report : BuildReport}
    (ran : (book.buildPlainly sources).exec world = (.ok report, after))
    (repeatable : book.Repeatable world.runner world.base)
    (named : ∀ item ∈ sources.items, item.path.NamesFile)
    (outside : ∀ item ∈ sources.items,
      ¬ book.targetDirectory.placeFrom world.base <+: sourcePlace world.base item)
    (distinct : (sources.items.flatMap fun item => book.touches world.base item true).Nodup)
    (permutes : sources.Permutes permuted) :
    ∃ other later, (book.buildPlainly permuted).exec world = (.ok other, later) ∧
      report.Lists sources ∧ other.Lists permuted ∧ report.Permutes other ∧
      after.Matches (fun _ => True) later ∧ after.commands.Perm later.commands := by
  obtain ⟨_, ready, making, treating⟩ := Action.exec_bind_eq_ok_iff.1 ran
  have offers : ready.Offers world.runner world.base book.targetDirectory := by
    rw [Action.makeDirectories, Action.exec_ofEffect] at making
    obtain ⟨made, rfl⟩ := Prod.mk.inj making
    exact ⟨rfl, rfl, (FileStore.makeDirectories_eq_ok (Prod.ext made rfl)).2⟩
  obtain ⟨other, later, treatingOther, same, reordered⟩ :=
    reorders_treatSources repeatable named outside distinct permutes ready ready after report offers
      (.refl _ _) treating
  refine ⟨other, later, (Action.exec_bind_of_ok making _).trans treatingOther,
    lists_of_treatSources treating, lists_of_treatSources treatingOther, same,
    reordered.matching, ?_⟩
  obtain ⟨issued, moved, ranAfter, ranLater, sameCommands⟩ := reordered.ran
  rw [ranAfter, ranLater]
  exact sameCommands.append_left _

/-! ## The operation -/

/-- The build of a book without its phases and notes. -/
def buildUnrecorded (book : Book) (chosen : Option Collection) : Action Outcome := do
  let sources ← book.sourcesOr chosen
  Excerpt.forgetMissing
  settle "build" noteFailure do
    let report ← book.buildPlainly sources
    return .success "build" report.toData (← warnings)

theorem worksLike_build (unrecorded : book.repository.Unrecorded) (chosen : Option Collection) :
    (book.build chosen).unremarked.WorksLike (book.buildUnrecorded chosen).unremarked := by
  refine worksLike_recorded ?_
  refine Action.worksLike_bind (worksLike_sourcesOr book chosen) fun sources => ?_
  refine Action.worksLike_bind worksLike_forgetMissing fun _ => ?_
  refine worksLike_settle worksLike_noteFailure ?_
  refine Action.worksLike_bind (worksLike_buildSources unrecorded sources) fun report => ?_
  exact Action.worksLike_bind worksLike_warnings fun _ => Action.worksLike_pure _

section Operation

variable {chosen : Option Collection} {world : World}

theorem exec_buildUnrecorded (found : ((book.sourcesOr chosen).exec world).1 = .ok sources) :
    (book.buildUnrecorded chosen).exec world =
      (settle "build" noteFailure (book.buildPlainly sources >>= fun report =>
        warnings >>= fun missed => pure (.success "build" report.toData missed))).exec
          world.unmissed := by
  have finding := (book.looks_sourcesOr chosen).exec_eq rfl rfl found
  have forgetting : Excerpt.forgetMissing.exec world = (.ok (), world.unmissed) := rfl
  exact (Action.exec_bind_of_ok finding _).trans (Action.exec_bind_of_ok forgetting _)

/-- A build that succeeds has built its sources, and tells their report. -/
theorem buildPlainly_of_build {outcome : Outcome} {after : World}
    (unrecorded : book.repository.Unrecorded)
    (found : ((book.sourcesOr chosen).exec world).1 = .ok sources)
    (ran : (book.build chosen).exec world = (.ok outcome, after)) (ok : outcome.ok = true) :
    ∃ report done, (book.buildPlainly sources).exec world.unmissed = (.ok report, done) ∧
      outcome.data = report.toData ∧ after.SameWork done := by
  obtain ⟨answers, same⟩ := worksLike_build unrecorded chosen world world (.refl world)
  rw [Action.exec_unremarked, Action.exec_unremarked, ran] at answers same
  rcases plain : (book.buildUnrecorded chosen).exec world with ⟨fault | told, done⟩
  · rw [plain] at answers
    contradiction
  rw [plain] at answers same
  have outcomes : outcome.unremarked = told.unremarked := Except.ok.inj answers
  have toldOk : told.ok = true := (congrArg Outcome.ok outcomes).symm.trans ok
  rw [exec_buildUnrecorded found] at plain
  obtain ⟨report, finish, built, onward⟩ := Action.exec_bind_eq_ok_iff.1 (settle_eq_ok plain toldOk)
  obtain ⟨missed, _, warned, done⟩ := Action.exec_bind_eq_ok_iff.1 onward
  obtain ⟨_, rfl⟩ := Prod.mk.inj warned
  obtain ⟨telling, rfl⟩ := Prod.mk.inj done
  refine ⟨report, _, built, ?_, same⟩
  show outcome.unremarked.data = report.toData
  rw [outcomes, ← Except.ok.inj telling]
  rfl

/-- When its sources can be built, a build succeeds and tells their report. -/
theorem build_of_buildPlainly {report : BuildReport} {done : World}
    (unrecorded : book.repository.Unrecorded)
    (found : ((book.sourcesOr chosen).exec world).1 = .ok sources)
    (built : (book.buildPlainly sources).exec world.unmissed = (.ok report, done)) :
    ∃ outcome after, (book.build chosen).exec world = (.ok outcome, after) ∧ outcome.ok = true ∧
      outcome.data = report.toData ∧ after.SameWork done := by
  obtain ⟨answers, same⟩ := worksLike_build unrecorded chosen world world (.refl world)
  rw [Action.exec_unremarked, Action.exec_unremarked, exec_buildUnrecorded found, settle,
    Action.exec_ofEffect, Action.exec_bind_of_ok built] at answers same
  rcases ran : (book.build chosen).exec world with ⟨fault | outcome, after⟩
  · rw [ran] at answers
    contradiction
  rw [ran] at answers same
  have outcomes := Except.ok.inj answers
  exact ⟨outcome, after, rfl, congrArg Outcome.ok outcomes, congrArg Outcome.data outcomes, same⟩

/-- The case of a version control with fixed answers to all requests. -/
theorem permuted_of_repeatable {outcome : Outcome} {after : World}
    (repeatable : book.Repeatable world.runner world.base)
    (found : ((book.sourcesOr chosen).exec world).1 = .ok sources)
    (named : ∀ item ∈ sources.items, item.path.NamesFile)
    (outside : ∀ item ∈ sources.items,
      ¬ book.targetDirectory.placeFrom world.base <+: sourcePlace world.base item)
    (distinct : (sources.items.flatMap fun item => book.touches world.base item true).Nodup)
    (permutes : sources.Permutes permuted)
    (ran : (book.build chosen).exec world = (.ok outcome, after)) (ok : outcome.ok = true) :
    ∃ (other : Outcome) (later : World) (report reordered : BuildReport),
      (book.build (some permuted)).exec world = (.ok other, later) ∧ other.ok = true ∧
      outcome.data = report.toData ∧ report.Lists sources ∧
      other.data = reordered.toData ∧ reordered.Lists permuted ∧
      report.Permutes reordered ∧
      (∀ place, later.files.find? place = after.files.find? place) ∧
      later.commands.Perm after.commands := by
  obtain ⟨report, done, built, data, same⟩ :=
    buildPlainly_of_build repeatable.unrecorded found ran ok
  obtain ⟨reordered, finish, builtOther, lists, listsOther, alike, matching, commands⟩ :=
    exists_buildPlainly_permuted built repeatable named outside distinct permutes
  have given : ((book.sourcesOr (some permuted)).exec world).1 = .ok permuted := rfl
  obtain ⟨other, later, ranOther, okOther, dataOther, sameOther⟩ :=
    build_of_buildPlainly repeatable.unrecorded given builtOther
  refine ⟨other, later, report, reordered, ranOther, okOther, data, lists, dataOther, listsOther,
    alike, fun place => ?_, ?_⟩
  · rw [sameOther.files, same.files]
    exact (matching.files.nodes place trivial).symm
  · rw [sameOther.commands, same.commands]
    exact commands.symm

/-- The order of the sources inside each kind does not matter. Where a build succeeds, it succeeds
with the sources of each kind in any other order, gives the same verdict, tells the same entries in
the other order, leaves the same files and has run the same commands. Version control has to have
fixed answers to what the build asks it. -/
theorem build_permuted {asked : Request → Bool} {outcome : Outcome} {after : World}
    (repeatable : book.RepeatableFor asked world.runner world.base)
    (asks : book.AsksOnly asked (·.build chosen) world)
    (found : ((book.sourcesOr chosen).exec world).1 = .ok sources)
    (named : ∀ item ∈ sources.items, item.path.NamesFile)
    (outside : ∀ item ∈ sources.items,
      ¬ book.targetDirectory.placeFrom world.base <+: sourcePlace world.base item)
    (distinct : (sources.items.flatMap fun item => book.touches world.base item true).Nodup)
    (permutes : sources.Permutes permuted)
    (ran : (book.build chosen).exec world = (.ok outcome, after)) (ok : outcome.ok = true) :
    ∃ (other : Outcome) (later : World) (report reordered : BuildReport),
      (book.build (some permuted)).exec world = (.ok other, later) ∧ other.ok = true ∧
      outcome.data = report.toData ∧ report.Lists sources ∧
      other.data = reordered.toData ∧ reordered.Lists permuted ∧
      report.Permutes reordered ∧
      (∀ place, later.files.find? place = after.files.find? place) ∧
      later.commands.Perm after.commands := by
  obtain ⟨other, later, report, reordered, ranOther, rest⟩ :=
    permuted_of_repeatable repeatable.limitedTo found named outside distinct permutes
      (asks.trans ran) ok
  exact ⟨other, later, report, reordered, (follows_build book _).exec_eq ranOther, rest⟩

end Operation

end Builds

/-! ## Two orders of a small project -/

theorem repeatable_sampleBook (refuses : Command → Bool) (base : Place) :
    sampleBook.RepeatableFor (fun _ => true) (.scripted refuses) base where
  sound := sound_sampleBook refuses
  reproducible := Runner.reproducible_scripted refuses
  fixed := (Repository.fixed_ofSnapshot _ _ _).fixedFor fun _ => true
  unrecorded := Repository.unrecorded_ofSnapshot _

/-- Two diagrams and two documents. -/
def pairedSources : Collection :=
  ⟨[.ofPlace ["dot", "a.dot"], .ofPlace ["dot", "b.dot"]], [],
    [.ofPlace ["tex", "c.latex"], .ofPlace ["tex", "d.latex"]]⟩

/-- The same ones the other way round. -/
def turnedSources : Collection :=
  ⟨[.ofPlace ["dot", "b.dot"], .ofPlace ["dot", "a.dot"]], [],
    [.ofPlace ["tex", "d.latex"], .ofPlace ["tex", "c.latex"]]⟩

def pairedWorld : World :=
  freshWorld ["a.dot", "b.dot"] ["c.latex", "d.latex"]

/-- The two diagrams and the two documents of a small project can be built the other way round. -/
theorem build_permuted_sample :
    ∃ (outcome : Outcome) (after : World) (other : Outcome) (later : World)
        (report reordered : BuildReport),
      (sampleBook.build (some pairedSources)).exec pairedWorld = (.ok outcome, after) ∧
      outcome.ok = true ∧
      (sampleBook.build (some turnedSources)).exec pairedWorld = (.ok other, later) ∧
      other.ok = true ∧
      outcome.data = report.toData ∧ report.Lists pairedSources ∧
      other.data = reordered.toData ∧ reordered.Lists turnedSources ∧
      report.Permutes reordered ∧
      (∀ place, later.files.find? place = after.files.find? place) ∧
      later.commands.Perm after.commands := by
  have found : ((sampleBook.sourcesOr (some pairedSources)).exec pairedWorld).1 =
      .ok pairedSources := rfl
  have named : ∀ item ∈ pairedSources.items, item.path.NamesFile := by decide
  have outside : ∀ item ∈ pairedSources.items,
      ¬ sampleBook.targetDirectory.placeFrom pairedWorld.base <+:
        sourcePlace pairedWorld.base item := by
    decide +kernel
  have distinct : (pairedSources.items.flatMap fun item =>
      sampleBook.touches pairedWorld.base item true).Nodup := by
    decide +kernel
  have permutes : pairedSources.Permutes turnedSources :=
    ⟨.swap _ _ _, .refl _, .swap _ _ _⟩
  have succeeds : okOf ((sampleBook.build (some pairedSources)).exec pairedWorld).1 =
      some true := by
    decide +kernel
  rcases ran : (sampleBook.build (some pairedSources)).exec pairedWorld with ⟨answer, after⟩
  rw [ran] at succeeds
  obtain ⟨outcome, rfl, ok⟩ := exists_of_okOf succeeds
  obtain ⟨other, later, report, reordered, again⟩ :=
    build_permuted (repeatable_sampleBook _ _) (asksOnly_all _ _ _) found named outside distinct
      permutes ran ok
  exact ⟨outcome, after, other, later, report, reordered, rfl, ok, again⟩

end Book

end Bindery
