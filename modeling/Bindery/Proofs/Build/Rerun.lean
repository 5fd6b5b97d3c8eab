import Bindery.Proofs.Build.Operation

/-!
Contract: building again after a build that succeeded.

Owns:
- `Grounded`, a source that lies beside the target directory and is not from the future;
- `Stamps`, what every step of a build leaves of the world: all beside the places that it touched,
  and on these its own time;
- `Settled`, an item whose product is up to date and whose manuscript can be published. Treating a
  grounded item settles it, and nothing that stamps unsettles it;
- the theorem that a build after a successful one finds nothing to do.

Does not own: builds after a failed one (`Bindery.Proofs.Build.Failure`).
-/

namespace Bindery

open Source

namespace Book

/-! ## Sources, steps and items -/

/-- A source that does not lie in the target directory and is not newer than the clock. -/
structure Grounded (book : Book) (world : World) (item : Item) : Prop where
  named : item.path.NamesFile
  outside : ∀ name, sourcePlace world.base item ≠
    book.targetDirectory.placeFrom world.base ++ [name]
  past : ∀ time, world.files.timeAt (sourcePlace world.base item) = some time → time ≤ world.now

theorem Grounded.limitedTo {book : Book} {world : World} {item : Item}
    (grounded : book.Grounded world item) (asked : Request → Bool) :
    (book.limitedTo asked).Grounded world item :=
  ⟨grounded.named, grounded.outside, grounded.past⟩

theorem forall_ne_append_iff {place directory : Place} :
    (∀ name, place ≠ directory ++ [name]) ↔ place = [] ∨ place.dropLast ≠ directory := by
  constructor
  · intro outside
    rcases List.eq_nil_or_concat place with rfl | ⟨front, name, rfl⟩
    · exact .inl rfl
    · rw [List.concat_eq_append] at outside ⊢
      refine .inr fun same => ?_
      rw [List.dropLast_concat] at same
      exact outside name (by rw [same])
  · rintro (rfl | different) name same
    · simp at same
    · exact different (by simp [same])

instance (book : Book) (world : World) (item : Item) : Decidable (book.Grounded world item) :=
  decidable_of_iff
    (item.path.NamesFile ∧
      (sourcePlace world.base item = [] ∨
        (sourcePlace world.base item).dropLast ≠ book.targetDirectory.placeFrom world.base) ∧
      ∀ time ∈ world.files.timeAt (sourcePlace world.base item), time ≤ world.now)
    ⟨fun ⟨named, outside, past⟩ => ⟨named, forall_ne_append_iff.2 outside, past⟩,
      fun grounded => ⟨grounded.named, forall_ne_append_iff.1 grounded.outside, grounded.past⟩⟩

/-- A step that touches places of the target directory, and leaves its own time on them. -/
structure Stamps (book : Book) (before after : World) (touched : List Place) : Prop where
  resembles : World.Resembles touched before after
  inside : ∀ place ∈ touched, ∃ name, place = book.targetDirectory.placeFrom before.base ++ [name]
  stamped : ∀ place ∈ touched, after.files.timeAt place = some before.now
  later : before.now ≤ after.now

/-- An item whose product is up to date and whose manuscript can be published. -/
structure Settled (book : Book) (world : World) (item : Item) : Prop where
  finds : world.files.Finds world.base (sourcePath world.base item)
  reaches : world.files.Reaches world.base (book.output item)
  current : world.files.isOverdue (sourcePlace world.base item)
    (book.outputPlace world.base item) = false
  publishable : ((book.prepare item).exec world).1 = .ok ()

section Steps

variable {book : Book} {before after : World} {touched : List Place} {item : Item}

theorem Grounded.fit (grounded : book.Grounded before item) : book.Fit before.base item := by
  refine ⟨grounded.named, fun temporary => ?_⟩
  have touched : sourcePlace before.base item ∈ book.touches before.base item false :=
    List.mem_append_left _ temporary
  obtain ⟨name, same⟩ := exists_name_of_mem_touches grounded.named touched
  exact grounded.outside name same

theorem Stamps.source_notMem (stamps : book.Stamps before after touched)
    (grounded : book.Grounded before item) : sourcePlace before.base item ∉ touched := by
  intro member
  obtain ⟨name, same⟩ := stamps.inside _ member
  exact grounded.outside name same

theorem Grounded.of_stamps (grounded : book.Grounded before item)
    (stamps : book.Stamps before after touched) : book.Grounded after item := by
  have base := stamps.resembles.base
  refine ⟨grounded.named, base ▸ grounded.outside, fun time found => ?_⟩
  rw [← base, FileStore.timeAt,
    ← stamps.resembles.files.nodes _ (stamps.source_notMem grounded)] at found
  exact Int.le_trans (grounded.past time found) stamps.later

/-- A product that is stamped is up to date, its source not being from the future. -/
theorem Stamps.current (stamps : book.Stamps before after touched)
    (grounded : book.Grounded before item) (member : book.outputPlace before.base item ∈ touched) :
    after.files.isOverdue (sourcePlace before.base item) (book.outputPlace before.base item) =
      false := by
  refine FileStore.isOverdue_eq_false_iff.2 ⟨before.now, stamps.stamped _ member, ?_⟩
  intro changed found
  rw [FileStore.timeAt, ← stamps.resembles.files.nodes _ (stamps.source_notMem grounded)] at found
  exact grounded.past changed found

/-- What is settled stays settled, whatever is stamped. -/
theorem Settled.of_stamps (settled : book.Settled before item)
    (grounded : book.Grounded before item) (stamps : book.Stamps before after touched)
    (steady : book.repository.Steady before.runner (book.targetDirectory.placeFrom before.base))
    (ready : book.Ready before) : book.Settled after item := by
  have base := stamps.resembles.base
  have apart := stamps.source_notMem grounded
  have source := stamps.resembles.files.nodes _ apart
  refine ⟨?_, ?_, ?_, ?_⟩
  · rw [← base]
    exact settled.finds.of_agreesOn stamps.resembles.files apart
  · rw [← base]
    exact settled.reaches.of_agreesOn stamps.resembles.files
  · rw [← base]
    by_cases member : book.outputPlace before.base item ∈ touched
    · exact stamps.current grounded member
    · rw [← FileStore.isOverdue_congr source (stamps.resembles.files.nodes _ member)]
      exact settled.current
  · have inside : ∀ place ∈ touched, book.targetDirectory.placeFrom before.base <+: place := by
      intro place member
      obtain ⟨name, rfl⟩ := stamps.inside place member
      exact List.prefix_append _ _
    exact (prepare_alike steady ready grounded.named stamps.resembles inside apart).ok
      settled.publishable

theorem stamps_of_kept (kept : World.Kept before after) : book.Stamps before after [] :=
  ⟨kept.resembles [], by simp, by simp, Int.le_of_eq kept.now.symm⟩

theorem Treated.stamps {demanded made : Bool}
    (treated : book.Treated demanded item made before after) (named : item.path.NamesFile)
    (punctual : before.runner.Punctual) :
    book.Stamps before after (book.touches before.base item made) :=
  ⟨treated.effect.resembles, fun _ member => exists_name_of_mem_touches named member,
    treated.stamped punctual, Int.le_of_eq treated.effect.now.symm⟩

/-- A treatment that succeeds settles its item. -/
theorem settled_of_treat {demanded made : Bool} {start : World} (kept : World.Kept before start)
    (sound : book.Sound before.runner) (punctual : before.runner.Punctual)
    (steady : book.repository.Steady before.runner (book.targetDirectory.placeFrom before.base))
    (ready : book.Ready before) (grounded : book.Grounded before item)
    (ran : (book.treat demanded item).exec start = (.ok made, after)) :
    book.Settled after item := by
  have treated := treated_of_step kept sound ready grounded.fit ran
  have stamps := treated.stamps grounded.named punctual
  have effect := treated.effect
  have apart := stamps.source_notMem grounded
  have source := effect.files.nodes _ apart
  refine ⟨?_, ?_, ?_, ?_⟩
  · rw [effect.base]
    exact treated.finds.of_agreesOn effect.files apart
  · rw [effect.base]
    exact treated.reaches.of_agreesOn effect.files
  · rw [effect.base]
    cases made with
    | true => exact stamps.current grounded (by simp [touches])
    | false =>
        have undue : book.isDue demanded before.files before.base item = false := treated.due.symm
        have output := outputPlace_notMem_temporaryPlaces book before.base grounded.named
        rw [← FileStore.isOverdue_congr source (effect.files.nodes _ (by simpa [touches] using output))]
        exact (Bool.or_eq_false_iff.1 undue).2
  · have resembles := (kept.resembles _).symm.trans effect.resembles
    have inside : ∀ place ∈ book.touches before.base item made,
        book.targetDirectory.placeFrom before.base <+: place :=
      fun place member => prefix_of_mem_touches grounded.named member
    have readyStart := ready.of_resembles (kept.resembles [])
    rw [← kept.base] at inside apart resembles steady
    rw [← kept.runner] at steady
    exact (prepare_alike steady readyStart grounded.named resembles inside apart).ok
      (prepared_of_treat ran)

/-- A settled item is left as it is when nothing is demanded. -/
theorem Settled.treat_eq_ok (settled : book.Settled before item)
    (grounded : book.Grounded before item) (sound : book.Sound before.runner)
    (ready : book.Ready before) :
    ∃ after, (book.treat false item).exec before = (.ok false, after) := by
  rcases preparing : (book.prepare item).exec before with ⟨answer, middle⟩
  have prepared := settled.publishable
  rw [preparing] at prepared
  obtain rfl : answer = .ok () := prepared
  obtain ⟨effect, _, _⟩ := prepare_eq_ok sound ready grounded.named preparing
  have undisturbed := grounded.fit.undisturbed
  have finds := settled.finds.of_agreesOn effect.files undisturbed.source
  have reaches := settled.reaches.of_agreesOn effect.files
  have current : middle.files.isOverdue (sourcePlace before.base item)
      (book.outputPlace before.base item) = false := by
    rw [← FileStore.isOverdue_congr (effect.files.nodes _ undisturbed.source)
      (effect.files.nodes _ undisturbed.output)]
    exact settled.current
  have asked : book.askDue false middle.files middle.base item = .ok false := by
    rw [effect.base, askDue_of_reaches false finds reaches, isDue, Bool.and_false, Bool.false_or,
      current]
  obtain ⟨noted, _, treating⟩ := exec_treat_of_prepared false grounded.named preparing
  rw [asked] at treating
  exact ⟨noted, treating⟩

end Steps

/-! ## Runs -/

section Runs

variable {book : Book} {demanded : Bool} {before after : World} {records : List Record}

theorem Runs.stamps (run : book.Runs demanded before records after)
    (sound : book.Sound before.runner) (punctual : before.runner.Punctual)
    (ready : book.Ready before) (grounded : ∀ record ∈ records, book.Grounded before record.1) :
    book.Stamps before after (book.touchedBy before.base records) := by
  obtain ⟨effect, stamped⟩ :=
    run.effect sound ready fun record member => (grounded record member).fit
  refine ⟨effect.resembles, fun place member => ?_, stamped punctual,
    Int.le_of_eq effect.now.symm⟩
  obtain ⟨record, among, touched⟩ := List.mem_flatMap.1 member
  exact exists_name_of_mem_touches (grounded record among).named touched

/-- A run settles all its items. -/
theorem Runs.settles (run : book.Runs demanded before records after)
    (sound : book.Sound before.runner) (punctual : before.runner.Punctual)
    (steady : book.repository.Steady before.runner (book.targetDirectory.placeFrom before.base))
    (ready : book.Ready before) (grounded : ∀ record ∈ records, book.Grounded before record.1) :
    ∀ record ∈ records, book.Settled after record.1 := by
  induction run with
  | done kept => simp
  | step kept treated onward inductionHypothesis =>
      have first := grounded _ List.mem_cons_self
      have treatment := treated_of_step kept sound ready first.fit treated
      have stamps := treatment.stamps first.named punctual
      have effect := treatment.effect
      rw [← effect.runner, ← effect.base] at steady
      rw [← effect.runner] at sound punctual
      have readyMiddle := ready.of_resembles effect.resembles
      have groundedRest := fun record member =>
        (grounded record (List.mem_cons_of_mem _ member)).of_stamps stamps
      intro record member
      rcases List.mem_cons.1 member with rfl | among
      · have settled := settled_of_treat kept (effect.runner ▸ sound) (effect.runner ▸ punctual)
          (effect.base ▸ effect.runner ▸ steady) ready first treated
        exact settled.of_stamps (first.of_stamps stamps)
          (onward.stamps sound punctual readyMiddle groundedRest) steady readyMiddle
      · exact inductionHypothesis sound punctual steady readyMiddle groundedRest record among

/-- Along a run of settled items only what is demanded is made again. -/
theorem Runs.idle (run : book.Runs demanded before records after)
    (sound : book.Sound before.runner) (punctual : before.runner.Punctual)
    (steady : book.repository.Steady before.runner (book.targetDirectory.placeFrom before.base))
    (ready : book.Ready before) (grounded : ∀ record ∈ records, book.Grounded before record.1)
    (settled : ∀ record ∈ records, book.Settled before record.1) :
    ∀ record ∈ records, record.2 = (record.1.kind = .document && demanded) := by
  induction run with
  | done kept => simp
  | step kept treated onward inductionHypothesis =>
      have first := grounded _ List.mem_cons_self
      have treatment := treated_of_step kept sound ready first.fit treated
      have stamps := treatment.stamps first.named punctual
      have effect := treatment.effect
      have settledRest := fun record member =>
        (settled record (List.mem_cons_of_mem _ member)).of_stamps
          (grounded record (List.mem_cons_of_mem _ member)) stamps steady ready
      have groundedRest := fun record member =>
        (grounded record (List.mem_cons_of_mem _ member)).of_stamps stamps
      rw [← effect.runner, ← effect.base] at steady
      rw [← effect.runner] at sound punctual
      intro record member
      rcases List.mem_cons.1 member with rfl | among
      · rw [treatment.due, isDue, (settled _ List.mem_cons_self).current, Bool.or_false]
      · exact inductionHypothesis sound punctual steady (ready.of_resembles effect.resembles)
          groundedRest settledRest record among

end Runs

/-! ## Nothing to do -/

/-- The report of a build that found everything up to date. -/
def idleReport (book : Book) (sources : Collection) : BuildReport where
  target := book.targetDirectory
  demanded := false
  diagrams := sources.diagrams.map fun path => ⟨path, book.output ⟨.diagram, path⟩, false⟩
  fragments := sources.fragments.map fun path => ⟨path, book.output ⟨.fragment, path⟩, false⟩
  documents := sources.documents.map fun path => ⟨path, book.output ⟨.document, path⟩, false⟩

def manuscriptPlaces (book : Book) (base : Place) (sources : Collection) : List Place :=
  sources.documents.map fun document => (book.manuscript document).placeFrom base

section Idle

variable {book : Book} {sources : Collection} {records : List Record}

theorem reportOn_idle :
    book.reportOn (sources.items.map fun item => (item, false)) = book.idleReport sources := by
  have silent : ∀ paths : List Path, (paths.any fun _ => false) = false :=
    fun paths => List.any_eq_false.2 fun _ _ => Bool.false_ne_true
  rw [reportOn_map book sources fun _ => false, silent, silent]
  rfl

theorem refreshes_of_idle {demanded : Bool}
    (idle : ∀ record ∈ records, record.2 = (record.1.kind = .document && demanded)) :
    refreshes records = false := by
  refine List.any_eq_false.2 fun record member => ?_
  rw [idle record member]
  by_cases kind : record.1.kind = .document <;> simp [kind]

theorem temporaryPlaces_subset {base : Place} {item : Item} (member : item ∈ sources.items) :
    book.temporaryPlaces base item ⊆ book.manuscriptPlaces base sources := by
  obtain ⟨kind, path⟩ := item
  cases kind with
  | diagram => simp [temporaryPlaces]
  | fragment => simp [temporaryPlaces]
  | document =>
      have among := Collection.document_mem_items.1 member
      intro place temporary
      simp only [temporaryPlaces, List.mem_singleton] at temporary
      rw [temporary]
      exact List.mem_map_of_mem among

/-- A build of settled items does nothing but write the temporary manuscripts. -/
theorem buildSources_idle {start : World} (sound : book.Sound start.runner)
    (punctual : start.runner.Punctual)
    (steady : book.repository.Steady start.runner (book.targetDirectory.placeFrom start.base))
    (ready : book.Ready start) (grounded : ∀ item ∈ sources.items, book.Grounded start item)
    (settled : ∀ item ∈ sources.items, book.Settled start item) :
    ∃ done, (book.buildSources sources).exec start = (.ok (book.idleReport sources), done) ∧
      World.Effect start done (book.manuscriptPlaces start.base sources) [] := by
  rcases building : (book.buildSources sources).exec start with ⟨answer, done⟩
  have ends := buildSources_ends building
  generalize book.deeds sources start = records at ends
  rcases ends.cases_of_ready ready with
    ⟨demanded, item, rest, fault, rfl, stops, items, verdict⟩ | ⟨rfl, run, items⟩
  · obtain ⟨here, stopped, run, failed, _⟩ := stops
    have among : ∀ record ∈ records, record.1 ∈ sources.items := fun record member =>
      items ▸ List.mem_append_left _ (List.mem_map_of_mem member)
    have last : item ∈ sources.items := by simp [items]
    have groundedRun := fun record member => grounded record.1 (among record member)
    have stamps := run.stamps sound punctual ready groundedRun
    have settledHere :=
      (settled item last).of_stamps (grounded item last) stamps steady ready
    have idle := run.idle sound punctual steady ready groundedRun
      fun record member => settled record.1 (among record member)
    obtain ⟨after, treats⟩ := settledHere.treat_eq_ok ((grounded item last).of_stamps stamps)
      (stamps.resembles.runner ▸ sound) (ready.of_resembles stamps.resembles)
    have undemanded : book.treat demanded item = book.treat false item := by
      by_cases kind : item.kind = .document
      · rw [verdict kind, refreshes_of_idle idle]
      · exact book.treat_of_not_document kind demanded false
    rw [undemanded, treats] at failed
    simp at failed
  · have among : ∀ record ∈ records, record.1 ∈ sources.items := fun record member =>
      items ▸ List.mem_map_of_mem member
    have groundedRun := fun record member => grounded record.1 (among record member)
    have idle := run.idle sound punctual steady ready groundedRun
      fun record member => settled record.1 (among record member)
    have unmade : ∀ record ∈ records, record.2 = false := by
      intro record member
      rw [idle record member, refreshes_of_idle idle, Bool.and_false]
    have effect := (run.effect sound ready fun record member =>
      (groundedRun record member).fit).1
    have noTools : book.toolsOf start.base records = [] := by
      refine List.flatMap_eq_nil_iff.2 fun record member => ?_
      rw [unmade record member]
      rfl
    have onlyManuscripts :
        book.touchedBy start.base records ⊆ book.manuscriptPlaces start.base sources := by
      intro place member
      obtain ⟨record, recorded, touched⟩ := List.mem_flatMap.1 member
      rw [touches, unmade record recorded] at touched
      exact temporaryPlaces_subset (among record recorded) (by simpa using touched)
    have report : book.reportOn records = book.idleReport sources := by
      have decided : records = (records.map Prod.fst).map fun item => (item, false) :=
        eq_map_of_rule unmade
      rw [decided, items, reportOn_idle]
    refine ⟨done, ?_, (noTools ▸ effect).mono onlyManuscripts⟩
    rw [report]

/-- The build operation finds nothing to do where all items are settled. -/
theorem build_of_settled {chosen : Option Collection} {world : World}
    (sound : book.Sound world.runner) (punctual : world.runner.Punctual)
    (steady : book.repository.Steady world.runner (book.targetDirectory.placeFrom world.base))
    (ready : book.Ready world) (found : ((book.sourcesOr chosen).exec world).1 = .ok sources)
    (grounded : ∀ item ∈ sources.items, book.Grounded world item)
    (settled : ∀ item ∈ sources.items, book.Settled world item) :
    ∃ outcome final, (book.build chosen).exec world = (.ok outcome, final) ∧
      outcome.ok = true ∧ outcome.data = (book.idleReport sources).toData ∧
      (∃ requests, final.commands = world.commands ++ requests ∧
        ∀ request ∈ requests, request.isRequest = true) ∧
      world.files.AgreesOn (· ∉ book.manuscriptPlaces world.base sources) final.files := by
  have opening := world.kept_starting
  have moving : book.Stamps world world.starting [] := stamps_of_kept opening
  obtain ⟨answer, finish, again, kept, concludes⟩ := exec_build found
  have groundedStart := fun item member => (grounded item member).of_stamps moving
  have settledStart := fun item member =>
    (settled item member).of_stamps (grounded item member) moving steady ready
  rw [← opening.runner] at sound punctual steady
  rw [← opening.base] at steady
  obtain ⟨done, idle, effect⟩ := buildSources_idle sound punctual steady
    (ready.of_resembles moving.resembles) groundedStart settledStart
  rw [idle] at kept concludes
  have whole := (World.Effect.kept_trans opening effect).trans_kept kept
  rw [opening.base] at whole
  obtain ⟨requests, commands, tools⟩ := whole.ran
  cases concludes with
  | success ok data =>
      exact ⟨_, finish, again, ok, data, ⟨requests, commands, by simpa using tools⟩, whole.files⟩

end Idle

/-- The case of a version control that is steady for all requests. -/
theorem idle_of_steady {book : Book} {chosen : Option Collection} {sources : Collection}
    {world after : World} {outcome : Outcome} (sound : book.Sound world.runner)
    (punctual : world.runner.Punctual)
    (steady : book.repository.Steady world.runner (book.targetDirectory.placeFrom world.base))
    (found : ((book.sourcesOr chosen).exec world).1 = .ok sources)
    (grounded : ∀ item ∈ sources.items, book.Grounded (book.prepared world) item)
    (ran : (book.build chosen).exec world = (.ok outcome, after)) (ok : outcome.ok = true) :
    (∀ item ∈ sources.items,
      (Staleness.isStaleFor (sourcePath after.base item) (book.output item)).exec after =
        (.ok false, after)) ∧
    ∀ (later : Int) (anew : Option Collection), after.now ≤ later →
      ((book.sourcesOr anew).exec after).1 = .ok sources →
      ∃ again final,
        (book.build anew).exec { after with now := later } = (.ok again, final) ∧
        again.ok = true ∧ again.data = (book.idleReport sources).toData ∧
        (∃ requests, final.commands = after.commands ++ requests ∧
          ∀ request ∈ requests, request.isRequest = true) ∧
        after.files.AgreesOn (· ∉ book.manuscriptPlaces after.base sources) final.files := by
  obtain ⟨records, made, run, items, _⟩ := build_eq_ok found ran ok
  have ready := ready_prepared made
  have started := world.kept_starting
  rw [← book.runner_prepared world] at sound punctual steady
  rw [← book.base_prepared world] at steady
  have among : ∀ record ∈ records, record.1 ∈ sources.items := fun record member =>
    items ▸ List.mem_map_of_mem member
  have groundedRun := fun record member => grounded record.1 (among record member)
  have stamps := run.stamps sound punctual ready groundedRun
  have settled : ∀ item ∈ sources.items, book.Settled after item := by
    intro item member
    rw [← items] at member
    obtain ⟨record, recorded, rfl⟩ := List.mem_map.1 member
    exact run.settles sound punctual steady ready groundedRun record recorded
  have groundedAfter : ∀ item ∈ sources.items, book.Grounded after item := fun item member =>
    (grounded item member).of_stamps stamps
  have readyAfter := ready.of_resembles stamps.resembles
  rw [stamps.resembles.runner] at sound punctual steady
  rw [stamps.resembles.base] at steady
  refine ⟨fun item member => ?_, fun later anew ordered foundAgain => ?_⟩
  · rw [Staleness.exec_isStaleFor, FileStore.staleFor_of_reaches (settled item member).finds
      (settled item member).reaches]
    exact congrArg (fun current => (Except.ok current, after)) (settled item member).current
  · -- The clock moves on, which unsettles nothing.
    have waiting : book.Stamps after { after with now := later } [] :=
      ⟨⟨rfl, rfl, .refl _ _⟩, by simp, by simp, ordered⟩
    have sameFiles : ({ after with now := later } : World).files = after.files := rfl
    have looking := (book.looks_sourcesOr anew).exec_eq sameFiles rfl foundAgain
    exact build_of_settled sound punctual steady (readyAfter.of_resembles waiting.resembles)
      (congrArg Prod.fst looking)
      (fun item member => (groundedAfter item member).of_stamps waiting)
      (fun item member =>
        (settled item member).of_stamps (groundedAfter item member) waiting steady readyAfter)

/-- After a build that succeeded nothing is stale, and a build at any later time succeeds, makes
nothing, runs no tool, and changes no file but the temporary manuscripts. Version control has to be
steady for what the first build asks it. -/
theorem rebuild_is_idle {book : Book} {chosen : Option Collection} {sources : Collection}
    {asked : Request → Bool} {world after : World} {outcome : Outcome}
    (sound : book.Sound world.runner) (punctual : world.runner.Punctual)
    (steady : book.repository.SteadyFor asked world.runner
      (book.targetDirectory.placeFrom world.base))
    (asks : book.AsksOnly asked (·.build chosen) world)
    (found : ((book.sourcesOr chosen).exec world).1 = .ok sources)
    (grounded : ∀ item ∈ sources.items, book.Grounded (book.prepared world) item)
    (ran : (book.build chosen).exec world = (.ok outcome, after)) (ok : outcome.ok = true) :
    (∀ item ∈ sources.items,
      (Staleness.isStaleFor (sourcePath after.base item) (book.output item)).exec after =
        (.ok false, after)) ∧
    ∀ (later : Int) (anew : Option Collection), after.now ≤ later →
      ((book.sourcesOr anew).exec after).1 = .ok sources →
      ∃ again final,
        (book.build anew).exec { after with now := later } = (.ok again, final) ∧
        again.ok = true ∧ again.data = (book.idleReport sources).toData ∧
        (∃ requests, final.commands = after.commands ++ requests ∧
          ∀ request ∈ requests, request.isRequest = true) ∧
        after.files.AgreesOn (· ∉ book.manuscriptPlaces after.base sources) final.files := by
  obtain ⟨current, idle⟩ := idle_of_steady (sound.limitedTo asked) punctual steady.limitedTo found
    (fun item member => (grounded item member).limitedTo asked) (asks.trans ran) ok
  refine ⟨current, fun later anew ordered foundAgain => ?_⟩
  obtain ⟨again, final, rebuilt, rest⟩ := idle later anew ordered foundAgain
  exact ⟨again, final, (follows_build book anew).exec_eq rebuilt, rest⟩

set_option maxRecDepth 4000 in
/-- A second after the small project was built, with an excerpt from `git` in its fragment, there is
nothing to do. -/
theorem rebuild_is_idle_sample :
    ∃ outcome after, (gitBook.build (some sampleSources)).exec quotedWorld =
        (.ok outcome, after) ∧ outcome.ok = true ∧
      (∀ item ∈ sampleSources.items,
        (Staleness.isStaleFor (sourcePath after.base item) (gitBook.output item)).exec after =
          (.ok false, after)) ∧
      ∃ again final, (gitBook.build (some sampleSources)).exec
          { after with now := after.now + 1 } = (.ok again, final) ∧
        again.ok = true ∧ again.data = (gitBook.idleReport sampleSources).toData ∧
        (∃ requests, final.commands = after.commands ++ requests ∧
          ∀ request ∈ requests, request.isRequest = true) ∧
        after.files.AgreesOn (· ∉ gitBook.manuscriptPlaces after.base sampleSources)
          final.files := by
  have found : ((gitBook.sourcesOr (some sampleSources)).exec quotedWorld).1 =
      .ok sampleSources := rfl
  have grounded : ∀ item ∈ sampleSources.items,
      gitBook.Grounded (gitBook.prepared quotedWorld) item := by
    decide +kernel
  have succeeds : okOf ((gitBook.build (some sampleSources)).exec quotedWorld).1 = some true := by
    decide +kernel
  rcases ran : (gitBook.build (some sampleSources)).exec quotedWorld with ⟨answer, after⟩
  rw [ran] at succeeds
  obtain ⟨outcome, rfl, ok⟩ := exists_of_okOf succeeds
  obtain ⟨current, idle⟩ := rebuild_is_idle sound_gitBook
    (Runner.punctual_onBranch (Runner.punctual_scripted _)) steadyFor_gitBook asksOnly_gitBook found
    grounded ran ok
  exact ⟨outcome, after, rfl, ok, current,
    idle (after.now + 1) (some sampleSources) (Int.le_add_one (Int.le_refl _)) rfl⟩

end Book

end Bindery
