import Bindery.Proofs.Build.Plan
import Bindery.Proofs.Build.Stopping

/-!
Contract: when a build must succeed.

Owns:
- `Treatable`, an item that nothing but its tool can fail on, and that obliging tools therefore
  treat with success, whatever is demanded;
- that a run leaves the items treatable which it does not disturb, and that the items of a run that
  succeeded were treatable from its start;
- that a build of treatable sources succeeds with obliging tools, and that the sources of a build
  that succeeded are treatable.

Does not own: tools that fail (`Bindery.Proofs.Build.Failure`).
-/

namespace Bindery

open Source

namespace Book

/-! ## Items -/

/-- An item that can be treated: its source is there, its product can be written, and its manuscript
can be published. A fragment that is not overdue is not rendered, and need not be fit for it. -/
structure Treatable (book : Book) (world : World) (item : Item) : Prop where
  finds : world.files.Finds world.base (sourcePath world.base item)
  reaches : world.files.Reaches world.base (book.output item)
  free : world.files.find? (book.outputPlace world.base item) ≠ some .directory
  publishable : ((book.prepare item).exec world).1 = .ok ()
  renders : item.kind = .fragment → book.overdue world.files world.base item = true →
    ∃ written, ((book.press.publish item.path item.path.name).exec world).1 = .ok written

section Items

variable {book : Book} {demanded : Bool} {item : Item} {left right world after : World}

theorem Spares.overdue_eq (spares : book.Spares item left right) :
    book.overdue left.files left.base item = book.overdue right.files right.base item := by
  simpa [isDue, overdue] using spares.isDue_eq false

/-- What was made of a fragment was published. -/
theorem exists_publish_of_make {fragment : Path} {base : Place} {made : Bool}
    (ran : (book.make base ⟨.fragment, fragment⟩).exec world = (.ok made, after)) :
    ∃ written, ((book.press.publish fragment fragment.name).exec world).1 = .ok written := by
  obtain ⟨written, _, published, _⟩ := Action.exec_bind_eq_ok_iff.1 ran
  exact ⟨written, congrArg Prod.fst published⟩

/-- Whether a fragment that was spared can be published has not changed. -/
theorem publish_alike_of_spares {fragment : Path}
    (spares : book.Spares ⟨.fragment, fragment⟩ left right) (named : fragment.NamesFile)
    (steady : book.repository.Steady left.runner (book.targetDirectory.placeFrom left.base))
    (ready : book.Ready left) :
    Alike ((book.press.publish fragment fragment.name).exec left).1
      ((book.press.publish fragment fragment.name).exec right).1 := by
  obtain ⟨touched, resembles, inside, undisturbed⟩ := spares
  exact Press.publish_alike named.isPart_name ready.press steady resembles inside undisturbed.source

/-- An item that was treated was treatable. -/
theorem treatable_of_treat {made : Bool} (sound : book.Sound world.runner)
    (ready : book.Ready world) (fit : book.Fit world.base item)
    (free : world.files.find? (book.outputPlace world.base item) ≠ some .directory)
    (steady : book.repository.Steady world.runner (book.targetDirectory.placeFrom world.base))
    (ran : (book.treat demanded item).exec world = (.ok made, after)) :
    book.Treatable world item := by
  have treated := treat_eq_ok sound ready fit ran
  refine ⟨treated.finds, treated.reaches, free, prepared_of_treat ran, ?_⟩
  intro kind overdue
  obtain ⟨role, fragment⟩ := item
  obtain rfl : role = .fragment := kind
  have due : book.isDue demanded world.files world.base ⟨.fragment, fragment⟩ = true :=
    isDue_fragment fragment ▸ overdue
  obtain rfl : made = true := treated.due.trans due
  obtain ⟨noted, resembles, making⟩ := made_of_treat sound ready fit ran
  obtain ⟨written, published⟩ := exists_publish_of_make making
  have alike := publish_alike_of_spares (.of_temporary fit resembles) fit.named steady ready
  exact ⟨written, alike.symm.ok published⟩

/-- What spares a treatable item leaves it treatable. -/
theorem Treatable.of_spares (treatable : book.Treatable left item)
    (spares : book.Spares item left right) (named : item.path.NamesFile)
    (steady : book.repository.Steady left.runner (book.targetDirectory.placeFrom left.base))
    (ready : book.Ready left) : book.Treatable right item := by
  have overdue := spares.overdue_eq
  refine ⟨spares.finds treatable.finds, spares.reaches treatable.reaches, ?_, ?_, ?_⟩
  · obtain ⟨touched, resembles, _, _⟩ := spares
    rw [← resembles.base]
    exact fun there => treatable.free ((resembles.files.directories _).2 there)
  · obtain ⟨touched, resembles, inside, undisturbed⟩ := spares
    exact (prepare_alike steady ready named resembles inside undisturbed.source).ok
      treatable.publishable
  · intro kind late
    rw [← overdue] at late
    obtain ⟨written, published⟩ := treatable.renders kind late
    obtain ⟨role, fragment⟩ := item
    obtain rfl : role = .fragment := kind
    exact ⟨written, (publish_alike_of_spares spares named steady ready).ok published⟩

/-- A product whose tool is obliging, or which is a fragment that can be rendered, can be made. -/
theorem exists_make (sound : book.Sound world.runner) (obliging : world.runner.Obliging)
    (treatable : book.Treatable world item) (named : item.path.NamesFile)
    (overdue : item.kind = .fragment → book.overdue world.files world.base item = true) :
    ∃ after, (book.make world.base item).exec world = (.ok true, after) := by
  obtain ⟨written, writable⟩ :=
    FileStore.exists_write_of_locate world.now [] treatable.reaches treatable.free
  have tool : ∀ command, book.tools world.base item = [command] →
      ∀ logger message source report, ∃ after,
        (Action.runTool logger message source report command).exec world = (.ok true, after) := by
    intro command only logger message source report
    have member : command ∈ book.tools world.base item := by simp [only]
    exact Action.exists_runTool obliging (artifact?_of_mem_tools sound.proper named member)
      (isRequest_of_mem_tools member) writable
  obtain ⟨role, path⟩ := item
  cases role with
  | diagram => exact tool _ rfl _ _ _ _
  | document => exact tool _ rfl _ _ _ _
  | fragment =>
      obtain ⟨written, published⟩ := treatable.renders rfl (overdue rfl)
      rcases publishing : (book.press.publish path path.name).exec world with ⟨answer, after⟩
      rw [publishing] at published
      obtain rfl : answer = .ok written := published
      exact ⟨after, Action.exec_bind_of_ok publishing _⟩

/-- Obliging tools treat a treatable item with success. -/
theorem Treatable.exists_treat (treatable : book.Treatable world item)
    (sound : book.Sound world.runner) (obliging : world.runner.Obliging)
    (steady : book.repository.Steady world.runner (book.targetDirectory.placeFrom world.base))
    (ready : book.Ready world) (fit : book.Fit world.base item) (demanded : Bool) :
    ∃ made after, (book.treat demanded item).exec world = (.ok made, after) := by
  rcases preparing : (book.prepare item).exec world with ⟨answer, middle⟩
  have prepared := treatable.publishable
  rw [preparing] at prepared
  obtain rfl : answer = .ok () := prepared
  have spares := spares_of_prepare sound ready fit preparing
  obtain ⟨noted, kept, treating⟩ := exec_treat_of_prepared demanded fit.named preparing
  rw [askDue_of_reaches demanded (spares.finds treatable.finds)
    (spares.reaches treatable.reaches)] at treating
  cases due : book.isDue demanded middle.files middle.base item with
  | false =>
      rw [due] at treating
      exact ⟨false, noted, treating⟩
  | true =>
      rw [due] at treating
      have whole := spares.trans (.of_kept book item kept)
      have onward := treatable.of_spares whole fit.named steady ready
      rw [← kept.base] at treating
      have overdue : item.kind = .fragment →
          book.overdue noted.files noted.base item = true := by
        intro kind
        rw [← (Spares.of_kept book item kept).overdue_eq, ← due,
          isDue_of_not_document (by simp [kind])]
      obtain ⟨after, made⟩ :=
        exists_make (whole.runner ▸ sound) (whole.runner ▸ obliging) onward fit.named overdue
      exact ⟨true, after, treating.trans made⟩

end Items

/-! ## Runs and builds -/

section Runs

variable {book : Book} {demanded : Bool} {sources : Collection} {before after world : World}
  {records : List Record}

/-- The items of a run that succeeded were treatable at its start. -/
theorem Runs.treatable (run : book.Runs demanded before records after)
    (sound : book.Sound before.runner)
    (steady : book.repository.Steady before.runner (book.targetDirectory.placeFrom before.base))
    (ready : book.Ready before) (fit : ∀ record ∈ records, book.Fit before.base record.1)
    (independent : (records.map Prod.fst).Pairwise (book.Independent before.base))
    (free : ∀ record ∈ records,
      before.files.find? (book.outputPlace before.base record.1) ≠ some .directory) :
    ∀ record ∈ records, book.Treatable before record.1 := by
  intro record member
  obtain ⟨start, finish, spares, treated, _⟩ :=
    run.recalls sound ready fit independent record member
  have freeStart : start.files.find? (book.outputPlace start.base record.1) ≠ some .directory := by
    obtain ⟨touched, resembles, _, _⟩ := spares
    rw [← resembles.base]
    exact fun there => free record member ((resembles.files.directories _).2 there)
  have readyStart := spares.ready ready
  rw [spares.runner] at sound steady
  rw [spares.base] at steady
  exact (treatable_of_treat sound readyStart (spares.base ▸ fit record member) freeStart steady
    treated).of_spares spares.symm (fit record member).named steady readyStart

/-- A run over treatable sources does not stop. -/
theorem not_stops_of_treatable {item : Item} {fault : Fault} {rest : List Item}
    (sound : book.Sound before.runner) (obliging : before.runner.Obliging)
    (steady : book.repository.Steady before.runner (book.targetDirectory.placeFrom before.base))
    (ready : book.Ready before)
    (fit : ∀ other ∈ records.map Prod.fst ++ item :: rest, book.Fit before.base other)
    (independent : (records.map Prod.fst ++ item :: rest).Pairwise (book.Independent before.base))
    (treatable : book.Treatable before item) :
    ¬ book.Stops demanded before records item fault after := by
  rintro ⟨start, stopped, run, failed, _⟩
  have fitRun : ∀ record ∈ records, book.Fit before.base record.1 := fun record member =>
    fit record.1 (List.mem_append_left _ (List.mem_map_of_mem member))
  have here := fit item (by simp)
  rw [List.pairwise_append] at independent
  have spares : book.Spares item before start := run.spares sound ready fitRun fun record member =>
    (independent.2.2 _ (List.mem_map_of_mem member) item List.mem_cons_self).forward
  have onward := treatable.of_spares spares here.named steady ready
  have readyStart := spares.ready ready
  rw [spares.runner] at sound obliging steady
  rw [spares.base] at steady here
  obtain ⟨made, _, treated⟩ :=
    onward.exists_treat sound obliging steady readyStart here demanded
  rw [treated] at failed
  simp at failed

/-- A build of treatable sources succeeds with obliging tools. -/
theorem exists_build {chosen : Option Collection} (sound : book.Sound world.runner)
    (obliging : world.runner.Obliging)
    (steady : book.repository.Steady world.runner (book.targetDirectory.placeFrom world.base))
    (ready : book.Ready world) (found : ((book.sourcesOr chosen).exec world).1 = .ok sources)
    (named : ∀ item ∈ sources.items, item.path.NamesFile)
    (separate : book.Separate sources world.base)
    (treatable : ∀ item ∈ sources.items, book.Treatable world item) :
    ∃ outcome after, (book.build chosen).exec world = (.ok outcome, after) ∧
      outcome.ok = true := by
  have opening := world.kept_starting
  have treatableStart : ∀ item ∈ sources.items, book.Treatable world.starting item :=
    fun item member => (treatable item member).of_spares (.of_kept book item opening)
      (named item member) steady ready
  have fit := separate.fit named
  have independent := separate.independent
  have readyStart := ready.of_resembles (opening.resembles [])
  rw [← opening.runner] at sound obliging steady
  rw [← opening.base] at steady fit independent
  obtain ⟨answer, finish, ran, _, concludes⟩ := exec_build found
  rcases building : (book.buildSources sources).exec world.starting with ⟨result, done⟩
  rw [building] at concludes
  have ends := buildSources_ends building
  rcases ends.cases_of_ready readyStart with
    ⟨demanded, item, rest, fault, _, stops, items, _⟩ | ⟨rfl, _, _⟩
  · have last : item ∈ sources.items := by simp [items]
    rw [items] at fit independent
    exact absurd stops (not_stops_of_treatable sound obliging steady readyStart fit independent
      (treatableStart item last))
  · cases concludes with
    | success ok data => exact ⟨_, finish, ran, ok⟩

/-- A build of treatable sources, whose files are no directories, reports what the files before it
promise. -/
theorem exists_build_by_plan {chosen : Option Collection} (sound : book.Sound world.runner)
    (obliging : world.runner.Obliging)
    (steady : book.repository.Steady world.runner (book.targetDirectory.placeFrom world.base))
    (ready : book.Ready world) (found : ((book.sourcesOr chosen).exec world).1 = .ok sources)
    (named : ∀ item ∈ sources.items, item.path.NamesFile)
    (separate : book.Separate sources world.base)
    (plain : ∀ item ∈ sources.items, book.Plain world.base world.files item)
    (treatable : ∀ item ∈ sources.items, book.Treatable world item) :
    ∃ outcome after, (book.build chosen).exec world = (.ok outcome, after) ∧
      outcome.ok = true ∧ outcome.data = (book.plan world.files world.base sources).toData := by
  have same : (book.prepared world).files = world.files :=
    congrArg Prod.snd (FileStore.makeDirectories_of_isDirectory ready)
  obtain ⟨outcome, after, ran, ok⟩ :=
    exists_build sound obliging steady ready found named separate treatable
  have follows := decisions_of_build sound found named separate (same.symm ▸ plain) ran ok
  exact ⟨outcome, after, ran, ok, follows.1⟩

/-- The sources of a build that succeeded can be treated once the target directory is there. -/
theorem treatable_of_build {chosen : Option Collection} {outcome : Outcome}
    (sound : book.Sound world.runner)
    (steady : book.repository.Steady world.runner (book.targetDirectory.placeFrom world.base))
    (found : ((book.sourcesOr chosen).exec world).1 = .ok sources)
    (named : ∀ item ∈ sources.items, item.path.NamesFile)
    (separate : book.Separate sources world.base)
    (plain : ∀ item ∈ sources.items, book.Plain world.base (book.prepared world).files item)
    (ran : (book.build chosen).exec world = (.ok outcome, after)) (ok : outcome.ok = true) :
    world.files.makeDirectories world.base book.targetDirectory =
        (.ok (), (book.prepared world).files) ∧
      ∀ item ∈ sources.items, book.Treatable (book.prepared world) item := by
  obtain ⟨records, made, run, items, _⟩ := build_eq_ok found ran ok
  rw [← book.runner_prepared world] at sound steady
  rw [← book.base_prepared world] at steady separate plain
  have among : ∀ record ∈ records, record.1 ∈ sources.items :=
    fun record member => items ▸ List.mem_map_of_mem member
  have treatable := run.treatable sound steady (ready_prepared made)
    (fun record member => separate.fit named record.1 (among record member))
    (items.symm ▸ separate.independent)
    (fun record member => (plain record.1 (among record member)).output)
  refine ⟨made, fun item member => ?_⟩
  rw [← items] at member
  obtain ⟨record, recorded, rfl⟩ := List.mem_map.1 member
  exact treatable record recorded

end Runs

end Book

end Bindery
