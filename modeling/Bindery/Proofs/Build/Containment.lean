import Bindery.Proofs.Build.Boundary
import Bindery.Proofs.Build.Fresh
import Bindery.Proofs.World.Bounds

/-!
Contract: where an operation writes.

Owns:
- that every treatment of a source writes inside the target directory, whatever its source is called
  and whether or not it succeeds;
- `namedPlace?`, the place that a name given to an operation leads to, which may be anywhere;
- the theorem on all operations: nothing is written outside the target directory but at that place,
  where an operation that succeeds does write;
- a manuscript that is written beside the target directory.

Does not own: what is written (`Bindery.Proofs.Build.Written`).
-/

namespace Bindery

open Source

namespace Book

/-! ## Treatments -/

section Treatments

variable {book : Book} {runner : Runner} {base : Place}

/-- A place in the target directory. -/
def Inside (book : Book) (base place : Place) : Prop :=
  book.targetDirectory.placeFrom base <+: place

theorem inside_joinText (book : Book) (base : Place) {name : String} (part : Path.IsPart name)
    (down : name ≠ "..") :
    book.Inside base ((book.targetDirectory.joinText name).placeFrom base) := by
  show book.targetDirectory.placeFrom base <+: (book.targetDirectory.joinText name).placeFrom base
  rw [Path.placeFrom_joinText part, Path.descend_down down]
  exact List.prefix_append _ _

/-- A source is published inside the target directory under its own name, or not at all. -/
theorem bounded_publish_own (quiet : book.repository.WritesNothing runner base) {source : Path}
    (proper : source.IsProper) :
    Action.Bounded runner base (book.Inside base) (book.press.publish source source.name) := by
  by_cases unnamed : source.parts = [] ∨ source.name = ".."
  · exact Press.bounded_publish_of_unnamed _ unnamed
  · obtain ⟨some, down⟩ := not_or.1 unnamed
    have file : source.NamesFile := ⟨proper, some, down⟩
    exact Press.bounded_publish quiet source (book.inside_joinText base file.isPart_name down)

/-- Treating an item writes inside the target directory. -/
theorem bounded_treat (tidy : runner.Tidy) (quiet : book.repository.WritesNothing runner base)
    (target : book.targetDirectory.IsProper) (here : (Path.ofPlace base).IsProper)
    (demanded : Bool) {item : Item} (proper : item.path.IsProper) :
    Action.Bounded runner base (book.Inside base) (book.treat demanded item) := by
  obtain ⟨kind, path⟩ := item
  cases kind with
  | diagram =>
      have part : Path.IsPart (((Path.ofPlace base).join path).stem ++ ".pdf") :=
        (here.join proper).isPart_stem_append (by decide) (by decide)
      refine Action.bounded_workingDirectory ?_
      refine Action.composes_bounded.whenDue (Action.looks_isStaleFor _ _).bounded ?_
      exact Action.bounded_runTool tidy (Command.artifact?_diagram _ (target.joinText part))
        (book.inside_joinText base part (Path.stem_append_ne_up _ (by decide)))
  | fragment =>
      refine Action.composes_bounded.whenDue (Action.looks_isStaleFor _ _).bounded ?_
      exact Action.bounded_bind (bounded_publish_own quiet proper) fun _ => Action.bounded_pure _
  | document =>
      have manuscript : Path.IsPart (path.stem ++ Typesetter.temporarySuffix) :=
        Path.IsProper.isPart_stem_append proper (by decide) (by decide)
      have product : Path.IsPart (path.stem ++ ".pdf") :=
        Path.IsProper.isPart_stem_append proper (by decide) (by decide)
      have typesets : ∀ published, Action.Bounded runner base (book.Inside base)
          (.runTool Typesetter.logger "document.failed" path (Typesetter.failure path)
            (book.typesetter.command path.stem published)) := fun published =>
        Action.bounded_runTool tidy (Command.artifact?_typesetter target _ _)
          (book.inside_joinText base product (Path.stem_append_ne_up _ (by decide)))
      refine Action.bounded_bind (Press.bounded_publish quiet path
        (book.inside_joinText base manuscript (Path.stem_append_ne_up _ (by decide))))
        fun published => ?_
      cases demanded with
      | true => exact Action.composes_bounded.whenDue (Action.bounded_pure true) (typesets published)
      | false =>
          exact Action.composes_bounded.whenDue (Action.looks_isStaleFor _ _).bounded
            (typesets published)

end Treatments

/-! ## Phases and operations -/

section Parts

variable {runner : Runner} {base : Place} {allowed : Place → Prop} {output : Path → Path}
  {treat : Path → Action Bool} {sources : List Path}

theorem bounded_treatPhase (name : String)
    (treats : ∀ source ∈ sources, Action.Bounded runner base allowed (treat source)) :
    Action.Bounded runner base allowed (treatPhase name output treat sources) := by
  intro world same here standing
  obtain ⟨closed, closing, ran⟩ := exec_treatPhase name output treat sources world
  have opening := (world.kept_entering name).within allowed
  have treating : Action.Bounded runner base allowed (treatAll output treat sources) :=
    Action.composes_bounded.treatAll treats
  have inside := treating (world.entering name) (opening.runner.trans same)
    (opening.base.trans here) (opening.standing standing)
  rw [ran]
  exact opening.trans (inside.trans (closing.within allowed))

theorem bounded_settle {op : String} {note : Failure → Action Unit} {action : Action Outcome}
    (notes : ∀ failure, Action.Bounded runner base allowed (note failure))
    (bounded : Action.Bounded runner base allowed action) :
    Action.Bounded runner base allowed (settle op note action) := by
  intro world same here standing
  have inside := bounded world same here standing
  unfold settle
  rw [Action.exec_ofEffect]
  rcases ran : action.exec world with ⟨fault | outcome, after⟩
  · rw [ran] at inside
    cases reporting : reported? fault with
    | none =>
        simp only [reporting]
        exact inside
    | some failure =>
        simp only [reporting]
        have telling : Action.Bounded runner base allowed
            (note failure >>= fun _ => pure (Outcome.failed op failure)) :=
          Action.bounded_bind (notes failure) fun _ => Action.bounded_pure _
        exact inside.trans (telling after (inside.runner.trans same) (inside.base.trans here)
          (inside.standing standing))
  · rwa [ran] at inside

theorem bounded_recorded {name : String} {operation : Action Outcome} {world : World}
    (standing : world.Standing)
    (bounded : Action.Bounded world.runner world.base allowed operation) :
    World.Within allowed world ((recorded name operation).exec world).2 := by
  obtain ⟨answer, finish, ran, closing, _⟩ := exec_recorded name operation world
  have opening := (world.kept_opening name).within allowed
  have inside := bounded (world.opening name) opening.runner opening.base
    (opening.standing standing)
  rw [ran]
  exact opening.trans (inside.trans (closing.within allowed))

end Parts

/-! ## What an operation is given -/

/-- The paths that an operation is given to read. -/
def Operation.paths : Operation → List Path
  | .build (some sources) | .drawDiagrams (some sources) => sources.items.map Item.path
  | .renderManuscript source _ => [source]
  | .build none | .drawDiagrams none | .showExcerpt .. => []

/-- The place that a name given to an operation leads to from the target directory. -/
def Operation.namedPlace? (book : Book) (base : Place) : Operation → Option Place
  | .renderManuscript _ (some name) =>
      if name.isEmpty then none else some ((book.targetDirectory.joinText name).placeFrom base)
  | _ => none

/-- All paths are as paths are read, and no name in the file system holds a slash. -/
structure WellNamed (book : Book) (world : World) (operation : Operation) : Prop where
  latex : book.latexDirectory.IsProper
  graphviz : book.graphvizDirectory.IsProper
  target : book.targetDirectory.IsProper
  here : (Path.ofPlace world.base).IsProper
  stored : world.files.Slashless
  given : ∀ path ∈ operation.paths, path.IsProper

/-- Given or found, sources have paths as paths are read. -/
theorem WellNamed.isProper {book : Book} {world : World} {operation : Operation}
    {chosen : Option Collection} {sources : Collection} (named : book.WellNamed world operation)
    (treats : operation = .build chosen ∨ operation = .drawDiagrams chosen)
    (found : ((book.sourcesOr chosen).exec world).1 = .ok sources) :
    ∀ item ∈ sources.items, item.path.IsProper := by
  cases chosen with
  | none =>
      intro item member
      have found := found_of_sources named.latex named.graphviz named.stored found item member
      exact found.named.proper
  | some collection =>
      obtain rfl := Except.ok.inj found
      intro item member
      refine named.given item.path ?_
      rcases treats with rfl | rfl
      · exact List.mem_map_of_mem member
      · exact List.mem_map_of_mem member

section Operations

variable {book : Book} {world : World} {allowed : Place → Prop}

/-- An operation on sources writes what it writes for the sources that it is given or finds. -/
theorem bounded_of_sources {name : String} {chosen : Option Collection}
    {treat : Collection → Action Outcome} (standing : world.Standing)
    (treats : ∀ sources, ((book.sourcesOr chosen).exec world).1 = .ok sources →
      Action.Bounded world.runner world.base allowed (treat sources)) :
    World.Within allowed world
      ((recorded name (book.sourcesOr chosen >>= treat)).exec world).2 := by
  have looks := book.looks_sourcesOr chosen
  obtain ⟨answer, finish, ran, closing, _⟩ :=
    exec_recorded name (book.sourcesOr chosen >>= treat) world
  have opened := world.kept_opening name
  have opening := opened.within allowed
  rw [ran]
  refine opening.trans (.trans ?_ (closing.within allowed))
  cases found : ((book.sourcesOr chosen).exec world).1 with
  | error fault =>
      rw [Action.exec_bind_of_error (looks.exec_of_answer opened.files opened.base found)]
      exact .refl _
  | ok sources =>
      rw [Action.exec_bind_of_ok (looks.exec_eq opened.files opened.base found)]
      exact treats sources found _ opened.runner opened.base (opening.standing standing)

theorem bounded_forgetMissing {runner : Runner} {base : Place} :
    Action.Bounded runner base allowed Excerpt.forgetMissing :=
  fun _ _ _ _ => .of_files rfl rfl rfl rfl

theorem bounded_warnings {runner : Runner} {base : Place} :
    Action.Bounded runner base allowed warnings :=
  (Action.readOnly_observe _).bounded

theorem bounded_excerptLines {runner : Runner} {base : Place}
    (quiet : book.repository.WritesNothing runner base) (location : String)
    (name : Option String) :
    Action.Bounded runner base (fun _ => False) (book.excerptLines location name) := by
  have inherited := inherited_bounded runner base fun _ => False
  unfold excerptLines
  repeat' split
  · exact inherited.lines quiet location
  · exact inherited.sectionLines quiet location _
  · exact inherited.lines quiet location

theorem bounded_buildSources {runner : Runner} {base : Place} {sources : Collection}
    (treats : ∀ demanded, ∀ item ∈ sources.items,
      Action.Bounded runner base allowed (book.treat demanded item)) :
    Action.Bounded runner base allowed (book.buildSources sources) := by
  have phases : ∀ (name : String) (kind : Kind) (demanded : Bool) (paths : List Path),
      (∀ path ∈ paths, (⟨kind, path⟩ : Item) ∈ sources.items) →
      Action.Bounded runner base allowed (treatPhase name (fun path => book.output ⟨kind, path⟩)
        (fun path => book.treat demanded ⟨kind, path⟩) paths) :=
    fun name kind demanded paths among => bounded_treatPhase name fun path member =>
      treats demanded ⟨kind, path⟩ (among path member)
  refine Action.bounded_bind (Action.bounded_makeDirectories _) fun _ => ?_
  refine Action.bounded_bind (phases _ .diagram false _ ?_) fun diagrams => ?_
  · exact fun path member => by simp [Collection.items, member]
  refine Action.bounded_bind (phases _ .fragment false _ ?_) fun fragments => ?_
  · exact fun path member => by simp [Collection.items, member]
  refine Action.bounded_bind (Action.bounded_log _ _ _ _) fun _ => ?_
  refine Action.bounded_bind (phases _ .document _ _ ?_) fun documents => Action.bounded_pure _
  exact fun path member => by simp [Collection.items, member]

/-- No operation writes anywhere but in the target directory and where its own name leads. -/
theorem within_perform {operation : Operation} (named : book.WellNamed world operation)
    (standing : world.Standing) (tidy : world.runner.Tidy)
    (quiet : book.repository.WritesNothing world.runner world.base) :
    World.Within
      (fun place => book.Inside world.base place ∨
        operation.namedPlace? book world.base = some place)
      world ((book.perform operation).exec world).2 := by
  have treats : ∀ demanded {item : Item}, item.path.IsProper →
      Action.Bounded world.runner world.base (fun place => book.Inside world.base place ∨
        operation.namedPlace? book world.base = some place) (book.treat demanded item) :=
    fun demanded _ proper =>
      (bounded_treat tidy quiet named.target named.here demanded proper).mono fun _ => .inl
  cases operation with
  | build chosen =>
      refine bounded_of_sources standing fun sources found => ?_
      have proper := named.isProper (.inl rfl) found
      refine Action.bounded_bind bounded_forgetMissing fun _ => ?_
      refine bounded_settle (fun _ => Action.bounded_log _ _ _ _) ?_
      refine Action.bounded_bind (bounded_buildSources fun demanded item member =>
        treats demanded (proper item member)) fun report => ?_
      exact Action.bounded_bind bounded_warnings fun _ => Action.bounded_pure _
  | drawDiagrams chosen =>
      refine bounded_of_sources standing fun sources found => ?_
      have proper := named.isProper (.inr rfl) found
      refine bounded_settle (fun _ => Action.bounded_pure ()) ?_
      refine Action.bounded_bind (Action.bounded_makeDirectories _) fun _ => ?_
      refine Action.bounded_bind (Action.composes_bounded.treatAll fun path member =>
        treats false (proper ⟨.diagram, path⟩ (by simp [Collection.items, member]))) fun _ => ?_
      exact Action.bounded_pure _
  | renderManuscript source name =>
      refine bounded_recorded standing ?_
      refine Action.bounded_bind bounded_forgetMissing fun _ => ?_
      refine bounded_settle (fun _ => Action.bounded_pure ()) ?_
      refine Action.bounded_bind ?_ fun written =>
        Action.bounded_bind bounded_warnings fun _ => Action.bounded_pure _
      have own := bounded_publish_own quiet (named.given source (by simp [Operation.paths]))
      cases name with
      | none => exact own.mono fun _ => .inl
      | some text =>
          by_cases empty : text.isEmpty = true
          · simp only [empty]
            exact own.mono fun _ => .inl
          · simp only [empty]
            exact Press.bounded_publish quiet source (.inr (by
              simp only [Operation.namedPlace?, empty]
              rfl))
  | showExcerpt location name =>
      have shows : Action.Bounded world.runner world.base (fun _ => False)
          (book.showExcerpt location name) := by
        refine Action.bounded_bind bounded_forgetMissing fun _ => ?_
        refine bounded_settle (fun _ => Action.bounded_pure ()) ?_
        refine Action.bounded_bind (bounded_excerptLines quiet location name) fun lines => ?_
        exact Action.bounded_bind bounded_warnings fun _ => Action.bounded_pure _
      exact (shows world rfl rfl standing).mono fun _ => False.elim

end Operations

/-! ## The theorem -/

/-- A manuscript that was published is there, written at that second. -/
theorem exists_file_of_publish {book : Book} {world after : World} {source written : Path}
    {name : String} (standing : world.Standing)
    (quiet : book.repository.WritesNothing world.runner world.base)
    (ran : (book.press.publish source name).exec world = (.ok written, after)) :
    ∃ file, after.files.fileAt ((book.targetDirectory.joinText name).placeFrom world.base) =
      some file ∧ file.modified = world.now := by
  obtain ⟨text, first, reading, rendering⟩ := Action.exec_bind_eq_ok_iff.1 ran
  obtain ⟨rendered, second, renders, writing⟩ := Action.exec_bind_eq_ok_iff.1 rendering
  obtain ⟨path, third, writes, logging⟩ := Action.exec_bind_eq_ok_iff.1 writing
  obtain ⟨_, ready, makes, filling⟩ := Action.exec_bind_eq_ok_iff.1 writes
  obtain ⟨_, filled, fills, done⟩ := Action.exec_bind_eq_ok_iff.1 filling
  rw [Action.exec_readText] at reading
  obtain ⟨_, rfl⟩ := Prod.mk.inj reading
  -- Nothing that happens before the manuscript is written moves the clock or the working directory.
  have rendering : World.Within (fun _ => False) world second :=
    (Press.bounded_render quiet text).keeps standing renders
  have making : World.Within (fun _ => False) second ready :=
    (Action.bounded_makeDirectories _).keeps (rendering.standing standing) makes
  have before := rendering.trans making
  rw [Action.writeFile, Action.exec_ofEffect] at fills
  split at fills
  · rename_i files wrote
    obtain ⟨_, rfl⟩ := Prod.mk.inj fills
    obtain ⟨_, rfl⟩ := Prod.mk.inj done
    obtain ⟨_, rfl⟩ := Prod.mk.inj logging
    obtain ⟨_, file, found, _, time⟩ := FileStore.write_eq_ok wrote
    rw [before.base] at found
    rw [before.now] at time
    exact ⟨file, FileStore.fileAt_of_find? found, time⟩
  · simp at fills

/-- A manuscript that was rendered under a given name is where the name leads. -/
theorem exists_file_of_namedPlace {book : Book} {world after : World} {source : Path}
    {name : Option String} {outcome : Outcome} {place : Place} (standing : world.Standing)
    (quiet : book.repository.WritesNothing world.runner world.base)
    (ran : (book.renderManuscript source name).exec world = (.ok outcome, after))
    (ok : outcome.ok = true)
    (leads : (Operation.renderManuscript source name).namedPlace? book world.base = some place) :
    ∃ file, after.files.fileAt place = some file ∧ file.modified = world.now := by
  obtain ⟨opened, told, inside, opening, acted, okTold, closing⟩ := acted_of_recorded ran ok
  have forgets : Excerpt.forgetMissing.exec opened = (.ok (), { opened with missing := [] }) := rfl
  rw [Action.exec_bind_of_ok forgets] at acted
  obtain ⟨written, finish, published, done⟩ :=
    Action.exec_bind_eq_ok_iff.1 (settle_eq_ok acted okTold)
  obtain ⟨_, rfl⟩ := Prod.mk.inj done
  have start : World.Within (fun _ => False) world { opened with missing := [] } :=
    .of_files opening.now opening.base opening.runner opening.files
  rw [← start.runner, ← start.base] at quiet
  rw [closing.files, ← start.now]
  cases name with
  | none => contradiction
  | some text =>
      by_cases empty : text.isEmpty = true
      · simp [Operation.namedPlace?, empty] at leads
      · simp only [empty] at published
        simp only [Operation.namedPlace?, empty] at leads
        obtain rfl := Option.some.inj leads
        rw [← start.base]
        exact exists_file_of_publish (start.standing standing) quiet published

/-- Of all that an operation changes or creates, whatever becomes of it, every file lies inside the
target directory or is the one that the operation was given a name for. A name is followed to
wherever it leads: if the operation succeeds, that file has been written. -/
theorem perform_writes {book : Book} {operation : Operation} {world after : World}
    {answer : Except Fault Outcome} (named : book.WellNamed world operation)
    (standing : world.Standing) (tidy : world.runner.Tidy)
    (quiet : book.repository.WritesNothing world.runner world.base)
    (ran : (book.perform operation).exec world = (answer, after)) :
    (∀ place, after.files.fileAt place ≠ world.files.fileAt place →
      book.Inside world.base place ∨ operation.namedPlace? book world.base = some place) ∧
    ∀ outcome place, answer = .ok outcome → outcome.ok = true →
      operation.namedPlace? book world.base = some place →
      ∃ file, after.files.fileAt place = some file ∧ file.modified = world.now := by
  have within := within_perform named standing tidy quiet
  rw [ran] at within
  refine ⟨fun place changed => ?_, ?_⟩
  · by_contra outside
    exact changed (within.files place outside)
  · rintro outcome place rfl succeeded leads
    cases operation with
    | renderManuscript source name =>
        exact exists_file_of_namedPlace standing quiet ran succeeded leads
    | build | drawDiagrams | showExcerpt => contradiction

/-! ## A manuscript beside the target directory -/

/-- The call that renders the fragment of the small project under a name that leads up. -/
def strayOperation : Operation :=
  .renderManuscript (.ofPlace ["tex", "b.tex"]) (some "../b.tex")

theorem perform_writes_stray :
    ∃ outcome after, (sampleBook.perform strayOperation).exec writtenWorld = (.ok outcome, after) ∧
      outcome.ok = true ∧
      (∀ place, after.files.fileAt place ≠ writtenWorld.files.fileAt place →
        sampleBook.Inside [] place ∨ strayOperation.namedPlace? sampleBook [] = some place) ∧
      ∃ file, after.files.fileAt ["b.tex"] = some file ∧ file.modified = writtenWorld.now := by
  have named : sampleBook.WellNamed writtenWorld strayOperation :=
    ⟨by decide, by decide, by decide, by decide, by decide, by decide⟩
  have standing : writtenWorld.Standing :=
    ⟨by decide, fun above before different => absurd (List.prefix_nil.1 before) different⟩
  have succeeds : okOf ((sampleBook.perform strayOperation).exec writtenWorld).1 = some true := by
    decide +kernel
  rcases ran : (sampleBook.perform strayOperation).exec writtenWorld with ⟨answer, after⟩
  rw [ran] at succeeds
  obtain ⟨outcome, rfl, ok⟩ := exists_of_okOf succeeds
  obtain ⟨confined, written⟩ := perform_writes named standing (Runner.tidy_scripted _)
    (sound_sampleBook _).reads.writesNothing ran
  have leads : strayOperation.namedPlace? sampleBook [] = some ["b.tex"] := by decide +kernel
  exact ⟨outcome, after, rfl, ok, confined, written outcome ["b.tex"] rfl ok leads⟩

/-- That call succeeds and creates a file beside the target directory. -/
theorem stray_manuscript :
    okOf ((sampleBook.perform strayOperation).exec writtenWorld).1 = some true ∧
      (((sampleBook.perform strayOperation).exec writtenWorld).2.files.fileAt ["b.tex"]).isSome =
        true ∧
      writtenWorld.files.fileAt ["b.tex"] = none ∧
      ¬ sampleBook.Inside writtenWorld.base ["b.tex"] :=
  ⟨by decide +kernel, by decide +kernel, by decide +kernel, by
    show ¬ sampleBook.targetDirectory.placeFrom writtenWorld.base <+: ["b.tex"]
    decide +kernel⟩

end Book

end Bindery
