import Bindery.Proofs.Build.Item
import Bindery.Proofs.Press.Publishing

/-!
Contract: what treating one item of a build does.

Owns:
- `treat`, the three treatments as one function of the item, and `make`, the part of it that makes
  a product which is due;
- the equations of a treatment: publish the manuscript of a document, ask whether the product is
  due, and make it;
- `treat_eq_ok`, the whole footprint of a treatment that succeeds, and `confined_treat`, what one
  can change that does not.

Does not own: several items one after another (`Bindery.Proofs.Build.Phases`).
-/

namespace Bindery

open Source

namespace Book

/-- What a build relies on: a target directory as paths are read, tools that write nothing but the
artifacts of their commands, and a version control that only answers. -/
structure Sound (book : Book) (runner : Runner) : Prop where
  proper : book.targetDirectory.IsProper
  tidy : runner.Tidy
  reads : book.repository.ReadOnly runner

theorem Sound.press {book : Book} {runner : Runner} (sound : book.Sound runner) :
    book.press.repository.ReadOnly runner :=
  sound.reads

theorem Sound.limitedTo {book : Book} {runner : Runner} (sound : book.Sound runner)
    (asked : Request → Bool) : (book.limitedTo asked).Sound runner :=
  ⟨sound.proper, sound.tidy, sound.reads.limitedTo asked⟩

/-- The target directory is there. -/
def Ready (book : Book) (world : World) : Prop :=
  world.files.isDirectory world.base book.targetDirectory = .ok true

theorem Ready.press {book : Book} {world : World} (ready : book.Ready world) :
    world.files.isDirectory world.base book.press.targetDirectory = .ok true :=
  ready

theorem Ready.of_resembles {book : Book} {left right : World} {touched : List Place}
    (ready : book.Ready left) (resembles : World.Resembles touched left right) :
    book.Ready right := by
  have there := FileStore.isDirectory_of_agreesOn resembles.files ready
  rwa [resembles.base] at there

/-! ## The treatment of an item -/

/-- Treats an item; only documents are made on demand. -/
def treat (book : Book) (demanded : Bool) (item : Item) : Action Bool :=
  match item.kind with
  | .diagram => Diagram.render book.targetDirectory item.path
  | .fragment => book.press.refreshFragment item.path
  | .document => book.typesetter.typeset item.path demanded

/-- Only documents look at the demand. -/
theorem treat_of_not_document (book : Book) {item : Item} (kind : item.kind ≠ .document)
    (demanded other : Bool) : book.treat demanded item = book.treat other item := by
  obtain ⟨role, path⟩ := item
  cases role with
  | document => exact absurd rfl kind
  | diagram => rfl
  | fragment => rfl

/-- Publishes what a tool needs besides the item: the manuscript of a document. -/
def prepare (book : Book) (item : Item) : Action Unit :=
  match item.kind with
  | .diagram | .fragment => pure ()
  | .document => do
      let _ ← book.press.publish item.path (item.path.stem ++ Typesetter.temporarySuffix)

def askDue (book : Book) (demanded : Bool) (store : FileStore) (base : Place) (item : Item) :
    Except Fault Bool :=
  if item.kind = .document && demanded then .ok true
  else store.staleFor base (sourcePath base item) (book.output item)

def make (book : Book) (base : Place) (item : Item) : Action Bool :=
  match item.kind with
  | .diagram =>
      .runTool Diagram.logger "diagram.failed" (sourcePath base item)
        (Diagram.failure (sourcePath base item))
        (Diagram.command (sourcePath base item) (book.output item))
  | .fragment => do
      let _ ← book.press.publish item.path item.path.name
      return true
  | .document =>
      .runTool Typesetter.logger "document.failed" item.path (Typesetter.failure item.path)
        (book.typesetter.command item.path.stem (book.manuscript item.path))

section Equations

variable {book : Book} {item : Item} {world middle : World}

theorem exec_treat_of_unprepared (demanded : Bool) {fault : Fault}
    (failed : (book.prepare item).exec world = (.error fault, middle)) :
    (book.treat demanded item).exec world = (.error fault, middle) := by
  obtain ⟨kind, path⟩ := item
  cases kind with
  | diagram => simp [prepare] at failed
  | fragment => simp [prepare] at failed
  | document =>
      rcases Action.exec_bind_eq_error_iff.1 failed with failing | ⟨_, _, _, done⟩
      · exact Action.exec_bind_of_error failing _
      · simp at done

/-- A treatment that is prepared asks whether the product is due, and makes it then. -/
theorem exec_treat_of_prepared (demanded : Bool) (file : item.path.NamesFile)
    (prepared : (book.prepare item).exec world = (.ok (), middle)) :
    ∃ noted, World.Kept middle noted ∧
      (book.treat demanded item).exec world =
        match book.askDue demanded middle.files middle.base item with
        | .error fault => (.error fault, middle)
        | .ok true => (book.make middle.base item).exec noted
        | .ok false => (.ok false, noted) := by
  obtain ⟨kind, path⟩ := item
  cases kind with
  | diagram =>
      obtain ⟨_, rfl⟩ := Prod.mk.inj prepared
      have target : Diagram.target book.targetDirectory ((Path.ofPlace world.base).join path) =
          Diagram.target book.targetDirectory path := by
        rw [Diagram.target, Path.stem_join file.named, Diagram.target]
      have asked : (Staleness.isStaleFor ((Path.ofPlace world.base).join path)
            (Diagram.target book.targetDirectory path)).exec world =
          (book.askDue demanded world.files world.base ⟨.diagram, path⟩, world) :=
        Staleness.exec_isStaleFor _ _ world
      have here : Action.workingDirectory.exec world = (.ok (.ofPlace world.base), world) := rfl
      simp only [treat, Diagram.render]
      rw [Action.exec_bind_of_ok here, target]
      exact Action.exec_whenDue asked
  | fragment =>
      obtain ⟨_, rfl⟩ := Prod.mk.inj prepared
      have asked : (Staleness.isStaleFor path (book.press.fragmentPath path)).exec world =
          (book.askDue demanded world.files world.base ⟨.fragment, path⟩, world) :=
        Staleness.exec_isStaleFor _ _ world
      exact Action.exec_whenDue asked
  | document =>
      obtain ⟨written, published, publishing, done⟩ := Action.exec_bind_eq_ok_iff.1 prepared
      obtain ⟨_, rfl⟩ := Prod.mk.inj done
      obtain rfl := Press.eq_of_publish publishing
      simp only [treat, Typesetter.typeset]
      cases demanded with
      | true =>
          have asked : (pure true : Action Bool).exec published =
              (book.askDue true published.files published.base ⟨.document, path⟩, published) := rfl
          obtain ⟨noted, kept, ran⟩ := Action.exec_whenDue asked
          exact ⟨noted, kept, (Action.exec_bind_of_ok publishing _).trans ran⟩
      | false =>
          have asked : (Staleness.isStaleFor path (book.typesetter.target path)).exec published =
              (book.askDue false published.files published.base ⟨.document, path⟩, published) :=
            Staleness.exec_isStaleFor _ _ published
          obtain ⟨noted, kept, ran⟩ := Action.exec_whenDue asked
          exact ⟨noted, kept, (Action.exec_bind_of_ok publishing _).trans ran⟩

/-- A treatment that succeeds has been prepared. -/
theorem prepared_of_treat {demanded made : Bool}
    (ran : (book.treat demanded item).exec world = (.ok made, middle)) :
    ((book.prepare item).exec world).1 = .ok () := by
  rcases preparing : (book.prepare item).exec world with ⟨fault | _, published⟩
  · rw [exec_treat_of_unprepared demanded preparing] at ran
    simp at ran
  · rfl

/-- Where its source is there and its path is in reach, a product is due by its decision. -/
theorem askDue_of_reaches (demanded : Bool) {store : FileStore} {base : Place}
    (finds : store.Finds base (sourcePath base item)) (reaches : store.Reaches base (book.output item)) :
    book.askDue demanded store base item = .ok (book.isDue demanded store base item) := by
  rw [askDue, isDue, FileStore.staleFor_of_reaches finds reaches]
  split
  · rename_i asked
    rw [asked, Bool.true_or]
  · rename_i unasked
    rw [Bool.eq_false_iff.2 unasked, Bool.false_or]
    rfl

end Equations

/-! ## What a treatment does -/

/-- All that treating an item has done when it succeeded. -/
structure Treated (book : Book) (demanded : Bool) (item : Item) (made : Bool)
    (before after : World) : Prop where
  due : made = book.isDue demanded before.files before.base item
  effect : World.Effect before after (book.touches before.base item made)
    (if made then book.tools before.base item else [])
  finds : before.files.Finds before.base (sourcePath before.base item)
  reaches : before.files.Reaches before.base (book.output item)
  stamped : before.runner.Punctual → ∀ place ∈ book.touches before.base item made,
    after.files.timeAt place = some before.now

section Success

variable {book : Book} {item : Item} {world after : World}

theorem isRequest_of_mem_tools {base : Place} {command : Command}
    (member : command ∈ book.tools base item) : command.isRequest = false := by
  obtain ⟨kind, path⟩ := item
  cases kind with
  | fragment => simp [tools] at member
  | diagram =>
      simp only [tools, List.mem_singleton] at member
      simp [member, Diagram.command, Command.isRequest]
  | document =>
      simp only [tools, List.mem_singleton] at member
      simp [member, Typesetter.command, Command.isRequest]

/-- The command that makes a product names it. -/
theorem artifact?_of_mem_tools (proper : book.targetDirectory.IsProper)
    (file : item.path.NamesFile) {base : Place} {command : Command}
    (member : command ∈ book.tools base item) : command.artifact? = some (book.output item) := by
  obtain ⟨kind, path⟩ := item
  cases kind with
  | fragment => simp [tools] at member
  | diagram =>
      simp only [tools, List.mem_singleton] at member
      rw [member]
      exact Command.artifact?_diagram _ (isProper_output proper file)
  | document =>
      simp only [tools, List.mem_singleton] at member
      rw [member]
      exact Command.artifact?_typesetter proper _ _

theorem prepare_eq_ok (sound : book.Sound world.runner) (ready : book.Ready world)
    (file : item.path.NamesFile) (prepared : (book.prepare item).exec world = (.ok (), after)) :
    World.Effect world after (book.temporaryPlaces world.base item) [] ∧
      (item.kind = .document → world.files.Finds world.base (sourcePath world.base item) ∧
        world.files.Reaches world.base (book.manuscript item.path)) ∧
      ∀ place ∈ book.temporaryPlaces world.base item,
        after.files.timeAt place = some world.now := by
  obtain ⟨kind, path⟩ := item
  cases kind with
  | diagram =>
      obtain ⟨_, rfl⟩ := Prod.mk.inj prepared
      exact ⟨(World.Kept.refl world).effect, by simp, by simp [temporaryPlaces]⟩
  | fragment =>
      obtain ⟨_, rfl⟩ := Prod.mk.inj prepared
      exact ⟨(World.Kept.refl world).effect, by simp, by simp [temporaryPlaces]⟩
  | document =>
      obtain ⟨written, middle, publishing, done⟩ := Action.exec_bind_eq_ok_iff.1 prepared
      obtain ⟨_, rfl⟩ := Prod.mk.inj done
      have published :=
        Press.publish_eq_ok ready.press (isPart_manuscriptName file) sound.press publishing
      refine ⟨published.effect, fun _ => ⟨published.finds, published.reaches⟩, ?_⟩
      intro place member
      simp only [temporaryPlaces, List.mem_singleton] at member
      rw [member]
      exact published.stamped

/-- Making a product that succeeds has written it, and nothing else. -/
theorem make_eq_ok (sound : book.Sound world.runner) (ready : book.Ready world)
    (file : item.path.NamesFile) {made : Bool}
    (ran : (book.make world.base item).exec world = (.ok made, after)) :
    made = true ∧ World.Effect world after [book.outputPlace world.base item]
        (book.tools world.base item) ∧
      (world.runner.Punctual →
        after.files.timeAt (book.outputPlace world.base item) = some world.now) := by
  have tool : ∀ command, book.tools world.base item = [command] →
      ∀ logger message source report,
        (Action.runTool logger message source report command).exec world = (.ok made, after) →
        made = true ∧ World.Effect world after [book.outputPlace world.base item]
            (book.tools world.base item) ∧
          (world.runner.Punctual →
            after.files.timeAt (book.outputPlace world.base item) = some world.now) := by
    intro command only logger message source report running
    have member : command ∈ book.tools world.base item := by simp [only]
    obtain ⟨yes, effect, punctual⟩ := Action.runTool_eq_ok sound.tidy
      (artifact?_of_mem_tools sound.proper file member) (isRequest_of_mem_tools member) running
    refine ⟨yes, only ▸ effect, fun inTime => ?_⟩
    obtain ⟨written, found, time⟩ := punctual inTime
    simpa [FileStore.timeAt, outputPlace, found, Node.modified] using time
  obtain ⟨kind, path⟩ := item
  cases kind with
  | diagram => exact tool _ rfl _ _ _ _ ran
  | document => exact tool _ rfl _ _ _ _ ran
  | fragment =>
      obtain ⟨written, middle, publishing, done⟩ := Action.exec_bind_eq_ok_iff.1 ran
      obtain ⟨same, rfl⟩ := Prod.mk.inj done
      have published := Press.publish_eq_ok ready.press file.isPart_name sound.press publishing
      exact ⟨(Except.ok.inj same).symm, published.effect, fun _ => published.stamped⟩

/-- Whether a product is due is answered where its source is there and its path is in reach. -/
theorem askDue_eq_ok {store : FileStore} {base : Place} {demanded due : Bool}
    (there : store.isDirectory base book.targetDirectory = .ok true) (file : item.path.NamesFile)
    (document : item.kind = .document → store.Finds base (sourcePath base item) ∧
      store.Reaches base (book.manuscript item.path))
    (answered : book.askDue demanded store base item = .ok due) :
    due = book.isDue demanded store base item ∧ store.Finds base (sourcePath base item) ∧
      store.Reaches base (book.output item) := by
  have clean : (sourcePath base item).hasNull = false → (book.output item).hasNull = false := by
    obtain ⟨located, _⟩ := FileStore.locate_of_status (FileStore.isDirectory_eq_true_iff.1 there)
    exact hasNull_output file (FileStore.walk_of_locate located).1
  unfold askDue at answered
  unfold isDue
  split at answered
  · rename_i asked
    obtain rfl := Except.ok.inj answered
    obtain ⟨kind, _⟩ : item.kind = .document ∧ demanded = true := by simpa using asked
    obtain ⟨finds, reaches⟩ := document kind
    refine ⟨by simp [asked], finds, ?_⟩
    rw [output_eq] at clean ⊢
    refine FileStore.locate_joinText_of_le there (isPart_outputName file)
      (isPart_manuscriptName file) (clean finds.reaches.clean)
      (Path.stem_append_ne_up _ (by decide)) ?_ reaches
    simp only [outputName, kind, String.utf8ByteSize_append]
    have shorter : ".pdf".utf8ByteSize ≤ Typesetter.temporarySuffix.utf8ByteSize := by decide
    omega
  · rename_i unasked
    rw [output_eq] at answered clean ⊢
    obtain ⟨finds, reaches, decided⟩ :=
      FileStore.reaches_of_staleFor there (isPart_outputName file) clean answered
    refine ⟨?_, finds, reaches⟩
    rw [decided, outputPlace, output_eq]
    simp [unasked, sourcePlace]

/-- What a prepared treatment answers to whether its product is due is the decision on the files
that it began with. -/
theorem due_of_prepared {demanded due : Bool} (sound : book.Sound world.runner)
    (ready : book.Ready world) (fit : book.Fit world.base item)
    (prepared : (book.prepare item).exec world = (.ok (), after))
    (asked : book.askDue demanded after.files after.base item = .ok due) :
    due = book.isDue demanded world.files world.base item ∧
      world.files.Finds world.base (sourcePath world.base item) ∧
      world.files.Reaches world.base (book.output item) := by
  obtain ⟨effect, document, _⟩ := prepare_eq_ok sound ready fit.named prepared
  have undisturbed := fit.undisturbed
  have documentAfter : item.kind = .document →
      after.files.Finds after.base (sourcePath after.base item) ∧
        after.files.Reaches after.base (book.manuscript item.path) := by
    intro kind
    obtain ⟨finds, reaches⟩ := document kind
    rw [effect.base]
    exact ⟨finds.of_agreesOn effect.files undisturbed.source, reaches.of_agreesOn effect.files⟩
  obtain ⟨decided, finds, reaches⟩ :=
    askDue_eq_ok (Ready.of_resembles ready effect.resembles) fit.named documentAfter asked
  rw [effect.base] at decided finds reaches
  rw [← isDue_congr effect.files undisturbed] at decided
  exact ⟨decided, finds.of_agreesOn effect.files.symm undisturbed.source,
    reaches.of_agreesOn effect.files.symm⟩

/-- The footprint of a treatment that succeeds. -/
theorem treat_eq_ok {demanded made : Bool} (sound : book.Sound world.runner)
    (ready : book.Ready world) (fit : book.Fit world.base item)
    (ran : (book.treat demanded item).exec world = (.ok made, after)) :
    book.Treated demanded item made world after := by
  rcases preparing : (book.prepare item).exec world with ⟨fault | _, middle⟩
  · rw [exec_treat_of_unprepared demanded preparing] at ran
    simp at ran
  obtain ⟨prepared, _, stamped⟩ := prepare_eq_ok sound ready fit.named preparing
  obtain ⟨noted, kept, treating⟩ := exec_treat_of_prepared demanded fit.named preparing
  rw [treating] at ran
  cases asked : book.askDue demanded middle.files middle.base item with
  | error fault =>
      rw [asked] at ran
      simp at ran
  | ok due =>
      obtain ⟨decided, finds, reaches⟩ := due_of_prepared sound ready fit preparing asked
      cases due with
      | false =>
          rw [asked] at ran
          obtain ⟨same, rfl⟩ := Prod.mk.inj ran
          obtain rfl := Except.ok.inj same
          refine ⟨decided, ?_, finds, reaches, fun _ place member => ?_⟩
          · simpa [touches] using prepared.trans_kept kept
          · rw [kept.files]
            exact stamped place (by simpa [touches] using member)
      | true =>
          have start := prepared.trans_kept kept
          have making : (book.make noted.base item).exec noted = (.ok made, after) := by
            rw [kept.base]
            simpa only [asked] using ran
          obtain ⟨yes, effect, punctual⟩ := make_eq_ok (by rw [start.runner]; exact sound)
            (ready.of_resembles start.resembles) fit.named making
          rw [start.base] at effect punctual
          rw [start.runner, start.now] at punctual
          subst yes
          refine ⟨decided, ?_, finds, reaches, fun inTime place member => ?_⟩
          · simpa [touches] using start.trans effect
          · rcases List.mem_append.1 member with temporary | product
            · have outside : place ∉ [book.outputPlace world.base item] := by
                rintro (_ | ⟨_, ⟨⟩⟩)
                exact fit.undisturbed.output temporary
              rw [FileStore.timeAt, ← effect.files.nodes place outside, kept.files]
              exact stamped place temporary
            · simp only [if_true, List.mem_singleton] at product
              rw [product]
              exact punctual inTime

/-- A treatment changes nothing but its product and its manuscript, whether or not it fails. -/
theorem confined_treat {runner : Runner} {base : Place} (sound : book.Sound runner)
    (file : item.path.NamesFile) (demanded : Bool) :
    Action.Confined runner base book.targetDirectory (book.touches base item true)
      (book.treat demanded item) := by
  have preparing : Action.Confined runner base book.targetDirectory
      (book.touches base item true) (book.prepare item) := by
    obtain ⟨kind, path⟩ := item
    cases kind with
    | diagram => exact Action.ReadOnly.confined (Action.readOnly_pure ())
    | fragment => exact Action.ReadOnly.confined (Action.readOnly_pure ())
    | document =>
        refine Action.confined_bind ?_ fun _ => Action.ReadOnly.confined (Action.readOnly_pure ())
        exact (Press.confined_publish (isPart_manuscriptName file) sound.press path).mono
          (List.subset_append_left _ _)
  have making : Action.Confined runner base book.targetDirectory
      (book.touches base item true) (book.make base item) := by
    refine Action.Confined.mono ?_ (List.subset_append_right _ _)
    obtain ⟨kind, path⟩ := item
    have tool : ∀ command, book.tools base ⟨kind, path⟩ = [command] → ∀ logger message source report,
        Action.Confined runner base book.targetDirectory [book.outputPlace base ⟨kind, path⟩]
          (Action.runTool logger message source report command) := by
      intro command only logger message source report
      have member : command ∈ book.tools base ⟨kind, path⟩ := by simp [only]
      exact Action.confined_runTool sound.tidy (artifact?_of_mem_tools sound.proper file member)
        (isRequest_of_mem_tools member)
    cases kind with
    | diagram => exact tool _ rfl _ _ _ _
    | document => exact tool _ rfl _ _ _ _
    | fragment =>
        refine Action.confined_bind ?_ fun _ => Action.ReadOnly.confined (Action.readOnly_pure true)
        exact Press.confined_publish file.isPart_name sound.press path
  intro world same here there
  subst same here
  have started := preparing world rfl rfl there
  rcases prepared : (book.prepare item).exec world with ⟨fault | _, middle⟩
  · rw [prepared] at started
    rwa [exec_treat_of_unprepared demanded prepared]
  · rw [prepared] at started
    obtain ⟨noted, kept, treating⟩ := exec_treat_of_prepared demanded file prepared
    have onward := started.trans (kept.resembles _)
    have readyNoted := Ready.of_resembles there onward
    rw [Ready, ← onward.base] at readyNoted
    rw [treating, ← started.base]
    cases book.askDue demanded middle.files world.base item with
    | error fault => exact started
    | ok due =>
        cases due with
        | false => exact onward
        | true =>
            exact onward.trans
              (making noted onward.runner.symm onward.base.symm readyNoted)

/-- Whether an item can be prepared depends on nothing that a build writes. -/
theorem prepare_alike {left right : World} {touched : List Place}
    (steady : book.repository.Steady left.runner (book.targetDirectory.placeFrom left.base))
    (ready : book.Ready left) (file : item.path.NamesFile)
    (resembles : World.Resembles touched left right)
    (inside : ∀ place ∈ touched, book.targetDirectory.placeFrom left.base <+: place)
    (apart : sourcePlace left.base item ∉ touched) :
    Alike ((book.prepare item).exec left).1 ((book.prepare item).exec right).1 := by
  obtain ⟨kind, path⟩ := item
  cases kind with
  | diagram => exact .same _
  | fragment => exact .same _
  | document =>
      have answer : ∀ world, ((book.prepare ⟨.document, path⟩).exec world).1 =
          ((book.press.publish path (path.stem ++ Typesetter.temporarySuffix)).exec world).1.map
            fun _ => () := by
        intro world
        rw [prepare, Action.exec_bind]
        rcases (book.press.publish path (path.stem ++ Typesetter.temporarySuffix)).exec world
          with ⟨fault | written, after⟩ <;> rfl
      have pressSteady : book.press.repository.Steady left.runner
          (book.press.targetDirectory.placeFrom left.base) := steady
      rw [answer, answer]
      exact (Press.publish_alike (isPart_manuscriptName file) ready.press pressSteady resembles
        inside apart).map _

end Success

end Book

end Bindery
