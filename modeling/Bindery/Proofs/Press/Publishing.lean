import Bindery.Proofs.FileStore.Directories
import Bindery.Proofs.Press.Rendering
import Bindery.Proofs.Staleness.Overdue

/-!
Contract: writing a rendered manuscript into a directory.

Owns:
- the equations of reading and writing a text;
- `exists_of_publish_making`, the steps of publishing a manuscript that succeeds, and
  `effect_of_publish`, all that they change besides making the directory;
- where the directory is there: `publish_eq_ok`, the whole footprint of publishing, and
  `publish_eq_error`, that nothing is changed when publishing fails;
- `Renders`, what a source renders to, and that a published manuscript holds it;
- `publish_alike`, that whether a manuscript can be published depends on nothing that a build
  writes.

Does not own: when a manuscript is published (`Bindery.Proofs.Build.Treatment`).
-/

namespace Bindery

namespace Action

/-! ## Texts -/

theorem exec_readText (path : Path) (world : World) :
    (readText path).exec world =
      ((world.files.read world.base path).map Text.readLossy, world) := by
  unfold readText readFile
  rw [exec_bind, exec_observe]
  cases world.files.read world.base path <;> rfl

/-- Writing a text into a directory is making the directory and one write. -/
theorem exec_writeText_making {world : World} {directory : Path} {name : String}
    {ready : FileStore}
    (made : world.files.makeDirectories world.base directory = (.ok (), ready))
    (part : Path.IsPart name) (text : String) :
    (writeText (directory.joinText name) text).exec world =
      match ready.write world.base world.now (directory.joinText name) (Text.encode text) with
      | .ok files => (.ok (directory.joinText name), { world with files := files })
      | .error fault => (.error fault, { world with files := ready }) := by
  have making : (makeDirectories (directory.joinText name).parent).exec world =
      (.ok (), { world with files := ready }) := by
    rw [Path.parent_joinText part]
    simp only [makeDirectories, exec_ofEffect, made]
  unfold writeText
  rw [exec_bind_of_ok making, exec_bind, writeFile, exec_ofEffect]
  cases ready.write world.base world.now (directory.joinText name) (Text.encode text) <;> rfl

/-- Writing a text into a directory that is there is one write. -/
theorem exec_writeText {world : World} {directory : Path} {name : String}
    (there : world.files.isDirectory world.base directory = .ok true) (part : Path.IsPart name)
    (text : String) :
    (writeText (directory.joinText name) text).exec world =
      match world.files.write world.base world.now (directory.joinText name) (Text.encode text) with
      | .ok files => (.ok (directory.joinText name), { world with files := files })
      | .error fault => (.error fault, world) :=
  exec_writeText_making (FileStore.makeDirectories_of_isDirectory there) part text

end Action

namespace Press

variable {press : Press} {source : Path} {name : String}

/-- What publishing a manuscript has done when it succeeded. -/
structure Published (press : Press) (source : Path) (name : String) (before after : World) :
    Prop where
  effect : World.Effect before after
    [(press.targetDirectory.joinText name).placeFrom before.base] []
  finds : before.files.Finds before.base source
  reaches : before.files.Reaches before.base (press.targetDirectory.joinText name)
  stamped : after.files.timeAt ((press.targetDirectory.joinText name).placeFrom before.base) =
    some before.now

theorem eq_of_publish {world after : World} {written : Path}
    (ran : (press.publish source name).exec world = (.ok written, after)) :
    written = press.targetDirectory.joinText name := by
  obtain ⟨_, _, _, rendering⟩ := Action.exec_bind_eq_ok_iff.1 ran
  obtain ⟨_, _, _, writing⟩ := Action.exec_bind_eq_ok_iff.1 rendering
  obtain ⟨path, _, writes, logging⟩ := Action.exec_bind_eq_ok_iff.1 writing
  obtain ⟨_, _, _, wrote⟩ := Action.exec_bind_eq_ok_iff.1 writes
  obtain ⟨_, _, _, named⟩ := Action.exec_bind_eq_ok_iff.1 wrote
  obtain ⟨same, _⟩ := Prod.mk.inj named
  obtain ⟨_, _, _, answered⟩ := Action.exec_bind_eq_ok_iff.1 logging
  obtain ⟨also, _⟩ := Prod.mk.inj answered
  exact (Except.ok.inj also).symm.trans (Except.ok.inj same).symm

/-- The steps of publishing a manuscript that succeeds: its source is read, the text rendered, the
target directory made, and the rendered text written. -/
theorem exists_of_publish_making {world after : World} {written : Path} {ready : FileStore}
    (made : world.files.makeDirectories world.base press.targetDirectory = (.ok (), ready))
    (part : Path.IsPart name) (reads : press.repository.ReadOnly world.runner)
    (ran : (press.publish source name).exec world = (.ok written, after)) :
    ∃ content rendered middle files, world.files.read world.base source = .ok content ∧
      (press.render (Text.readLossy content)).exec world = (.ok rendered, middle) ∧
      ready.write world.base world.now (press.targetDirectory.joinText name)
        (Text.encode rendered) = .ok files ∧
      World.Kept { middle with files := files } after := by
  obtain ⟨text, first, reading, rendering⟩ := Action.exec_bind_eq_ok_iff.1 ran
  rw [Action.exec_readText] at reading
  obtain ⟨readText, rfl⟩ := Prod.mk.inj reading
  obtain ⟨rendered, second, renders, writing⟩ := Action.exec_bind_eq_ok_iff.1 rendering
  have kept := (readOnly_render reads text).kept rfl renders
  obtain ⟨path, third, writes, logging⟩ := Action.exec_bind_eq_ok_iff.1 writing
  rw [← kept.files, ← kept.base] at made
  rw [Action.exec_writeText_making made part, kept.base, kept.now] at writes
  cases found : world.files.read world.base source with
  | error fault =>
      rw [found] at readText
      contradiction
  | ok content =>
      rw [found] at readText
      obtain rfl := Except.ok.inj readText
      split at writes
      · rename_i files wrote
        obtain ⟨_, rfl⟩ := Prod.mk.inj writes
        obtain ⟨_, rfl⟩ := Prod.mk.inj logging
        exact ⟨content, rendered, second, files, rfl, renders, wrote, rfl, kept.now.symm,
          kept.base.symm, rfl, [], by simp, by simp⟩
      · simp at writes

/-- The steps of publishing into a directory that is there. -/
theorem exists_of_publish {world after : World} {written : Path}
    (there : world.files.isDirectory world.base press.targetDirectory = .ok true)
    (part : Path.IsPart name) (reads : press.repository.ReadOnly world.runner)
    (ran : (press.publish source name).exec world = (.ok written, after)) :
    ∃ content rendered middle files, world.files.read world.base source = .ok content ∧
      (press.render (Text.readLossy content)).exec world = (.ok rendered, middle) ∧
      world.files.write world.base world.now (press.targetDirectory.joinText name)
        (Text.encode rendered) = .ok files ∧
      World.Kept { middle with files := files } after :=
  exists_of_publish_making (FileStore.makeDirectories_of_isDirectory there) part reads ran

/-- Publishing makes the target directory, and touches nothing else but the manuscript. -/
theorem effect_of_publish {world after : World} {written : Path} {ready : FileStore}
    (made : world.files.makeDirectories world.base press.targetDirectory = (.ok (), ready))
    (part : Path.IsPart name) (reads : press.repository.ReadOnly world.runner)
    (ran : (press.publish source name).exec world = (.ok written, after)) :
    World.Effect { world with files := ready } after
        [(press.targetDirectory.joinText name).placeFrom world.base] [] ∧
      after.files.timeAt ((press.targetDirectory.joinText name).placeFrom world.base) =
        some world.now := by
  obtain ⟨content, rendered, middle, files, _, renders, wrote, noted⟩ :=
    exists_of_publish_making made part reads ran
  have kept := (readOnly_render reads _).kept rfl renders
  obtain ⟨agrees, file, found, _, time⟩ := FileStore.write_eq_ok wrote
  have asked : World.Kept { world with files := ready } { middle with files := ready } :=
    ⟨rfl, kept.now, kept.base, kept.runner, kept.asked⟩
  have writing : World.Effect { middle with files := ready } { middle with files := files }
      [(press.targetDirectory.joinText name).placeFrom world.base] [] := by
    refine ⟨?_, rfl, rfl, rfl, [], by simp, by simp⟩
    exact agrees.mono fun place outside => by simpa using outside
  refine ⟨(World.Effect.kept_trans asked writing).trans_kept noted, ?_⟩
  simp [noted.files, FileStore.timeAt, found, Node.modified, time]

theorem publish_eq_ok {world after : World} {written : Path}
    (there : world.files.isDirectory world.base press.targetDirectory = .ok true)
    (part : Path.IsPart name) (reads : press.repository.ReadOnly world.runner)
    (ran : (press.publish source name).exec world = (.ok written, after)) :
    press.Published source name world after := by
  obtain ⟨content, rendered, middle, files, read, renders, wrote, noted⟩ :=
    exists_of_publish there part reads ran
  obtain ⟨effect, stamped⟩ :=
    effect_of_publish (FileStore.makeDirectories_of_isDirectory there) part reads ran
  exact ⟨effect, FileStore.finds_of_read read, FileStore.reaches_of_write wrote, stamped⟩

/-! ## What is written -/

/-- Content that is the encoding of what a source renders to: its bytes are read as text, the text
is rendered, and the rendered text encoded. -/
def Renders (press : Press) (world : World) (source : Path) (content : List UInt8) : Prop :=
  ∃ bytes text, world.files.read world.base source = .ok bytes ∧
    ((press.render (Text.readLossy bytes)).exec world).1 = .ok text ∧ content = Text.encode text

/-- What a source renders to depends on nothing that a build writes. -/
theorem Renders.of_resembles {left right : World} {touched : List Place} {content : List UInt8}
    (renders : press.Renders left source content)
    (steady : press.repository.Steady left.runner (press.targetDirectory.placeFrom left.base))
    (resembles : World.Resembles touched left right)
    (inside : ∀ place ∈ touched, press.targetDirectory.placeFrom left.base <+: place)
    (apart : source.placeFrom left.base ∉ touched) : press.Renders right source content := by
  obtain ⟨bytes, text, read, rendered, encoded⟩ := renders
  refine ⟨bytes, text, ?_, ?_, encoded⟩
  · rw [← resembles.base]
    exact (FileStore.read_alike resembles.files apart).ok read
  · rw [← steady_render steady _ left right rfl (resembles.sameBeside inside)]
    exact rendered

/-- A published manuscript holds what its source renders to. -/
theorem renders_of_publish {world after : World} {written : Path}
    (there : world.files.isDirectory world.base press.targetDirectory = .ok true)
    (part : Path.IsPart name) (reads : press.repository.ReadOnly world.runner)
    (ran : (press.publish source name).exec world = (.ok written, after)) :
    ∃ file, after.files.find? ((press.targetDirectory.joinText name).placeFrom world.base) =
      some (.file file) ∧ press.Renders world source file.content := by
  obtain ⟨content, rendered, middle, files, read, renders, wrote, noted⟩ :=
    exists_of_publish there part reads ran
  obtain ⟨_, file, found, written, _⟩ := FileStore.write_eq_ok wrote
  refine ⟨file, ?_, content, rendered, read, congrArg Prod.fst renders, written⟩
  rw [noted.files]
  exact found

/-- Publishing a manuscript that fails has changed nothing. -/
theorem publish_eq_error {world after : World} {fault : Fault}
    (there : world.files.isDirectory world.base press.targetDirectory = .ok true)
    (part : Path.IsPart name) (reads : press.repository.ReadOnly world.runner)
    (ran : (press.publish source name).exec world = (.error fault, after)) :
    World.Kept world after := by
  rcases Action.exec_bind_eq_error_iff.1 ran with unread | ⟨text, first, reading, rendering⟩
  · rw [Action.exec_readText] at unread
    obtain ⟨_, rfl⟩ := Prod.mk.inj unread
    exact .refl world
  rw [Action.exec_readText] at reading
  obtain ⟨_, rfl⟩ := Prod.mk.inj reading
  rcases Action.exec_bind_eq_error_iff.1 rendering with unrendered | ⟨_, second, renders, writing⟩
  · exact (readOnly_render reads text).kept rfl unrendered
  have kept := (readOnly_render reads text).kept rfl renders
  rcases Action.exec_bind_eq_error_iff.1 writing with unwritten | ⟨_, third, _, logging⟩
  · rw [Action.exec_writeText (by rw [kept.files, kept.base]; exact there) part] at unwritten
    split at unwritten
    · simp at unwritten
    · obtain ⟨_, rfl⟩ := Prod.mk.inj unwritten
      exact kept
  · rw [Action.exec_bind_of_ok (Action.exec_log ..)] at logging
    simp at logging

/-- Publishing a manuscript changes no file but the one that it writes. -/
theorem confined_publish {runner : Runner} {base : Place} (part : Path.IsPart name)
    (reads : press.repository.ReadOnly runner) (source : Path) :
    Action.Confined runner base press.targetDirectory
      [(press.targetDirectory.joinText name).placeFrom base] (press.publish source name) := by
  refine Action.confined_bind (Action.readOnly_readText source).confined fun text => ?_
  refine Action.confined_bind (readOnly_render reads text).confined fun rendered => ?_
  refine Action.confined_bind ?_ fun path =>
    Action.confined_bind (Action.ReadOnly.confined (Action.readOnly_log _ _ _ _)) fun _ =>
      Action.ReadOnly.confined (Action.readOnly_pure path)
  intro world _ here there
  subst here
  rw [Action.exec_writeText there part]
  split
  · rename_i files wrote
    refine ⟨rfl, rfl, (FileStore.write_eq_ok wrote).1.mono fun place outside => ?_⟩
    simpa using outside
  · exact .refl _ world

/-- The answer of publishing a rendered text is the answer of one write. -/
private theorem answer_of_writing {world : World} {rendered : String}
    (there : world.files.isDirectory world.base press.targetDirectory = .ok true)
    (part : Path.IsPart name) :
    (Action.exec (do
      let written ← .writeText (press.targetDirectory.joinText name) rendered
      .log .debug logger "preprocess.write"
        [("source", .str source.render), ("output", .str written.render)]
      return written) world).1 =
      ((world.files.write world.base world.now (press.targetDirectory.joinText name)
        (Text.encode rendered)).map fun _ => ()).map fun _ =>
          press.targetDirectory.joinText name := by
  rw [Action.exec_bind, Action.exec_writeText there part]
  cases world.files.write world.base world.now (press.targetDirectory.joinText name)
    (Text.encode rendered) <;> rfl

/-- Whether a manuscript can be published depends on nothing that a build writes. -/
theorem publish_alike {left right : World} {touched : List Place} (part : Path.IsPart name)
    (there : left.files.isDirectory left.base press.targetDirectory = .ok true)
    (steady : press.repository.Steady left.runner (press.targetDirectory.placeFrom left.base))
    (resembles : World.Resembles touched left right)
    (inside : ∀ place ∈ touched, press.targetDirectory.placeFrom left.base <+: place)
    (apart : source.placeFrom left.base ∉ touched) :
    Alike ((press.publish source name).exec left).1 ((press.publish source name).exec right).1 := by
  have readAlike : Alike ((left.files.read left.base source).map Text.readLossy)
      ((right.files.read left.base source).map Text.readLossy) :=
    (FileStore.read_alike resembles.files apart).map _
  unfold publish
  rw [Action.exec_bind, Action.exec_bind, Action.exec_readText, Action.exec_readText,
    ← resembles.base]
  rcases readAlike.eq_or_absent
    with same | ⟨_, _, file, leftStuck, rightStuck, leftAbsent, rightAbsent⟩
  · rw [same]
    cases (right.files.read left.base source).map Text.readLossy with
    | error fault => exact .same _
    | ok text =>
        simp only
        have answers := steady_render steady text left right rfl (resembles.sameBeside inside)
        have reads := readOnly_render steady.readOnly text
        rw [Action.exec_bind, Action.exec_bind]
        rcases ranLeft : (press.render text).exec left with ⟨answerLeft, middleLeft⟩
        rcases ranRight : (press.render text).exec right with ⟨answerRight, middleRight⟩
        rw [ranLeft, ranRight] at answers
        obtain rfl : answerLeft = answerRight := answers
        have keptLeft := reads.kept rfl ranLeft
        have keptRight := reads.kept resembles.runner.symm ranRight
        cases answerLeft with
        | error fault => exact .same _
        | ok rendered =>
            have thereLeft :
                middleLeft.files.isDirectory middleLeft.base press.targetDirectory = .ok true := by
              rw [keptLeft.files, keptLeft.base]
              exact there
            have thereRight :
                middleRight.files.isDirectory middleRight.base press.targetDirectory =
                  .ok true := by
              rw [keptRight.files, keptRight.base, ← resembles.base]
              exact FileStore.isDirectory_of_agreesOn resembles.files there
            simp only
            rw [answer_of_writing thereLeft part, answer_of_writing thereRight part,
              keptLeft.files, keptLeft.base, keptLeft.now, keptRight.files, keptRight.base,
              keptRight.now, ← resembles.base]
            exact (FileStore.write_alike resembles.files ..).map _
  · rw [leftStuck, rightStuck]
    exact .absent file leftAbsent rightAbsent

end Press

end Bindery
