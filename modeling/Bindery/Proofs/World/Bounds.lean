import Bindery.Proofs.Command.Contract
import Bindery.Proofs.FileStore.Directories
import Bindery.Proofs.Press.Rendering
import Bindery.Proofs.Source.Finding

/-!
Contract: which files an action writes at most, whatever becomes of it.

Owns:
- `World.Within`, what two worlds have in common when files were written at allowed places only;
- `Action.Bounded`, the actions that write at allowed places only, whether or not they fail and
  whether or not the directories that they need are there;
- that the elementary actions, phases and renderings are bounded, with the version controls that
  write nothing;
- that a path without a name of its own leads to a directory, so that it can never be read.

Does not own: what an operation writes (`Bindery.Proofs.Build.Containment`), and which directories
are made on the way.
-/

namespace Bindery

/-! ## Paths that lead to no file -/

namespace FileStore

/-- The directory that a place lies in, and all directories above it, are there. -/
def Grounded (store : FileStore) (place : Place) : Prop :=
  ∀ above, above <+: place → above ≠ place → store.find? above = some .directory

theorem Grounded.descend {store : FileStore} {place : Place} (grounded : store.Grounded place)
    (there : store.find? place = some .directory) (name : String) :
    store.Grounded (Path.descend place name) := by
  intro above before different
  by_cases up : name = ".."
  · rw [up, Path.descend_up] at before different
    refine grounded above (before.trans (List.dropLast_prefix place)) ?_
    rintro rfl
    exact different (before.eq_of_length_le (by simp))
  · rw [Path.descend_down up] at before different
    rcases List.prefix_concat_iff.1 before with same | earlier
    · exact absurd same different
    · by_cases here : above = place
      · rw [here]
        exact there
      · exact grounded above earlier here

/-- A walk goes through directories only. -/
theorem Grounded.walk {store : FileStore} {place reached : Place} {names : List String}
    (grounded : store.Grounded place) (walked : store.walk place names = .ok reached) :
    store.Grounded reached := by
  induction names generalizing place with
  | nil =>
      obtain rfl : place = reached := by simpa [FileStore.walk] using walked
      exact grounded
  | cons name rest inductionHypothesis =>
      obtain ⟨there, _, onward⟩ := walk_cons_eq_ok_iff.1 walked
      exact inductionHypothesis (grounded.descend there name) onward

theorem Grounded.find?_dropLast {store : FileStore} {place : Place}
    (grounded : store.Grounded place) : store.find? place.dropLast = some .directory := by
  by_cases top : place = []
  · simp [top]
  · refine grounded _ (List.dropLast_prefix place) fun same => ?_
    have lengths := congrArg List.length same
    have some := List.length_pos_iff.2 top
    simp only [List.length_dropLast] at lengths
    omega

/-- Where the working directory is there, a path without a name of its own leads to a directory,
and cannot be read. -/
theorem exists_fault_of_unnamed {store : FileStore} {base : Place} {path : Path}
    (there : store.find? base = some .directory) (grounded : store.Grounded base)
    (unnamed : path.parts = [] ∨ path.name = "..") :
    ∃ fault, store.read base path = .error fault := by
  cases located : store.locate base path with
  | error fault => exact ⟨fault, by simp [read, status, located]⟩
  | ok reached =>
      have walked := (walk_of_locate located).2
      have start : store.find? (if path.isAbsolute then [] else base) = some .directory ∧
          store.Grounded (if path.isAbsolute then [] else base) := by
        split
        · refine ⟨find?_nil store, fun above before different => ?_⟩
          exact absurd (List.prefix_nil.1 before) different
        · exact ⟨there, grounded⟩
      have found : store.find? reached = some .directory := by
        by_cases empty : path.parts = []
        · rw [empty] at walked
          obtain rfl := Except.ok.inj walked
          exact start.1
        · have up := unnamed.resolve_left empty
          rw [Path.name, List.getLast?_eq_some_getLast empty, Option.getD_some] at up
          rw [← List.dropLast_concat_getLast empty, up] at walked
          obtain ⟨middle, front, last⟩ := walk_of_append walked
          obtain ⟨_, _, onward⟩ := walk_cons_eq_ok_iff.1 last
          obtain rfl := Except.ok.inj onward
          exact (start.2.walk front).find?_dropLast
      exact ⟨_, by simp [read, status, located, found]; rfl⟩

end FileStore

/-! ## Worlds -/

namespace World

/-- The working directory is there. -/
structure Standing (world : World) : Prop where
  there : world.files.find? world.base = some .directory
  grounded : world.files.Grounded world.base

/-- A world that differs from an earlier one by files at allowed places, by new directories and by
notes. -/
structure Within (allowed : Place → Prop) (before after : World) : Prop where
  now : after.now = before.now
  base : after.base = before.base
  runner : after.runner = before.runner
  directories : ∀ place, before.files.find? place = some .directory →
    after.files.find? place = some .directory
  files : ∀ place, ¬ allowed place → after.files.fileAt place = before.files.fileAt place

namespace Within

variable {allowed more : Place → Prop} {before middle after : World}

theorem refl (world : World) : Within allowed world world :=
  ⟨rfl, rfl, rfl, fun _ there => there, fun _ _ => rfl⟩

theorem trans (first : Within allowed before middle) (second : Within allowed middle after) :
    Within allowed before after :=
  ⟨second.now.trans first.now, second.base.trans first.base, second.runner.trans first.runner,
    fun place there => second.directories place (first.directories place there),
    fun place outside => (second.files place outside).trans (first.files place outside)⟩

theorem mono (within : Within allowed before after) (wider : ∀ place, allowed place → more place) :
    Within more before after :=
  ⟨within.now, within.base, within.runner, within.directories, fun place outside =>
    within.files place fun among => outside (wider place among)⟩

theorem standing (within : Within allowed before after) (standing : before.Standing) :
    after.Standing := by
  obtain ⟨there, grounded⟩ := standing
  refine ⟨?_, fun above prefixed different => ?_⟩
  · rw [within.base]
    exact within.directories _ there
  · rw [within.base] at prefixed different
    exact within.directories above (grounded above prefixed different)

/-- Where the same files are, nothing has been written. -/
theorem of_files (now : after.now = before.now) (base : after.base = before.base)
    (runner : after.runner = before.runner) (files : after.files = before.files) :
    Within allowed before after :=
  ⟨now, base, runner, fun place there => by rw [files]; exact there, fun place _ => by rw [files]⟩

end Within

theorem Kept.within {before after : World} (kept : Kept before after) (allowed : Place → Prop) :
    Within allowed before after :=
  .of_files kept.now kept.base kept.runner kept.files

end World

/-! ## Bounded actions -/

namespace Action

variable {α β : Type} {runner : Runner} {base : Place} {allowed more : Place → Prop}

/-- An action that writes files at allowed places only, whether or not it fails. -/
def Bounded (runner : Runner) (base : Place) (allowed : Place → Prop) (action : Action α) : Prop :=
  ∀ world : World, world.runner = runner → world.base = base → world.Standing →
    World.Within allowed world (action.exec world).2

theorem Bounded.mono {action : Action α} (bounded : Bounded runner base allowed action)
    (wider : ∀ place, allowed place → more place) : Bounded runner base more action :=
  fun world same here standing => (bounded world same here standing).mono wider

theorem Bounded.keeps {action : Action α} {world after : World} {answer : Except Fault α}
    (bounded : Bounded world.runner world.base allowed action) (standing : world.Standing)
    (ran : action.exec world = (answer, after)) : World.Within allowed world after := by
  simpa [ran] using bounded world rfl rfl standing

theorem ReadOnly.bounded {action : Action α} (reads : ReadOnly runner action) :
    Bounded runner base allowed action :=
  fun world same _ _ => (reads world same).within allowed

theorem Looks.bounded {action : Action α} (looks : Looks action) :
    Bounded runner base allowed action := by
  obtain ⟨reading, reads⟩ := looks
  intro world _ _ _
  rw [reads]
  exact .refl world

theorem bounded_pure (value : α) : Bounded runner base allowed (pure value) :=
  fun world _ _ _ => .refl world

theorem bounded_fail (fault : Fault) : Bounded runner base allowed (fail fault : Action α) :=
  fun world _ _ _ => .refl world

theorem bounded_log (level : Level) (logger message : String) (fields : Entries) :
    Bounded runner base allowed (log level logger message fields) :=
  (readOnly_log level logger message fields).bounded

theorem bounded_bind {action : Action α} {next : α → Action β}
    (first : Bounded runner base allowed action)
    (rest : ∀ value, Bounded runner base allowed (next value)) :
    Bounded runner base allowed (action >>= next) := by
  intro world same here standing
  have start := first world same here standing
  rw [exec_bind]
  split
  · rename_i value middle ran
    rw [ran] at start
    exact start.trans (rest value middle (start.runner.trans same) (start.base.trans here)
      (start.standing standing))
  · rename_i fault middle ran
    rwa [ran] at start

/-- The working directory is known to whoever asks for it. -/
theorem bounded_workingDirectory {next : Path → Action α}
    (rest : Bounded runner base allowed (next (.ofPlace base))) :
    Bounded runner base allowed (workingDirectory >>= next) := by
  intro world same here standing
  have asked : workingDirectory.exec world = (.ok (.ofPlace base), world) := by
    rw [← here]
    rfl
  rw [exec_bind_of_ok asked]
  exact rest world same here standing

theorem bounded_run {command : Command} (tidy : runner.Tidy)
    (names : ∀ artifact, command.artifact? = some artifact → allowed (artifact.placeFrom base)) :
    Bounded runner base allowed (run command) := by
  intro world same here _
  subst same here
  rw [exec_run]
  have agrees := tidy world.commands world.now world.base world.files command
  refine ⟨rfl, rfl, rfl, fun place there => (agrees.directories place).1 there,
    fun place outside => (FileStore.fileAt_congr (agrees.nodes place ?_)).symm⟩
  rintro artifact named rfl
  exact outside (names artifact named)

theorem bounded_makeDirectories (path : Path) :
    Bounded runner base allowed (makeDirectories path) := by
  intro world _ _ _
  have grown := FileStore.grown_makeDirectories world.files world.base path
  exact ⟨rfl, rfl, rfl, fun place there => grown.directory there, fun place _ =>
    grown.fileAt_eq place⟩

theorem bounded_writeFile {path : Path} (among : allowed (path.placeFrom base))
    (content : List UInt8) : Bounded runner base allowed (writeFile path content) := by
  intro world _ here _
  subst here
  rw [writeFile, exec_ofEffect]
  split
  · rename_i files wrote
    have agrees := (FileStore.write_eq_ok wrote).1
    refine ⟨rfl, rfl, rfl, fun place there => (agrees.directories place).1 there,
      fun place outside => (FileStore.fileAt_congr (agrees.nodes place ?_)).symm⟩
    rintro rfl
    exact outside among
  · exact .refl world

theorem bounded_writeText {path : Path} (among : allowed (path.placeFrom base)) (text : String) :
    Bounded runner base allowed (writeText path text) := by
  refine bounded_bind (bounded_makeDirectories _) fun _ => ?_
  exact bounded_bind (bounded_writeFile among _) fun _ => bounded_pure _

theorem composes_bounded : Composes (Bounded runner base allowed) where
  pure := bounded_pure
  fail := bounded_fail
  log := bounded_log
  bind := bounded_bind

/-- A tool that is run for a source writes the artifact of its command. -/
theorem bounded_runTool {logger message : String} {source : Path}
    {report : Completion → BuildError} {command : Command} {artifact : Path} (tidy : runner.Tidy)
    (named : command.artifact? = some artifact) (among : allowed (artifact.placeFrom base)) :
    Bounded runner base allowed (runTool logger message source report command) := by
  have names : ∀ other, command.artifact? = some other → allowed (other.placeFrom base) := by
    intro other also
    obtain rfl := Option.some.inj (named.symm.trans also)
    exact among
  exact composes_bounded.runTool (bounded_run tidy names)

end Action

/-! ## Version control and rendering -/

section Excerpts

variable {runner : Runner} {base : Place} {allowed : Place → Prop}

theorem inherited_bounded (runner : Runner) (base : Place) (allowed : Place → Prop) :
    Inherited (Action.Bounded runner base allowed) :=
  Action.composes_bounded.inherited
    (fun request => ((inherited_readOnly runner).noteRequest request).bounded)
    (fun location => ((inherited_readOnly runner).noteMissing location).bounded)

/-- A version control that writes no file. -/
def Repository.WritesNothing (runner : Runner) (base : Place) (repository : Repository) : Prop :=
  repository.All (Action.Bounded runner base fun _ => False)

theorem Repository.ReadOnly.writesNothing {repository : Repository}
    (reads : repository.ReadOnly runner) : repository.WritesNothing runner base :=
  ⟨reads.checkedOut.bounded, fun path => (reads.readWorking path).bounded, fun branch path =>
    (reads.readCommitted branch path).bounded⟩

/-- The requests to `git` name no artifact, so a tidy runner writes nothing for them. -/
theorem Repository.writesNothing_git (tidy : runner.Tidy) (root : Path) :
    (Repository.git root).WritesNothing runner base := by
  refine Action.composes_bounded.git (Action.bounded_run tidy fun _ named => ?_)
    (fun _ => Action.bounded_run tidy fun _ named => ?_)
    (fun path => (Source.looks_isFile path).bounded)
    (fun path => (Action.looks_readText path).bounded)
  · contradiction
  · contradiction

namespace Press

variable {press : Press}

theorem bounded_render (quiet : press.repository.WritesNothing runner base) (text : String) :
    Action.Bounded runner base allowed (press.render text) :=
  ((inherited_bounded runner base _).render quiet text).mono fun _ => False.elim

/-- Publishing a manuscript writes it and nothing else, whether or not it gets that far. -/
theorem bounded_publish {name : String} (quiet : press.repository.WritesNothing runner base)
    (source : Path) (among : allowed ((press.targetDirectory.joinText name).placeFrom base)) :
    Action.Bounded runner base allowed (press.publish source name) := by
  refine Action.bounded_bind (Action.looks_readText source).bounded fun text => ?_
  refine Action.bounded_bind (bounded_render quiet text) fun rendered => ?_
  refine Action.bounded_bind (Action.bounded_writeText among rendered) fun written => ?_
  exact Action.bounded_bind (Action.bounded_log _ _ _ _) fun _ => Action.bounded_pure _

/-- A source without a name of its own is not published. -/
theorem bounded_publish_of_unnamed {source : Path} (name : String)
    (unnamed : source.parts = [] ∨ source.name = "..") :
    Action.Bounded runner base allowed (press.publish source name) := by
  intro world _ _ standing
  obtain ⟨fault, unread⟩ :=
    FileStore.exists_fault_of_unnamed standing.there standing.grounded unnamed
  have reading : (Action.readText source).exec world = (.error fault, world) := by
    unfold Action.readText Action.readFile
    rw [Action.exec_bind, Action.exec_observe, unread]
  unfold publish
  rw [Action.exec_bind_of_error reading]
  exact .refl world

end Press

end Excerpts

end Bindery
