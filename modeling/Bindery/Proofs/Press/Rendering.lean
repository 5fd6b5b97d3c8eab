import Bindery.Manuscript
import Bindery.Proofs.World.Effect
import Bindery.Repository.Git

/-!
Contract: what rendering a text has in common with the repository it asks.

Owns:
- `Inherited`, the properties of actions that fetching excerpts hands on, and the one induction
  over directives: a rendering has every inherited property that the repository's actions have;
- `Repository.All` and `Repository.AllFor`, the properties that a repository has for all requests and
  for chosen ones;
- that a repository held in memory, and the one behind `git`, have the properties that actions have
  from their parts;
- the two contracts of a repository, `ReadOnly` and `Steady`, and that renderings keep them;
- that the repository behind `git` is read-only, and the one in memory is steady.

Does not own: the rendered text itself.
-/

namespace Bindery

/-- The faults that excerpts raise of their own accord. -/
inductive Excerpt.Raised : Fault → Prop where
  | invalidLocation (payload : String) : Raised (.build (.invalidLocation payload))
  | sectionNotFound (file name : String) : Raised (.build (.sectionNotFound file name))

/-- A property of actions that is handed on from the parts of an excerpt to the whole. -/
structure Inherited (Holds : ∀ {α : Type}, Action α → Prop) : Prop where
  pure : ∀ {α : Type} (value : α), Holds (Pure.pure value : Action α)
  bind : ∀ {α β : Type} {action : Action α} {next : α → Action β}, Holds action →
    (∀ value, Holds (next value)) → Holds (action >>= next)
  fail : ∀ {α : Type} {fault : Fault}, Excerpt.Raised fault → Holds (Action.fail fault : Action α)
  log : ∀ (level : Level) (logger message : String) (fields : Entries),
    Holds (Action.log level logger message fields)
  noteRequest : ∀ request : Request, Holds (Excerpt.noteRequest request)
  noteMissing : ∀ location : Location, Holds (Excerpt.noteMissing location)

/-- A property that all actions of a repository have. -/
structure Repository.All (repository : Repository) (Holds : ∀ {α : Type}, Action α → Prop) :
    Prop where
  checkedOut : Holds repository.checkedOut
  readWorking : ∀ path, Holds (repository.readWorking path)
  readCommitted : ∀ branch path, Holds (repository.readCommitted branch path)

/-- A property that the actions of a repository have for chosen requests. -/
structure Repository.AllFor (repository : Repository) (asked : Request → Bool)
    (Holds : ∀ {α : Type}, Action α → Prop) : Prop where
  checkedOut : Holds repository.checkedOut
  readWorking : ∀ path, asked (.working path) = true → Holds (repository.readWorking path)
  readCommitted : ∀ branch path, asked (.history branch path) = true →
    Holds (repository.readCommitted branch path)

namespace Action.Composes

variable {Holds : ∀ {α : Type}, Action α → Prop}

/-- What actions have from their parts is inherited when the notes of an excerpt have it. -/
theorem inherited (composes : Composes Holds)
    (noteRequest : ∀ request : Request, Holds (Excerpt.noteRequest request))
    (noteMissing : ∀ location : Location, Holds (Excerpt.noteMissing location)) :
    Inherited Holds where
  pure := composes.pure
  bind := composes.bind
  fail _ := composes.fail _
  log := composes.log
  noteRequest := noteRequest
  noteMissing := noteMissing

/-- A repository held in memory does no more than answer and fail. -/
theorem ofSnapshot (composes : Composes Holds) (snapshot : Snapshot) :
    (Repository.ofSnapshot snapshot).All Holds where
  checkedOut := composes.pure _
  readWorking path := by
    simp only [Repository.ofSnapshot]
    split
    · exact composes.fail _
    · exact composes.pure _
  readCommitted _ _ := composes.pure _

/-- The repository behind `git` runs its two requests, and looks for files and reads them. -/
theorem gitFor (composes : Composes Holds) {root : Path} {asked : Request → Bool}
    (branches : Holds (Git.run root ["branch"]))
    (shows : ∀ object, Holds (Git.run root ["show", object]))
    (looks : ∀ path, asked (.working path) = true → Holds (isFile (root.joinText path)))
    (reads : ∀ path, asked (.working path) = true → Holds (readText (root.joinText path))) :
    (Repository.git root).AllFor asked Holds := by
  have settled : ∀ {α : Type} (request : String) (told : Completion → α) (nothing : α)
      (result : Completion), Holds (if result.ok then Pure.pure (told result)
        else Git.noteRefusal request result >>= fun _ => Pure.pure nothing) := by
    intro α request told nothing result
    split
    · exact composes.pure _
    · exact composes.bind (composes.log _ _ _ _) fun _ => composes.pure _
  refine ⟨composes.bind branches (settled _ _ _), fun path chosen => ?_, fun branch path _ =>
    composes.bind (shows _) (settled _ Completion.stdout _)⟩
  refine composes.bind (looks path chosen) fun found => ?_
  split
  · exact reads path chosen
  · exact composes.pure _

theorem git (composes : Composes Holds) {root : Path} (branches : Holds (Git.run root ["branch"]))
    (shows : ∀ object, Holds (Git.run root ["show", object]))
    (looks : ∀ path, Holds (isFile path)) (reads : ∀ path, Holds (readText path)) :
    (Repository.git root).All Holds := by
  have asked : (Repository.git root).AllFor (fun _ => true) Holds :=
    composes.gitFor branches shows (fun _ _ => looks _) fun _ _ => reads _
  exact ⟨asked.checkedOut, fun path => asked.readWorking path rfl, fun branch path =>
    asked.readCommitted branch path rfl⟩

end Action.Composes

namespace Inherited

variable {Holds : ∀ {α : Type}, Action α → Prop} {repository : Repository}

theorem fetch (inherited : Inherited Holds) (asked : repository.All Holds) (location : Location) :
    Holds (Excerpt.fetch repository location) := by
  refine inherited.bind asked.checkedOut fun current => ?_
  split
  · refine inherited.bind (inherited.noteRequest _) fun _ => ?_
    exact inherited.bind (asked.readWorking _) fun _ => inherited.pure _
  · refine inherited.bind (inherited.noteRequest _) fun _ => ?_
    exact inherited.bind (asked.readCommitted _ _) fun _ => inherited.pure _

theorem linesAt (inherited : Inherited Holds) (asked : repository.All Holds)
    (location : Location) : Holds (Excerpt.linesAt repository location) := by
  refine inherited.bind (inherited.fetch asked location) fun fetched => ?_
  obtain ⟨origin, content⟩ := fetched
  simp only
  split
  · refine inherited.bind (inherited.log ..) fun _ => ?_
    exact inherited.bind (inherited.noteMissing _) fun _ => inherited.pure _
  · exact inherited.bind (inherited.log ..) fun _ => inherited.pure _

theorem readLocation (inherited : Inherited Holds) (payload : String) :
    Holds (Excerpt.readLocation payload) := by
  unfold Excerpt.readLocation
  split
  · exact inherited.pure _
  · exact inherited.fail (.invalidLocation payload)

theorem lines (inherited : Inherited Holds) (asked : repository.All Holds) (payload : String) :
    Holds (Excerpt.lines repository payload) :=
  inherited.bind (inherited.readLocation payload) fun location => inherited.linesAt asked location

theorem sectionLines (inherited : Inherited Holds) (asked : repository.All Holds)
    (payload name : String) : Holds (Excerpt.sectionLines repository payload name) := by
  refine inherited.bind (inherited.readLocation payload) fun location => ?_
  refine inherited.bind (inherited.linesAt asked location) fun found => ?_
  split
  · exact inherited.pure _
  · rename_i error narrowed
    obtain ⟨_, rfl⟩ := Excerpt.narrow_eq_error_iff.1 narrowed
    exact inherited.fail (.sectionNotFound _ _)

theorem assembleM {α : Type} (inherited : Inherited Holds) {render : α → Action (List Char)}
    (rendered : ∀ value, Holds (render value)) (pieces : List (Text.Piece α)) :
    Holds (Text.assembleM render pieces) := by
  induction pieces with
  | nil => exact inherited.pure _
  | cons piece rest inductionHypothesis =>
      cases piece with
      | plain c => exact inherited.bind inductionHypothesis fun _ => inherited.pure _
      | found value =>
          refine inherited.bind (rendered value) fun _ => ?_
          exact inherited.bind inductionHypothesis fun _ => inherited.pure _

/-- A rendering has every inherited property of its repository. -/
theorem render (inherited : Inherited Holds) {press : Press} (asked : press.repository.All Holds)
    (text : String) : Holds (press.render text) := by
  refine inherited.bind ?_ fun included => inherited.bind ?_ fun expanded => inherited.pure _
  · exact inherited.assembleM (fun location =>
      inherited.bind (inherited.lines asked _) fun _ => inherited.pure _) _
  · exact inherited.assembleM (fun pair =>
      inherited.bind (inherited.sectionLines asked _ _) fun _ => inherited.pure _) _

end Inherited

/-! ## The contracts of a repository -/

section Contracts

variable {runner : Runner} {directory : Place} {repository : Repository}

/-- A repository that asks and takes notes, and changes nothing. -/
def Repository.ReadOnly (runner : Runner) (repository : Repository) : Prop :=
  repository.All (Action.ReadOnly runner)

/-- A read-only repository whose answers are fixed: they depend neither on the clock, nor on what
was asked before, nor on anything inside the given directory. -/
def Repository.Steady (runner : Runner) (directory : Place) (repository : Repository) : Prop :=
  repository.All fun action =>
    Action.ReadOnly runner action ∧ Action.Steady runner directory action

theorem Repository.Steady.readOnly (steady : repository.Steady runner directory) :
    repository.ReadOnly runner :=
  ⟨steady.checkedOut.1, fun path => (steady.readWorking path).1, fun branch path =>
    (steady.readCommitted branch path).1⟩

theorem inherited_readOnly (runner : Runner) : Inherited (Action.ReadOnly runner) :=
  Action.composes_readOnly.inherited
    (fun _ => Action.readOnly_update fun _ => .of_noted rfl rfl rfl rfl rfl)
    (fun _ => Action.readOnly_update fun _ => .of_noted rfl rfl rfl rfl rfl)

theorem inherited_steady (runner : Runner) (directory : Place) :
    Inherited fun action =>
      Action.ReadOnly runner action ∧ Action.Steady runner directory action :=
  Action.composes_steady.inherited
    (fun request => ⟨(inherited_readOnly runner).noteRequest request, Action.steady_update _⟩)
    (fun location => ⟨(inherited_readOnly runner).noteMissing location, Action.steady_update _⟩)

theorem Press.readOnly_render {press : Press} (reads : press.repository.ReadOnly runner)
    (text : String) : Action.ReadOnly runner (press.render text) :=
  (inherited_readOnly runner).render reads text

theorem Press.steady_render {press : Press} (steady : press.repository.Steady runner directory)
    (text : String) : Action.Steady runner directory (press.render text) :=
  ((inherited_steady runner directory).render steady text).2

/-- The repository behind `git` is read-only when requests leave the files alone. -/
theorem Repository.readOnly_git (root : Path)
    (harmless : ∀ history now base files command, command.isRequest = true →
      (runner.answer history now base files command).2 = files) :
    (Repository.git root).ReadOnly runner := by
  have asks : ∀ args, Action.ReadOnly runner (Git.run root args) := by
    intro args world same
    have request : (⟨"git" :: args, some root⟩ : Command).isRequest = true := rfl
    have files := harmless world.commands world.now world.base world.files _ request
    rw [← same] at files
    exact ⟨files, rfl, rfl, rfl, [_], rfl, by simpa using request⟩
  exact Action.composes_readOnly.git (asks _) (fun _ => asks _)
    (fun _ => Action.readOnly_observe _)
    (fun _ => Action.readOnly_readText _)

/-- A repository held in memory answers from what it holds. -/
theorem Repository.steady_ofSnapshot (runner : Runner) (directory : Place) (snapshot : Snapshot) :
    (Repository.ofSnapshot snapshot).Steady runner directory :=
  Action.composes_steady.ofSnapshot snapshot

end Contracts

end Bindery
