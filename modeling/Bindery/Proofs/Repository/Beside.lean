import Bindery.Proofs.Repository.Limited
import Mathlib.Data.List.Infix

/-!
Contract: when the repository behind `git` does not notice what happens inside a directory.

Owns:
- `Path.Avoids`, the paths whose way never enters a directory, and that a file behind such a path is
  found and read alike in stores that differ inside the directory only;
- `Runner.Consistent`, runners whose answers to version control depend on the command and on what is
  beside the directory, and change no file;
- that with such a runner the repository behind `git` has fixed answers and questions for all
  requests for committed files, and for those for working files whose way avoids the directory.

Does not own: which requests a run makes.

A working file inside the directory is not covered, since a build may have just written it. Nor is
one whose path leads through the directory and out of it again.
-/

namespace Bindery

/-! ## Paths beside a directory -/

/-- A path from the root whose way never enters a directory. -/
def Path.Avoids (directory : Place) (path : Path) : Prop :=
  path.isAbsolute = true ∧
    ∀ front ∈ path.parts.inits, ¬ directory <+: front.foldl Path.descend []

instance (directory : Place) (path : Path) : Decidable (path.Avoids directory) :=
  inferInstanceAs (Decidable (_ ∧ ∀ front ∈ path.parts.inits, _))

namespace FileStore

variable {directory base : Place} {left right : FileStore} {path : Path}

theorem walk_beside {place : Place} {names : List String}
    (same : ∀ other, ¬ directory <+: other → left.find? other = right.find? other)
    (avoids : ∀ front, front <+: names → ¬ directory <+: front.foldl Path.descend place) :
    left.walk place names = right.walk place names := by
  induction names generalizing place with
  | nil => rfl
  | cons name rest inductionHypothesis =>
      have onward : left.walk (Path.descend place name) rest =
          right.walk (Path.descend place name) rest :=
        inductionHypothesis fun front begins =>
          avoids (name :: front) (List.cons_prefix_cons.2 ⟨rfl, begins⟩)
      unfold walk
      rw [same place (avoids [] List.nil_prefix)]
      unfold Path.descend at onward
      split
      · rfl
      · rfl
      · split
        · rename_i up
          rwa [if_pos up] at onward
        · rename_i different
          rw [if_neg different] at onward
          rw [onward]

/-- What is behind a path that avoids a directory does not depend on what is inside of it. -/
theorem status_beside
    (same : ∀ other, ¬ directory <+: other → left.find? other = right.find? other)
    (avoids : path.Avoids directory) : left.status base path = right.status base path := by
  obtain ⟨absolute, beside⟩ := avoids
  have walks : left.walk [] path.parts = right.walk [] path.parts :=
    walk_beside same fun front begins => beside front ((List.mem_inits _ _).2 begins)
  unfold status locate
  rw [absolute, if_pos rfl, walks]
  split
  · rfl
  · rename_i place located
    have reached : place = path.parts.foldl Path.descend [] := by
      repeat' split at located
      · contradiction
      · contradiction
      · rename_i walked
        exact (Except.ok.inj located).symm.trans (eq_foldl_of_walk walked)
      · contradiction
    have here : ¬ directory <+: place :=
      reached ▸ beside path.parts ((List.mem_inits _ _).2 (List.prefix_refl _))
    rw [same place here]

end FileStore

/-! ## Reading beside a directory -/

namespace Action

variable {α : Type} {runner : Runner} {directory : Place}

theorem Fixed.steady {action : Action α} (fixed : Fixed runner directory action) :
    Steady runner directory action :=
  fun left right same beside => (fixed left right same beside).1

theorem fixed_observe {reading : World → Except Fault α}
    (alike : ∀ left right, World.SameBeside directory left right → reading left = reading right) :
    Fixed runner directory (observe reading) :=
  fun left right _ beside => ⟨alike left right beside, [], (List.append_nil _).symm,
    (List.append_nil _).symm⟩

theorem fixed_isFile {path : Path} (avoids : path.Avoids directory) :
    Fixed runner directory (isFile path) := by
  refine fixed_observe fun left right beside => ?_
  unfold FileStore.isFile FileStore.status?
  rw [beside.base, FileStore.status_beside beside.files avoids]

theorem fixed_readText {path : Path} (avoids : path.Avoids directory) :
    Fixed runner directory (readText path) := by
  refine fixed_bind (readOnly_observe _) (fixed_observe fun left right beside => ?_)
    fun _ => fixed_pure _
  unfold FileStore.read
  rw [beside.base, FileStore.status_beside beside.files avoids]

end Action

/-! ## The repository behind `git` -/

/-- Questions to version control change no file, and are answered the same at any time as long as
nothing changes but the inside of a directory. -/
structure Runner.Consistent (runner : Runner) (directory : Place) : Prop where
  harmless : ∀ history now base files command, command.isRequest = true →
    (runner.answer history now base files command).2 = files
  same : ∀ command history now history' now' base (left right : FileStore),
    command.isRequest = true →
    (∀ place, ¬ directory <+: place → left.find? place = right.find? place) →
      (runner.answer history now base left command).1 =
        (runner.answer history' now' base right command).1

theorem Runner.consistent_onBranch (branch : String) (tools : Runner) (directory : Place) :
    (Runner.onBranch branch tools).Consistent directory where
  harmless history now base files command request := by
    simp only [onBranch, if_pos request]
    split <;> rfl
  same command history now history' now' base left right request _ := by
    simp only [onBranch, if_pos request]
    split <;> rfl

namespace Repository

variable {runner : Runner} {directory : Place} {root : Path} {asked : Request → Bool}

/-- With consistent answers to its questions, the repository behind `git` is fixed for requests that
do not lead to working files by way of the directory. -/
theorem fixedFor_git (consistent : runner.Consistent directory)
    (avoids : ∀ path, asked (.working path) = true → (root.joinText path).Avoids directory) :
    (Repository.git root).FixedFor asked runner directory := by
  have asks : ∀ args, Action.ReadOnly runner (Git.run root args) ∧
      Action.Fixed runner directory (Git.run root args) := by
    intro args
    have request : (⟨"git" :: args, some root⟩ : Command).isRequest = true := rfl
    constructor
    · intro world same
      have files := consistent.harmless world.commands world.now world.base world.files _ request
      rw [← same] at files
      exact ⟨files, rfl, rfl, rfl, [_], rfl, by simpa using request⟩
    · intro left right same beside
      have answers := consistent.same _ left.commands left.now right.commands right.now left.base
        left.files right.files request beside.files
      refine ⟨?_, [_], rfl, rfl⟩
      rw [Git.run, Action.exec_run, Action.exec_run, ← beside.runner, ← beside.base, same]
      exact answers
  exact Action.composes_fixed.gitFor (asks _) (fun _ => asks _)
    (fun path chosen => ⟨Action.readOnly_observe _, Action.fixed_isFile (avoids path chosen)⟩)
    (fun path chosen => ⟨Action.readOnly_readText _, Action.fixed_readText (avoids path chosen)⟩)

theorem FixedFor.steadyFor {repository : Repository}
    (fixed : repository.FixedFor asked runner directory) :
    repository.SteadyFor asked runner directory where
  checkedOut := ⟨fixed.checkedOut.1, fixed.checkedOut.2.steady⟩
  readWorking path chosen :=
    ⟨(fixed.readWorking path chosen).1, (fixed.readWorking path chosen).2.steady⟩
  readCommitted branch path chosen :=
    ⟨(fixed.readCommitted branch path chosen).1, (fixed.readCommitted branch path chosen).2.steady⟩

end Repository

end Bindery
