import Bindery.Book
import Bindery.Proofs.World.Faults
import Mathlib.Tactic.Choose

/-!
Contract: finding the sources of a book.

Owns:
- `Action.Looks`, the actions that look at the files from the working directory and at nothing
  else, among them reading a text and asking whether an artifact is stale;
- that finding sources is such an action, so that it does not matter when a build does it, and
  that it raises no error of a build.

Does not own: which sources are found (`Bindery.Proofs.Source.Listing`).
-/

namespace Bindery

namespace Action

variable {α β : Type}

/-- An action that is a reading of the files as seen from the working directory. -/
def Looks (action : Action α) : Prop :=
  ∃ reading : FileStore → Place → Except Fault α,
    ∀ world : World, action.exec world = (reading world.files world.base, world)

theorem looks_pure (value : α) : Looks (pure value) :=
  ⟨fun _ _ => .ok value, fun _ => rfl⟩

theorem looks_fail (fault : Fault) : Looks (fail fault : Action α) :=
  ⟨fun _ _ => .error fault, fun _ => rfl⟩

theorem looks_bind {action : Action α} {next : α → Action β} (first : Looks action)
    (rest : ∀ value, Looks (next value)) : Looks (action >>= next) := by
  obtain ⟨reading, reads⟩ := first
  choose later readsLater using rest
  refine ⟨fun files base => reading files base >>= fun value => later value files base, ?_⟩
  intro world
  rw [exec_bind, reads]
  dsimp only
  cases reading world.files world.base with
  | error fault => rfl
  | ok value => exact readsLater value world

/-- What an action that only looks answers, it answers wherever the files are the same. -/
theorem Looks.exec_of_answer {action : Action α} (looks : Looks action) {world other : World}
    {answer : Except Fault α} (files : other.files = world.files) (base : other.base = world.base)
    (answered : (action.exec world).1 = answer) : action.exec other = (answer, other) := by
  obtain ⟨reading, reads⟩ := looks
  rw [reads] at answered
  rw [reads, files, base]
  exact Prod.ext answered rfl

theorem Looks.exec_eq {action : Action α} (looks : Looks action) {world other : World} {value : α}
    (files : other.files = world.files) (base : other.base = world.base)
    (answered : (action.exec world).1 = .ok value) : action.exec other = (.ok value, other) :=
  looks.exec_of_answer files base answered

/-- What goes on after an action that only looks goes on in the same world. -/
theorem Looks.bind_eq_ok {action : Action α} {next : α → Action β} {world : World} {value : β}
    (looks : Looks action) (answered : ((action >>= next).exec world).1 = .ok value) :
    ∃ first, (action.exec world).1 = .ok first ∧ ((next first).exec world).1 = .ok value := by
  cases first : (action.exec world).1 with
  | error fault =>
      rw [exec_bind_of_error (looks.exec_of_answer rfl rfl first)] at answered
      contradiction
  | ok found =>
      rw [exec_bind_of_ok (looks.exec_eq rfl rfl first)] at answered
      exact ⟨found, rfl, answered⟩

theorem looks_readText (path : Path) : (readText path).Looks :=
  looks_bind ⟨fun files base => files.read base path, fun _ => rfl⟩ fun _ => looks_pure _

theorem looks_workingDirectory : workingDirectory.Looks :=
  ⟨fun _ base => .ok (.ofPlace base), fun _ => rfl⟩

theorem looks_isStaleFor (source artifact : Path) :
    (Staleness.isStaleFor source artifact).Looks := by
  refine looks_bind ⟨fun files base => files.modified base source, fun _ => rfl⟩ fun time => ?_
  refine looks_bind ⟨fun files base => files.exists? base artifact, fun _ => rfl⟩ fun there => ?_
  split
  · exact looks_bind ⟨fun files base => files.modified base artifact, fun _ => rfl⟩
      fun _ => looks_pure _
  · exact looks_pure _

end Action

namespace Source

theorem looks_isFile (path : Path) : (Action.isFile path).Looks :=
  ⟨fun files base => files.isFile base path, fun _ => rfl⟩

theorem looks_isDirectory (path : Path) : (Action.isDirectory path).Looks :=
  ⟨fun files base => files.isDirectory base path, fun _ => rfl⟩

theorem looks_keepFiles (paths : List Path) : (keepFiles paths).Looks := by
  induction paths with
  | nil => exact Action.looks_pure _
  | cons path rest inductionHypothesis =>
      refine Action.looks_bind (looks_isFile path) fun _ => ?_
      exact Action.looks_bind inductionHypothesis fun _ => Action.looks_pure _

theorem looks_select (steps : List PathStep) (directory : Path) :
    (Action.observe fun world => select world.files world.base steps directory).Looks :=
  ⟨fun files base => select files base steps directory, fun _ => rfl⟩

theorem looks_find (directory : Path) (suffix : String) : (find directory suffix).Looks := by
  refine Action.looks_bind (looks_isDirectory directory) fun there => ?_
  split
  · simp only
    split
    · exact Action.looks_fail _
    · rename_i steps _
      exact Action.looks_bind (looks_select steps directory) fun paths => looks_keepFiles _
  · exact Action.looks_pure _

theorem looks_findDiagrams (directory : Path) (renderers : List String) :
    (findDiagrams directory renderers).Looks := by
  induction renderers with
  | nil => exact Action.looks_pure _
  | cons renderer rest inductionHypothesis =>
      refine Action.looks_bind (looks_find directory _) fun _ => ?_
      exact Action.looks_bind inductionHypothesis fun _ => Action.looks_pure _

/-! ## Faults on the way -/

section Faults

variable {store : FileStore} {base : Place} {fault : Fault}

theorem isForeign_of_reached {step : PathStep} {onlyDirectories : Bool} {path : Path}
    (failed : reached store base step onlyDirectories path = .error fault) : fault.IsForeign := by
  cases step with
  | here => contradiction
  | named name =>
      simp only [reached] at failed
      split at failed
      · rcases error_of_bind failed with asked | ⟨_, _, answered⟩
        · exact FileStore.isForeign_of_isDirectory asked
        · contradiction
      · rcases error_of_bind failed with asked | ⟨_, _, answered⟩
        · exact FileStore.isForeign_of_exists? asked
        · contradiction
  | matching elements =>
      simp only [reached] at failed
      rcases error_of_bind failed with located | ⟨_, _, answered⟩
      · exact FileStore.isForeign_of_locate located
      · contradiction
  | anyDepth =>
      simp only [reached] at failed
      rcases error_of_bind failed with located | ⟨_, _, answered⟩
      · exact FileStore.isForeign_of_locate located
      · contradiction

theorem isForeign_of_select {steps : List PathStep} {path : Path}
    (failed : select store base steps path = .error fault) : fault.IsForeign := by
  induction steps generalizing path fault with
  | nil => contradiction
  | cons step rest inductionHypothesis =>
      unfold select at failed
      rcases error_of_bind failed with now | ⟨next, _, onward⟩
      · exact isForeign_of_reached now
      · rcases error_of_bind onward with later | ⟨_, _, last⟩
        · obtain ⟨_, _, fails⟩ := error_of_mapM later
          exact inductionHypothesis fails
        · contradiction

end Faults

section Raises

variable {runner : Runner} {base : Place}

theorem raises_keepFiles (paths : List Path) :
    (keepFiles paths).Raises runner base Fault.IsForeign := by
  induction paths with
  | nil => exact Action.raises_pure _
  | cons path rest inductionHypothesis =>
      refine Action.raises_bind (Action.raises_observe fun world fault _ failed =>
        FileStore.isForeign_of_isFile failed) fun _ => ?_
      exact Action.raises_bind inductionHypothesis fun _ => Action.raises_pure _

theorem raises_find (directory : Path) (suffix : String) :
    (find directory suffix).Raises runner base Fault.IsForeign := by
  refine Action.raises_bind (Action.raises_observe fun world fault _ failed =>
    FileStore.isForeign_of_isDirectory failed) fun there => ?_
  split
  · simp only
    split
    · exact Action.raises_fail fun _ same => by contradiction
    · exact Action.raises_bind (Action.raises_observe fun world fault _ failed =>
        isForeign_of_select failed) fun paths => raises_keepFiles _
  · exact Action.raises_pure _

theorem raises_findDiagrams (directory : Path) (renderers : List String) :
    (findDiagrams directory renderers).Raises runner base Fault.IsForeign := by
  induction renderers with
  | nil => exact Action.raises_pure _
  | cons renderer rest inductionHypothesis =>
      refine Action.raises_bind (raises_find directory _) fun _ => ?_
      exact Action.raises_bind inductionHypothesis fun _ => Action.raises_pure _

end Raises

end Source

/-- Finding sources raises no error of a build. -/
theorem Book.raises_sources (book : Book) (runner : Runner) (base : Place) :
    book.sources.Raises runner base Fault.IsForeign := by
  refine Action.raises_bind (Source.raises_findDiagrams _ _) fun _ => ?_
  refine Action.raises_bind (Source.raises_find _ _) fun _ => ?_
  exact Action.raises_bind (Source.raises_find _ _) fun _ => Action.raises_pure _

/-- Finding the sources of a build, or taking the given ones, changes nothing. -/
theorem Book.looks_sourcesOr (book : Book) (chosen : Option Source.Collection) :
    (book.sourcesOr chosen).Looks := by
  cases chosen with
  | some sources => exact Action.looks_pure sources
  | none =>
      refine Action.looks_bind (Source.looks_findDiagrams _ _) fun _ => ?_
      refine Action.looks_bind (Source.looks_find _ _) fun _ => ?_
      exact Action.looks_bind (Source.looks_find _ _) fun _ => Action.looks_pure _

end Bindery
