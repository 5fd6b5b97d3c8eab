import Bindery.Proofs.Build.Treatment
import Bindery.Proofs.World.Faults

/-!
Contract: whom the failure of a tool is blamed on.

Owns:
- `Fault.blamed?`, the source that a fault names as the one whose tool failed;
- the contracts that keep blame out of a build: a runner and a repository that do not themselves
  raise the failure of a tool;
- that a treatment blames nobody but its own item.

Does not own: which item fails (`Bindery.Proofs.Build.Truncation`).
-/

namespace Bindery

open Source

/-- The source that a fault blames for the failure of its tool. -/
def Fault.blamed? : Fault → Option String
  | .build (.toolFailed _ source _ _ _) => some source
  | _ => none

/-- A fault that blames nobody. -/
def Fault.IsBlameless (fault : Fault) : Prop :=
  fault.blamed? = none

/-- A fault that blames at most one source. -/
def Fault.BlamesOnly (source : String) (fault : Fault) : Prop :=
  ∀ other, fault.blamed? = some other → other = source

theorem Fault.IsBlameless.blamesOnly {fault : Fault} (blameless : fault.IsBlameless)
    (source : String) : fault.BlamesOnly source := by
  intro other blamed
  rw [blameless] at blamed
  contradiction

theorem Fault.IsForeign.isBlameless {fault : Fault} (foreign : fault.IsForeign) :
    fault.IsBlameless := by
  cases fault with
  | build error => exact absurd rfl (foreign error)
  | _ => rfl

/-- A failure with the code of failed tools tells in its detail whom it blames. -/
theorem Fault.blamed?_of_code {fault : Fault} {failure : Failure}
    (reported : Book.reported? fault = some failure) (code : failure.code = "TOOL_FAILED") :
    ∃ source, fault.blamed? = some source ∧ failure.detail.lookup "source" = some (.str source) := by
  cases fault with
  | build error =>
      obtain rfl := Option.some.inj reported
      cases error with
      | toolFailed message source command status output => exact ⟨source, rfl, rfl⟩
      | general => simp [Failure.ofBuildError, BuildError.code] at code
      | invalidLocation => simp [Failure.ofBuildError, BuildError.code] at code
      | sectionNotFound => simp [Failure.ofBuildError, BuildError.code] at code
  | io refusal =>
      obtain rfl := Option.some.inj reported
      simp [Failure.ofIoFault] at code
  | _ => contradiction

/-- A runner that answers a command or raises something else than the failure of a tool. -/
def Runner.IsBlameless (runner : Runner) : Prop :=
  ∀ history now base files command fault,
    (runner.answer history now base files command).1 = .error fault → fault.IsBlameless

/-- A repository whose answers, asked from a working directory, raise no failure of a tool. -/
def Repository.IsBlameless (runner : Runner) (base : Place) (repository : Repository) : Prop :=
  repository.All (Action.Raises runner base Fault.IsBlameless)

section Contracts

variable {runner : Runner} {base : Place}

theorem Action.raises_run (blameless : runner.IsBlameless) (command : Command) :
    (Action.run command).Raises runner base Fault.IsBlameless := by
  intro world same here
  refine ⟨same, here, fun fault failed => ?_⟩
  rw [Action.exec_run, same] at failed
  exact blameless _ _ _ _ _ fault failed

theorem inherited_raises (runner : Runner) (base : Place) :
    Inherited (Action.Raises runner base Fault.IsBlameless) where
  pure := Action.raises_pure
  bind := Action.raises_bind
  fail raised := Action.raises_fail (by cases raised <;> rfl)
  log := Action.raises_log
  noteRequest _ := Action.raises_update fun _ => ⟨rfl, rfl⟩
  noteMissing _ := Action.raises_update fun _ => ⟨rfl, rfl⟩

theorem Runner.isBlameless_scripted (refuses : Command → Bool) :
    (Runner.scripted refuses).IsBlameless := by
  intro history now base files command fault failed
  simp only [Runner.scripted] at failed
  split at failed
  · contradiction
  · split at failed
    · contradiction
    · split at failed
      · contradiction
      · rename_i other wrote
        obtain rfl := Except.error.inj failed
        exact (FileStore.isForeign_of_write wrote).isBlameless

theorem Repository.isBlameless_ofSnapshot (snapshot : Snapshot) :
    (Repository.ofSnapshot snapshot).IsBlameless runner base where
  checkedOut := Action.raises_pure _
  readWorking path := by
    simp only [Repository.ofSnapshot]
    split
    · exact Action.raises_fail rfl
    · exact Action.raises_pure _
  readCommitted _ _ := Action.raises_pure _

/-- The repository behind `git` is as blameless as the runner that answers it. -/
theorem Repository.isBlameless_git (blameless : runner.IsBlameless) (root : Path) :
    (Repository.git root).IsBlameless runner base := by
  have refusal : ∀ {α : Type} (request : String) (result : Completion) (value : α),
      (do Git.noteRefusal request result; return value : Action α).Raises runner base
        Fault.IsBlameless :=
    fun request result value =>
      Action.raises_bind (Action.raises_log _ _ _ _) fun _ => Action.raises_pure _
  refine ⟨?_, fun path => ?_, fun branch path => ?_⟩
  · refine Action.raises_bind (Action.raises_run blameless _) fun result => ?_
    split
    · exact Action.raises_pure _
    · exact refusal _ _ _
  · refine Action.raises_bind (Action.raises_observe fun world fault _ failed =>
      (FileStore.isForeign_of_isFile failed).isBlameless) fun found => ?_
    split
    · exact Action.raises_readText (fun _ foreign => foreign.isBlameless) _
    · exact Action.raises_pure _
  · refine Action.raises_bind (Action.raises_run blameless _) fun result => ?_
    split
    · exact Action.raises_pure _
    · exact refusal _ _ _

end Contracts

/-! ## Treatments -/

section Treatments

variable {runner : Runner} {base : Place} {press : Press}

theorem Action.raises_isStaleFor (source artifact : Path) :
    (Staleness.isStaleFor source artifact).Raises runner base Fault.IsBlameless := by
  intro world same here
  rw [Staleness.exec_isStaleFor]
  exact ⟨same, here, fun fault failed => (FileStore.isForeign_of_staleFor failed).isBlameless⟩

theorem Press.raises_publish (blameless : press.repository.IsBlameless runner base)
    (source : Path) (name : String) :
    (press.publish source name).Raises runner base Fault.IsBlameless := by
  have foreign : ∀ fault : Fault, fault.IsForeign → fault.IsBlameless :=
    fun fault foreign => foreign.isBlameless
  refine Action.raises_bind (Action.raises_readText foreign _) fun text => ?_
  refine Action.raises_bind ((inherited_raises runner base).render blameless text) fun _ => ?_
  refine Action.raises_bind (Action.raises_writeText foreign _ _) fun _ => ?_
  exact Action.raises_bind (Action.raises_log _ _ _ _) fun _ => Action.raises_pure _

theorem Press.raises_refreshFragment (blameless : press.repository.IsBlameless runner base)
    (fragment : Path) :
    (press.refreshFragment fragment).Raises runner base Fault.IsBlameless := by
  refine Action.raises_bind (Action.raises_isStaleFor _ _) fun due => ?_
  split
  · refine Action.raises_bind (Action.raises_log _ _ _ _) fun _ => ?_
    exact Action.raises_bind (press.raises_publish blameless _ _) fun _ => Action.raises_pure _
  · exact Action.raises_bind (Action.raises_log _ _ _ _) fun _ => Action.raises_pure _

/-- A tool that is run for a source blames that source, whose report says so. -/
theorem Action.raises_runTool {logger message : String} {source : Path}
    {report : Completion → BuildError} {command : Command} {accused : String}
    (blameless : runner.IsBlameless)
    (accuses : ∀ result, (Fault.build (report result)).BlamesOnly accused) :
    (Action.runTool logger message source report command).Raises runner base
      (Fault.BlamesOnly accused) := by
  have running : (Action.run command).Raises runner base (Fault.BlamesOnly accused) :=
    (Action.raises_run blameless command).mono fun fault innocent => innocent.blamesOnly accused
  refine Action.raises_bind running fun result => ?_
  split
  · exact Action.raises_pure _
  · exact Action.raises_bind (Action.raises_log _ _ _ _) fun _ =>
      Action.raises_fail (accuses result)

/-- The working directory is known to whoever asks for it. -/
theorem Action.raises_workingDirectory {α : Type} {next : Path → Action α} {allowed : Fault → Prop}
    (rest : (next (.ofPlace base)).Raises runner base allowed) :
    (Action.workingDirectory >>= next).Raises runner base allowed := by
  intro world same here
  have asked : Action.workingDirectory.exec world = (.ok (.ofPlace base), world) := by
    rw [← here]
    rfl
  rw [Action.exec_bind_of_ok asked]
  exact rest world same here

end Treatments

/-- A treatment blames nobody but its own item, under the path that the item is read by. -/
theorem Book.raises_treat {book : Book} {runner : Runner} {base : Place} (demanded : Bool)
    (item : Item) (tools : runner.IsBlameless)
    (repository : book.repository.IsBlameless runner base) :
    (book.treat demanded item).Raises runner base
      (Fault.BlamesOnly (sourcePath base item).render) := by
  obtain ⟨kind, path⟩ := item
  have innocent : ∀ {accused : String} (fault : Fault), fault.IsBlameless →
      fault.BlamesOnly accused := fun fault blameless => blameless.blamesOnly _
  have accuses : ∀ {message source : String} {command : List String} {status : Int}
      {output : String},
      (Fault.build (.toolFailed message source command status output)).BlamesOnly source :=
    fun {_ source _ _ _} other blamed => (Option.some.inj blamed).symm
  cases kind with
  | diagram =>
      refine Action.raises_workingDirectory ?_
      refine Action.raises_bind ((Action.raises_isStaleFor _ _).mono innocent) fun due => ?_
      split
      · exact Action.raises_bind (Action.raises_log _ _ _ _) fun _ =>
          Action.raises_runTool tools fun result => accuses
      · exact Action.raises_bind (Action.raises_log _ _ _ _) fun _ => Action.raises_pure _
  | fragment =>
      exact (book.press.raises_refreshFragment repository path).mono innocent
  | document =>
      refine Action.raises_bind
        ((book.press.raises_publish repository path _).mono innocent) fun manuscript => ?_
      -- The engine is run on demand or on the answer of the staleness test, in the same way.
      cases demanded
      case' true => refine Action.raises_bind (Action.raises_pure true) fun due => ?_
      case' false =>
        refine Action.raises_bind ((Action.raises_isStaleFor _ _).mono innocent) fun due => ?_
      all_goals
        dsimp only
        split
        · exact Action.raises_bind (Action.raises_log _ _ _ _) fun _ =>
            Action.raises_runTool tools fun result => accuses
        · exact Action.raises_bind (Action.raises_log _ _ _ _) fun _ => Action.raises_pure _

end Bindery
