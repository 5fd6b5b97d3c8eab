import Bindery.Proofs.Command.Contract
import Bindery.Proofs.Press.Rendering
import Bindery.Proofs.Source.Finding

/-!
Contract: that an action works the same however it is recorded.

Owns:
- `World.SameWork`, worlds that differ at most by the log and by the recording of phases;
- `Action.WorksLike`, two actions that answer the same in such worlds and leave such worlds. An
  action that works like itself does not look at the recording;
- that the elementary actions, staleness, and the rendering of manuscripts do not, and that a
  recorded phase works like its action.

Does not own: whole operations (`Bindery.Proofs.Build.Transparency`).
-/

namespace Bindery

/-- Worlds in which the same was done to the same project: only the log and the recording of phases
may differ. -/
structure World.SameWork (left right : World) : Prop where
  files : left.files = right.files
  now : left.now = right.now
  base : left.base = right.base
  environment : left.environment = right.environment
  runner : left.runner = right.runner
  commands : left.commands = right.commands
  requests : left.requests = right.requests
  missing : left.missing = right.missing

namespace World.SameWork

variable {left middle right : World}

theorem refl (world : World) : world.SameWork world :=
  ⟨rfl, rfl, rfl, rfl, rfl, rfl, rfl, rfl⟩

theorem symm (same : left.SameWork right) : right.SameWork left :=
  ⟨same.files.symm, same.now.symm, same.base.symm, same.environment.symm, same.runner.symm,
    same.commands.symm, same.requests.symm, same.missing.symm⟩

theorem trans (first : left.SameWork middle) (second : middle.SameWork right) :
    left.SameWork right :=
  ⟨first.files.trans second.files, first.now.trans second.now, first.base.trans second.base,
    first.environment.trans second.environment, first.runner.trans second.runner,
    first.commands.trans second.commands, first.requests.trans second.requests,
    first.missing.trans second.missing⟩

/-- It does not matter what is recorded. -/
theorem recorded (same : left.SameWork right) (recording : Recording) :
    World.SameWork { left with recording := recording } right :=
  ⟨same.files, same.now, same.base, same.environment, same.runner, same.commands, same.requests,
    same.missing⟩

theorem logged (same : left.SameWork right) (event : Event) :
    (left.logged event).SameWork right :=
  ⟨same.files, same.now, same.base, same.environment, same.runner, same.commands, same.requests,
    same.missing⟩

end World.SameWork

namespace Action

variable {α β : Type}

/-- Two actions that do the same work: where only the recording differs, they give one answer, and
afterwards again only the recording differs. -/
def WorksLike (action other : Action α) : Prop :=
  ∀ left right : World, left.SameWork right →
    (action.exec left).1 = (other.exec right).1 ∧
      (action.exec left).2.SameWork (other.exec right).2

/-- The two runs of actions that do the same work. -/
theorem WorksLike.runs {action other : Action α} {left right : World}
    (like : action.WorksLike other) (same : left.SameWork right) : ∃ answer afterLeft afterRight,
      action.exec left = (answer, afterLeft) ∧ other.exec right = (answer, afterRight) ∧
        afterLeft.SameWork afterRight := by
  obtain ⟨answers, after⟩ := like left right same
  refine ⟨(action.exec left).1, (action.exec left).2, (other.exec right).2, rfl, ?_, after⟩
  rw [answers]

theorem WorksLike.symm {action other : Action α} (like : action.WorksLike other) :
    other.WorksLike action := by
  intro left right same
  obtain ⟨answers, after⟩ := like right left same.symm
  exact ⟨answers.symm, after.symm⟩

theorem WorksLike.trans {first second third : Action α} (front : first.WorksLike second)
    (back : second.WorksLike third) : first.WorksLike third := by
  intro left right same
  obtain ⟨answers, after⟩ := front left left (.refl left)
  obtain ⟨answersBack, afterBack⟩ := back left right same
  exact ⟨answers.trans answersBack, after.trans afterBack⟩

theorem worksLike_pure (value : α) : WorksLike (pure value) (pure value) :=
  fun _ _ same => ⟨rfl, same⟩

theorem worksLike_fail (fault : Fault) : WorksLike (fail fault : Action α) (fail fault) :=
  fun _ _ same => ⟨rfl, same⟩

theorem worksLike_observe {reading : World → Except Fault α}
    (blind : ∀ left right : World, left.SameWork right → reading left = reading right) :
    WorksLike (observe reading) (observe reading) :=
  fun left right same => ⟨blind left right same, same⟩

theorem worksLike_update {change : World → World}
    (blind : ∀ left right : World, left.SameWork right → (change left).SameWork (change right)) :
    WorksLike (update change) (update change) :=
  fun left right same => ⟨rfl, blind left right same⟩

theorem worksLike_log (level : Level) (logger message : String) (fields : Entries) :
    WorksLike (log level logger message fields) (log level logger message fields) :=
  fun _ _ same => ⟨rfl, ((same.logged _).symm.logged _).symm⟩

theorem worksLike_bind {action other : Action α} {next otherNext : α → Action β}
    (first : action.WorksLike other) (rest : ∀ value, (next value).WorksLike (otherNext value)) :
    (action >>= next).WorksLike (other >>= otherNext) := by
  intro left right same
  obtain ⟨answer, afterLeft, afterRight, ranLeft, ranRight, after⟩ := first.runs same
  rw [exec_bind, exec_bind, ranLeft, ranRight]
  cases answer with
  | error fault => exact ⟨rfl, after⟩
  | ok value => exact rest value afterLeft afterRight after

theorem worksLike_run (command : Command) : (run command).WorksLike (run command) := by
  intro left right same
  rw [exec_run, exec_run, same.runner, same.commands, same.now, same.base, same.files]
  exact ⟨rfl, rfl, rfl, rfl, same.environment, rfl, rfl, same.requests, same.missing⟩

theorem worksLike_makeDirectories (path : Path) :
    (makeDirectories path).WorksLike (makeDirectories path) := by
  intro left right same
  rw [makeDirectories, exec_ofEffect, exec_ofEffect, same.files, same.base]
  exact ⟨rfl, rfl, same.now, rfl, same.environment, same.runner, same.commands, same.requests,
    same.missing⟩

theorem worksLike_writeFile (path : Path) (content : List UInt8) :
    (writeFile path content).WorksLike (writeFile path content) := by
  intro left right same
  rw [writeFile, exec_ofEffect, exec_ofEffect, same.files, same.base, same.now]
  cases right.files.write right.base right.now path content with
  | error fault => exact ⟨rfl, same⟩
  | ok written =>
      exact ⟨rfl, rfl, rfl, rfl, same.environment, same.runner, same.commands,
        same.requests, same.missing⟩

theorem worksLike_writeText (path : Path) (text : String) :
    (writeText path text).WorksLike (writeText path text) := by
  refine worksLike_bind (worksLike_makeDirectories _) fun _ => ?_
  exact worksLike_bind (worksLike_writeFile _ _) fun _ => worksLike_pure _

/-- What only looks at the files does not look at the recording. -/
theorem Looks.worksLike {action : Action α} (looks : Looks action) : action.WorksLike action := by
  obtain ⟨reading, reads⟩ := looks
  intro left right same
  rw [reads, reads, same.files, same.base]
  exact ⟨rfl, same⟩

theorem composes_worksLike : Composes fun action => action.WorksLike action where
  pure := worksLike_pure
  fail := worksLike_fail
  log := worksLike_log
  bind := worksLike_bind

/-! ## Phases -/

theorem worksLike_annotate (key : String) (value : Value) :
    (annotate key value).WorksLike (pure ()) :=
  fun _ _ same => ⟨rfl, same.recorded _⟩

/-- A phase that is opened and closed around an action answers what the action does. -/
theorem exec_within (name : String) (isRoot : Bool) (action : Action α) (world : World) :
    (within name isRoot action).exec world =
      let opened := { world with recording := world.recording.push name isRoot }
      let closing := (action.exec opened).2.recording.pop
      ((action.exec opened).1.map fun value => (value, closing.1),
        { (action.exec opened).2 with recording := closing.2 }) := rfl

/-- A recorded phase works like its action without a record. -/
theorem worksLike_phase {name : String} {action : Bool → Action α} {other : Action α}
    (like : ∀ recorded, (action recorded).WorksLike other) :
    (phase name action).WorksLike other := by
  intro left right same
  unfold phase
  rw [exec_ofEffect]
  split
  · obtain ⟨answer, inside, after, ran, ranOther, sameAfter⟩ :=
      (like true).runs (same.recorded (left.recording.push name false))
    rw [exec_bind, exec_within]
    dsimp only
    rw [ran, ranOther]
    cases answer with
    | error fault => exact ⟨rfl, sameAfter.recorded _⟩
    | ok value => exact ⟨rfl, sameAfter.recorded _⟩
  · exact like false left right same

end Action

/-! ## Version control -/

/-- Not to look at the recording is handed on from the parts of an excerpt to the whole. -/
theorem inherited_worksLike : Inherited fun action => action.WorksLike action :=
  Action.composes_worksLike.inherited
    (fun request => Action.worksLike_update fun _ _ same =>
      { same with requests := congrArg (· ++ [request]) same.requests })
    (fun location => Action.worksLike_update fun _ _ same =>
      { same with missing := congrArg (· ++ [location.render]) same.missing })

namespace Repository

/-- A version control that does not look at the recording. -/
def Unrecorded (repository : Repository) : Prop :=
  repository.All fun action => action.WorksLike action

theorem unrecorded_ofSnapshot (snapshot : Snapshot) : (ofSnapshot snapshot).Unrecorded :=
  Action.composes_worksLike.ofSnapshot snapshot

theorem unrecorded_git (root : Path) : (Repository.git root).Unrecorded :=
  Action.composes_worksLike.git (Action.worksLike_run _) (fun _ => Action.worksLike_run _)
    (fun path => (Source.looks_isFile path).worksLike)
    (fun path => (Action.looks_readText path).worksLike)

end Repository

namespace Press

variable {press : Press}

theorem worksLike_publish (unrecorded : press.repository.Unrecorded) (source : Path)
    (name : String) : (press.publish source name).WorksLike (press.publish source name) := by
  refine Action.worksLike_bind (Action.looks_readText source).worksLike fun text => ?_
  refine Action.worksLike_bind (inherited_worksLike.render unrecorded text) fun rendered => ?_
  refine Action.worksLike_bind (Action.worksLike_writeText _ _) fun written => ?_
  exact Action.worksLike_bind (Action.worksLike_log _ _ _ _) fun _ => Action.worksLike_pure _

end Press

end Bindery
