import Bindery.Proofs.FileStore.Directories
import Bindery.Proofs.Staleness.Overdue
import Bindery.Proofs.World.Effect

/-!
Contract: the faults with which an action can end.

Owns:
- `Action.Raises`, the actions that keep the runner and the working directory and end, if at all,
  with an allowed fault;
- the laws by which the faults of an action follow from those of its parts;
- `Fault.IsForeign`, the faults that are no errors of a build, and that every access to the files
  ends with such a fault, if it fails.

Does not own: the faults of the actions of a build (`Bindery.Proofs.Build.Blame`).
-/

namespace Bindery

namespace Action

section Raises

variable {α β : Type} {runner : Runner} {base : Place} {allowed wider : Fault → Prop}

/-- An action that, with a runner and from a working directory, ends with no fault but the allowed
ones, and leaves both as they are. -/
def Raises (runner : Runner) (base : Place) (allowed : Fault → Prop) (action : Action α) : Prop :=
  ∀ world : World, world.runner = runner → world.base = base →
    (action.exec world).2.runner = runner ∧ (action.exec world).2.base = base ∧
      ∀ fault, (action.exec world).1 = .error fault → allowed fault

theorem raises_pure (value : α) : Raises runner base allowed (pure value) :=
  fun _ same here => ⟨same, here, by simp⟩

theorem raises_fail {fault : Fault} (among : allowed fault) :
    Raises runner base allowed (fail fault : Action α) :=
  fun _ same here => ⟨same, here, fun _ failed => Except.error.inj failed ▸ among⟩

theorem raises_observe {reading : World → Except Fault α}
    (among : ∀ world fault, world.base = base → reading world = .error fault → allowed fault) :
    Raises runner base allowed (observe reading) :=
  fun world same here => ⟨same, here, fun fault failed => among world fault here failed⟩

theorem raises_update {change : World → World}
    (keeps : ∀ world, (change world).runner = world.runner ∧ (change world).base = world.base) :
    Raises runner base allowed (update change) :=
  fun world same here =>
    ⟨(keeps world).1.trans same, (keeps world).2.trans here, by simp⟩

theorem raises_log (level : Level) (logger message : String) (fields : Entries) :
    Raises runner base allowed (log level logger message fields) :=
  raises_update fun _ => ⟨rfl, rfl⟩

theorem raises_bind {action : Action α} {next : α → Action β}
    (first : Raises runner base allowed action)
    (rest : ∀ value, Raises runner base allowed (next value)) :
    Raises runner base allowed (action >>= next) := by
  intro world same here
  obtain ⟨sameAfter, hereAfter, among⟩ := first world same here
  rw [exec_bind]
  split
  · rename_i value middle ran
    rw [ran] at sameAfter hereAfter
    exact rest value middle sameAfter hereAfter
  · rename_i fault middle ran
    rw [ran] at sameAfter hereAfter among
    exact ⟨sameAfter, hereAfter, fun other failed => among other (Except.error.inj failed ▸ rfl)⟩

theorem Raises.mono {action : Action α} (raises : Raises runner base allowed action)
    (more : ∀ fault, allowed fault → wider fault) : Raises runner base wider action := by
  intro world same here
  obtain ⟨sameAfter, hereAfter, among⟩ := raises world same here
  exact ⟨sameAfter, hereAfter, fun fault failed => more fault (among fault failed)⟩

/-- Where such an action has run, the runner and the working directory are as before. -/
theorem Raises.keeps {action : Action α} {world after : World} {answer : Except Fault α}
    (raises : Raises world.runner world.base allowed action)
    (ran : action.exec world = (answer, after)) :
    after.runner = world.runner ∧ after.base = world.base := by
  have kept := raises world rfl rfl
  rw [ran] at kept
  exact ⟨kept.1, kept.2.1⟩

end Raises

end Action

/-! ## Faults of the file system -/

/-- A fault that is no error of a build. -/
def Fault.IsForeign (fault : Fault) : Prop :=
  ∀ error, fault ≠ .build error

theorem Fault.isForeign_of_refusal {fault : Fault}
    (refusal : fault = .nullInPath ∨ ∃ refused, fault = .io refused) : fault.IsForeign := by
  rintro error rfl
  rcases refusal with same | ⟨_, same⟩ <;> contradiction

section Except

variable {α β : Type} {answer : Except Fault α} {fault : Fault}

/-- A sequence that fails has failed in its first part or behind it. -/
theorem error_of_bind {next : α → Except Fault β} (failed : answer >>= next = .error fault) :
    answer = .error fault ∨ ∃ value, answer = .ok value ∧ next value = .error fault := by
  cases answer with
  | error other => exact .inl (congrArg _ (Except.error.inj failed))
  | ok value => exact .inr ⟨value, rfl, failed⟩

theorem error_of_map {change : α → β} (failed : answer.map change = .error fault) :
    answer = .error fault := by
  cases answer with
  | error other => exact congrArg _ (Except.error.inj failed)
  | ok value => contradiction

/-- A step that is taken for each of many values fails as it does for one of them. -/
theorem error_of_mapM {step : α → Except Fault β} {values : List α}
    (failed : values.mapM step = .error fault) : ∃ value ∈ values, step value = .error fault := by
  induction values with
  | nil => contradiction
  | cons value rest inductionHypothesis =>
      rw [List.mapM_cons] at failed
      rcases error_of_bind failed with now | ⟨_, _, onward⟩
      · exact ⟨value, List.mem_cons_self, now⟩
      · rcases error_of_bind onward with later | ⟨_, _, last⟩
        · obtain ⟨other, among, fails⟩ := inductionHypothesis later
          exact ⟨other, List.mem_cons_of_mem _ among, fails⟩
        · contradiction

end Except

namespace FileStore

variable {store : FileStore} {base : Place} {path source artifact : Path} {fault : Fault}

theorem isForeign_of_locate (failed : store.locate base path = .error fault) : fault.IsForeign :=
  Fault.isForeign_of_refusal ((locate_eq_error failed).imp_left And.left)

theorem isForeign_of_status (failed : store.status base path = .error fault) : fault.IsForeign :=
  Fault.isForeign_of_refusal (status_eq_error failed)

theorem isForeign_of_status? (failed : store.status? base path = .error fault) :
    fault.IsForeign := by
  unfold status? at failed
  split at failed
  · contradiction
  · contradiction
  · split at failed
    · contradiction
    · obtain rfl := Except.error.inj failed
      exact Fault.isForeign_of_refusal (.inr ⟨_, rfl⟩)
  · rename_i other _ _ answered
    obtain rfl := Except.error.inj failed
    exact isForeign_of_status answered

theorem isForeign_of_exists? (failed : store.exists? base path = .error fault) : fault.IsForeign :=
  isForeign_of_status? (error_of_map failed)

theorem isForeign_of_isFile (failed : store.isFile base path = .error fault) : fault.IsForeign :=
  isForeign_of_status? (error_of_map failed)

theorem isForeign_of_isDirectory (failed : store.isDirectory base path = .error fault) :
    fault.IsForeign :=
  isForeign_of_status? (error_of_map failed)

theorem isForeign_of_modified (failed : store.modified base path = .error fault) :
    fault.IsForeign :=
  isForeign_of_status (error_of_map failed)

theorem isForeign_of_read {path : Path} (failed : store.read base path = .error fault) :
    fault.IsForeign := by
  unfold read at failed
  split at failed
  · rename_i other answered
    obtain rfl := Except.error.inj failed
    exact isForeign_of_status answered
  · contradiction
  · obtain rfl := Except.error.inj failed
    exact Fault.isForeign_of_refusal (.inr ⟨_, rfl⟩)

theorem isForeign_of_write {now : Int} {content : List UInt8}
    (failed : store.write base now path content = .error fault) : fault.IsForeign := by
  unfold write at failed
  split at failed
  · rename_i other located
    obtain rfl := Except.error.inj failed
    exact isForeign_of_locate located
  · split at failed
    · obtain rfl := Except.error.inj failed
      exact Fault.isForeign_of_refusal (.inr ⟨_, rfl⟩)
    · contradiction
    · contradiction

theorem isForeign_of_staleFor (failed : store.staleFor base source artifact = .error fault) :
    fault.IsForeign := by
  rcases error_of_bind failed with asked | ⟨changed, _, onward⟩
  · exact isForeign_of_modified asked
  rcases error_of_bind onward with existing | ⟨found, _, last⟩
  · exact isForeign_of_exists? existing
  split at last
  · rcases error_of_bind last with made | ⟨_, _, compared⟩
    · exact isForeign_of_modified made
    · contradiction
  · contradiction

end FileStore

namespace Action

variable {runner : Runner} {base : Place} {allowed : Fault → Prop}

theorem raises_makeDirectories (foreign : ∀ fault : Fault, fault.IsForeign → allowed fault)
    (path : Path) : Raises runner base allowed (makeDirectories path) := by
  intro world same here
  refine ⟨same, here, fun fault failed => foreign fault ?_⟩
  exact Fault.isForeign_of_refusal
    (FileStore.makeDirectories_refusal (Prod.ext failed rfl))

theorem raises_readText (foreign : ∀ fault : Fault, fault.IsForeign → allowed fault)
    (path : Path) : Raises runner base allowed (readText path) :=
  raises_bind (raises_observe fun _ fault _ failed =>
    foreign fault (FileStore.isForeign_of_read failed)) fun _ => raises_pure _

theorem raises_writeFile (foreign : ∀ fault : Fault, fault.IsForeign → allowed fault)
    (path : Path) (content : List UInt8) :
    Raises runner base allowed (writeFile path content) := by
  intro world same here
  unfold writeFile
  rw [exec_ofEffect]
  split
  · exact ⟨same, here, by simp⟩
  · rename_i fault failed
    refine ⟨same, here, fun other raised => foreign other ?_⟩
    obtain rfl := Except.error.inj raised
    exact FileStore.isForeign_of_write failed

theorem raises_writeText (foreign : ∀ fault : Fault, fault.IsForeign → allowed fault)
    (path : Path) (text : String) : Raises runner base allowed (writeText path text) :=
  raises_bind (raises_makeDirectories foreign _) fun _ =>
    raises_bind (raises_writeFile foreign _ _) fun _ => raises_pure _

end Action

end Bindery
