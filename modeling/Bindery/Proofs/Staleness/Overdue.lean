import Bindery.Proofs.World.Effect
import Bindery.Staleness

/-!
Contract: the staleness of an artifact, read off the places of two files.

Owns:
- `isOverdue`, the decision on the times at two places, without paths and without refusals;
- `Reaches` and `Finds`, paths that lead to their place and paths behind which something is;
- that the staleness which a build asks for is this decision whenever it answers, and when it
  answers.

Does not own: what is done with a stale artifact (`Bindery.Proofs.Build.Treatment`).
-/

namespace Bindery

namespace FileStore

/-- The second of the last change at a place, if anything is there. -/
def timeAt (store : FileStore) (place : Place) : Option Int :=
  (store.find? place).map Node.modified

/-- Whether an artifact is missing or strictly older than its source. -/
def isOverdue (store : FileStore) (source artifact : Place) : Bool :=
  match store.timeAt artifact with
  | none => true
  | some made => (store.timeAt source).any fun changed => made < changed

/-- A path that leads to its place, whether or not anything is there. -/
def Reaches (store : FileStore) (base : Place) (path : Path) : Prop :=
  store.locate base path = .ok (path.placeFrom base)

/-- A path behind which something is. -/
structure Finds (store : FileStore) (base : Place) (path : Path) : Prop where
  reaches : store.Reaches base path
  found : (store.find? (path.placeFrom base)).isSome

section Decision

variable {left right store : FileStore} {source artifact : Place}

theorem isOverdue_congr (sameSource : left.find? source = right.find? source)
    (sameArtifact : left.find? artifact = right.find? artifact) :
    left.isOverdue source artifact = right.isOverdue source artifact := by
  simp only [isOverdue, timeAt, sameSource, sameArtifact]

/-- An artifact is up to date when it is there and its source has not changed since. -/
theorem isOverdue_eq_false_iff :
    store.isOverdue source artifact = false ↔
      ∃ made, store.timeAt artifact = some made ∧
        ∀ changed, store.timeAt source = some changed → changed ≤ made := by
  unfold isOverdue
  cases made : store.timeAt artifact with
  | none => simp
  | some time =>
      cases store.timeAt source with
      | none => simp
      | some changed => simp

end Decision

section Reaching

variable {chosen : Place → Prop} {left right store : FileStore} {base : Place} {path : Path}

theorem Reaches.of_agreesOn (reaches : left.Reaches base path) (agrees : AgreesOn chosen left right) :
    right.Reaches base path :=
  (locate_alike agrees base path).ok reaches

theorem Finds.of_agreesOn (finds : left.Finds base path) (agrees : AgreesOn chosen left right)
    (among : chosen (path.placeFrom base)) : right.Finds base path :=
  ⟨finds.reaches.of_agreesOn agrees, agrees.nodes _ among ▸ finds.found⟩

theorem Reaches.clean (reaches : store.Reaches base path) : path.hasNull = false :=
  (walk_of_locate reaches).1

theorem reaches_of_write {now : Int} {content : List UInt8} {written : FileStore}
    (wrote : store.write base now path content = .ok written) : store.Reaches base path := by
  unfold write at wrote
  split at wrote
  · contradiction
  · rename_i place located
    obtain rfl := eq_placeFrom_of_locate located
    exact located

theorem finds_of_status {node : Node} (answered : store.status base path = .ok node) :
    store.Finds base path := by
  obtain ⟨located, found⟩ := locate_of_status answered
  exact ⟨located, by simp [found]⟩

theorem finds_of_read {content : List UInt8} (answered : store.read base path = .ok content) :
    store.Finds base path := by
  unfold read at answered
  split at answered
  · contradiction
  · exact finds_of_status (by assumption)
  · contradiction

theorem Finds.modified_eq (finds : store.Finds base path) :
    ∃ time, store.timeAt (path.placeFrom base) = some time ∧ store.modified base path = .ok time := by
  obtain ⟨node, found⟩ := Option.isSome_iff_exists.1 finds.found
  refine ⟨node.modified, by simp [timeAt, found], ?_⟩
  exact modified_eq_ok_iff.2 ⟨node, status_of_locate finds.reaches found, rfl⟩

theorem finds_of_modified {time : Int} (answered : store.modified base path = .ok time) :
    store.Finds base path ∧ store.timeAt (path.placeFrom base) = some time := by
  obtain ⟨node, status, rfl⟩ := modified_eq_ok_iff.1 answered
  exact ⟨finds_of_status status, by simp [timeAt, (locate_of_status status).2]⟩

theorem Reaches.exists?_eq (reaches : store.Reaches base path) :
    store.exists? base path = .ok (store.find? (path.placeFrom base)).isSome := by
  have located : store.locate base path = .ok (path.placeFrom base) := reaches
  cases found : store.find? (path.placeFrom base) with
  | none => simp [exists?, status?, status, located, found, Except.map]
  | some node => simp [exists?, status?, status_of_locate located found, Except.map]

end Reaching

/-! ## What a build asks for -/

/-- The answer to whether an artifact is stale for a source. -/
def staleFor (store : FileStore) (base : Place) (source artifact : Path) : Except Fault Bool := do
  let changed ← store.modified base source
  if ← store.exists? base artifact then
    return decide ((← store.modified base artifact) < changed)
  else
    return true

section Asking

variable {store : FileStore} {base : Place} {source artifact : Path}

/-- The question is answered by the decision when the source is there and the artifact is in
reach. -/
theorem staleFor_of_reaches (finds : store.Finds base source) (reaches : store.Reaches base artifact) :
    store.staleFor base source artifact =
      .ok (store.isOverdue (source.placeFrom base) (artifact.placeFrom base)) := by
  obtain ⟨changed, sourceTime, asked⟩ := finds.modified_eq
  unfold staleFor isOverdue
  rw [asked, reaches.exists?_eq, sourceTime]
  cases found : store.find? (artifact.placeFrom base) with
  | none =>
      simp only [timeAt, found]
      rfl
  | some node =>
      have there : store.Finds base artifact := ⟨reaches, by simp [found]⟩
      obtain ⟨made, artifactTime, answered⟩ := there.modified_eq
      rw [answered, artifactTime]
      rfl

/-- An artifact in a directory that is there is in reach whenever the question is answered. -/
theorem reaches_of_staleFor {directory : Path} {name : String} {answer : Bool}
    (there : store.isDirectory base directory = .ok true) (part : Path.IsPart name)
    (clean : source.hasNull = false → (directory.joinText name).hasNull = false)
    (answered : store.staleFor base source (directory.joinText name) = .ok answer) :
    store.Finds base source ∧ store.Reaches base (directory.joinText name) ∧
      answer = store.isOverdue (source.placeFrom base)
        ((directory.joinText name).placeFrom base) := by
  have asked := answered
  unfold staleFor at asked
  cases sourceAsked : store.modified base source with
  | error fault =>
      rw [sourceAsked] at asked
      contradiction
  | ok changed =>
      have finds := (finds_of_modified sourceAsked).1
      cases existing : store.exists? base (directory.joinText name) with
      | error fault =>
          rw [sourceAsked, existing] at asked
          contradiction
      | ok found =>
          have reaches := (exists?_joinText there part (clean finds.reaches.clean) existing).1
          refine ⟨finds, reaches, ?_⟩
          rw [staleFor_of_reaches finds reaches] at answered
          exact (Except.ok.inj answered).symm

/-- Stores that agree at both places answer alike. -/
theorem staleFor_alike {chosen : Place → Prop} {left right : FileStore}
    (agrees : AgreesOn chosen left right) (amongSource : chosen (source.placeFrom base))
    (amongArtifact : chosen (artifact.placeFrom base)) :
    Alike (left.staleFor base source artifact) (right.staleFor base source artifact) := by
  refine (modified_alike agrees amongSource).bind fun changed => ?_
  rw [exists?_eq agrees amongArtifact]
  cases right.exists? base artifact with
  | error fault => exact .same _
  | ok found =>
      cases found with
      | false => exact .same _
      | true => exact (modified_alike agrees amongArtifact).bind fun made => .same _

end Asking

end FileStore

theorem Staleness.exec_isStaleFor (source artifact : Path) (world : World) :
    (isStaleFor source artifact).exec world =
      (world.files.staleFor world.base source artifact, world) := by
  unfold isStaleFor isStaleAt FileStore.staleFor
  rw [Action.exec_bind, Action.exec_observe]
  cases world.files.modified world.base source with
  | error fault => rfl
  | ok changed =>
      simp only
      rw [Action.exec_bind, Action.exec_observe]
      cases world.files.exists? world.base artifact with
      | error fault => rfl
      | ok found =>
          cases found with
          | false => rfl
          | true =>
              simp only [if_true]
              rw [Action.exec_bind, Action.exec_observe]
              cases world.files.modified world.base artifact <;> rfl

end Bindery
