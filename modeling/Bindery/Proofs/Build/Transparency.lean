import Bindery.Proofs.Build.Boundary
import Bindery.Proofs.World.Recording

/-!
Contract: that recording an operation changes nothing about it.

Owns:
- that the treatments of a build work the same however they are recorded, and that its recorded
  phases work like their treatments alone;
- `Outcome.unremarked`, an outcome without the timings that a recording adds;
- the theorem that every operation, whether it succeeds, fails or raises a fault, does the same work
  and says the same in worlds that differ by their recordings.
-/

namespace Bindery

open Source

namespace Book

/-! ## Treatments and phases -/

/-- No treatment looks at the recording. -/
theorem worksLike_treat {book : Book} (unrecorded : book.repository.Unrecorded) (demanded : Bool)
    (item : Item) : (book.treat demanded item).WorksLike (book.treat demanded item) := by
  obtain ⟨kind, path⟩ := item
  cases kind with
  | diagram =>
      refine Action.worksLike_bind Action.looks_workingDirectory.worksLike fun here => ?_
      exact Action.composes_worksLike.whenDue (Action.looks_isStaleFor _ _).worksLike
        (Action.composes_worksLike.runTool (Action.worksLike_run _))
  | fragment =>
      refine Action.composes_worksLike.whenDue (Action.looks_isStaleFor _ _).worksLike ?_
      exact Action.worksLike_bind (Press.worksLike_publish unrecorded _ _) fun _ =>
        Action.worksLike_pure _
  | document =>
      refine Action.worksLike_bind (Press.worksLike_publish unrecorded _ _) fun manuscript => ?_
      cases demanded with
      | true =>
          exact Action.composes_worksLike.whenDue (Action.worksLike_pure true)
            (Action.composes_worksLike.runTool (Action.worksLike_run _))
      | false =>
          exact Action.composes_worksLike.whenDue (Action.looks_isStaleFor _ _).worksLike
            (Action.composes_worksLike.runTool (Action.worksLike_run _))

section Phases

variable {output : Path → Path} {treat : Path → Action Bool}

/-- A recorded phase works like its treatments, since its note is a note only. -/
theorem worksLike_treatPhase (name : String) (same : ∀ path, (treat path).WorksLike (treat path))
    (sources : List Path) :
    (treatPhase name output treat sources).WorksLike (treatAll output treat sources) := by
  refine Action.worksLike_phase fun recorded => ?_
  have noted : (treatAll output treat sources >>= fun products =>
      if recorded then .annotate "rebuilt" (.int (Product.rebuiltCount products)) >>= fun _ =>
        pure products
      else pure products).WorksLike
      (treatAll output treat sources >>= fun products => pure () >>= fun _ => pure products) := by
    have treats : (treatAll output treat sources).WorksLike (treatAll output treat sources) :=
      Action.composes_worksLike.treatAll fun path _ => same path
    refine Action.worksLike_bind treats fun products => ?_
    cases recorded with
    | true =>
        exact Action.worksLike_bind (Action.worksLike_annotate _ _) fun _ => Action.worksLike_pure _
    | false => exact Action.worksLike_pure _
  simpa using noted

end Phases

/-- The treatment of sources without phases and notes. -/
def treatSources (book : Book) (sources : Collection) : Action BuildReport := do
  let diagrams ← book.treatKind false .diagram sources.diagrams
  let fragments ← book.treatKind false .fragment sources.fragments
  let demanded := verdict diagrams fragments
  let documents ← book.treatKind demanded .document sources.documents
  return ⟨book.targetDirectory, demanded, diagrams, fragments, documents⟩

/-- The build of sources without its phases and its notes. -/
def buildPlainly (book : Book) (sources : Collection) : Action BuildReport := do
  .makeDirectories book.targetDirectory
  book.treatSources sources

theorem worksLike_buildSources {book : Book} (unrecorded : book.repository.Unrecorded)
    (sources : Collection) :
    (book.buildSources sources).WorksLike (book.buildPlainly sources) := by
  have treats := fun demanded kind path => worksLike_treat unrecorded demanded ⟨kind, path⟩
  have documents : ∀ demanded, (Action.log .debug logger "build.verdict"
      [("needs_rebuild", .bool demanded)] >>= fun _ => treatPhase "documents" book.typesetter.target
        (fun document => book.typesetter.typeset document demanded) sources.documents).WorksLike
      (pure () >>= fun _ => book.treatKind demanded .document sources.documents) := fun demanded =>
    Action.worksLike_bind (fun _ _ same => ⟨rfl, same.logged _⟩) fun _ =>
      worksLike_treatPhase _ (treats demanded .document) _
  refine Action.worksLike_bind (Action.worksLike_makeDirectories _) fun _ => ?_
  refine Action.worksLike_bind
    (worksLike_treatPhase _ (treats false .diagram) _) fun diagrams => ?_
  refine Action.worksLike_bind
    (worksLike_treatPhase _ (treats false .fragment) _) fun fragments => ?_
  simpa using Action.worksLike_bind (documents (verdict diagrams fragments)) fun products =>
    Action.worksLike_pure (BuildReport.mk book.targetDirectory (verdict diagrams fragments)
      diagrams fragments products)

/-! ## Operations -/

theorem worksLike_warnings : warnings.WorksLike warnings :=
  Action.worksLike_observe fun _ _ same => by rw [same.missing]

theorem worksLike_forgetMissing : Excerpt.forgetMissing.WorksLike Excerpt.forgetMissing :=
  Action.worksLike_update fun _ _ same => { same with missing := rfl }

theorem worksLike_sourcesOr (book : Book) (chosen : Option Collection) :
    (book.sourcesOr chosen).WorksLike (book.sourcesOr chosen) :=
  (book.looks_sourcesOr chosen).worksLike

theorem worksLike_silent (failure : Failure) : (silent failure).WorksLike (silent failure) :=
  Action.worksLike_pure ()

theorem worksLike_noteFailure (failure : Failure) :
    (noteFailure failure).WorksLike (noteFailure failure) :=
  Action.worksLike_log _ _ _ _

/-- The handler settles the same faults in the same way. -/
theorem worksLike_settle {op : String} {note : Failure → Action Unit}
    {action other : Action Outcome} (notes : ∀ failure, (note failure).WorksLike (note failure))
    (like : action.WorksLike other) : (settle op note action).WorksLike (settle op note other) := by
  intro left right same
  obtain ⟨answer, afterLeft, afterRight, ranLeft, ranRight, after⟩ := like.runs same
  unfold settle
  rw [Action.exec_ofEffect, Action.exec_ofEffect, ranLeft, ranRight]
  cases answer with
  | ok outcome => exact ⟨rfl, after⟩
  | error fault =>
      cases reporting : reported? fault with
      | none =>
          simp only [reporting]
          exact ⟨trivial, after⟩
      | some failure =>
          simp only [reporting]
          exact Action.worksLike_bind (notes failure) (fun _ => Action.worksLike_pure _)
            afterLeft afterRight after

end Book

/-! ## Timings -/

/-- An outcome without its remarks, which hold the timings of a recorded run. -/
def Outcome.unremarked (outcome : Outcome) : Outcome :=
  { outcome with remarks := none }

namespace Action

/-- An action whose outcomes are told without remarks. -/
def unremarked (action : Action Outcome) : Action Outcome :=
  Outcome.unremarked <$> action

theorem exec_unremarked (action : Action Outcome) (world : World) :
    action.unremarked.exec world =
      ((action.exec world).1.map Outcome.unremarked, (action.exec world).2) := by
  show (action >>= fun outcome => pure outcome.unremarked).exec world = _
  rw [exec_bind]
  rcases action.exec world with ⟨fault | outcome, after⟩ <;> rfl

theorem WorksLike.unremarked {action other : Action Outcome} (like : action.WorksLike other) :
    action.unremarked.WorksLike other.unremarked :=
  worksLike_bind like fun _ => worksLike_pure _

end Action

namespace Book

/-- A recorded operation tells the outcome of the operation, and has done its work, whether it is
recorded or not. -/
theorem worksLike_recorded {name : String} {operation other : Action Outcome}
    (like : operation.WorksLike other) :
    (recorded name operation).unremarked.WorksLike other.unremarked := by
  intro left right same
  rw [Action.exec_unremarked, Action.exec_unremarked]
  unfold recorded
  rw [Action.exec_ofEffect]
  split
  · obtain ⟨answer, inside, after, ran, ranOther, sameAfter⟩ :=
      like.runs (same.recorded (left.recording.push name true))
    rw [Action.exec_bind, Action.exec_within]
    dsimp only
    rw [ran, ranOther]
    cases answer with
    | error fault => exact ⟨rfl, sameAfter.recorded _⟩
    | ok outcome =>
        simp only [Except.map]
        cases inside.recording.pop.1 with
        | none => exact ⟨rfl, sameAfter.recorded _⟩
        | some tree => exact ⟨rfl, (sameAfter.recorded _).logged _⟩
  · obtain ⟨answers, after⟩ := like left right same
    exact ⟨congrArg (Except.map Outcome.unremarked) answers, after⟩

/-- Recorded operations do the same work in all recordings. -/
theorem worksLike_recorded_self {name : String} {operation : Action Outcome}
    (like : operation.WorksLike operation) :
    (recorded name operation).unremarked.WorksLike (recorded name operation).unremarked :=
  (worksLike_recorded like).trans (worksLike_recorded like).symm

theorem worksLike_perform {book : Book} (unrecorded : book.repository.Unrecorded)
    (operation : Operation) :
    (book.perform operation).unremarked.WorksLike (book.perform operation).unremarked := by
  cases operation with
  | build chosen =>
      refine worksLike_recorded_self ?_
      refine Action.worksLike_bind (worksLike_sourcesOr book chosen) fun sources => ?_
      refine Action.worksLike_bind worksLike_forgetMissing fun _ => ?_
      refine worksLike_settle worksLike_noteFailure ?_
      have building := worksLike_buildSources unrecorded sources
      refine Action.worksLike_bind (building.trans building.symm) fun report => ?_
      exact Action.worksLike_bind worksLike_warnings fun _ => Action.worksLike_pure _
  | drawDiagrams chosen =>
      refine worksLike_recorded_self ?_
      refine Action.worksLike_bind (worksLike_sourcesOr book chosen) fun sources => ?_
      refine worksLike_settle worksLike_silent ?_
      refine Action.worksLike_bind (Action.worksLike_makeDirectories _) fun _ => ?_
      refine Action.worksLike_bind (Action.composes_worksLike.treatAll fun path _ =>
        worksLike_treat unrecorded false ⟨.diagram, path⟩) fun _ => ?_
      exact Action.worksLike_pure _
  | renderManuscript source name =>
      refine worksLike_recorded_self ?_
      refine Action.worksLike_bind worksLike_forgetMissing fun _ => ?_
      refine worksLike_settle worksLike_silent ?_
      refine Action.worksLike_bind (Press.worksLike_publish unrecorded source _) fun written => ?_
      exact Action.worksLike_bind worksLike_warnings fun _ => Action.worksLike_pure _
  | showExcerpt location name =>
      refine Action.WorksLike.unremarked ?_
      refine Action.worksLike_bind worksLike_forgetMissing fun _ => ?_
      refine worksLike_settle worksLike_silent ?_
      refine Action.worksLike_bind ?_ fun lines =>
        Action.worksLike_bind worksLike_warnings fun _ => Action.worksLike_pure _
      unfold excerptLines
      repeat' split
      · exact inherited_worksLike.lines unrecorded location
      · exact inherited_worksLike.sectionLines unrecorded location _
      · exact inherited_worksLike.lines unrecorded location

/-- Recording changes nothing about an operation. However it is recorded, it answers the same but
for its remarks, or raises the same fault, and it leaves the same files, has run the same commands,
has asked the same of version control and misses the same excerpts. -/
theorem perform_unrecorded {book : Book} (unrecorded : book.repository.Unrecorded)
    (operation : Operation) {left right : World} (same : left.SameWork right) :
    ((book.perform operation).exec left).1.map Outcome.unremarked =
        ((book.perform operation).exec right).1.map Outcome.unremarked ∧
      ((book.perform operation).exec left).2.SameWork ((book.perform operation).exec right).2 := by
  have like := worksLike_perform unrecorded operation left right same
  rwa [Action.exec_unremarked, Action.exec_unremarked] at like

/-- Whether an answer carries remarks. -/
def remarksOf : Except Fault Outcome → Option Entries
  | .ok outcome => outcome.remarks
  | .error _ => none

/-- A build of the small project that is recorded, and one that is not. Only one of them tells its
timings. -/
theorem perform_unrecorded_sample :
    (sampleBook.repository.Unrecorded ∧
      { drawnWorld with recording := .start true fun taken => taken }.SameWork drawnWorld) ∧
    ((sampleBook.perform (.build none)).exec
        { drawnWorld with recording := .start true fun taken => taken }).1.map Outcome.unremarked =
      ((sampleBook.perform (.build none)).exec drawnWorld).1.map Outcome.unremarked ∧
    (remarksOf ((sampleBook.perform (.build none)).exec
        { drawnWorld with recording := .start true fun taken => taken }).1).isSome = true ∧
    remarksOf ((sampleBook.perform (.build none)).exec drawnWorld).1 = none ∧
    okOf ((sampleBook.perform (.build none)).exec drawnWorld).1 = some true := by
  have unrecorded : sampleBook.repository.Unrecorded := Repository.unrecorded_ofSnapshot _
  have same : World.SameWork { drawnWorld with recording := .start true fun taken => taken }
      drawnWorld := (World.SameWork.refl drawnWorld).recorded _
  refine ⟨⟨unrecorded, same⟩, (perform_unrecorded unrecorded (.build none) same).1, ?_, ?_, ?_⟩
  · decide +kernel
  · exact Option.isNone_iff_eq_none.1 (by decide +kernel)
  · decide +kernel

end Book

end Bindery
