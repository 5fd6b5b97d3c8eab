import Bindery.Proofs.Build.Partial
import Bindery.Proofs.Build.Timing
import Bindery.Proofs.Report.Rows

/-!
Contract: every success of a book that is reported with its sources tells a report.

Owns:
- that the phases of a build have plain names and notes;
- that the outcome of a build tells the report of its records, and that of the rendering of
  diagrams one that has nothing but diagrams. What is shown of `Outcome.Tells` is so shown of
  everything that a book reports in a table.

Does **not** own: which sources are made again (`Bindery.Proofs.Build.Plan`).
-/

namespace Bindery

open Source

/-! ## Plain phases -/

theorem Report.unmarked_count (count : Nat) : Report.Unmarked (Value.int count).display := by
  have digits : (Value.int count).display = toString count := rfl
  rw [digits]
  constructor
  · exact fun member => absurd (Number.isNumeral_of_mem_toString member) (by decide)
  · exact fun member => absurd (Number.isNumeral_of_mem_toString member) (by decide)

namespace Book

theorem plain_of_shows {passage : Passage} {phase : Phase} (shows : Shows passage phase) :
    phase.Plain := by
  have named : ∀ kind, Report.Unmarked (phaseName kind) := fun kind => by cases kind <;> decide
  have noted : Report.Unmarked "rebuilt" := by decide
  obtain ⟨kind, count⟩ := passage
  obtain ⟨started, finished, rfl⟩ := shows
  refine .mk (named kind) ?_ fun _ member => absurd member List.not_mem_nil
  cases count with
  | none => exact fun _ member => absurd member List.not_mem_nil
  | some count => exact List.forall_mem_singleton.2 ⟨noted, Report.unmarked_count count⟩

theorem plain_of_forall₂ {passages : List Passage} {children : List Phase}
    (shows : List.Forall₂ Shows passages children) : ∀ child ∈ children, child.Plain := by
  induction shows with
  | nil => exact fun _ member => absurd member List.not_mem_nil
  | cons first _ inductionHypothesis =>
      exact List.forall_mem_cons.2 ⟨plain_of_shows first, inductionHypothesis⟩

/-! ## Operations without their remarks -/

/-- A recorded operation that answers is the operation with at most a remark. -/
theorem told_of_recorded {name : String} {operation : Action Outcome} {world after : World}
    {outcome : Outcome} (ran : (recorded name operation).exec world = (.ok outcome, after)) :
    ∃ plain inside, operation.exec (world.opening name) = (.ok plain, inside) ∧
      outcome.ok = plain.ok ∧ outcome.op = plain.op ∧ outcome.data = plain.data ∧
      (world.recording.enabled = false → outcome = plain) := by
  by_cases enabled : world.recording.enabled = true
  · obtain ⟨answer, finish, again, _, told⟩ := exec_recorded name operation world
    obtain ⟨rfl, rfl⟩ := Prod.mk.inj (again.symm.trans ran)
    rcases acted : operation.exec (world.opening name) with ⟨result, inside⟩
    rw [acted] at told
    cases told with
    | same => exact ⟨outcome, inside, rfl, rfl, rfl, rfl, fun _ => rfl⟩
    | remarked plain key value =>
        refine ⟨plain, inside, rfl, rfl, rfl, rfl, fun disabled => ?_⟩
        rw [enabled] at disabled
        contradiction
  · unfold recorded at ran
    rw [Action.exec_ofEffect, if_neg enabled] at ran
    have unopened : world.opening name = world := if_neg enabled
    rw [unopened]
    exact ⟨outcome, after, ran, rfl, rfl, rfl, fun _ => rfl⟩

section Operations

variable {book : Book} {chosen : Option Collection} {sources : Collection} {world after : World}
  {outcome : Outcome}

/-- The outcome of a build without its remarks is called a build, and has none. -/
theorem told_of_build (found : ((book.sourcesOr chosen).exec world).1 = .ok sources)
    (ran : (book.build chosen).exec world = (.ok outcome, after)) (ok : outcome.ok = true) :
    outcome.op = "build" ∧ (world.recording.enabled = false → outcome.remarks = none) := by
  obtain ⟨plain, inside, acted, okTold, opTold, _, disabled⟩ := told_of_recorded ran
  have opened := world.kept_opening "BuildService.build"
  have finding := (book.looks_sourcesOr chosen).exec_eq opened.files opened.base found
  have forgetting : Excerpt.forgetMissing.exec (world.opening "BuildService.build") =
      (.ok (), world.starting) := rfl
  rw [Action.exec_bind_of_ok finding, Action.exec_bind_of_ok forgetting] at acted
  obtain ⟨report, _, _, reporting⟩ :=
    Action.exec_bind_eq_ok_iff.1 (settle_eq_ok acted (okTold ▸ ok))
  obtain ⟨warned, _, _, done⟩ := Action.exec_bind_eq_ok_iff.1 reporting
  obtain rfl := Except.ok.inj (Prod.mk.inj done).1
  exact ⟨opTold, fun off => disabled off ▸ rfl⟩

/-- The products in a report on records have the sources that were recorded. -/
theorem source_mem_of_reportOn {records : List Record} :
    ∀ entry ∈ (book.reportOn records).listed, ∃ record ∈ records,
      entry.2.source = record.1.path := by
  intro entry among
  simp only [BuildReport.listed, reportOn, productsOf, List.mem_append, List.mem_map,
    List.mem_filter] at among
  rcases among with
    (⟨_, ⟨record, ⟨recorded, _⟩, rfl⟩, rfl⟩ | ⟨_, ⟨record, ⟨recorded, _⟩, rfl⟩, rfl⟩) |
      ⟨_, ⟨record, ⟨recorded, _⟩, rfl⟩, rfl⟩
  all_goals exact ⟨record, recorded, rfl⟩

/-- A build that succeeds tells the report of its records. -/
theorem tells_of_build (untimed : book.repository.Untimed)
    (found : ((book.sourcesOr chosen).exec world).1 = .ok sources)
    (proper : ∀ item ∈ sources.items, item.path.IsProper)
    (ran : (book.build chosen).exec world = (.ok outcome, after)) (ok : outcome.ok = true) :
    ∃ records, records.map Prod.fst = sources.items ∧
      outcome.Tells (book.reportOn records) := by
  obtain ⟨op, unrecorded⟩ := told_of_build found ran ok
  obtain ⟨records, _, _, items, data⟩ := build_eq_ok found ran ok
  refine ⟨records, items, ok, .inl ⟨op, data⟩, fun entries told => ?_, fun entry among => ?_⟩
  · cases enabled : world.recording.enabled with
    | false =>
        rw [unrecorded enabled] at told
        contradiction
    | true =>
        obtain ⟨⟨name, started, finished, notes, children⟩, _, _, _, _, remarked, named, noteless,
          _, shows, _⟩ := build_passes untimed enabled ran
        obtain rfl : name = "BuildService.build" := named
        obtain rfl : notes = [] := noteless
        refine ⟨_, .mk (by decide) ?_ (plain_of_forall₂ shows),
          Option.some.inj (told.symm.trans remarked)⟩
        exact fun _ member => absurd member List.not_mem_nil
  · obtain ⟨record, recorded, same⟩ := source_mem_of_reportOn entry among
    rw [same]
    exact proper record.1 (items ▸ List.mem_map_of_mem recorded)

/-- Rendering diagrams opens no phases of its own. -/
theorem recording_of_drawAll (untimed : book.repository.Untimed) {diagrams : List Path}
    {answer : Except Fault (List Product)}
    (drawn : (book.drawAll diagrams).exec world = (answer, after)) :
    after.recording = world.recording := by
  have leaves : (book.drawAll diagrams).LeavesRecording :=
    Action.composes_leavesRecording.treatAll fun path _ =>
      leavesRecording_treat untimed false ⟨.diagram, path⟩
  have kept := leaves world
  rwa [drawn] at kept

/-- Rendering diagrams with success tells a report that has nothing but their records. -/
theorem tells_of_drawDiagrams (untimed : book.repository.Untimed)
    (found : ((book.sourcesOr chosen).exec world).1 = .ok sources)
    (proper : ∀ path ∈ sources.diagrams, path.IsProper)
    (ran : (book.drawDiagrams chosen).exec world = (.ok outcome, after))
    (ok : outcome.ok = true) :
    ∃ records : List Record, records.map Prod.fst = sources.diagrams.map (Item.mk .diagram) ∧
      outcome.Tells ⟨book.targetDirectory, false, records.map book.product, [], []⟩ := by
  obtain ⟨plain, inside, acted, okTold, opTold, dataTold, disabled⟩ := told_of_recorded ran
  have kept := world.kept_opening "BuildService.render_diagrams"
  have finding := (book.looks_sourcesOr chosen).exec_eq kept.files kept.base found
  have drawing := acted
  rw [Action.exec_bind_of_ok finding] at drawing
  obtain ⟨_, start, making, onward⟩ :=
    Action.exec_bind_eq_ok_iff.1 (settle_eq_ok drawing (okTold ▸ ok))
  obtain ⟨products, finish, drawn, done⟩ := Action.exec_bind_eq_ok_iff.1 onward
  obtain ⟨same, rfl⟩ := Prod.mk.inj done
  obtain rfl := Except.ok.inj same
  have untouched := recording_of_drawAll untimed drawn
  rw [drawAll_eq] at drawn
  obtain ⟨_, items, rfl⟩ := runs_of_treatKind drawn
  refine ⟨_, items, ok, .inr ⟨opTold, dataTold, rfl, rfl⟩, fun entries told => ?_,
    fun entry among => ?_⟩
  · cases enabled : world.recording.enabled with
    | false =>
        rw [disabled enabled] at told
        contradiction
    | true =>
        obtain ⟨_, left, again, _, tree⟩ := recorded_tree enabled ran
        obtain ⟨own, rfl⟩ := Prod.mk.inj (again.symm.trans acted)
        obtain rfl := Except.ok.inj own
        have started : start.recording =
            (world.opening "BuildService.render_diagrams").recording := by
          obtain ⟨_, rfl⟩ := Prod.mk.inj making
          rfl
        have active : left.recording.active =
            ⟨"BuildService.render_diagrams", world.recording.reading, true, [], []⟩ ::
              world.recording.active := by
          rw [untouched, started, World.opening, if_pos enabled]
          rfl
        rw [tree _ _ active, remarks_remark rfl] at told
        have named : Report.Unmarked "BuildService.render_diagrams" := by decide
        refine ⟨_, .mk named ?_ ?_, (Option.some.inj told).symm⟩
        · exact fun _ member => absurd member List.not_mem_nil
        · exact fun _ member => absurd member List.not_mem_nil
  · simp only [BuildReport.listed, List.map_nil, List.append_nil, List.mem_map] at among
    obtain ⟨_, ⟨record, recorded, rfl⟩, rfl⟩ := among
    have member : record.1 ∈ sources.diagrams.map (Item.mk .diagram) :=
      items ▸ List.mem_map_of_mem recorded
    obtain ⟨path, listed, drawnFrom⟩ := List.mem_map.1 member
    show record.1.path.IsProper
    rw [← drawnFrom]
    exact proper path listed

end Operations

end Book

end Bindery
