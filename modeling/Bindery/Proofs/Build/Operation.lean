import Bindery.Proofs.Build.Phases
import Bindery.Proofs.Repository.Beside
import Bindery.Proofs.Source.Finding

/-!
Contract: how the build operation reports what became of its sources.

Owns:
- `World.starting`, the world in which the operation treats its sources;
- `Concludes`, how the outcome follows from the build of the sources: a report gives success, a
  reported fault gives a failed outcome, and any other fault is passed on;
- `exec_build`, that the operation does this and otherwise only takes notes;
- the two ends of an operation that answers, with the run of treatments behind each;
- a small project, with its excerpts held in memory and with an excerpt behind `git`.

Does not own: what holds along a run (`Bindery.Proofs.Build.Plan` and the modules beside it).
-/

namespace Bindery

open Source

namespace World

/-- The world in which a recorded operation acts. -/
def opening (world : World) (name : String) : World :=
  if world.recording.enabled then
    { world with recording := world.recording.push name true }
  else world

theorem kept_opening (world : World) (name : String) : Kept world (world.opening name) := by
  unfold opening
  split
  · exact .of_noted rfl rfl rfl rfl rfl
  · exact .refl world

/-- The world in which a build treats its sources. -/
def starting (world : World) : World :=
  { world.opening "BuildService.build" with missing := [] }

theorem kept_starting (world : World) : Kept world world.starting :=
  (world.kept_opening _).trans (.of_noted rfl rfl rfl rfl rfl)

end World

namespace Book

/-- Answers that differ at most by a remark on the outcome. -/
inductive Told : Except Fault Outcome → Except Fault Outcome → Prop where
  | same (answer : Except Fault Outcome) : Told answer answer
  | remarked (outcome : Outcome) (key : String) (value : Value) :
      Told (.ok outcome) (.ok (outcome.remark key value))

/-- How the answer of a build follows from the build of its sources. -/
inductive Concludes : Except Fault BuildReport → Except Fault Outcome → Prop where
  | success {report : BuildReport} {outcome : Outcome} (ok : outcome.ok = true)
      (data : outcome.data = report.toData) : Concludes (.ok report) (.ok outcome)
  | failure {fault : Fault} {outcome : Outcome} (reported : (reported? fault).isSome)
      (failed : outcome.ok = false) : Concludes (.error fault) (.ok outcome)
  | raised {fault : Fault} (unreported : reported? fault = none) :
      Concludes (.error fault) (.error fault)

theorem exec_recorded (name : String) (operation : Action Outcome) (world : World) :
    ∃ answer finish, (recorded name operation).exec world = (answer, finish) ∧
      World.Kept (operation.exec (world.opening name)).2 finish ∧
      Told (operation.exec (world.opening name)).1 answer := by
  unfold recorded World.opening
  rw [Action.exec_ofEffect]
  split
  · rw [Action.exec_bind, Action.within, Action.exec_ofEffect]
    dsimp only
    rcases operation.exec { world with recording := world.recording.push name true }
      with ⟨answer, inside⟩
    have closing : World.Kept inside { inside with recording := inside.recording.pop.2 } :=
      .of_noted rfl rfl rfl rfl rfl
    cases answer with
    | error fault => exact ⟨_, _, rfl, closing, .same _⟩
    | ok outcome =>
        simp only [Except.map]
        cases inside.recording.pop.1 with
        | none => exact ⟨_, _, rfl, closing, .same _⟩
        | some tree => exact ⟨_, _, rfl, closing.trans (World.kept_logged _ _), .remarked _ _ _⟩
  · exact ⟨_, _, rfl, .refl _, .same _⟩

/-- A build of sources, with its faults settled and its success reported. -/
theorem exec_settle (book : Book) (sources : Collection) (world : World) :
    ∃ answer finish,
      (settle "build" noteFailure (do
        let report ← book.buildSources sources
        return .success "build" report.toData (← warnings))).exec world = (answer, finish) ∧
      World.Kept ((book.buildSources sources).exec world).2 finish ∧
      Concludes ((book.buildSources sources).exec world).1 answer := by
  unfold settle
  rw [Action.exec_ofEffect, Action.exec_bind]
  rcases (book.buildSources sources).exec world with ⟨fault | report, after⟩
  · cases reporting : reported? fault with
    | none =>
        simp only [reporting]
        exact ⟨_, _, rfl, .refl _, .raised reporting⟩
    | some failure =>
        simp only [reporting]
        exact ⟨_, _, rfl, World.kept_logged _ _, .failure (by simp [reporting]) rfl⟩
  · exact ⟨_, _, rfl, .refl _, .success rfl rfl⟩

/-- A build treats its sources, reports on it, and otherwise only takes notes. -/
theorem exec_build {book : Book} {chosen : Option Collection} {sources : Collection}
    {world : World} (found : ((book.sourcesOr chosen).exec world).1 = .ok sources) :
    ∃ answer finish, (book.build chosen).exec world = (answer, finish) ∧
      World.Kept ((book.buildSources sources).exec world.starting).2 finish ∧
      Concludes ((book.buildSources sources).exec world.starting).1 answer := by
  have opened := world.kept_opening "BuildService.build"
  have finding := (book.looks_sourcesOr chosen).exec_eq opened.files opened.base found
  obtain ⟨settled, middle, settling, keptMiddle, concludes⟩ :=
    exec_settle book sources world.starting
  obtain ⟨answer, finish, ran, keptFinish, told⟩ := exec_recorded "BuildService.build" (do
    let sources ← book.sourcesOr chosen
    Excerpt.forgetMissing
    settle "build" noteFailure do
      let report ← book.buildSources sources
      return .success "build" report.toData (← warnings)) world
  have forgetting : Excerpt.forgetMissing.exec (world.opening "BuildService.build") =
      (.ok (), world.starting) := rfl
  rw [Action.exec_bind_of_ok finding, Action.exec_bind_of_ok forgetting, settling]
    at keptFinish told
  refine ⟨answer, finish, ran, keptMiddle.trans keptFinish, ?_⟩
  cases told with
  | same => exact concludes
  | remarked outcome key value =>
      generalize ((book.buildSources sources).exec world.starting).1 = result at concludes ⊢
      cases concludes with
      | success ok data => exact .success ok data
      | failure reported failed => exact .failure reported failed

/-! ## The ends of a build -/

section Ends

variable {book : Book} {chosen : Option Collection} {sources : Collection}
  {world after : World} {outcome : Outcome}

/-- The world of a build in which the target directory has been made. -/
def prepared (book : Book) (world : World) : World :=
  { world.starting with
    files := (world.files.makeDirectories world.base book.targetDirectory).2 }

theorem base_prepared (book : Book) (world : World) : (book.prepared world).base = world.base :=
  world.kept_starting.base

theorem runner_prepared (book : Book) (world : World) :
    (book.prepared world).runner = world.runner :=
  world.kept_starting.runner

theorem ready_prepared (made : world.files.makeDirectories world.base book.targetDirectory =
    (.ok (), (book.prepared world).files)) : book.Ready (book.prepared world) := by
  rw [Ready, base_prepared]
  exact (FileStore.makeDirectories_eq_ok made).2

/-- A build that succeeded has treated all its sources. -/
theorem build_eq_ok (found : ((book.sourcesOr chosen).exec world).1 = .ok sources)
    (ran : (book.build chosen).exec world = (.ok outcome, after)) (ok : outcome.ok = true) :
    ∃ records, world.files.makeDirectories world.base book.targetDirectory =
        (.ok (), (book.prepared world).files) ∧
      book.Runs (refreshes records) (book.prepared world) records after ∧
      records.map Prod.fst = sources.items ∧
      outcome.data = (book.reportOn records).toData := by
  obtain ⟨answer, finish, again, kept, concludes⟩ := exec_build found
  obtain ⟨rfl, rfl⟩ := Prod.mk.inj (again.symm.trans ran)
  have started := world.kept_starting
  rcases building : (book.buildSources sources).exec world.starting with ⟨result, done⟩
  rw [building] at kept concludes
  have ends := buildSources_ends building
  generalize book.deeds sources world.starting = records at ends
  cases concludes with
  | failure reported failed =>
      rw [ok] at failed
      contradiction
  | success _ data =>
      generalize same : (Except.ok _ : Except Fault BuildReport) = result at ends
      cases ends with
      | unprepared refused => contradiction
      | stopped made stops items verdict => contradiction
      | complete made run items =>
          obtain rfl := Except.ok.inj same
          rw [started.files, started.base] at made
          refine ⟨records, ?_, ?_, items, data⟩
          · simp only [prepared, made]
          · simp only [prepared, made]
            exact run.trans_kept kept

/-- A build that failed could not make the target directory, or it has stopped at an item. -/
theorem build_eq_failed (found : ((book.sourcesOr chosen).exec world).1 = .ok sources)
    (ran : (book.build chosen).exec world = (.ok outcome, after)) (failed : outcome.ok = false) :
    ∃ fault, (reported? fault).isSome ∧
      ((world.files.makeDirectories world.base book.targetDirectory =
          (.error fault, (book.prepared world).files) ∧
        World.Kept (book.prepared world) after) ∨
      (∃ demanded records item rest,
        world.files.makeDirectories world.base book.targetDirectory =
          (.ok (), (book.prepared world).files) ∧
        book.Stops demanded (book.prepared world) records item fault after ∧
        sources.items = records.map Prod.fst ++ item :: rest ∧
        (item.kind = .document → demanded = refreshes records))) := by
  obtain ⟨answer, finish, again, kept, concludes⟩ := exec_build found
  obtain ⟨rfl, rfl⟩ := Prod.mk.inj (again.symm.trans ran)
  have started := world.kept_starting
  rcases building : (book.buildSources sources).exec world.starting with ⟨result, done⟩
  rw [building] at kept concludes
  have ends := buildSources_ends building
  generalize book.deeds sources world.starting = records at ends
  cases concludes with
  | success ok data =>
      rw [failed] at ok
      contradiction
  | @failure fault _ reported _ =>
      refine ⟨fault, reported, ?_⟩
      generalize same : (Except.error fault : Except Fault BuildReport) = result at ends
      cases ends with
      | complete made run items => contradiction
      | unprepared refused =>
          obtain rfl := Except.error.inj same
          rw [started.files, started.base] at refused
          left
          simp only [prepared, refused]
          exact ⟨trivial, kept⟩
      | stopped made stops items verdict =>
          obtain rfl := Except.error.inj same
          rw [started.files, started.base] at made
          right
          obtain ⟨start, stopped, run, failing, keptStopped⟩ := stops
          simp only [prepared, made]
          exact ⟨_, _, _, _, trivial, ⟨start, stopped, run, failing, keptStopped.trans kept⟩,
            items, verdict⟩

end Ends

/-- Whether an answered build succeeded. -/
def okOf : Except Fault Outcome → Option Bool
  | .ok outcome => some outcome.ok
  | .error _ => none

theorem exists_of_okOf {answer : Except Fault Outcome} {ok : Bool} (told : okOf answer = some ok) :
    ∃ outcome, answer = .ok outcome ∧ outcome.ok = ok := by
  cases answer with
  | error fault => simp [okOf] at told
  | ok outcome => exact ⟨outcome, rfl, by simpa [okOf] using told⟩

theorem eq_ok_of_toOption {α : Type} {answer : Except Fault α} {value : α}
    (told : answer.toOption = some value) : answer = .ok value := by
  cases answer with
  | error fault => contradiction
  | ok found => rw [Option.some.inj told]

/-- Whether a build of sources with an answer is a success of the operation. -/
def okOfReport : Except Fault BuildReport → Option Bool
  | .ok _ => some true
  | .error fault => (reported? fault).map fun _ => false

@[simp]
theorem okOfReport_eq_true_iff {answer : Except Fault BuildReport} :
    okOfReport answer = some true ↔ ∃ report, answer = .ok report := by
  cases answer <;> simp [okOfReport]

theorem okOfReport_of_reported {answer : Except Fault BuildReport}
    (failed : ∃ fault, answer = .error fault ∧ (reported? fault).isSome) :
    okOfReport answer = some false := by
  obtain ⟨fault, rfl, reported⟩ := failed
  obtain ⟨failure, known⟩ := Option.isSome_iff_exists.1 reported
  simp [okOfReport, known]

/-- A build succeeds with its sources, and fails by the faults that it reports. -/
theorem okOf_build {book : Book} {chosen : Option Collection} {sources : Collection}
    {world : World} (found : ((book.sourcesOr chosen).exec world).1 = .ok sources) :
    okOf ((book.build chosen).exec world).1 =
      okOfReport ((book.buildSources sources).exec world.starting).1 := by
  obtain ⟨answer, finish, ran, _, concludes⟩ := exec_build found
  rw [ran]
  generalize ((book.buildSources sources).exec world.starting).1 = result at concludes
  cases concludes with
  | success ok _ => simp [okOf, okOfReport, ok]
  | @failure fault outcome reported failed =>
      rw [okOfReport_of_reported ⟨fault, rfl, reported⟩, okOf, failed]
  | raised unreported => simp [okOf, okOfReport, unreported]

/-! ## A small project -/

/-- A book in four directories below the root. -/
def sampleBook : Book where
  latexDirectory := .ofPlace ["tex"]
  graphvizDirectory := .ofPlace ["dot"]
  targetDirectory := .ofPlace ["out"]
  imagesDirectory := .ofPlace ["images"]
  engine := "pdflatex"
  substitutes := []
  repository := .ofSnapshot ⟨none, [], [], []⟩

def sampleSources : Collection :=
  ⟨[.ofPlace ["dot", "a.dot"]], [.ofPlace ["tex", "b.tex"]], [.ofPlace ["tex", "c.latex"]]⟩

/-- The files of the project, with the times of its diagram and its fragment. The document is from
second 1000, and everything was made at second 2000. -/
def sampleFiles (diagram fragment : Int) : FileStore where
  entries := [
    (["dot"], .directory), (["tex"], .directory), (["out"], .directory),
    (["dot", "a.dot"], .file ⟨[], diagram, false⟩), (["tex", "b.tex"], .file ⟨[], fragment, false⟩),
    (["tex", "c.latex"], .file ⟨[], 1000, false⟩), (["out", "a.pdf"], .file ⟨[], 2000, false⟩),
    (["out", "b.tex"], .file ⟨[], 2000, false⟩), (["out", "c.pdf"], .file ⟨[], 2000, false⟩)]

def sampleWorld (runner : Runner) (files : FileStore) : World where
  files := files
  now := 5000
  base := []
  environment := []
  runner := runner
  commands := []
  requests := []
  missing := []
  events := []
  recording := .start false fun _ => 0

/-- The project with a diagram that is newer than its rendering, and tools that work. -/
def drawnWorld : World :=
  sampleWorld (.scripted fun _ => false) (sampleFiles 3000 1000)

/-- The project with a fragment that is newer than what was written of it, and tools that work. -/
def writtenWorld : World :=
  sampleWorld (.scripted fun _ => false) (sampleFiles 1000 3000)

def refusingWorld (files : FileStore) : World :=
  sampleWorld (.scripted fun _ => true) files

/-- The same book with its excerpts behind `git`, in a fifth directory. -/
def gitBook : Book :=
  { sampleBook with repository := .git (.ofPlace ["src"]) }

/-- The project of the second world with a file in the fifth directory that the fragment includes,
on the branch that is checked out. -/
def quotedWorld : World :=
  let fragment : File := ⟨Text.encode "INCLUDE_SOURCE_FILE\x7bmain:a.scala\x7d", 3000, false⟩
  let quoted : File := ⟨Text.encode "val a = 1\n", 1000, false⟩
  sampleWorld (.onBranch "main" (.scripted fun _ => false))
    (((sampleFiles 1000 3000).put ["src"] .directory).put ["src", "a.scala"] (.file quoted) |>.put
      ["tex", "b.tex"] (.file fragment))

/-- The one request of a build of that project. -/
def asksQuoted (request : Request) : Bool :=
  request = .working "a.scala"

theorem sound_gitBook : gitBook.Sound quotedWorld.runner where
  proper := by decide
  tidy := Runner.tidy_onBranch (Runner.tidy_scripted _)
  reads := Repository.readOnly_git _ (Runner.consistent_onBranch _ _ []).harmless

theorem steadyFor_gitBook :
    gitBook.repository.SteadyFor asksQuoted quotedWorld.runner ["out"] := by
  refine (Repository.fixedFor_git (Runner.consistent_onBranch _ _ _) ?_).steadyFor
  intro path chosen
  obtain rfl : path = "a.scala" := by simpa [asksQuoted] using chosen
  decide

/-- The fragment of that project includes no other file, so its build asks for nothing else. -/
theorem asksOnly_gitBook :
    gitBook.AsksOnly asksQuoted (·.build (some sampleSources)) quotedWorld := by
  have succeeds : okOf (((gitBook.limitedTo asksQuoted).build (some sampleSources)).exec
      quotedWorld).1 = some true := by decide +kernel
  obtain ⟨outcome, answered, _⟩ := exists_of_okOf succeeds
  exact asksOnly_of_answered gitBook answered

theorem sound_sampleBook (refuses : Command → Bool) :
    sampleBook.Sound (.scripted refuses) where
  proper := by decide
  tidy := Runner.tidy_scripted refuses
  reads := (Repository.steady_ofSnapshot _ [] _).readOnly

end Book

end Bindery
