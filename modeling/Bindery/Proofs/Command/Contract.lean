import Bindery.Document
import Bindery.Diagram
import Bindery.Proofs.World.Effect
import Bindery.Rehearsal

/-!
Contract: what a build may expect of the tools behind its commands.

Owns:
- `artifact?`, the file that a tool's command names as what it makes, read off the words of the
  command, and that the commands of a build name the files that the build expects;
- the contracts of a runner: `Tidy`, nothing but the artifact is written; `Punctual`, a command
  that succeeded has written its artifact at that second; `Obliging`, a tool succeeds wherever its
  artifact can be written; `Constant`, a command is always answered in the same way, and a failing
  one leaves no trace;
- `Refuses`, that a runner never lets a command succeed;
- what running a command does under these contracts;
- a runner without programs, which keeps the contracts, and one with version control beside it.

Does not own: questions to version control (`Bindery.Proofs.World.Effect`).
-/

namespace Bindery

/-! ## The artifact of a command -/

theorem Rehearsal.valueOf_append (start text : String) :
    valueOf start [start ++ text] = some text := by
  have begins : start.toList.isPrefixOf (start ++ text).toList = true := by
    simp [List.isPrefixOf_iff_prefix]
  simp only [valueOf, List.findSome?_cons, begins, if_true]
  simp [← String.length_toList]

namespace Command

/-- The file that a command names as what it makes: the one behind `-o` for a renderer, and the
one that the engine calls after its job. -/
def artifact? (command : Command) : Option Path :=
  match command.args with
  | [_, first, second, third, _] =>
      if first = "-Tpdf" ∧ second = "-o" then some (.ofString third)
      else if third = "-halt-on-error" then
        match Rehearsal.valueOf "-output-directory=" [first],
          Rehearsal.valueOf "-jobname=" [second] with
        | some directory, some job => some ((Path.ofString directory).joinText (job ++ ".pdf"))
        | _, _ => none
      else none
  | _ => none

/-- A renderer's command names its target. -/
theorem artifact?_diagram (source : Path) {target : Path} (proper : target.IsProper) :
    (Diagram.command source target).artifact? = some target := by
  simp [Diagram.command, artifact?, Path.ofString_render proper]

/-- The engine's command names the file of its job in the target directory. -/
theorem artifact?_typesetter {typesetter : Typesetter}
    (proper : typesetter.press.targetDirectory.IsProper) (job : String) (manuscript : Path) :
    (typesetter.command job manuscript).artifact? =
      some (typesetter.press.targetDirectory.joinText (job ++ ".pdf")) := by
  have different : "-output-directory=" ++ typesetter.press.targetDirectory.render ≠ "-Tpdf" := by
    intro same
    have letters := congrArg String.toList same
    simp at letters
  simp only [Typesetter.command, artifact?, different, false_and, if_false, if_true,
    Rehearsal.valueOf_append, Path.ofString_render proper]

end Command

/-! ## Contracts of a runner -/

namespace Runner

/-- A command changes no file but the artifact that it names. -/
def Tidy (runner : Runner) : Prop :=
  ∀ history now base (files : FileStore) command,
    files.AgreesOn
      (fun place => ∀ artifact, command.artifact? = some artifact → place ≠ artifact.placeFrom base)
      (runner.answer history now base files command).2

/-- A command that succeeded has written its artifact at that second. -/
def Punctual (runner : Runner) : Prop :=
  ∀ history now base files command completion later,
    runner.answer history now base files command = (.ok completion, later) →
      completion.ok = true → ∀ artifact, command.artifact? = some artifact →
        ∃ file : File, later.find? (artifact.placeFrom base) = some (.file file) ∧
          file.modified = now

/-- A tool whose artifact can be written succeeds. -/
def Obliging (runner : Runner) : Prop :=
  ∀ history now base (files : FileStore) command artifact written,
    command.isRequest = false → command.artifact? = some artifact →
      files.write base now artifact [] = .ok written →
        ∃ completion, (runner.answer history now base files command).1 = .ok completion ∧
          completion.ok = true

/-- Each command is always answered in the same way, and one that does not succeed leaves the files
as they are. -/
structure Constant (runner : Runner) : Prop where
  same : ∀ command history now base files history' now' base' files',
    (runner.answer history now base files command).1 =
      (runner.answer history' now' base' files' command).1
  traceless : ∀ history now base files command,
    (∀ completion, (runner.answer history now base files command).1 = .ok completion →
      completion.ok = false) →
    (runner.answer history now base files command).2 = files

/-- A command never succeeds, whenever and wherever it is run. -/
def Refuses (runner : Runner) (command : Command) : Prop :=
  ∀ history now base files completion,
    (runner.answer history now base files command).1 = .ok completion → completion.ok = false

/-- What a constant runner refuses once it refuses always. -/
theorem Constant.refuses {runner : Runner} (constant : runner.Constant) {history : List Command}
    {now : Int} {base : Place} {files : FileStore} {command : Command}
    (refused : ∀ completion, (runner.answer history now base files command).1 = .ok completion →
      completion.ok = false) : runner.Refuses command := by
  intro otherHistory otherNow otherBase otherFiles completion answered
  exact refused completion ((constant.same command ..).trans answered)

end Runner

/-! ## Running a command -/

namespace Action

variable {command : Command} {artifact : Path} {world after : World}

theorem exec_run (command : Command) (world : World) :
    (run command).exec world =
      let answer := world.runner.answer world.commands world.now world.base world.files command
      let notes := world.runner.notes world.commands world.now world.base world.files command
      (answer.1, { world with
        files := answer.2, commands := world.commands ++ [command]
        events := world.events ++ notes }) := rfl

/-- Runs a tool for a source. Its success is answered; its failure is noted and reported. -/
def runTool (logger message : String) (source : Path) (report : Completion → BuildError)
    (command : Command) : Action Bool := do
  let result ← .run command
  if result.ok then
    return true
  else
    .log .info logger message
      [("source", .str source.render), ("returncode", .int result.status)]
    .fail (.build (report result))

theorem exec_runTool (logger message : String) (source : Path)
    (report : Completion → BuildError) (command : Command) (world : World) :
    (runTool logger message source report command).exec world =
      match (run command).exec world with
      | (.error fault, after) => (.error fault, after)
      | (.ok result, after) =>
          if result.ok then (.ok true, after)
          else (.error (.build (report result)), after.logged ⟨.info, logger, message,
            [("source", .str source.render), ("returncode", .int result.status)]⟩) := by
  unfold runTool
  rw [exec_bind]
  rcases (run command).exec world with ⟨fault | result, after⟩
  · rfl
  · by_cases succeeded : result.ok = true
    · simp [succeeded]
    · simp only [succeeded]
      rfl

/-- A tool is one command, whether or not it succeeds. -/
theorem commands_runTool (logger message : String) (source : Path)
    (report : Completion → BuildError) (command : Command) (world : World) :
    ((runTool logger message source report command).exec world).2.commands =
      world.commands ++ [command] := by
  have issued : ((run command).exec world).2.commands = world.commands ++ [command] := rfl
  rw [exec_runTool]
  split
  · rename_i fault after ran
    rwa [ran] at issued
  · rename_i result after ran
    rw [ran] at issued
    split
    · exact issued
    · exact issued

/-- A tool that is run for a source has the property when running its command has it. -/
theorem Composes.runTool {Holds : ∀ {α : Type}, Action α → Prop} (composes : Composes Holds)
    {logger message : String} {source : Path} {report : Completion → BuildError}
    (runs : Holds (run command)) : Holds (runTool logger message source report command) := by
  refine composes.bind runs fun result => ?_
  split
  · exact composes.pure true
  · exact composes.bind (composes.log _ _ _ _) fun _ => composes.fail _

/-- A tool leaves everything alone but the artifact that its command names. -/
theorem effect_run (tidy : world.runner.Tidy) (named : command.artifact? = some artifact)
    (tool : command.isRequest = false) {answer : Except Fault Completion}
    (ran : (run command).exec world = (answer, after)) :
    World.Effect world after [artifact.placeFrom world.base] [command] := by
  rw [exec_run] at ran
  obtain ⟨_, rfl⟩ := Prod.mk.inj ran
  refine ⟨?_, rfl, rfl, rfl, [command], rfl, by simp [tool]⟩
  refine (tidy world.commands world.now world.base world.files command).mono ?_
  intro place outside other also
  obtain rfl : artifact = other := Option.some.inj (named.symm.trans also)
  simpa using outside

/-- A punctual tool that succeeded has left a file at its artifact. -/
theorem exists_file_of_run {completion : Completion} (punctual : world.runner.Punctual)
    (named : command.artifact? = some artifact)
    (ran : (run command).exec world = (.ok completion, after)) (succeeded : completion.ok = true) :
    ∃ file : File, after.files.find? (artifact.placeFrom world.base) = some (.file file) ∧
      file.modified = world.now := by
  rw [exec_run] at ran
  obtain ⟨answered, rfl⟩ := Prod.mk.inj ran
  exact punctual _ _ _ _ _ completion _ (Prod.ext answered rfl) succeeded artifact named

/-- A tool that answers has been run once, with success. -/
theorem run_of_runTool {logger message : String} {source : Path}
    {report : Completion → BuildError} {answer : Bool}
    (ran : (runTool logger message source report command).exec world = (.ok answer, after)) :
    answer = true ∧ ∃ completion, (run command).exec world = (.ok completion, after) ∧
      completion.ok = true := by
  rw [exec_runTool] at ran
  split at ran
  · simp at ran
  · rename_i completion middle running
    split at ran
    · rename_i succeeded
      obtain ⟨same, rfl⟩ := Prod.mk.inj ran
      exact ⟨(Except.ok.inj same).symm, completion, running, succeeded⟩
    · simp at ran

/-- A tool that succeeded has made its artifact. -/
theorem runTool_eq_ok {logger message : String} {source : Path}
    {report : Completion → BuildError} {answer : Bool} (tidy : world.runner.Tidy)
    (named : command.artifact? = some artifact) (tool : command.isRequest = false)
    (ran : (runTool logger message source report command).exec world = (.ok answer, after)) :
    answer = true ∧ World.Effect world after [artifact.placeFrom world.base] [command] ∧
      (world.runner.Punctual → ∃ file : File,
        after.files.find? (artifact.placeFrom world.base) = some (.file file) ∧
          file.modified = world.now) := by
  obtain ⟨yes, completion, running, succeeded⟩ := run_of_runTool ran
  exact ⟨yes, effect_run tidy named tool running, fun punctual =>
    exists_file_of_run punctual named running succeeded⟩

/-- An obliging tool whose artifact can be written makes it. -/
theorem exists_runTool {logger message : String} {source : Path}
    {report : Completion → BuildError} {written : FileStore} (obliging : world.runner.Obliging)
    (named : command.artifact? = some artifact) (tool : command.isRequest = false)
    (writable : world.files.write world.base world.now artifact [] = .ok written) :
    ∃ after, (runTool logger message source report command).exec world = (.ok true, after) := by
  obtain ⟨completion, answered, succeeded⟩ :=
    obliging world.commands world.now world.base world.files command artifact written tool named
      writable
  rw [exec_runTool, exec_run]
  simp only [answered, succeeded, if_true]
  exact ⟨_, rfl⟩

theorem not_refuses_of_runTool {logger message : String} {source : Path}
    {report : Completion → BuildError} {answer : Bool}
    (ran : (runTool logger message source report command).exec world = (.ok answer, after)) :
    ¬ world.runner.Refuses command := by
  intro refuses
  obtain ⟨_, completion, running, succeeded⟩ := run_of_runTool ran
  rw [exec_run] at running
  rw [refuses _ _ _ _ completion (congrArg Prod.fst running)] at succeeded
  contradiction

/-- A tool of a constant runner that failed is refused, and has changed nothing. -/
theorem runTool_eq_error {logger message : String} {source : Path}
    {report : Completion → BuildError} {fault : Fault} (constant : world.runner.Constant)
    (tool : command.isRequest = false)
    (ran : (runTool logger message source report command).exec world = (.error fault, after)) :
    world.runner.Refuses command ∧ World.Effect world after [] [command] := by
  rcases answered : world.runner.answer world.commands world.now world.base world.files command
    with ⟨result, files⟩
  have leaves : (∀ completion, result = .ok completion → completion.ok = false) →
      world.runner.Refuses command ∧ ∀ events, World.Effect world
        { world with files := files, commands := world.commands ++ [command], events := events }
        [] [command] := by
    intro refused
    have never : ∀ completion, (world.runner.answer world.commands world.now world.base
        world.files command).1 = .ok completion → completion.ok = false := by
      rw [answered]
      exact refused
    have same : files = world.files :=
      (congrArg Prod.snd answered).symm.trans (constant.traceless _ _ _ _ _ never)
    subst same
    exact ⟨constant.refuses never, fun _ =>
      ⟨.refl _ _, rfl, rfl, rfl, [command], rfl, by simp [tool]⟩⟩
  rw [exec_runTool, exec_run, answered] at ran
  cases result with
  | error refusal =>
      obtain ⟨_, rfl⟩ := Prod.mk.inj ran
      exact (leaves (by simp)).imp_right fun effect => effect _
  | ok completion =>
      by_cases succeeded : completion.ok = true
      · simp [succeeded] at ran
      · simp only [succeeded] at ran
        obtain ⟨_, rfl⟩ := Prod.mk.inj ran
        obtain ⟨refuses, effect⟩ := leaves (by simpa using succeeded)
        exact ⟨refuses, (effect _).trans_kept (World.kept_logged _ _)⟩

/-- A constant runner makes a tool succeed or fail alike in all worlds. -/
theorem runTool_constant {left right : World} {logger message : String} {source : Path}
    {report : Completion → BuildError} (constant : left.runner.Constant)
    (same : left.runner = right.runner) :
    ((runTool logger message source report command).exec left).1 =
      ((runTool logger message source report command).exec right).1 := by
  have answers := constant.same command left.commands left.now left.base left.files
    right.commands right.now right.base right.files
  rw [exec_runTool, exec_runTool, exec_run, exec_run, ← same]
  simp only [answers]
  cases (left.runner.answer right.commands right.now right.base right.files command).1 with
  | error fault => rfl
  | ok result => by_cases succeeded : result.ok = true <;> simp [succeeded]

theorem confined_run {runner : Runner} {base : Place} {directory : Path} (tidy : runner.Tidy)
    (named : command.artifact? = some artifact) (tool : command.isRequest = false) :
    Confined runner base directory [artifact.placeFrom base] (run command) := by
  intro world same here _
  subst same here
  exact (effect_run tidy named tool rfl).resembles

theorem confined_runTool {runner : Runner} {base : Place} {directory : Path}
    {logger message : String} {source : Path} {report : Completion → BuildError}
    (tidy : runner.Tidy) (named : command.artifact? = some artifact)
    (tool : command.isRequest = false) :
    Confined runner base directory [artifact.placeFrom base]
      (runTool logger message source report command) := by
  exact composes_confined.runTool (confined_run tidy named tool)

end Action

/-! ## A runner without programs -/

namespace Runner

/-- A runner without programs: it refuses some commands, and for each other one writes the artifact
that the command names. -/
def scripted (refuses : Command → Bool) : Runner where
  answer _ now base files command :=
    if refuses command then (.ok ⟨command.args, 1, "", ""⟩, files)
    else
      match command.artifact? with
      | none => (.ok ⟨command.args, 0, "", ""⟩, files)
      | some artifact =>
          match files.write base now artifact [] with
          | .ok written => (.ok ⟨command.args, 0, "", ""⟩, written)
          | .error fault => (.error fault, files)

theorem tidy_scripted (refuses : Command → Bool) : (scripted refuses).Tidy := by
  intro history now base files command
  simp only [scripted]
  split
  · exact .refl _ _
  · split
    · exact .refl _ _
    · rename_i artifact named
      split
      · rename_i written wrote
        exact (FileStore.write_eq_ok wrote).1.mono fun place free => free artifact named
      · exact .refl _ _

theorem punctual_scripted (refuses : Command → Bool) : (scripted refuses).Punctual := by
  intro history now base files command completion later answered succeeded artifact named
  simp only [scripted, named] at answered
  split at answered
  · obtain ⟨same, _⟩ := Prod.mk.inj answered
    obtain rfl := Except.ok.inj same
    simp [Completion.ok] at succeeded
  · split at answered
    · rename_i written wrote
      obtain rfl := (Prod.mk.inj answered).2
      obtain ⟨_, file, found, _, time⟩ := FileStore.write_eq_ok wrote
      exact ⟨file, found, time⟩
    · simp at answered

/-- A runner that refuses nothing is obliging. -/
theorem obliging_scripted : (scripted fun _ => false).Obliging := by
  intro history now base files command artifact written _ named wrote
  simp [scripted, named, wrote, Completion.ok]

/-- A runner that refuses everything is constant. -/
theorem constant_scripted : (scripted fun _ => true).Constant where
  same _ _ _ _ _ _ _ _ _ := rfl
  traceless _ _ _ _ _ _ := rfl

/-- A runner beside which version control knows the branch that is checked out, and nothing that was
committed. -/
def onBranch (branch : String) (tools : Runner) : Runner where
  answer history now base files command :=
    if command.isRequest then
      if command.args = ["git", "branch"] then
        (.ok ⟨command.args, 0, "* " ++ branch ++ "\n", ""⟩, files)
      else (.ok ⟨command.args, 128, "", ""⟩, files)
    else tools.answer history now base files command

variable {branch : String} {tools : Runner}

theorem tidy_onBranch (tidy : tools.Tidy) : (onBranch branch tools).Tidy := by
  intro history now base files command
  simp only [onBranch]
  split
  · split
    · exact .refl _ _
    · exact .refl _ _
  · exact tidy history now base files command

theorem punctual_onBranch (punctual : tools.Punctual) : (onBranch branch tools).Punctual := by
  intro history now base files command completion later answered succeeded artifact named
  simp only [onBranch] at answered
  split at answered
  · split at answered
    · rename_i lists
      simp [Command.artifact?, lists] at named
    · obtain ⟨same, _⟩ := Prod.mk.inj answered
      obtain rfl := Except.ok.inj same
      simp [Completion.ok] at succeeded
  · exact punctual history now base files command completion later answered succeeded artifact named

end Runner

end Bindery
