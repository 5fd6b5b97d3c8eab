import Bindery.Proofs.Command.Contract
import Bindery.Proofs.Press.Publishing

/-!
Contract: that an action which succeeds can be done again elsewhere, with the same success.

Owns:
- `World.Matches`, worlds that hold the same at the places an action looks at, and `Replays`, an
  action that, having succeeded in one world, answers the same in every matching one, runs the same
  commands there and leaves matching worlds;
- the contracts that make actions replay: `Reproducible`, a runner that makes the same of the same
  command line, and `Fixed`, a version control with fixed answers and fixed questions;
- that the actions of a build replay under these contracts.

Does not own: several actions in another order (`Bindery.Proofs.Build.Order`).
-/

namespace Bindery

/-! ## Worlds that match -/

/-- Worlds with one clock, working directory and runner, whose files agree at the seen places. -/
structure World.Matches (seen : Place → Prop) (left right : World) : Prop where
  now : left.now = right.now
  base : left.base = right.base
  runner : left.runner = right.runner
  files : left.files.AgreesOn seen right.files

namespace World.Matches

variable {seen fewer : Place → Prop} {left middle right : World}

theorem refl (seen : Place → Prop) (world : World) : world.Matches seen world :=
  ⟨rfl, rfl, rfl, .refl _ _⟩

theorem symm (matching : left.Matches seen right) : right.Matches seen left :=
  ⟨matching.now.symm, matching.base.symm, matching.runner.symm, matching.files.symm⟩

theorem trans (first : left.Matches seen middle) (second : middle.Matches seen right) :
    left.Matches seen right :=
  ⟨first.now.trans second.now, first.base.trans second.base, first.runner.trans second.runner,
    first.files.trans second.files⟩

theorem mono (matching : left.Matches seen right) (among : ∀ place, fewer place → seen place) :
    left.Matches fewer right :=
  ⟨matching.now, matching.base, matching.runner, matching.files.mono among⟩

theorem sameBeside {directory : Place} (matching : left.Matches seen right)
    (beside : ∀ place, ¬ directory <+: place → seen place) : left.SameBeside directory right :=
  ⟨matching.base, matching.runner, fun place outside =>
    matching.files.nodes place (beside place outside)⟩

end World.Matches

theorem World.Kept.matches {before after : World} (kept : World.Kept before after)
    (seen : Place → Prop) : before.Matches seen after := by
  refine ⟨kept.now.symm, kept.base.symm, kept.runner.symm, ?_⟩
  rw [kept.files]
  exact .refl _ _

/-- A world with a runner and a working directory in which a directory is there. -/
structure World.Offers (runner : Runner) (base : Place) (directory : Path) (world : World) :
    Prop where
  runner : world.runner = runner
  base : world.base = base
  there : world.files.isDirectory world.base directory = .ok true

theorem World.Offers.of_matches {runner : Runner} {base : Place} {directory : Path}
    {seen : Place → Prop} {left right : World} (offers : left.Offers runner base directory)
    (matching : left.Matches seen right) : right.Offers runner base directory := by
  refine ⟨matching.runner.symm.trans offers.runner, matching.base.symm.trans offers.base, ?_⟩
  have there := FileStore.isDirectory_of_agreesOn matching.files offers.there
  rwa [matching.base] at there

/-! ## Contracts -/

/-- Whether a command names the file at a place as what it makes. -/
def Command.Makes (command : Command) (base place : Place) : Prop :=
  ∃ artifact, command.artifact? = some artifact ∧ artifact.placeFrom base = place

/-- A runner that makes the same of the same command line: what it has answered in one place it
answers wherever the same directories are, and then what it has made is the same. It may look at
the clock and at the former artifact. -/
def Runner.Reproducible (runner : Runner) : Prop :=
  ∀ command history later now base (left right : FileStore) completion made,
    left.AgreesOn (command.Makes base) right →
      runner.answer history now base left command = (.ok completion, made) →
        ∃ other, runner.answer later now base right command = (.ok completion, other) ∧
          made.AgreesOn (command.Makes base) other

theorem Runner.reproducible_scripted (refuses : Command → Bool) :
    (Runner.scripted refuses).Reproducible := by
  intro command history later now base left right completion made agrees answered
  simp only [scripted] at answered ⊢
  by_cases refused : refuses command = true
  · rw [if_pos refused] at answered ⊢
    obtain ⟨same, rfl⟩ := Prod.mk.inj answered
    exact ⟨right, by rw [same], agrees⟩
  rw [if_neg refused] at answered ⊢
  cases named : command.artifact? with
  | none =>
      rw [named] at answered
      obtain ⟨same, rfl⟩ := Prod.mk.inj answered
      exact ⟨right, by rw [same], agrees⟩
  | some artifact =>
      simp only [named] at answered
      split at answered
      · rename_i written wrote
        obtain ⟨same, rfl⟩ := Prod.mk.inj answered
        obtain ⟨other, wroteOther, alike⟩ :=
          FileStore.exists_write_of_agreesOn agrees ⟨artifact, named, rfl⟩ wrote
        exact ⟨other, by simp only [wroteOther, same], alike⟩
      · simp at answered

namespace Action

variable {α β : Type}

/-- An action that answers the same and asks the same in worlds that differ only inside a
directory, by the clock and by notes. -/
def Fixed (runner : Runner) (directory : Place) (action : Action α) : Prop :=
  ∀ left right : World, left.runner = runner → World.SameBeside directory left right →
    (action.exec left).1 = (action.exec right).1 ∧ ∃ requests : List Command,
      (action.exec left).2.commands = left.commands ++ requests ∧
        (action.exec right).2.commands = right.commands ++ requests

/-! ## Actions that replay -/

/-- What two runs of one action have in common: neither has changed the directories, and they have
run the same commands and leave what matches. -/
structure Replayed (seen : Place → Prop) (left right after later : World) : Prop where
  still : left.Matches (fun _ => False) after
  matching : after.Matches seen later
  ran : ∃ issued : List Command, after.commands = left.commands ++ issued ∧
    later.commands = right.commands ++ issued

/-- An action that, where a directory is there, does again in a matching world what it has done. -/
def Replays (runner : Runner) (base : Place) (directory : Path) (seen : Place → Prop)
    (action : Action α) : Prop :=
  ∀ (left right after : World) (value : α), left.Offers runner base directory →
    left.Matches seen right → action.exec left = (.ok value, after) →
      ∃ later, action.exec right = (.ok value, later) ∧ Replayed seen left right after later

section Replaying

variable {runner : Runner} {base : Place} {directory : Path} {seen : Place → Prop}

/-- What is only read is read again. -/
theorem replays_of_reading {action : Action α} {reading : World → Except Fault α}
    (reads : ∀ world, action.exec world = (reading world, world))
    (alike : ∀ left right value, World.Offers runner base directory left →
      left.Matches seen right → reading left = .ok value → reading right = .ok value) :
    Replays runner base directory seen action := by
  intro left right after value offers matching ran
  rw [reads] at ran
  obtain ⟨answered, rfl⟩ := Prod.mk.inj ran
  have again := alike left right value offers matching answered
  refine ⟨right, by rw [reads, again], .refl _ left, matching, [], ?_, ?_⟩
  · rw [List.append_nil]
  · rw [List.append_nil]

theorem replays_pure (value : α) : Replays runner base directory seen (pure value) :=
  replays_of_reading (fun _ => exec_pure value _) fun _ _ _ _ _ answered => answered

theorem replays_fail (fault : Fault) :
    Replays runner base directory seen (fail fault : Action α) :=
  replays_of_reading (fun _ => exec_fail fault _) fun _ _ _ _ _ answered => answered

theorem replays_log (level : Level) (logger message : String) (fields : Entries) :
    Replays runner base directory seen (log level logger message fields) := by
  intro left right after value _ matching ran
  obtain ⟨_, rfl⟩ := Prod.mk.inj ran
  refine ⟨right.logged ⟨level, logger, message, fields⟩, rfl,
    (left.kept_logged _).matches _, ?_, [], (List.append_nil _).symm, (List.append_nil _).symm⟩
  exact ⟨matching.now, matching.base, matching.runner, matching.files⟩

theorem replays_bind {action : Action α} {next : α → Action β}
    (first : Replays runner base directory seen action)
    (rest : ∀ value, Replays runner base directory seen (next value)) :
    Replays runner base directory seen (action >>= next) := by
  intro left right after value offers matching ran
  obtain ⟨found, middle, start, onward⟩ := exec_bind_eq_ok_iff.1 ran
  obtain ⟨middleAgain, startAgain, front⟩ := first left right middle found offers matching start
  obtain ⟨later, onwardAgain, back⟩ := rest found middle middleAgain after value
    (offers.of_matches front.still) front.matching onward
  obtain ⟨issued, ranLeft, ranRight⟩ := front.ran
  obtain ⟨more, ranAfter, ranLater⟩ := back.ran
  refine ⟨later, exec_bind_eq_ok_iff.2 ⟨found, middleAgain, startAgain, onwardAgain⟩,
    front.still.trans back.still, back.matching, issued ++ more, ?_, ?_⟩
  · rw [ranAfter, ranLeft, List.append_assoc]
  · rw [ranLater, ranRight, List.append_assoc]

theorem composes_replays : Composes (Replays runner base directory seen) where
  pure := replays_pure
  fail := replays_fail
  log := replays_log
  bind := replays_bind

/-- What goes on after asking for the working directory goes on from the one that is there. -/
theorem replays_workingDirectory_bind {next : Path → Action β}
    (rest : Replays runner base directory seen (next (.ofPlace base))) :
    Replays runner base directory seen (workingDirectory >>= next) := by
  intro left right after value offers matching ran
  have here : ∀ world : World, world.base = base →
      (workingDirectory >>= next).exec world = (next (.ofPlace base)).exec world := by
    rintro world rfl
    exact exec_bind_of_ok rfl next
  rw [here left offers.base] at ran
  obtain ⟨later, again, replayed⟩ := rest left right after value offers matching ran
  exact ⟨later, (here right (matching.base.symm.trans offers.base)).trans again, replayed⟩

theorem replays_readText {path : Path} (among : seen (path.placeFrom base)) :
    Replays runner base directory seen (readText path) := by
  refine replays_of_reading (exec_readText path) fun left right value offers matching answered => ?_
  rw [← offers.base] at among
  rw [← matching.base]
  exact ((FileStore.read_alike matching.files among).map _).ok answered

theorem replays_isStaleFor {source artifact : Path} (amongSource : seen (source.placeFrom base))
    (amongArtifact : seen (artifact.placeFrom base)) :
    Replays runner base directory seen (Staleness.isStaleFor source artifact) := by
  refine replays_of_reading (Staleness.exec_isStaleFor source artifact)
    fun left right value offers matching answered => ?_
  rw [← offers.base] at amongSource amongArtifact
  rw [← matching.base]
  exact (FileStore.staleFor_alike matching.files amongSource amongArtifact).ok answered

/-- A text that was written into the directory is written again, in the same form. -/
theorem replays_writeText {name : String} (part : Path.IsPart name)
    (among : seen ((directory.joinText name).placeFrom base)) (text : String) :
    Replays runner base directory seen (writeText (directory.joinText name) text) := by
  intro left right after value offers matching ran
  rw [exec_writeText offers.there part] at ran
  split at ran
  · rename_i written wrote
    obtain ⟨same, rfl⟩ := Prod.mk.inj ran
    rw [← offers.base] at among
    obtain ⟨other, wroteAgain, agrees⟩ :=
      FileStore.exists_write_of_agreesOn matching.files among wrote
    rw [matching.base, matching.now] at wroteAgain
    refine ⟨{ right with files := other }, ?_, ?_, ?_, [], ?_, ?_⟩
    · rw [exec_writeText (offers.of_matches matching).there part, wroteAgain, ← same]
    · exact ⟨rfl, rfl, rfl, (FileStore.write_eq_ok wrote).1.mono fun _ => False.elim⟩
    · exact ⟨matching.now, matching.base, matching.runner, agrees⟩
    · rw [List.append_nil]
    · rw [List.append_nil]
  · simp at ran

/-- A tool of a reproducible runner makes its artifact again. -/
theorem replays_run {command : Command} {artifact : Path} (tidy : runner.Tidy)
    (reproducible : runner.Reproducible) (named : command.artifact? = some artifact)
    (among : seen (artifact.placeFrom base)) :
    Replays runner base directory seen (run command) := by
  intro left right after value offers matching ran
  obtain ⟨rfl, rfl, _⟩ := offers
  have place : ∀ {spot}, command.Makes left.base spot ↔ artifact.placeFrom left.base = spot := by
    simp [Command.Makes, named]
  have beside : ∀ history store, FileStore.AgreesOn (¬ command.Makes left.base ·) store
      (left.runner.answer history left.now left.base store command).2 := by
    intro history store
    refine (tidy history left.now left.base store command).mono fun spot other made among same => ?_
    exact other ⟨made, among, same.symm⟩
  rw [exec_run] at ran
  obtain ⟨answered, rfl⟩ := Prod.mk.inj ran
  rcases running : left.runner.answer left.commands left.now left.base left.files command
    with ⟨answer, made⟩
  rw [running] at answered
  obtain rfl : answer = .ok value := answered
  obtain ⟨other, again, alike⟩ := reproducible command left.commands right.commands left.now
    left.base left.files right.files value made
    (matching.files.mono fun spot makes => place.1 makes ▸ among) running
  have frontLeft := beside left.commands left.files
  have frontRight := beside right.commands right.files
  rw [running] at frontLeft
  rw [again] at frontRight
  have ran : ∃ events, (run command).exec right = (.ok value,
      { right with
        files := other, commands := right.commands ++ [command], events := events }) := by
    rw [exec_run, ← matching.runner, ← matching.now, ← matching.base, again]
    exact ⟨_, rfl⟩
  obtain ⟨events, ran⟩ := ran
  refine ⟨_, ran, ?_, ?_, [command], rfl, rfl⟩
  · exact ⟨rfl, rfl, rfl, frontLeft.mono fun _ => False.elim⟩
  · refine ⟨matching.now, matching.base, matching.runner, alike.directories,
      fun spot seenHere => ?_⟩
    by_cases makes : command.Makes left.base spot
    · exact alike.nodes spot makes
    · exact (frontLeft.nodes spot makes).symm.trans
        ((matching.files.nodes spot seenHere).trans (frontRight.nodes spot makes))

/-- What is fixed is answered again, when all beside the directory is seen. -/
theorem Fixed.replays {action : Action α} {place : Place} (fixed : Fixed runner place action)
    (reads : ReadOnly runner action) (beside : ∀ spot, ¬ place <+: spot → seen spot) :
    Replays runner base directory seen action := by
  intro left right after value offers matching ran
  obtain ⟨answers, requests, askedLeft, askedRight⟩ :=
    fixed left right offers.runner (matching.sameBeside beside)
  have keptLeft := reads left offers.runner
  have keptRight := reads right (matching.runner.symm.trans offers.runner)
  rw [ran] at answers askedLeft keptLeft
  refine ⟨(action.exec right).2, Prod.ext answers.symm rfl, keptLeft.matches _, ?_, requests,
    askedLeft, askedRight⟩
  exact (keptLeft.matches seen).symm.trans (matching.trans (keptRight.matches seen))

end Replaying

/-! ## Version control with fixed answers -/

section Fixed

variable {runner : Runner} {directory : Place}

theorem fixed_pure (value : α) : Fixed runner directory (pure value) :=
  fun _ _ _ _ => ⟨rfl, [], (List.append_nil _).symm, (List.append_nil _).symm⟩

theorem fixed_fail (fault : Fault) : Fixed runner directory (fail fault : Action α) :=
  fun _ _ _ _ => ⟨rfl, [], (List.append_nil _).symm, (List.append_nil _).symm⟩

/-- A note is fixed, since it runs no command. -/
theorem fixed_update {change : World → World}
    (quiet : ∀ world, (change world).commands = world.commands) :
    Fixed runner directory (update change) :=
  fun left right _ _ => ⟨rfl, [], (quiet left).trans (List.append_nil _).symm,
    (quiet right).trans (List.append_nil _).symm⟩

theorem fixed_bind {action : Action α} {next : α → Action β} (reads : ReadOnly runner action)
    (first : Fixed runner directory action) (rest : ∀ value, Fixed runner directory (next value)) :
    Fixed runner directory (action >>= next) := by
  intro left right same beside
  obtain ⟨answers, front, askedLeft, askedRight⟩ := first left right same beside
  have keptLeft := reads left same
  have keptRight := reads right (beside.runner.symm.trans same)
  rw [exec_bind, exec_bind]
  rcases ranLeft : action.exec left with ⟨answerLeft, afterLeft⟩
  rcases ranRight : action.exec right with ⟨answerRight, afterRight⟩
  rw [ranLeft] at answers askedLeft keptLeft
  rw [ranRight] at answers askedRight keptRight
  obtain rfl : answerLeft = answerRight := answers
  cases answerLeft with
  | error fault => exact ⟨rfl, front, askedLeft, askedRight⟩
  | ok value =>
      obtain ⟨others, back, askedAfter, askedLater⟩ := rest value afterLeft afterRight
        (keptLeft.runner.trans same) ((keptLeft.sameBeside directory).symm.trans
          (beside.trans (keptRight.sameBeside directory)))
      refine ⟨others, front ++ back, ?_, ?_⟩
      · rw [askedAfter, askedLeft, List.append_assoc]
      · rw [askedLater, askedRight, List.append_assoc]

theorem composes_fixed :
    Composes fun action => ReadOnly runner action ∧ Fixed runner directory action where
  pure value := ⟨readOnly_pure value, fixed_pure value⟩
  fail fault := ⟨readOnly_fail fault, fixed_fail fault⟩
  log level logger message fields :=
    ⟨readOnly_log level logger message fields, fixed_update fun _ => rfl⟩
  bind first rest := ⟨readOnly_bind first.1 fun value => (rest value).1,
    fixed_bind first.1 first.2 fun value => (rest value).2⟩

end Fixed

end Action

section Contracts

variable {runner : Runner} {directory : Place}

/-- A read-only version control with fixed answers and fixed questions: they depend neither on the
clock, nor on what was asked before, nor on anything inside the given directory. -/
def Repository.Fixed (runner : Runner) (directory : Place) (repository : Repository) : Prop :=
  repository.All fun action =>
    Action.ReadOnly runner action ∧ Action.Fixed runner directory action

theorem inherited_fixed (runner : Runner) (directory : Place) :
    Inherited fun action =>
      Action.ReadOnly runner action ∧ Action.Fixed runner directory action :=
  Action.composes_fixed.inherited
    (fun request =>
      ⟨(inherited_readOnly runner).noteRequest request, Action.fixed_update fun _ => rfl⟩)
    (fun location =>
      ⟨(inherited_readOnly runner).noteMissing location, Action.fixed_update fun _ => rfl⟩)

theorem Repository.fixed_ofSnapshot (runner : Runner) (directory : Place) (snapshot : Snapshot) :
    (Repository.ofSnapshot snapshot).Fixed runner directory :=
  Action.composes_fixed.ofSnapshot snapshot

end Contracts

/-! ## Manuscripts -/

namespace Press

/-- A manuscript is published again from a source that is seen, to a place that is seen. -/
theorem replays_publish (press : Press) {runner : Runner} {base : Place} {seen : Place → Prop}
    {source : Path} {name : String} (part : Path.IsPart name)
    (fixed : press.repository.Fixed runner (press.targetDirectory.placeFrom base))
    (beside : ∀ place, ¬ press.targetDirectory.placeFrom base <+: place → seen place)
    (amongSource : seen (source.placeFrom base))
    (amongTarget : seen ((press.targetDirectory.joinText name).placeFrom base)) :
    Action.Replays runner base press.targetDirectory seen (press.publish source name) := by
  refine Action.replays_bind (Action.replays_readText amongSource) fun text => ?_
  have rendering :=
    (inherited_fixed runner (press.targetDirectory.placeFrom base)).render fixed text
  refine Action.replays_bind (rendering.2.replays rendering.1 beside) fun rendered => ?_
  refine Action.replays_bind (Action.replays_writeText part amongTarget _) fun written => ?_
  exact Action.replays_bind (Action.replays_log _ _ _ _) fun _ => Action.replays_pure _

end Press

end Bindery
