import Bindery.CommandLine.Run
import Bindery.Proofs.Settings.Precedence
import Bindery.Proofs.Source.Finding
import Bindery.Rehearsal

/-!
Contract: which switches a run obeys.

Owns:
- `AsksOperation`, the words that ask for the operation of a command, and `obeying`, what such a run
  does under given switches: in which form it reports, from which level and in which form it writes
  its log, and whether it records phases;
- `FallsThrough`, the switches in which those that are not given come from the environment or the
  configuration file;
- that a run obeys the given switches, and that these fall through exactly where the layers below
  would leave every other switch off.

Does **not** own: what the operations are (`Bindery.Book`).

## A switch that is not given

The command line hands over every switch, and one that is not given is off. To the settings it is
given as off on top of all layers, so that none of them is asked.
-/

namespace Bindery.CommandLine

open Settings

variable {words : List String} {parsed inner : Parsed} {command : CommandForm}
  {settings : Settings} {world : World}

/-! ## Looking at arguments -/

/-- What is wrong with a written path, read off the files as seen from the working directory. -/
def faultIn (wantsFile : Bool) (path : String) (files : FileStore) (base : Place) :
    Except Fault (Option PathFault) :=
  match files.status base (.ofString path) with
  | .error .nullInPath => .error .nullInPath
  | .error _ => .ok (some .missing)
  | .ok .directory => .ok (if wantsFile then some .isDirectory else none)
  | .ok (.file _) =>
      if demandsDirectory path then .ok (some .missing)
      else .ok (if wantsFile then none else some .isFile)

theorem looks_checkPath (wantsFile : Bool) (label kind path : String) :
    (checkPath wantsFile label kind path).Looks := by
  unfold checkPath
  split
  · exact Action.looks_pure _
  · refine Action.looks_bind ?_ fun _ => Action.looks_pure _
    exact ⟨faultIn wantsFile path, fun _ => rfl⟩

theorem looks_checkDirectory (parsed : Parsed) : (checkDirectory parsed).Looks := by
  unfold checkDirectory
  split
  · exact Action.looks_pure _
  · exact looks_checkPath _ _ _ _

theorem looks_checkArguments (command : CommandForm) (parsed : Parsed) :
    (checkArguments command parsed).Looks := by
  unfold checkArguments
  split
  · exact Action.looks_pure _
  · extract_lets answer
    split
    · exact Action.looks_bind (looks_checkPath _ _ _ _) fun _ => Action.looks_pure _
    · exact Action.looks_bind (Action.looks_pure _) fun _ => Action.looks_pure _
  · exact Action.looks_pure _
  · exact Action.looks_pure _

/-! ## Runs of an operation -/

/-- Words that ask for the operation of a command: they are read, nothing is done at once, and the
directory and the arguments pass. -/
structure AsksOperation (words : List String) (parsed inner : Parsed) (command : CommandForm)
    (world : World) : Prop where
  read : readWords programOptions false words = .ok parsed
  goesOn : parsed.immediate programOptions = none
  admitted : ((checkDirectory parsed).exec world).1 = .ok none
  named : ∃ name rest, parsed.arguments = name :: rest ∧ commandNamed name = some command ∧
    readWords command.options true rest = .ok inner
  goesOnInside : inner.immediate command.options = none
  taken : ((checkArguments command inner).exec world).1 = .ok none

/-- The world in which phases are recorded if a run is verbose. -/
def recordingIf (verbose : Bool) (world : World) : World :=
  if verbose then { world with recording := { world.recording with enabled := true } } else world

/-- What a run says of the answer of its operation. -/
def told (switches : Switches) : Except Fault Outcome → Finished
  | .ok outcome => .ofOutcome ⟨switches.json, switches.quiet, switches.verbose⟩ outcome
  | .error fault => .escapes (.fault fault)

/-- A run of an operation that obeys switches: they decide whether phases are recorded, in which
form the outcome is reported, and how the log is set up, which holds all that the operation, the
runner and the repository have logged. -/
def obeying (switches : Switches) (book : Book) (command : CommandForm) (inner : Parsed)
    (world : World) : Finished × World :=
  let (answer, after) := (operate book command inner).exec (recordingIf switches.verbose world)
  let events := after.events.drop world.events.length
  let logging : Logging := .configure switches.verbose switches.logJson
  ({ told switches answer with log := logging.output events }, after)

/-- A verbose run writes every event of the program's own loggers; beside them, and of a run that is
not verbose, only warnings are written. -/
theorem admits_configure_iff {verbose logJson : Bool} {event : Event} :
    (Logging.configure verbose logJson).admits event = true ↔
      event.level = .warning ∨ verbose = true ∧ Logging.isOwn event.logger = true := by
  unfold Logging.admits Logging.levelOf
  rw [decide_eq_true_iff]
  by_cases own : Logging.isOwn event.logger = true
  · rw [if_pos own]
    cases verbose with
    | true => exact iff_of_true event.level.debug_le (.inr ⟨rfl, own⟩)
    | false => exact event.level.warning_le_iff.trans (by simp)
  · rw [if_neg own]
    exact event.level.warning_le_iff.trans (by simp [own])

theorem files_recordingIf (verbose : Bool) (world : World) :
    (recordingIf verbose world).files = world.files := by
  cases verbose <;> rfl

theorem base_recordingIf (verbose : Bool) (world : World) :
    (recordingIf verbose world).base = world.base := by
  cases verbose <;> rfl

theorem events_recordingIf (verbose : Bool) (world : World) :
    (recordingIf verbose world).events = world.events := by
  cases verbose <;> rfl

/-- With good words and arguments a command is nothing but its operation. -/
theorem exec_runCommand {rest : List String}
    (read : readWords command.options true rest = .ok inner)
    (goesOn : inner.immediate command.options = none)
    (taken : ((checkArguments command inner).exec world).1 = .ok none) :
    (runCommand settings command rest).exec world =
      (operate (settings.book none) command inner >>= fun outcome =>
        pure (Finished.ofOutcome (reportForm settings) outcome)).exec world := by
  have checked := (looks_checkArguments command inner).exec_eq rfl rfl taken
  unfold runCommand
  rw [read]
  simp only [goesOn]
  exact Action.exec_bind_of_ok checked _

/-- From the moment there are settings, a run obeys their switches. -/
theorem exec_writeLog_runCommand {rest : List String}
    (read : readWords command.options true rest = .ok inner)
    (goesOn : inner.immediate command.options = none)
    (taken : ((checkArguments command inner).exec world).1 = .ok none) :
    (startRecording settings >>= fun _ =>
        writeLog settings (runCommand settings command rest)).exec world =
      (.ok (obeying settings.switches (settings.book none) command inner world).1,
        (obeying settings.switches (settings.book none) command inner world).2) := by
  have recording : (startRecording settings).exec world =
      (.ok (), recordingIf settings.switches.verbose world) := rfl
  have takenThere : ((checkArguments command inner).exec
      (recordingIf settings.switches.verbose world)).1 = .ok none := by
    rw [(looks_checkArguments command inner).exec_eq (files_recordingIf _ _)
      (base_recordingIf _ _) taken]
  rw [Action.exec_bind_of_ok recording]
  unfold writeLog obeying
  simp only [Action.exec_bind, Action.exec_observe, Action.exec_ofEffect,
    exec_runCommand read goesOn takenThere, events_recordingIf]
  rcases (operate (settings.book none) command inner).exec
    (recordingIf settings.switches.verbose world) with ⟨answer, after⟩
  cases answer with
  | ok outcome => rfl
  | error fault => rfl

theorem observes_settingsOf (parsed : Parsed) : Action.Observes (settingsOf parsed) := by
  unfold settingsOf
  split
  · exact Action.observes_bind (Action.observes_pure _) fun _ => observes_load _ _ _
  · exact Action.observes_bind
      (Action.observes_bind (Action.observes_observe _) fun _ => Action.observes_pure _)
      fun _ => observes_load _ _ _

/-- Words that lead to a command are a run of it, once the directory passes and there are
settings. -/
theorem exec_runWords {name : String} {rest : List String}
    (read : readWords programOptions false words = .ok parsed)
    (goesOn : parsed.immediate programOptions = none)
    (admitted : ((checkDirectory parsed).exec world).1 = .ok none)
    (leading : parsed.arguments = name :: rest) (known : commandNamed name = some command)
    (loaded : ((settingsOf parsed).exec world).1 = .ok (.ok settings)) :
    (runWords words).exec world =
      (startRecording settings >>= fun _ =>
        writeLog settings (runCommand settings command rest)).exec world := by
  have checked := (looks_checkDirectory parsed).exec_eq rfl rfl admitted
  have set := (observes_settingsOf parsed).exec_eq loaded
  unfold runWords
  simp only [read, goesOn]
  unfold proceed
  rw [Action.exec_bind_of_ok checked]
  simp only [leading, known]
  show (withSettings parsed fun settings => runCommand settings command rest).exec world = _
  unfold withSettings
  rw [Action.exec_bind_of_ok set]

/-- A run of an operation obeys the switches of its settings. -/
theorem run_eq_obeying (asks : AsksOperation words parsed inner command world)
    (loaded : ((settingsOf parsed).exec world).1 = .ok (.ok settings)) :
    run words world = obeying settings.switches (settings.book none) command inner world := by
  obtain ⟨name, rest, leading, known, read⟩ := asks.named
  unfold run
  rw [exec_runWords asks.read asks.goesOn asks.admitted leading known loaded,
    exec_writeLog_runCommand read asks.goesOnInside asks.taken]

/-! ## Switches that are not given -/

/-- The value that a switch has to have: on if it is given, and what the layers below say if not. -/
def Due (given : String → Bool) (layers : List Entries) (key : String) (value : Bool) : Prop :=
  if given key then value = true else Decided readSwitch false layers [key] value

/-- Switches that fall through: those that are not given come from the layers below. -/
structure FallsThrough (given : String → Bool) (layers : List Entries) (switches : Switches) :
    Prop where
  json : Due given layers "json_output" switches.json
  quiet : Due given layers "quiet" switches.quiet
  verbose : Due given layers "verbose" switches.verbose
  logJson : Due given layers "log_json" switches.logJson

variable {given : String → Bool} {layers : List Entries}

/-- A switch that is on when it is given, and off when it is not, is due when it is given or the
layers below leave it off. -/
theorem due_given_iff (key : String) :
    Due given layers key (given key) ↔
      given key = true ∨ Decided readSwitch false layers [key] false := by
  unfold Due
  cases given key with
  | true => exact ⟨fun _ => .inl rfl, fun _ => rfl⟩
  | false => exact ⟨.inr, fun either => either.resolve_left nofun⟩

theorem fallsThrough_switchesBy_iff :
    FallsThrough given layers (switchesBy given) ↔
      ∀ key ∈ switchKeys, given key = true ∨ Decided readSwitch false layers [key] false := by
  unfold switchKeys
  simp only [List.forall_mem_cons, List.not_mem_nil, false_implies, implies_true, and_true,
    ← due_given_iff]
  constructor
  · intro falls
    exact ⟨falls.json, falls.quiet, falls.verbose, falls.logJson⟩
  · rintro ⟨json, quiet, verbose, logJson⟩
    exact ⟨json, quiet, verbose, logJson⟩

/-- The settings of a run are read from layers with every switch on top. -/
theorem load_of_settingsOf (loaded : ((settingsOf parsed).exec world).1 = .ok (.ok settings)) :
    ∃ root, (load (parsed.valueOf "config_path") root (switchLayer parsed.isGiven)).exec world =
      (.ok (.ok settings), world) := by
  have set := (observes_settingsOf parsed).exec_eq loaded
  unfold settingsOf at set
  split at set
  · exact ⟨none, set⟩
  · obtain ⟨root, _, first, rest⟩ := Action.exec_bind_eq_ok_iff.1 set
    obtain ⟨_, rfl⟩ := (Action.observes_bind (Action.observes_observe _)
      fun _ => Action.observes_pure _).of_exec first
    exact ⟨root, rest⟩

/-- The switches of a run are those that were given. -/
theorem switches_of_settingsOf
    (loaded : ((settingsOf parsed).exec world).1 = .ok (.ok settings)) :
    settings.switches = switchesBy parsed.isGiven := by
  obtain ⟨root, set⟩ := load_of_settingsOf loaded
  exact switches_of_load set

/-- Whatever the environment and the configuration file say, the switches of a run are those that
were given, and the form of its report, its log and its record follow them. They fall through
to the environment, then to the configuration file, exactly if these leave every switch off that was
not given. -/
theorem switches_fall_through_iff
    (loaded : ((settingsOf parsed).exec world).1 = .ok (.ok settings)) :
    ∃ stored named,
      ((fileEntries settings.configPath).exec world).1 = .ok (.ok stored) ∧
      Environment.read world.environment = .ok named ∧
      settings.switches = switchesBy parsed.isGiven ∧
      (∀ words inner command, AsksOperation words parsed inner command world →
        run words world =
          obeying (switchesBy parsed.isGiven) (settings.book none) command inner world) ∧
      (FallsThrough parsed.isGiven [named, stored] settings.switches ↔
        ∀ key ∈ switchKeys, parsed.isGiven key = true ∨
          Decided readSwitch false [named, stored] [key] false) := by
  obtain ⟨root, set⟩ := load_of_settingsOf loaded
  obtain ⟨stored, named, layered⟩ := exists_layered set
  have given := switches_of_settingsOf loaded
  refine ⟨stored, named, layered.fromFile, layered.fromEnvironment, given, ?_, ?_⟩
  · intro words inner command asks
    rw [← given]
    exact run_eq_obeying asks loaded
  · rw [given]
    exact fallsThrough_switchesBy_iff

/-! ### A variable of the environment -/

/-- A project without files, in an environment that asks for a single status line. -/
def quietWorld : World where
  files := ⟨[(["book"], .directory)]⟩
  now := 5000
  base := ["book"]
  environment := [("BOOKCTL_QUIET", "1")]
  runner := .rehearsed []
  commands := []
  requests := []
  missing := []
  events := []
  recording := .start false fun _ => 0

/-- The settings of this project, which has no configuration file. -/
def quietSettings (switches : Switches) : Settings :=
  ⟨.ofPlace ["book"], none, switches, .default, .default, .default⟩

/-- With the variable and another switch, the other one is obeyed: the run records its phases, and
writes to its log, for readers, that they are complete. -/
theorem switches_fall_through_iff_verbose :
    ((settingsOf ⟨[⟨"verbose", none⟩], ["diagrams"]⟩).exec quietWorld).1 =
        .ok (.ok (quietSettings ⟨false, false, true, false⟩)) ∧
      ∃ stored named,
        ((fileEntries none).exec quietWorld).1 = .ok (.ok stored) ∧
        Environment.read quietWorld.environment = .ok named ∧
        run ["-v", "diagrams"] quietWorld =
          obeying ⟨false, false, true, false⟩
            ((quietSettings ⟨false, false, true, false⟩).book none) diagramsCommand ⟨[], []⟩
            quietWorld ∧
        (run ["-v", "diagrams"] quietWorld).1.log.form = .console ∧
        (run ["-v", "diagrams"] quietWorld).1.log.events.map (·.message) = ["span.complete"] := by
  have loaded : ((settingsOf ⟨[⟨"verbose", none⟩], ["diagrams"]⟩).exec quietWorld).1 =
      .ok (.ok (quietSettings ⟨false, false, true, false⟩)) :=
    eq_ok_ok_of_toOption (by decide +kernel)
  have asks : AsksOperation ["-v", "diagrams"] ⟨[⟨"verbose", none⟩], ["diagrams"]⟩ ⟨[], []⟩
      diagramsCommand quietWorld := {
    read := rfl
    goesOn := by decide
    admitted := rfl
    named := ⟨_, _, rfl, rfl, rfl⟩
    goesOnInside := by decide
    taken := rfl }
  obtain ⟨stored, named, fromFile, fromEnvironment, given, obeys, _⟩ :=
    switches_fall_through_iff loaded
  have obeyed := obeys _ _ _ asks
  rw [← given] at obeyed
  refine ⟨loaded, stored, named, fromFile, fromEnvironment, obeyed, ?_⟩
  rw [obeyed]
  exact ⟨by decide +kernel, by decide +kernel⟩

/-- The text that is given under the only key of a mapping. -/
def onlyText? : Entries → Option (String × String)
  | [(key, .str text)] => some (key, text)
  | _ => none

theorem eq_of_onlyText? {answer : Except String Entries} {key text : String}
    (only : answer.toOption.bind onlyText? = some (key, text)) :
    answer = .ok [(key, .str text)] := by
  cases answer with
  | error fault => contradiction
  | ok entries =>
      change onlyText? entries = some (key, text) at only
      unfold onlyText? at only
      split at only
      · obtain ⟨rfl, rfl⟩ := Prod.mk.inj (Option.some.inj only)
        rfl
      · contradiction

/-- The variable alone does not make a run quiet. -/
theorem quiet_variable_ignored :
    Environment.read quietWorld.environment = .ok [("quiet", .str "1")] ∧
      ((fileEntries none).exec quietWorld).1 = .ok (.ok []) ∧
      ((settingsOf ⟨[], ["diagrams"]⟩).exec quietWorld).1 =
        .ok (.ok (quietSettings .default)) ∧
      Decided readSwitch false [[("quiet", .str "1")], []] ["quiet"] true ∧
      ¬FallsThrough (Parsed.isGiven ⟨[], ["diagrams"]⟩) [[("quiet", .str "1")], []]
        (quietSettings .default).switches := by
  have named : Environment.read quietWorld.environment = .ok [("quiet", .str "1")] :=
    eq_of_onlyText? (by decide +kernel)
  have loaded : ((settingsOf ⟨[], ["diagrams"]⟩).exec quietWorld).1 =
      .ok (.ok (quietSettings .default)) :=
    eq_ok_ok_of_toOption (by decide +kernel)
  have decided : readSwitch ["quiet"] (.str "1") = .ok true := by decide +kernel
  refine ⟨named, rfl, loaded, decided, fun falls => ?_⟩
  have off : readSwitch ["quiet"] (.str "1") = .ok false := falls.quiet
  exact absurd (decided.symm.trans off) nofun

end Bindery.CommandLine
