import Bindery.Proofs.Settings.Layers
import Bindery.Rehearsal

/-!
Contract: every setting comes from the first layer that gives it a value.

Owns:
- `Decided`, the value that layers give to a setting, and `FollowsLayers`, settings all of which are
  decided in this way;
- that settings which are read from layers follow them, with the table of substitutes in the order
  of the layers from the lowest;
- that a run's settings follow what the caller gives, then the environment, then the configuration
  file, so that a caller that gives every switch leaves none to them.

Does **not** own: what is found in a tree that others were laid over
(`Bindery.Proofs.Value.Overlay`).
-/

namespace Bindery

open Value

namespace Settings

variable {α β : Type} {reader : Reader α} {default setting : α} {entries : Entries}
  {layers : List Entries} {path : List String}

/-! ## One setting -/

/-- The value of a setting is what its reader makes of the first value that a layer gives. Where no
layer gives one, it is the default. -/
def Decided (reader : Reader α) (default : α) (layers : List Entries) (path : List String)
    (setting : α) : Prop :=
  match firstGiven path layers with
  | none => setting = default
  | some value => reader path value = .ok setting

/-- Reads what a path of keys leads to, which has a default. -/
def readAt (reader : Reader α) (default : α) (path : List String) (entries : Entries) :
    Checked α :=
  match valueAt path (.map entries) with
  | none => .ok default
  | some value => reader path value

/-- A reader of values below which there are no keys. -/
def TakesNoMap (reader : Reader α) : Prop :=
  ∀ place entries setting, reader place (.map entries) ≠ .ok setting

theorem takesNoMap_readText : TakesNoMap readText := nofun

theorem takesNoMap_readPath : TakesNoMap readPath := nofun

theorem takesNoMap_readSwitch : TakesNoMap readSwitch := nofun

theorem readAt_of_readMember {key : String}
    (answered : readMember reader default [] entries key = .ok setting) :
    readAt reader default [key] entries = .ok setting := by
  unfold readAt
  rw [valueAt_singleton]
  exact answered

/-- What is read of a section is read at a path of two keys, which nothing hides. -/
theorem readAt_of_readSection {part partDefault : β} {key section_ : String}
    {sectionReader : (place : List String) → Entries → Checked β} {field : β → α}
    (member : ∀ inner, sectionReader [section_] inner = .ok part →
      readMember reader (field partDefault) [section_] inner key = .ok (field part))
    (answered : readMember (readSection sectionReader) partDefault [] entries section_ =
      .ok part) :
    IsOpen [section_, key] (.map entries) ∧
      readAt reader (field partDefault) [section_, key] entries = .ok (field part) := by
  unfold readMember at answered
  unfold readAt
  rw [valueAt_cons]
  cases found : entries.find? section_ with
  | none =>
      rw [found] at answered
      obtain rfl := Except.ok.inj answered
      exact ⟨fun inner same => absurd (found.symm.trans same) nofun, rfl⟩
  | some value =>
      rw [found] at answered
      rcases eq_map_or_noMap value with ⟨inner, rfl⟩ | noMap
      · have inside := member inner answered
        refine ⟨fun other same => ?_, ?_⟩
        · obtain rfl := Option.some.inj (found.symm.trans same)
          exact isOpen_singleton key inner
        · rw [Option.bind_some, valueAt_singleton]
          exact inside
      · cases value with
        | map entries => exact absurd rfl (noMap entries)
        | _ => contradiction

/-- A setting below which there are no keys is decided by the first layer from above. -/
theorem decided_of_readAt (takes : TakesNoMap reader)
    (each : ∀ layer ∈ layers, KeyedOnce (.map layer)) (nonempty : path ≠ [])
    (open_ : IsOpen path (.map (overlayAll layers)))
    (answered : readAt reader default path (overlayAll layers) = .ok setting) :
    Decided reader default layers.reverse path setting := by
  unfold readAt at answered
  have leaf : ∀ entries, valueAt path (.map (overlayAll layers)) ≠ some (.map entries) := by
    intro entries leads
    rw [leads] at answered
    exact takes path entries setting answered
  unfold Decided
  rw [firstGiven_reverse each nonempty open_ leaf]
  split at answered
  · exact (Except.ok.inj answered).symm
  · exact answered

/-! ## All settings -/

/-- What a layer says about the substitutes, as far as it is a table. -/
def substitutesOf (layer : Entries) : Entries :=
  tableOf (valueAt ["build", "substitutes"] (.map layer))

/-- Settings that are decided by layers, the uppermost one first. The substitutes are those of all
layers: first the ones of the lowest layer, each in its place, and then the new ones of the next. -/
structure FollowsLayers (layers : List Entries) (settings : Settings) : Prop where
  json : Decided readSwitch Switches.default.json layers ["json_output"] settings.switches.json
  quiet : Decided readSwitch Switches.default.quiet layers ["quiet"] settings.switches.quiet
  verbose : Decided readSwitch Switches.default.verbose layers ["verbose"] settings.switches.verbose
  logJson :
    Decided readSwitch Switches.default.logJson layers ["log_json"] settings.switches.logJson
  builder :
    Decided readText Latex.default.builder layers ["latex", "builder"] settings.latex.builder
  latexDirectory : Decided readPath Latex.default.directory layers ["latex", "directory"]
    settings.latex.directory
  graphvizDirectory : Decided readPath Graphviz.default.directory layers
    ["graphviz", "directory"] settings.graphviz.directory
  targetDirectory : Decided readPath Build.default.targetDirectory layers
    ["build", "target_directory"] settings.build.targetDirectory
  imagesDirectory : Decided readPath Build.default.imagesDirectory layers
    ["build", "images_directory"] settings.build.imagesDirectory
  sourceRoot : Decided readPath Build.default.sourceRoot layers ["build", "source_root"]
    settings.build.sourceRoot
  substituteKeys : settings.build.substitutes.map Prod.fst =
    inTurn (layers.reverse.map fun layer => (substitutesOf layer).keys)
  substitutes : ∀ key text, (key, text) ∈ settings.build.substitutes →
    firstGiven ["build", "substitutes", key] layers = some (.str text)

theorem eq_map_of_readTextEntries {place : List String} {texts : List (String × String)}
    (answered : readTextEntries place entries = .ok texts) :
    entries = texts.map fun text => (text.1, .str text.2) := by
  induction entries generalizing texts with
  | nil =>
      obtain rfl := Except.ok.inj answered
      rfl
  | cons entry rest inductionHypothesis =>
      obtain ⟨key, value⟩ := entry
      unfold readTextEntries at answered
      obtain ⟨⟨text, others⟩, both, rfl⟩ := exists_of_map answered
      obtain ⟨first, remaining⟩ := Checked.zip_eq_ok_iff.1 both
      rw [inductionHypothesis remaining, List.map_cons]
      unfold readText at first
      split at first
      · obtain rfl := Except.ok.inj first
        rfl
      · contradiction

/-- A table of texts that was read is what its path leads to, if that leads anywhere. -/
theorem tableOf_of_readAt {texts : List (String × String)}
    (answered : readAt readTextTable [] path entries = .ok texts) :
    tableOf (valueAt path (.map entries)) = texts.map (fun text => (text.1, .str text.2)) ∧
      ∀ value, valueAt path (.map entries) = some value → ∃ inner, value = .map inner := by
  unfold readAt at answered
  split at answered
  · rename_i absent
    obtain rfl := Except.ok.inj answered
    rw [absent]
    exact ⟨rfl, nofun⟩
  · rename_i value leads
    rw [leads]
    rcases eq_map_or_noMap value with ⟨inner, rfl⟩ | noMap
    · exact ⟨eq_map_of_readTextEntries answered, fun other same =>
        ⟨inner, (Option.some.inj same).symm⟩⟩
    · cases value with
      | map inner => exact absurd rfl (noMap inner)
      | _ => contradiction

/-- An entry of the table at the end of a path is found by one key more. -/
theorem valueAt_of_mem_tableOf {tree value : Value} {key : String} (keyed : KeyedOnce tree)
    (among : (key, value) ∈ tableOf (valueAt path tree)) :
    valueAt (path ++ [key]) tree = some value := by
  rw [valueAt_append]
  cases found : valueAt path tree with
  | none =>
      rw [found] at among
      contradiction
  | some last =>
      rw [found] at among
      rcases eq_map_or_noMap last with ⟨inner, rfl⟩ | noMap
      · rw [Option.bind_some, valueAt_singleton]
        exact Entries.find?_of_mem (keyed.valueAt found).distinct among
      · cases last with
        | map inner => exact absurd rfl (noMap inner)
        | _ => contradiction

/-- The table of substitutes has the keys of the layers in turn. -/
theorem substitutes_of_readAt {texts : List (String × String)}
    (each : ∀ layer ∈ layers, KeyedOnce (.map layer))
    (open_ : IsOpen ["build", "substitutes"] (.map (overlayAll layers)))
    (answered : readAt readTextTable [] ["build", "substitutes"] (overlayAll layers) =
      .ok texts) :
    texts.map Prod.fst = inTurn (layers.map fun layer => (substitutesOf layer).keys) ∧
      ∀ key text, (key, text) ∈ texts →
        firstGiven ["build", "substitutes", key] layers.reverse = some (.str text) := by
  obtain ⟨shape, onlyMap⟩ := tableOf_of_readAt answered
  constructor
  · have keys : Entries.keys (texts.map fun text => (text.1, Value.str text.2)) =
        texts.map Prod.fst := by
      simp [Entries.keys]
    rw [← keys, ← shape]
    exact keys_tableOf_overlayAll each (List.cons_ne_nil _ _) open_ onlyMap
  · intro key text among
    have opens : IsOpen (["build", "substitutes"] ++ [key]) (.map (overlayAll layers)) := by
      refine isOpen_append open_ fun value leads => ?_
      obtain ⟨inner, rfl⟩ := onlyMap value leads
      exact isOpen_singleton key inner
    have leads : valueAt (["build", "substitutes"] ++ [key]) (.map (overlayAll layers)) =
        some (.str text) := by
      apply valueAt_of_mem_tableOf (KeyedOnce.overlayAll each)
      rw [shape]
      exact List.mem_map_of_mem among
    have leaf : ∀ inner, valueAt (["build", "substitutes"] ++ [key])
        (.map (overlayAll layers)) ≠ some (.map inner) := by
      rw [leads]
      exact nofun
    exact (firstGiven_reverse each (List.cons_ne_nil _ _) opens leaf).trans leads

theorem Switches.of_read {switches : Switches} (answered : Switches.read entries = .ok switches) :
    readAt readSwitch Switches.default.json ["json_output"] entries = .ok switches.json ∧
      readAt readSwitch Switches.default.quiet ["quiet"] entries = .ok switches.quiet ∧
      readAt readSwitch Switches.default.verbose ["verbose"] entries = .ok switches.verbose ∧
      readAt readSwitch Switches.default.logJson ["log_json"] entries = .ok switches.logJson := by
  obtain ⟨⟨json, quiet, verbose, logJson⟩, parts, rfl⟩ := exists_of_map answered
  simp only [Checked.zip_eq_ok_iff] at parts
  obtain ⟨ofJson, ofQuiet, ofVerbose, ofLogJson⟩ := parts
  exact ⟨readAt_of_readMember ofJson, readAt_of_readMember ofQuiet,
    readAt_of_readMember ofVerbose, readAt_of_readMember ofLogJson⟩

theorem Latex.of_read {place : List String} {latex : Latex}
    (answered : Latex.read place entries = .ok latex) :
    readMember readText Latex.default.builder place entries "builder" = .ok latex.builder ∧
      readMember readPath Latex.default.directory place entries "directory" =
        .ok latex.directory := by
  obtain ⟨⟨builder, directory⟩, parts, rfl⟩ := exists_of_map answered
  exact Checked.zip_eq_ok_iff.1 parts

theorem Graphviz.of_read {place : List String} {graphviz : Graphviz}
    (answered : Graphviz.read place entries = .ok graphviz) :
    readMember readPath Graphviz.default.directory place entries "directory" =
      .ok graphviz.directory := by
  obtain ⟨directory, part, rfl⟩ := exists_of_map answered
  exact part

theorem Build.of_read {place : List String} {build : Build}
    (answered : Build.read place entries = .ok build) :
    readMember readPath Build.default.targetDirectory place entries "target_directory" =
        .ok build.targetDirectory ∧
      readMember readPath Build.default.imagesDirectory place entries "images_directory" =
        .ok build.imagesDirectory ∧
      readMember readPath Build.default.sourceRoot place entries "source_root" =
        .ok build.sourceRoot ∧
      readMember readTextTable Build.default.substitutes place entries "substitutes" =
        .ok build.substitutes := by
  obtain ⟨⟨target, images, source, substitutes⟩, parts, rfl⟩ := exists_of_map answered
  simp only [Checked.zip_eq_ok_iff] at parts
  exact parts

/-- Settings that are read from layers laid over each other follow them. -/
theorem followsLayers_of_read {root : Path} {file : Option Path} {settings : Settings}
    (each : ∀ layer ∈ layers, KeyedOnce (.map layer))
    (answered : read root file (overlayAll layers) = .ok settings) :
    FollowsLayers layers.reverse settings := by
  obtain ⟨⟨_, switches, latex, graphviz, build⟩, parts, rfl⟩ := exists_of_map answered
  simp only [Checked.zip_eq_ok_iff] at parts
  obtain ⟨_, ofSwitches, ofLatex, ofGraphviz, ofBuild⟩ := parts
  obtain ⟨json, quiet, verbose, logJson⟩ := Switches.of_read ofSwitches
  have top {key : String} {default setting : Bool}
      (given : readAt readSwitch default [key] (overlayAll layers) = .ok setting) :
      Decided readSwitch default layers.reverse [key] setting :=
    decided_of_readAt takesNoMap_readSwitch each (List.cons_ne_nil _ _) (isOpen_singleton _ _) given
  have inside {α : Type} {reader : Reader α} (takes : TakesNoMap reader) {section_ key : String}
      {default setting : α}
      (given : IsOpen [section_, key] (.map (overlayAll layers)) ∧
        readAt reader default [section_, key] (overlayAll layers) = .ok setting) :
      Decided reader default layers.reverse [section_, key] setting :=
    decided_of_readAt takes each (List.cons_ne_nil _ _) given.1 given.2
  obtain ⟨openTable, ofTable⟩ :=
    readAt_of_readSection (fun _ taken => (Build.of_read taken).2.2.2) ofBuild
  obtain ⟨substituteKeys, substitutes⟩ := substitutes_of_readAt each openTable ofTable
  exact {
    json := top json
    quiet := top quiet
    verbose := top verbose
    logJson := top logJson
    builder := inside takesNoMap_readText
      (readAt_of_readSection (fun _ taken => (Latex.of_read taken).1) ofLatex)
    latexDirectory := inside takesNoMap_readPath
      (readAt_of_readSection (fun _ taken => (Latex.of_read taken).2) ofLatex)
    graphvizDirectory := inside takesNoMap_readPath
      (readAt_of_readSection (fun _ taken => Graphviz.of_read taken) ofGraphviz)
    targetDirectory := inside takesNoMap_readPath
      (readAt_of_readSection (fun _ taken => (Build.of_read taken).1) ofBuild)
    imagesDirectory := inside takesNoMap_readPath
      (readAt_of_readSection (fun _ taken => (Build.of_read taken).2.1) ofBuild)
    sourceRoot := inside takesNoMap_readPath
      (readAt_of_readSection (fun _ taken => (Build.of_read taken).2.2.1) ofBuild)
    substituteKeys := by
      rw [List.reverse_reverse]
      exact substituteKeys
    substitutes := substitutes }

/-! ### Switches on top -/

/-- What the first layer says holds. -/
theorem Decided.eq_of_first {top : Entries} {lower : List Entries} {value : Value} {expected : α}
    (decided : Decided reader default (top :: lower) path setting)
    (given : valueAt path (.map top) = some value) (reads : reader path value = .ok expected) :
    setting = expected := by
  unfold Decided firstGiven at decided
  rw [List.findSome?_cons, given] at decided
  exact Except.ok.inj (decided.symm.trans reads)

/-- One entry for each switch, set as a rule says. -/
def switchLayer (switch : String → Bool) : Entries :=
  switchKeys.map fun key => (key, .bool (switch key))

/-- The switches that are set as a rule says. -/
def switchesBy (switch : String → Bool) : Switches :=
  ⟨switch "json_output", switch "quiet", switch "verbose", switch "log_json"⟩

variable {switch : String → Bool}

theorem keyedOnce_switchLayer (switch : String → Bool) :
    Value.KeyedOnce (.map (switchLayer switch)) := by
  constructor
  · show switchKeys.Nodup
    decide
  · intro entry among
    obtain ⟨key, _, rfl⟩ := List.mem_map.1 among
    exact .leaf nofun

theorem find?_switchLayer {key : String} (among : key ∈ switchKeys) :
    (switchLayer switch).find? key = some (.bool (switch key)) :=
  Entries.find?_of_mem (keyedOnce_switchLayer switch).distinct (List.mem_map_of_mem among)

/-- With every switch in the uppermost layer, neither the environment nor the configuration file has
a say in one. -/
theorem switches_of_load {configPath : Option String} {root : Option Path} {world after : World}
    {settings : Settings}
    (loaded : (load configPath root (switchLayer switch)).exec world =
      (.ok (.ok settings), after)) :
    settings.switches = switchesBy switch := by
  obtain ⟨stored, named, layered⟩ := exists_layered loaded
  have each : ∀ layer ∈ [stored, named, switchLayer switch], KeyedOnce (.map layer) :=
    List.forall_mem_append.2
      ⟨layered.each, List.forall_mem_singleton.2 (keyedOnce_switchLayer switch)⟩
  have follows := followsLayers_of_read each layered.answered
  have top {key : String} (among : key ∈ switchKeys) {setting : Bool}
      (decided : Decided readSwitch false [switchLayer switch, named, stored] [key] setting) :
      setting = switch key :=
    decided.eq_of_first ((valueAt_singleton key _).trans (find?_switchLayer among)) rfl
  unfold switchesBy
  rw [← top (by decide) follows.json, ← top (by decide) follows.quiet,
    ← top (by decide) follows.verbose, ← top (by decide) follows.logJson]

/-! ## A run -/

/-- The settings of a run follow what the caller gives, then the environment, then the
configuration file that was chosen. A setting that none of them gives has its default, and the
substitutes are those of the file, then the new ones of the environment, then those of the
caller. -/
theorem load_followsLayers {configPath : Option String} {root : Option Path} {given : Entries}
    {world after : World} {settings : Settings} (keyed : KeyedOnce (.map given))
    (loaded : (load configPath root given).exec world = (.ok (.ok settings), after)) :
    ∃ stored named,
      ((chooseFile configPath root).exec world).1 = .ok settings.configPath ∧
      ((chooseRoot root settings.configPath).exec world).1 = .ok settings.projectRoot ∧
      ((fileEntries settings.configPath).exec world).1 = .ok (.ok stored) ∧
      Environment.read world.environment = .ok named ∧
      FollowsLayers [given, named, stored] settings := by
  obtain ⟨stored, named, layered⟩ := exists_layered loaded
  have each : ∀ layer ∈ [stored, named, given], KeyedOnce (.map layer) :=
    List.forall_mem_append.2 ⟨layered.each, List.forall_mem_singleton.2 keyed⟩
  exact ⟨stored, named, layered.chosenFile, layered.chosenRoot, layered.fromFile,
    layered.fromEnvironment, followsLayers_of_read each layered.answered⟩

/-- A configuration file that gives two sections, one of them with substitutes. -/
def layeredFile : String :=
  "[latex]\nbuilder = \"xelatex\"\n[build]\nsource_root = \"code\"\n" ++
    "[build.substitutes]\nb = \"1\"\na = \"2\"\n"

/-- A project with this file, in an environment that gives a section as JSON and by longer names. -/
def layeredWorld : World where
  files := ⟨[(["book"], .directory),
    (["book", "bookctl.toml"], .file ⟨Text.encode layeredFile, 0, false⟩)]⟩
  now := 1
  base := ["book"]
  environment := [
    ("BOOKCTL_BUILD", "\x7b\"substitutes\": \x7b\"c\": \"3\", \"a\": \"4\"\x7d\x7d"),
    ("BOOKCTL_BUILD__SOURCE_ROOT", "lib"), ("BOOKCTL_LATEX__DIRECTORY", "tex")]
  runner := .rehearsed []
  commands := []
  requests := []
  missing := []
  events := []
  recording := .start false fun _ => 0

/-- What the caller gives: a switch, and a part of a section. -/
def layeredFlags : Entries :=
  [("verbose", .bool true), ("build", .map [("target_directory", .str "out")])]

/-- The settings of the three layers. -/
def layeredSettings : Settings where
  projectRoot := .ofPlace ["book"]
  configPath := some (.ofPlace ["book", "bookctl.toml"])
  switches := ⟨false, false, true, false⟩
  latex := ⟨"xelatex", .ofString "tex"⟩
  graphviz := .default
  build := ⟨.ofString "out", .ofString "src/book/images", .ofString "lib",
    [("b", "1"), ("a", "4"), ("c", "3")]⟩

theorem eq_ok_ok_of_toOption {answer : Except Fault (Except SettingsError Settings)}
    {settings : Settings} (same : answer.toOption.bind Except.toOption = some settings) :
    answer = .ok (.ok settings) := by
  obtain fault | (error | found) := answer
  · contradiction
  · contradiction
  · obtain rfl := Option.some.inj same
    rfl

/-- The three layers are put together key by key. -/
theorem load_followsLayers_sample :
    KeyedOnce (.map layeredFlags) ∧
      ((load none none layeredFlags).exec layeredWorld).1 = .ok (.ok layeredSettings) ∧
      ∃ stored named,
        ((chooseFile none none).exec layeredWorld).1 = .ok layeredSettings.configPath ∧
        ((chooseRoot none layeredSettings.configPath).exec layeredWorld).1 =
          .ok layeredSettings.projectRoot ∧
        ((fileEntries layeredSettings.configPath).exec layeredWorld).1 = .ok (.ok stored) ∧
        Environment.read layeredWorld.environment = .ok named ∧
        FollowsLayers [layeredFlags, named, stored] layeredSettings := by
  have keyed : KeyedOnce (.map layeredFlags) := by
    have part : KeyedOnce (.map [("target_directory", .str "out")]) :=
      .map (List.nodup_singleton _) (List.forall_mem_singleton.2 (.leaf nofun))
    exact .map (by decide)
      (List.forall_mem_cons.2 ⟨.leaf nofun, List.forall_mem_singleton.2 part⟩)
  have answered : ((load none none layeredFlags).exec layeredWorld).1 =
      .ok (.ok layeredSettings) :=
    eq_ok_ok_of_toOption (by decide +kernel)
  have loaded : (load none none layeredFlags).exec layeredWorld =
      (.ok (.ok layeredSettings), ((load none none layeredFlags).exec layeredWorld).2) := by
    rw [← answered]
  exact ⟨keyed, answered, load_followsLayers keyed loaded⟩

end Settings

end Bindery
