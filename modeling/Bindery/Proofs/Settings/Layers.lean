import Bindery.Proofs.Settings.Sources
import Bindery.Proofs.World.Effect

/-!
Contract: the layers that settings are read from.

Owns:
- that loading settings leaves the world as it is;
- `Layered`, the layers that settings were read from, and that loaded settings have some: the
  configuration file, the environment, and what the caller gives on top.

Does **not** own: what the layers say together (`Bindery.Proofs.Settings.Precedence`).
-/

namespace Bindery.Settings

open Bindery.Action

theorem observes_ifFile (file : Path) : Observes (ifFile file) :=
  observes_bind (observes_observe _) fun _ => observes_pure _

/-- The search looks at one directory after another. -/
theorem observes_searchUpFrom (anchor : Anchor) (reversed : List String) :
    Observes (searchUpFrom anchor reversed) := by
  induction reversed with
  | nil => exact observes_ifFile _
  | cons name above inductionHypothesis =>
      refine observes_bind (observes_observe _) fun there => ?_
      cases there with
      | true => exact observes_pure _
      | false => exact inductionHypothesis

theorem observes_findFile (start : Option Path) : Observes (findFile start) := by
  refine observes_bind (observes_observe _) fun pinned => ?_
  cases pinned with
  | some text => exact observes_ifFile _
  | none => exact observes_bind (observes_observe _) fun here => observes_searchUpFrom _ _

theorem observes_chooseFile (given : Option String) (root : Option Path) :
    Observes (chooseFile given root) := by
  unfold chooseFile
  split
  · exact observes_ifFile _
  · exact observes_findFile root

theorem observes_chooseRoot (given file : Option Path) : Observes (chooseRoot given file) := by
  unfold chooseRoot
  split
  · exact observes_pure _
  · exact observes_pure _
  · exact observes_observe _

theorem observes_fileEntries (file : Option Path) : Observes (fileEntries file) := by
  cases file with
  | none => exact observes_pure _
  | some path =>
      refine observes_bind (observes_bind (observes_observe _) fun octets => ?_) fun text => ?_
      · split
        · exact observes_pure _
        · exact observes_fail _
      · split
        · exact observes_pure _
        · exact observes_pure _
        · exact observes_fail _

theorem observes_load (configPath : Option String) (root : Option Path) (given : Entries) :
    Observes (load configPath root given) := by
  refine observes_bind (observes_chooseFile _ _) fun file => ?_
  refine observes_bind (observes_chooseRoot _ _) fun place => ?_
  refine observes_bind (observes_fileEntries _) fun entries => ?_
  cases entries with
  | error refused => exact observes_pure _
  | ok stored => exact observes_bind (observes_observe _) fun _ => observes_pure _

/-- What a configuration file holds is a tree with one entry for each key. -/
theorem keyedOnce_of_fileEntries {file : Option Path} {world after : World} {stored : Entries}
    (ran : (fileEntries file).exec world = (.ok (.ok stored), after)) :
    Value.KeyedOnce (.map stored) := by
  cases file with
  | none =>
      obtain rfl := Except.ok.inj (Except.ok.inj (congrArg Prod.fst ran))
      exact Value.keyedOnce_nil
  | some path =>
      unfold fileEntries at ran
      obtain ⟨text, middle, _, answered⟩ := Action.exec_bind_eq_ok_iff.1 ran
      split at answered
      · rename_i entries read
        obtain rfl := Except.ok.inj (Except.ok.inj (congrArg Prod.fst answered))
        exact Toml.keyedOnce_of_readDocument read
      · exact absurd (Except.ok.inj (congrArg Prod.fst answered)) nofun
      · exact absurd (congrArg Prod.fst answered) nofun

theorem parts_of_read {root : Path} {file : Option Path} {entries : Entries}
    {settings : Settings} (answered : read root file entries = .ok settings) :
    settings.projectRoot = root ∧ settings.configPath = file := by
  obtain ⟨_, _, rfl⟩ := exists_of_map answered
  exact ⟨rfl, rfl⟩

/-- Settings that were read in a world: from a configuration file and the environment, with what the
caller gives on top. -/
structure Layered (configPath : Option String) (root : Option Path) (given stored named : Entries)
    (world : World) (settings : Settings) : Prop where
  chosenFile : ((chooseFile configPath root).exec world).1 = .ok settings.configPath
  chosenRoot : ((chooseRoot root settings.configPath).exec world).1 = .ok settings.projectRoot
  fromFile : ((fileEntries settings.configPath).exec world).1 = .ok (.ok stored)
  fromEnvironment : Environment.read world.environment = .ok named
  each : ∀ layer ∈ [stored, named], Value.KeyedOnce (.map layer)
  answered : read settings.projectRoot settings.configPath
    (Value.overlayAll [stored, named, given]) = .ok settings

/-- Settings that are loaded are read from three layers, one step of the loading after another. -/
theorem exists_layered {configPath : Option String} {root : Option Path} {given : Entries}
    {world after : World} {settings : Settings}
    (loaded : (load configPath root given).exec world = (.ok (.ok settings), after)) :
    ∃ stored named, Layered configPath root given stored named world settings := by
  unfold load at loaded
  obtain ⟨file, _, first, afterFile⟩ := exec_bind_eq_ok_iff.1 loaded
  obtain ⟨chosenFile, rfl⟩ := (observes_chooseFile _ _).of_exec first
  obtain ⟨place, _, second, afterRoot⟩ := exec_bind_eq_ok_iff.1 afterFile
  obtain ⟨chosenRoot, rfl⟩ := (observes_chooseRoot _ _).of_exec second
  obtain ⟨entries, _, third, afterEntries⟩ := exec_bind_eq_ok_iff.1 afterRoot
  obtain ⟨fetched, rfl⟩ := (observes_fileEntries _).of_exec third
  cases entries with
  | error refused => exact absurd (Except.ok.inj (congrArg Prod.fst afterEntries)) nofun
  | ok stored =>
      have answered : ofLayers place file given _ stored = .ok settings :=
        Except.ok.inj (congrArg Prod.fst afterEntries)
      unfold ofLayers at answered
      split at answered
      · contradiction
      · rename_i named fromEnvironment
        split at answered
        · contradiction
        · rename_i accepted
          obtain rfl := Except.ok.inj answered
          obtain ⟨rfl, rfl⟩ := parts_of_read accepted
          exact ⟨stored, named, {
            chosenFile := chosenFile
            chosenRoot := chosenRoot
            fromFile := fetched
            fromEnvironment := fromEnvironment
            each := List.forall_mem_cons.2 ⟨keyedOnce_of_fileEntries third,
              List.forall_mem_singleton.2 (Environment.keyedOnce_of_read fromEnvironment)⟩
            answered := accepted }⟩

end Bindery.Settings
