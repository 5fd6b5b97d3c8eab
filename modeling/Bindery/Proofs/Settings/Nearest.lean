import Bindery.Proofs.FileStore.Descent
import Bindery.Proofs.World.Effect
import Bindery.Rehearsal
import Bindery.Settings.Search

/-!
Contract: which configuration file is found, and what that depends on.

Owns:
- `Configured`, directories with a configuration file, and `Governed`, the nearest of them at or above
  a place;
- `AgreesUpTo`, stores with the same directories and configuration files on the way up, which have the
  same nearest one;
- that the search answers the nearest one and depends on nothing else, and what it answers when the
  environment names a file;
- the paths that are too long for it: it is refused at them, although nothing is there.

Does **not** own: what is read from the file (`Bindery.Proofs.Settings.Layers`).
-/

namespace Bindery.Settings

open FileStore

variable {store left right : FileStore} {place directory top : Place}

/-! ## The nearest directory -/

def fileIn (directory : Place) : Path :=
  .ofPlace (directory ++ [fileName])

/-- A regular file has the name of the configuration file in a directory. -/
def HoldsFile (store : FileStore) (directory : Place) : Prop :=
  ∃ file, store.find? (directory ++ [fileName]) = some (.file file)

/-- A directory that is there, below directories only, with a configuration file in it. -/
structure Configured (store : FileStore) (directory : Place) : Prop where
  there : ∀ above, above <+: directory → store.find? above = some .directory
  holds : HoldsFile store directory

/-- The nearest directory at or above a place that has a configuration file, if there is one. -/
inductive Governed (store : FileStore) (place : Place) : Option Place → Prop where
  | nearest {directory : Place} (above : directory <+: place) (configured : Configured store directory)
      (closest : ∀ other, other <+: place → Configured store other → other <+: directory) :
      Governed store place (some directory)
  | free (nothing : ∀ directory, directory <+: place → ¬ Configured store directory) :
      Governed store place none

theorem Governed.here (configured : Configured store place) : Governed store place (some place) :=
  .nearest List.prefix_rfl configured fun _ among _ => among

/-- A place that is not configured is governed as the one above it. -/
theorem Governed.below {name : String} {found : Option Place}
    (bare : ¬ Configured store (place ++ [name])) (governed : Governed store place found) :
    Governed store (place ++ [name]) found := by
  have higher : ∀ other, other <+: place ++ [name] → Configured store other → other <+: place := by
    intro other among configured
    rcases List.prefix_concat_iff.1 among with rfl | above
    · exact absurd configured bare
    · exact above
  cases governed with
  | free nothing =>
      exact .free fun other among configured =>
        nothing other (higher other among configured) configured
  | nearest above configured closest =>
      exact .nearest (above.trans (List.prefix_append place [name])) configured
        fun other among held => closest other (higher other among held) held

/-- A place is governed by one directory at most. -/
theorem Governed.unique {found other : Option Place} (governed : Governed store place found)
    (also : Governed store place other) : found = other := by
  cases governed with
  | free nothing =>
      cases also with
      | free _ => rfl
      | nearest above configured _ => exact absurd configured (nothing _ above)
  | nearest above configured closest =>
      cases also with
      | free nothing => exact absurd configured (nothing _ above)
      | nearest above' configured' closest' =>
          have higher := closest _ above' configured'
          have lower := closest' _ above configured
          rw [lower.eq_of_length (Nat.le_antisymm lower.length_le higher.length_le)]

/-- Two stores with the same directories on the way up from a place, of which those from `top` on hold
a configuration file in the one store exactly if they do in the other. -/
structure AgreesUpTo (top place : Place) (left right : FileStore) : Prop where
  directories : ∀ directory, directory <+: place →
    (left.find? directory = some .directory ↔ right.find? directory = some .directory)
  files : ∀ directory, top <+: directory → directory <+: place →
    (HoldsFile left directory ↔ HoldsFile right directory)

namespace AgreesUpTo

theorem configured_iff (agrees : AgreesUpTo top place left right) (below : top <+: directory)
    (above : directory <+: place) : Configured left directory ↔ Configured right directory := by
  constructor
  · rintro ⟨there, holds⟩
    exact ⟨fun other front => (agrees.directories other (front.trans above)).1 (there other front),
      (agrees.files directory below above).1 holds⟩
  · rintro ⟨there, holds⟩
    exact ⟨fun other front => (agrees.directories other (front.trans above)).2 (there other front),
      (agrees.files directory below above).2 holds⟩

/-- Files with other names, and files higher up, make no difference. -/
theorem of_agreesOn {chosen : Place → Prop} (agrees : AgreesOn chosen left right)
    (among : ∀ directory, top <+: directory → directory <+: place → chosen (directory ++ [fileName])) :
    AgreesUpTo top place left right where
  directories directory _ := agrees.directories directory
  files directory below above := by
    unfold HoldsFile
    rw [agrees.nodes _ (among directory below above)]

/-- What governs a place is decided between the place and the directory that is found. -/
theorem governed {found : Option Place} (agrees : AgreesUpTo (found.getD []) place left right)
    (governed : Governed left place found) : Governed right place found := by
  cases governed with
  | free nothing =>
      exact .free fun directory above configured =>
        nothing directory above ((agrees.configured_iff List.nil_prefix above).2 configured)
  | @nearest directory above configured closest =>
      refine .nearest above ((agrees.configured_iff List.prefix_rfl above).1 configured)
        fun other among held => ?_
      rcases List.prefix_or_prefix_of_prefix among above with higher | lower
      · exact higher
      · exact closest other among ((agrees.configured_iff lower among).2 held)

end AgreesUpTo

/-! ## The search -/

theorem isEntryName_fileName : IsEntryName fileName := by
  decide

section Search

variable {world : World}

/-- A directory is asked for its configuration file. -/
theorem isFile_fileIn (base : Place) (named : ∀ name ∈ directory, IsEntryName name)
    (fits : ¬ Overlong (fileIn directory)) :
    Configured store directory ∧ store.isFile base (fileIn directory) = .ok true ∨
      ¬ Configured store directory ∧ store.isFile base (fileIn directory) = .ok false := by
  have short : ∀ name ∈ (fileIn directory).parts, name.utf8ByteSize ≤ nameLimit :=
    List.forall_mem_append.2
      ⟨fun name among => (named name among).short, by simpa using isEntryName_fileName.short⟩
  have leads : ∀ file, store.status base (fileIn directory) = .ok (.file file) ↔ _ := fun file =>
    status_ofPlace_eq_ok_iff named isEntryName_fileName fits
  rcases isFile_eq_of_short store base short fits with
    ⟨⟨file, found⟩, answered⟩ | ⟨absent, answered⟩
  · obtain ⟨there, held⟩ := (leads file).1 found
    exact .inl ⟨⟨there, file, held⟩, answered⟩
  · refine .inr ⟨?_, answered⟩
    rintro ⟨there, file, held⟩
    exact absent file ((leads file).2 ⟨there, held⟩)

/-- One step of the search: a directory is asked, and then those above it. -/
theorem exec_searchUpFrom_eq (reversed : List String) (world : World) :
    (searchUpFrom .root reversed).exec world =
      match world.files.isFile world.base (fileIn reversed.reverse) with
      | .error fault => (.error fault, world)
      | .ok true => (.ok (some (fileIn reversed.reverse)), world)
      | .ok false =>
          match reversed with
          | [] => (.ok none, world)
          | _ :: above => (searchUpFrom .root above).exec world := by
  have asked : ∀ path, (Action.isFile path).exec world =
      (world.files.isFile world.base path, world) := fun _ => rfl
  cases reversed with
  | nil =>
      have last : searchUpFrom .root [] = Action.isFile (fileIn []) >>= fun there =>
          pure (if there then some (fileIn []) else none) := rfl
      rw [last, Action.exec_bind, asked, List.reverse_nil]
      rcases world.files.isFile world.base (fileIn []) with fault | _ | _ <;> rfl
  | cons name above =>
      have candidate : (⟨.root, (fileName :: name :: above).reverse⟩ : Path) =
          fileIn (name :: above).reverse := by
        simp [fileIn, Path.ofPlace]
      have step : searchUpFrom .root (name :: above) =
          Action.isFile (fileIn (name :: above).reverse) >>= fun there =>
            if there then pure (some (fileIn (name :: above).reverse))
            else searchUpFrom .root above := by
        rw [← candidate]
        rfl
      rw [step, Action.exec_bind, asked]
      rcases world.files.isFile world.base (fileIn (name :: above).reverse) with fault | _ | _ <;>
        rfl

/-- The search goes up to the nearest configured directory. -/
theorem exec_searchUpFrom (world : World) {reversed : List String}
    (named : ∀ name ∈ reversed.reverse, IsEntryName name)
    (fits : ¬ Overlong (fileIn reversed.reverse)) :
    ∃ found, (searchUpFrom .root reversed).exec world = (.ok (found.map fileIn), world) ∧
      Governed world.files reversed.reverse found := by
  -- The lowest name is the first one, so what is left of the names is the directory above.
  induction reversed with
  | nil =>
      rw [exec_searchUpFrom_eq]
      rcases isFile_fileIn world.base named fits with ⟨configured, asked⟩ | ⟨bare, asked⟩
      · exact ⟨some [], by rw [asked]; rfl, .here configured⟩
      · refine ⟨none, by rw [asked]; rfl, .free fun directory above => ?_⟩
        rwa [List.prefix_nil.1 above]
  | cons name above inductionHypothesis =>
      rw [exec_searchUpFrom_eq]
      rcases isFile_fileIn world.base named fits with ⟨configured, asked⟩ | ⟨bare, asked⟩
      · exact ⟨some _, by rw [asked]; rfl, .here configured⟩
      · rw [asked]
        rw [List.reverse_cons] at named fits bare ⊢
        obtain ⟨upper, here⟩ := List.forall_mem_append.1 named
        obtain ⟨found, ran, governed⟩ := inductionHypothesis upper
          (not_overlong_above upper (by simpa using here) isEntryName_fileName fits)
        exact ⟨found, ran, governed.below bare⟩

/-! ## Finding the file -/

/-- The path that the search starts at: the working directory, if none is given. -/
def startPath (start : Option Path) : Path :=
  start.getD ⟨.here, []⟩

/-- The environment names a file. -/
def Pins (world : World) (text : String) : Prop :=
  world.environment.reverse.lookup fileVariable = some text ∧ text ≠ ""

theorem exec_pinnedFile_of_pins {text : String} (pins : Pins world text) :
    pinnedFile.exec world = (.ok (some text), world) := by
  simp [pinnedFile, pins.1, pins.2]

theorem exec_pinnedFile_of_not_pins (free : ∀ text, ¬ Pins world text) :
    pinnedFile.exec world = (.ok none, world) := by
  cases told : world.environment.reverse.lookup fileVariable with
  | none => simp [pinnedFile, told]
  | some text =>
      have empty : text = "" := by_contra fun some => free text ⟨told, some⟩
      simp [pinnedFile, told, empty]

variable {start : Option Path}

/-- The place that the search starts at. -/
def startPlace (world : World) (start : Option Path) : Place :=
  (startPath start).placeFrom world.base

theorem exec_findFile_of_not_pins (free : ∀ text, ¬ Pins world text)
    (isStart : IsStart world.base (startPath start)) :
    (findFile start).exec world =
      (searchUpFrom .root (startPlace world start).reverse).exec world := by
  have resolved : (Action.resolve (startPath start)).exec world =
      (.ok (.ofPlace (startPlace world start)), world) :=
    Prod.ext isStart.resolve_eq rfl
  exact (Action.exec_bind_of_ok (exec_pinnedFile_of_not_pins free) _).trans
    (Action.exec_bind_of_ok resolved _)

theorem exists_exec_findFile (free : ∀ text, ¬ Pins world text)
    (isStart : IsStart world.base (startPath start))
    (fits : ¬ Overlong (fileIn (startPlace world start))) :
    ∃ found, (findFile start).exec world = (.ok (found.map fileIn), world) ∧
      Governed world.files (startPlace world start) found := by
  have upright := List.reverse_reverse (startPlace world start)
  have named : ∀ name ∈ startPlace world start, IsEntryName name :=
    isStart.isEntryName_of_mem_placeFrom
  rw [← upright] at named fits ⊢
  obtain ⟨found, ran, governed⟩ := exec_searchUpFrom world named fits
  exact ⟨found, (exec_findFile_of_not_pins free isStart).trans ran, governed⟩

/-- The first directory is refused when its configuration file would have a path that is too long. -/
theorem exec_findFile_of_overlong (free : ∀ text, ¬ Pins world text)
    (isStart : IsStart world.base (startPath start))
    (long : Overlong (fileIn (startPlace world start))) :
    (findFile start).exec world =
      (.error (.io ⟨.nameTooLong, (fileIn (startPlace world start)).render⟩), world) := by
  rw [exec_findFile_of_not_pins free isStart, exec_searchUpFrom_eq, List.reverse_reverse,
    isFile_of_overlong long]

/-- What is answered when the environment names a file. -/
theorem exec_findFile_of_pins {text : String} (pins : Pins world text) :
    (findFile start).exec world =
      ((world.files.isFile world.base (.ofString text)).map fun there =>
        if there then some (.ofString text) else none, world) := by
  have asked : (Action.isFile (.ofString text)).exec world =
      (world.files.isFile world.base (.ofString text), world) := rfl
  have next : (findFile start).exec world = (ifFile (.ofString text)).exec world :=
    Action.exec_bind_of_ok (exec_pinnedFile_of_pins pins) _
  rw [next, ifFile, Action.exec_bind, asked]
  rcases world.files.isFile world.base (.ofString text) with fault | _ | _ <;> rfl

/-- The configuration file that is found is that of the nearest directory at or above the start which
has one, and none if there is no such directory; only the directories on the way and the files of that
name in those up to the nearest one count. If the path of the first such file is too long, the search
is refused instead. A file that the environment names is found exactly if it is a regular file, when
its path is not too long. -/
theorem findFile_nearest (world : World) (start : Option Path) :
    ((∀ text, ¬ Pins world text) → IsStart world.base (startPath start) →
      (¬ Overlong (fileIn (startPlace world start)) →
        ∃ found, (findFile start).exec world = (.ok (found.map fileIn), world) ∧
          Governed world.files (startPlace world start) found ∧
          ∀ other : World, (∀ text, ¬ Pins other text) → other.base = world.base →
            AgreesUpTo (found.getD []) (startPlace world start) world.files other.files →
            (findFile start).exec other = (.ok (found.map fileIn), other)) ∧
      (Overlong (fileIn (startPlace world start)) →
        (findFile start).exec world =
          (.error (.io ⟨.nameTooLong, (fileIn (startPlace world start)).render⟩), world))) ∧
    ∀ text, Pins world text →
      ((∃ file, world.files.status world.base (.ofString text) = .ok (.file file)) →
        (findFile start).exec world = (.ok (some (.ofString text)), world)) ∧
      ((∀ file, world.files.status world.base (.ofString text) ≠ .ok (.file file)) →
        (∀ name ∈ (Path.ofString text).parts, name.utf8ByteSize ≤ nameLimit) →
        ¬ Overlong (.ofString text) → (findFile start).exec world = (.ok none, world)) := by
  refine ⟨fun free isStart => ⟨fun fits => ?_, exec_findFile_of_overlong free isStart⟩,
    fun text pins => ⟨?_, fun absent short fits => ?_⟩⟩
  · obtain ⟨found, ran, governed⟩ := exists_exec_findFile free isStart fits
    refine ⟨found, ran, governed, fun other freeOther sameBase agrees => ?_⟩
    have samePlace : startPlace other start = startPlace world start :=
      congrArg (startPath start).placeFrom sameBase
    obtain ⟨also, ranOther, governedOther⟩ := exists_exec_findFile freeOther
      (sameBase ▸ isStart) (samePlace ▸ fits)
    rw [samePlace] at governedOther
    rw [ranOther, governedOther.unique (agrees.governed governed)]
  · rintro ⟨file, found⟩
    rw [exec_findFile_of_pins pins]
    rcases world.files.isFile_eq world.base (.ofString text) with refused | ⟨_, _, there⟩ | ⟨none, _⟩
    · simp [isFile, status?, found, Except.map] at refused
    · rw [there]
      rfl
    · exact absurd found (none file)
  · rw [exec_findFile_of_pins pins]
    rcases isFile_eq_of_short world.files world.base short fits with
      ⟨⟨file, found⟩, _⟩ | ⟨_, missing⟩
    · exact absurd found (absent file)
    · rw [missing]
      rfl

end Search

/-! ## A book in a book -/

def emptyFile : Node :=
  .file ⟨[], 0, false⟩

/-- A book whose sources have a directory with the name of the configuration file. -/
def nestedFiles : FileStore where
  entries := [
    (["book"], .directory), (["book", fileName], emptyFile), (["book", "src"], .directory),
    (["book", "src", fileName], .directory), (["book", "src", "tex"], .directory)]

def nestedStart : Option Path :=
  some (.ofString "./tex/../tex/")

def worldWith (files : FileStore) (base : Place) (pinned : String) : World where
  files := files
  now := 0
  base := base
  environment := [(fileVariable, pinned)]
  runner := .rehearsed []
  commands := []
  requests := []
  missing := []
  events := []
  recording := .start false fun _ => 0

theorem pins_worldWith_iff {files : FileStore} {base : Place} {pinned text : String} :
    Pins (worldWith files base pinned) text ↔ pinned = text ∧ text ≠ "" := by
  simp [Pins, worldWith]

/-- A variable that is empty names no file. -/
theorem not_pins_worldWith (files : FileStore) (base : Place) :
    ∀ text, ¬ Pins (worldWith files base "") text := by
  intro text pins
  obtain ⟨same, some⟩ := pins_worldWith_iff.1 pins
  exact some same.symm

/-- The directory with the name of the configuration file is passed by. -/
theorem governed_nested : Governed nestedFiles ["book", "src", "tex"] (some ["book"]) := by
  have book : Configured nestedFiles ["book"] := by
    refine ⟨fun above front => ?_, _, rfl⟩
    rcases List.prefix_concat_iff.1 (show above <+: [] ++ ["book"] from front) with rfl | top
    · rfl
    · rw [List.prefix_nil.1 top]
      rfl
  have sources : ¬ Configured nestedFiles (["book"] ++ ["src"]) := by
    rintro ⟨_, file, found⟩
    exact absurd (Option.some.inj found) nofun
  have texts : ¬ Configured nestedFiles (["book", "src"] ++ ["tex"]) := by
    rintro ⟨_, file, found⟩
    contradiction
  exact .below texts (.below sources (.here book))

/-- A configuration file that is written above the book is not looked at. -/
theorem agreesUpTo_nested :
    AgreesUpTo ["book"] ["book", "src", "tex"] nestedFiles (nestedFiles.put [fileName] emptyFile) := by
  have wrote : nestedFiles.write [] 0 (.ofPlace [fileName]) [] =
      .ok (nestedFiles.put [fileName] emptyFile) := rfl
  refine .of_agreesOn (write_eq_ok wrote).1 fun directory below _ same => ?_
  have onTop : (Path.ofPlace [fileName]).placeFrom [] = [fileName] := by decide +kernel
  have length := congrArg List.length (same.trans onTop)
  have longer := below.length_le
  simp only [List.length_append, List.length_cons, List.length_nil] at length longer
  omega

theorem isStart_nested : IsStart ["book", "src"] (startPath nestedStart) :=
  ⟨by decide +kernel, by decide +kernel, by decide +kernel, by decide +kernel⟩

/-- A start that goes down and up, and an empty variable, with and without a file above the book; and
a variable that names the file. -/
theorem findFile_nearest_nested :
    (∀ text, ¬ Pins (worldWith nestedFiles ["book", "src"] "") text) ∧
      IsStart ["book", "src"] (startPath nestedStart) ∧
      ¬ Overlong (fileIn ["book", "src", "tex"]) ∧
      (∀ files ∈ [nestedFiles, nestedFiles.put [fileName] emptyFile],
        (findFile nestedStart).exec (worldWith files ["book", "src"] "") =
          (.ok (some (fileIn ["book"])), worldWith files ["book", "src"] "")) ∧
      Pins (worldWith nestedFiles ["book", "src"] "../bookctl.toml") "../bookctl.toml" ∧
      (findFile none).exec (worldWith nestedFiles ["book", "src"] "../bookctl.toml") =
        (.ok (some (.ofString "../bookctl.toml")),
          worldWith nestedFiles ["book", "src"] "../bookctl.toml") := by
  have free := fun files => not_pins_worldWith files ["book", "src"]
  have fits : ¬ Overlong (fileIn ["book", "src", "tex"]) := by decide +kernel
  have place : startPlace (worldWith nestedFiles ["book", "src"] "") nestedStart =
      ["book", "src", "tex"] := by
    decide +kernel
  obtain ⟨found, ran, governed, frame⟩ := ((findFile_nearest
    (worldWith nestedFiles ["book", "src"] "") nestedStart).1 (free _) isStart_nested).1
      (place ▸ fits)
  rw [place] at governed frame
  obtain rfl := governed.unique governed_nested
  have above := frame (worldWith (nestedFiles.put [fileName] emptyFile) ["book", "src"] "") (free _)
    rfl agreesUpTo_nested
  have pins : Pins (worldWith nestedFiles ["book", "src"] "../bookctl.toml") "../bookctl.toml" :=
    pins_worldWith_iff.2 ⟨rfl, by decide⟩
  have located : nestedFiles.locate ["book", "src"] (.ofString "../bookctl.toml") =
      .ok ["book", fileName] := rfl
  have pinned := ((findFile_nearest _ none).2 _ pins).1
    ⟨⟨[], 0, false⟩, status_of_locate located rfl⟩
  refine ⟨free _, isStart_nested, fits, ?_, pins, pinned⟩
  simpa using ⟨ran, above⟩

/-! ## Paths that are too long -/

def deepPlace (depth : Nat) : Place :=
  List.replicate depth "d"

/-- Directories only, each but the first in the one before it. -/
def deepFiles (depth : Nat) : FileStore where
  entries := (List.range depth).map fun level => (deepPlace (level + 1), .directory)

section Deep

variable {depth level : Nat}

theorem isEntryName_of_mem_deepPlace : ∀ name ∈ deepPlace depth, IsEntryName name := by
  intro name among
  obtain rfl := List.eq_of_mem_replicate among
  decide

theorem find?_deepFiles (above : level ≤ depth) :
    (deepFiles depth).find? (deepPlace level) = some .directory := by
  cases level with
  | zero => exact find?_nil _
  | succ level =>
      have among : deepPlace (level + 1) ∈ (deepFiles depth).entries.map Prod.fst := by
        simp only [deepFiles, List.map_map, List.mem_map, List.mem_range]
        exact ⟨level, above, rfl⟩
      obtain ⟨node, found⟩ := Option.isSome_iff_exists.1 (isSome_lookup_iff.2 among)
      obtain ⟨_, _, same⟩ := List.mem_map.1 (mem_of_lookup found)
      obtain ⟨_, rfl⟩ := Prod.mk.inj same
      rwa [find?, if_neg (by simp [deepPlace])]

theorem find?_deepFiles_ne_file {file : File} :
    (deepFiles depth).find? directory ≠ some (.file file) := by
  intro found
  obtain ⟨_, _, same⟩ := List.mem_map.1 (mem_of_find?_file found)
  exact absurd (Prod.mk.inj same).2 nofun

theorem utf8ByteSize_render_deepPlace (names : List String) (some : names ≠ []) :
    (Path.ofPlace (deepPlace depth ++ names)).render.utf8ByteSize =
      2 * depth + (names.map (·.utf8ByteSize + 1)).sum := by
  have one : "d".utf8ByteSize = 1 := by decide
  rw [utf8ByteSize_render_ofPlace (by simp [some])]
  simp [deepPlace, one]
  omega

/-- Nothing in these directories is a regular file. -/
theorem status_deepFiles_ne_file {base : Place} {path : Path} {file : File} :
    (deepFiles depth).status base path ≠ .ok (.file file) :=
  fun found => find?_deepFiles_ne_file (locate_of_status found).2

theorem isStart_deepPlace : IsStart [] (.ofPlace (deepPlace depth)) where
  based := nofun
  proper name among := (isEntryName_of_mem_deepPlace name among).part
  clean := hasNull_ofPlace isEntryName_of_mem_deepPlace
  short name among := (isEntryName_of_mem_deepPlace name among).short

/-- The path of the lowest directory leads to it, when it is short enough. -/
theorem status_deepPlace (fits : 2 * (depth + 1) ≤ pathLimit) :
    (deepFiles (depth + 1)).status [] (.ofPlace (deepPlace (depth + 1))) = .ok .directory := by
  have one : "d".utf8ByteSize = 1 := by decide
  have last : deepPlace (depth + 1) = deepPlace depth ++ ["d"] := List.replicate_succ'
  rw [last, status_ofPlace_eq_ok_iff isEntryName_of_mem_deepPlace (by decide)]
  · rw [← last]
    refine ⟨fun above front => ?_, find?_deepFiles (Nat.le_refl _)⟩
    obtain ⟨level, lower, rfl⟩ : ∃ level, level ≤ depth ∧ above = deepPlace level := by
      have short : above.length ≤ depth := by simpa [deepPlace] using front.length_le
      have taken := List.prefix_iff_eq_take.1 front
      rw [deepPlace, List.take_replicate, Nat.min_eq_left short] at taken
      exact ⟨above.length, short, taken⟩
    exact find?_deepFiles (Nat.le_succ_of_le lower)
  · rintro ⟨_, long⟩
    rw [utf8ByteSize_render_deepPlace _ (by simp)] at long
    simp [one] at long
    omega

/-- The path of a file of the name in the lowest directory is too long, and the search is refused. -/
theorem exec_findFile_deepPlace (long : pathLimit < 2 * depth + 13) :
    (findFile (some (.ofPlace (deepPlace depth)))).exec (worldWith (deepFiles depth) [] "") =
      (.error (.io ⟨.nameTooLong, (fileIn (deepPlace depth)).render⟩),
        worldWith (deepFiles depth) [] "") := by
  have size : fileName.utf8ByteSize = 12 := by decide +kernel
  have place : startPlace (worldWith (deepFiles depth) [] "") (some (.ofPlace (deepPlace depth))) =
      deepPlace depth :=
    foldl_descend_eq_append isEntryName_of_mem_deepPlace []
  have overlong : Overlong (fileIn (deepPlace depth)) := by
    refine ⟨hasNull_ofPlace (List.forall_mem_append.2
      ⟨isEntryName_of_mem_deepPlace, by simpa using isEntryName_fileName⟩), ?_⟩
    rw [fileIn, utf8ByteSize_render_deepPlace _ (by simp)]
    simpa [size] using long
  have isStart : IsStart (worldWith (deepFiles depth) [] "").base
      (startPath (some (.ofPlace (deepPlace depth)))) :=
    isStart_deepPlace
  rw [← place] at overlong
  rw [exec_findFile_of_overlong (not_pins_worldWith _ _) isStart overlong, place]

end Deep

/-- A name that is one byte too long. -/
def longName : String :=
  String.ofList (List.replicate (nameLimit + 1) 'a')

def longPath : Path :=
  .ofPlace ["d", longName]

theorem mem_longName {c : Char} (among : c ∈ longName.toList) : c = 'a' := by
  rw [longName, String.toList_ofList] at among
  exact List.eq_of_mem_replicate among

theorem utf8ByteSize_longName : longName.utf8ByteSize = 256 := by
  decide +kernel

theorem isProper_longPath : longPath.IsProper := by
  have long := utf8ByteSize_longName
  have part : Path.IsPart longName := by
    refine ⟨?_, ?_, fun among => absurd (mem_longName among) (by decide)⟩
    · intro empty
      rw [empty] at long
      exact absurd long (by decide)
    · intro dot
      rw [dot] at long
      exact absurd long (by decide)
  simpa [Path.IsProper, longPath, Path.ofPlace] using ⟨by decide, part⟩

theorem hasNull_longPath : longPath.hasNull = false := by
  have absent : '\x00' ∉ longName.toList := fun among => absurd (mem_longName among) (by decide)
  simp [Path.hasNull, longPath, Path.ofPlace, absent]

/-- The path itself is short enough. -/
theorem not_overlong_longPath : ¬ Overlong longPath := by
  have one : "d".utf8ByteSize = 1 := by decide
  rintro ⟨_, long⟩
  rw [longPath, utf8ByteSize_render_ofPlace (by simp)] at long
  simp [one, utf8ByteSize_longName, pathLimit] at long

/-- Below a directory that is there, the name is refused. -/
theorem isFile_longPath_below :
    (deepFiles 1).isFile [] longPath = .error (.io ⟨.nameTooLong, longPath.render⟩) := by
  have down : longName ≠ ".." := by
    intro up
    exact absurd (up ▸ utf8ByteSize_longName) (by decide)
  have there : (deepFiles 1).find? ["d"] = some .directory := rfl
  have stuck : (deepFiles 1).walk [] ["d", longName] = .error .nameTooLong := by
    rw [walk_cons_of_directory (find?_nil _) (.inr (by decide))]
    simp [walk, there, down, utf8ByteSize_longName, nameLimit, Path.descend]
  exact (isFile_of_walk hasNull_longPath not_overlong_longPath stuck).trans (if_neg (by decide))

/-- Below one that is not, nothing comes to the name. -/
theorem isFile_longPath_alone : (deepFiles 0).isFile [] longPath = .ok false := by
  have missing : (deepFiles 0).find? ["d"] = none := rfl
  have stuck : (deepFiles 0).walk [] ["d", longName] = .error .notFound := by
    rw [walk_cons_of_directory (find?_nil _) (.inr (by decide))]
    simp [walk, missing, Path.descend]
  exact (isFile_of_walk hasNull_longPath not_overlong_longPath stuck).trans (if_pos rfl)

theorem exec_findFile_longPath (files : FileStore) :
    (findFile none).exec (worldWith files [] longPath.render) =
      ((files.isFile [] longPath).map fun there => if there then some longPath else none,
        worldWith files [] longPath.render) := by
  have some : longPath.render ≠ "" := by
    intro empty
    have size : longPath.render.utf8ByteSize = _ := utf8ByteSize_render_ofPlace (by simp)
    rw [empty] at size
    simp at size
  have pins : Pins (worldWith files [] longPath.render) longPath.render :=
    pins_worldWith_iff.2 ⟨rfl, some⟩
  rw [exec_findFile_of_pins pins, Path.ofString_render isProper_longPath]
  rfl

/-- Where no configuration file is, the search is refused from a directory whose own path is short
enough. A file that the environment names is in neither of two stores; the search is refused in the
one that has the directory of the file, and answers that there is none in the other. -/
theorem findFile_refused :
    (IsStart [] (.ofPlace (deepPlace 2045)) ∧
      (deepFiles 2045).status [] (.ofPlace (deepPlace 2045)) = .ok .directory ∧
      (∀ directory, ¬ Configured (deepFiles 2045) directory) ∧
      (findFile (some (.ofPlace (deepPlace 2045)))).exec (worldWith (deepFiles 2045) [] "") =
        (.error (.io ⟨.nameTooLong, (fileIn (deepPlace 2045)).render⟩),
          worldWith (deepFiles 2045) [] "")) ∧
    (∀ depth file, (deepFiles depth).status [] longPath ≠ .ok (.file file)) ∧
    (findFile none).exec (worldWith (deepFiles 1) [] longPath.render) =
      (.error (.io ⟨.nameTooLong, longPath.render⟩), worldWith (deepFiles 1) [] longPath.render) ∧
    (findFile none).exec (worldWith (deepFiles 0) [] longPath.render) =
      (.ok none, worldWith (deepFiles 0) [] longPath.render) := by
  have free : ∀ directory, ¬ Configured (deepFiles 2045) directory := by
    rintro directory ⟨_, _, found⟩
    exact find?_deepFiles_ne_file found
  refine ⟨⟨isStart_deepPlace, status_deepPlace (by decide), free,
    exec_findFile_deepPlace (by decide)⟩, fun _ _ => status_deepFiles_ne_file, ?_, ?_⟩
  · rw [exec_findFile_longPath, isFile_longPath_below, Except.map]
  · rw [exec_findFile_longPath, isFile_longPath_alone, Except.map]
    rfl

end Bindery.Settings
