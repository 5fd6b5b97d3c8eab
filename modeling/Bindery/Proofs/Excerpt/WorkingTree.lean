import Bindery.Proofs.Excerpt.Extraction
import Bindery.Proofs.Path.Ascent
import Bindery.Proofs.Press.Publishing
import Bindery.Rehearsal

/-!
Contract: excerpts of the branch that is checked out, and the files that they come from.

Owns:
- `Copied`, what the working copy of a file is, by what is behind its path;
- `Drawn`, what an excerpt is, by the same: the line for what is missing, the lines of a file, or the
  refusal of a name that is too long;
- `FromFiles`, lines that stand for a missing excerpt or are those of a file at one of some places;
- that the lines of an excerpt are from a file under the source root when the path of its location
  stays there, and from a file outside when it does not.

Does **not** own: excerpts of other branches, which version control answers by itself.

Paths are not confined to the root. One that starts with a slash or leads up far enough is followed
to wherever it goes.
-/

namespace Bindery

namespace Git

/-- What the working copy of a file is, by what is behind its path: a refusal of a name that is too
long, the text of a regular file, or nothing. -/
inductive Copied (store : FileStore) (base : Place) (target : Path) : Except Fault String → Prop where
  | refused (long : store.isFile base target = .error (.io ⟨.nameTooLong, target.render⟩)) :
      Copied store base target (.error (.io ⟨.nameTooLong, target.render⟩))
  | there {file : File} (found : store.status base target = .ok (.file file)) :
      Copied store base target (.ok (Text.readLossy file.content))
  | absent (none : ∀ file, store.status base target ≠ .ok (.file file)) :
      Copied store base target (.ok "")

theorem exec_readWorking (root : Path) (path : String) (world : World) :
    ∃ answer, (readWorking root path).exec world = (answer, world) ∧
      Copied world.files world.base (root.joinText path) answer := by
  unfold readWorking Action.isFile
  dsimp only
  rw [Action.exec_bind, Action.exec_observe]
  rcases world.files.isFile_eq world.base (root.joinText path) with
    long | ⟨file, found, isFile⟩ | ⟨none, isFile⟩
  · rw [long]
    exact ⟨_, rfl, .refused long⟩
  · rw [isFile]
    refine ⟨_, ?_, .there found⟩
    simp only [if_true]
    rw [Action.exec_readText, FileStore.read, found]
    rfl
  · rw [isFile]
    exact ⟨_, rfl, .absent none⟩

end Git

namespace Excerpt

/-- What an excerpt is, by what is behind the path of its file. -/
inductive Drawn (store : FileStore) (base : Place) (target : Path) (location : Location) :
    Except Fault (List String) → Prop where
  | refused (long : store.isFile base target = .error (.io ⟨.nameTooLong, target.render⟩)) :
      Drawn store base target location (.error (.io ⟨.nameTooLong, target.render⟩))
  | missing (nothing : ∀ file, store.status base target = .ok (.file file) →
        Text.readLossy file.content = "") :
      Drawn store base target location (.ok [standIn location.path])
  | found {file : File} (there : store.status base target = .ok (.file file))
      (some : Text.readLossy file.content ≠ "") :
      Drawn store base target location (.ok (contentLines (Text.readLossy file.content)))

/-- Lines that stand for a missing excerpt, or are those of a regular file at a chosen place. -/
def FromFiles (store : FileStore) (chosen : Place → Prop) (location : Location)
    (lines : List String) : Prop :=
  lines = [standIn location.path] ∨
    ∃ place file, chosen place ∧ store.find? place = some (.file file) ∧
      lines = contentLines (Text.readLossy file.content)

theorem Drawn.fromFiles {store : FileStore} {base : Place} {target : Path} {location : Location}
    {lines : List String} {chosen : Place → Prop} (drawn : Drawn store base target location (.ok lines))
    (among : chosen (target.placeFrom base)) : FromFiles store chosen location lines := by
  cases drawn with
  | missing nothing => exact .inl rfl
  | found there some => exact .inr ⟨_, _, among, (FileStore.locate_of_status there).2, rfl⟩

section Current

variable {root : Path} {payload : String} {location : Location} {world asked : World}

/-- On the branch that is checked out, the content is the working copy of the file. -/
theorem exec_fetch_current
    (current : (Git.checkedOut root).exec world = (.ok (some location.branch), asked)) :
    ∃ answer noted, (fetch (.git root) location).exec world =
        (answer.map (Prod.mk .workingTree), noted) ∧
      World.Kept asked noted ∧
      Git.Copied asked.files asked.base (root.joinText location.path) answer := by
  let noted : World := { asked with requests := asked.requests ++ [.working location.path] }
  have noting : (noteRequest (.working location.path)).exec asked = (.ok (), noted) := rfl
  have kept : World.Kept asked noted := .of_noted rfl rfl rfl rfl rfl
  obtain ⟨answer, reading, copied⟩ := Git.exec_readWorking root location.path noted
  refine ⟨answer, noted, ?_, kept, copied⟩
  have checking : (Repository.git root).checkedOut.exec world =
      (.ok (some location.branch), asked) := current
  have copying : ((Repository.git root).readWorking location.path).exec noted = (answer, noted) :=
    reading
  unfold fetch
  rw [Action.exec_bind_of_ok checking, if_pos rfl, Action.exec_bind_of_ok noting, Action.exec_bind,
    copying]
  cases answer <;> rfl

/-- On the branch that is checked out, an excerpt is drawn from the file behind the path of its
location, seen from the root. -/
theorem exists_drawn (read : Location.parse? payload = some location)
    (current : (Git.checkedOut root).exec world = (.ok (some location.branch), asked)) :
    ∃ answer after, (Excerpt.lines (.git root) payload).exec world = (answer, after) ∧
      World.Kept asked after ∧
      Drawn asked.files asked.base (root.joinText location.path) location answer := by
  obtain ⟨answer, noted, fetched, kept, copied⟩ := exec_fetch_current current
  rw [lines_of_parse? read]
  cases copied with
  | refused long => exact ⟨_, noted, Action.exec_bind_of_error fetched _, kept, .refused long⟩
  | absent none =>
      obtain ⟨after, answered, later⟩ := exec_linesAt_of_fetched fetched
      exact ⟨_, after, answered, kept.trans later, .missing fun file there => absurd there (none file)⟩
  | @there file found =>
      obtain ⟨after, answered, later⟩ := exec_linesAt_of_fetched fetched
      refine ⟨_, after, answered, kept.trans later, ?_⟩
      by_cases nothing : Text.readLossy file.content = ""
      · rw [nothing]
        refine .missing fun other there => ?_
        rw [found] at there
        obtain ⟨rfl⟩ := Except.ok.inj there
        exact nothing
      · rw [if_neg (by simpa [String.isEmpty_iff] using nothing)]
        exact .found found nothing

/-- An excerpt of the branch that is checked out is the line for what is missing, or holds the lines
of the regular file behind the path of its location, seen from the source root. If the path stays
under the root, the file is under the root; if it does not, an excerpt with anything in it comes from
a file outside. -/
theorem excerpt_of_working_tree (read : Location.parse? payload = some location)
    (current : (Git.checkedOut root).exec world = (.ok (some location.branch), asked)) :
    ∃ answer after, (Excerpt.lines (.git root) payload).exec world = (answer, after) ∧
      World.Kept asked after ∧
      Drawn asked.files asked.base (root.joinText location.path) location answer ∧
      ((Path.ofString location.path).StaysUnder (root.placeFrom asked.base) →
        ∀ lines, answer = .ok lines →
          FromFiles asked.files (root.placeFrom asked.base <+: ·) location lines) ∧
      (¬ (Path.ofString location.path).StaysUnder (root.placeFrom asked.base) →
        ∀ lines, answer = .ok lines →
          FromFiles asked.files (¬ root.placeFrom asked.base <+: ·) location lines) := by
  obtain ⟨answer, after, ran, kept, drawn⟩ := exists_drawn read current
  have leads : root.placeFrom asked.base <+: (root.joinText location.path).placeFrom asked.base ↔
      (Path.ofString location.path).StaysUnder (root.placeFrom asked.base) :=
    Path.prefix_placeFrom_join_iff asked.base root _
  refine ⟨answer, after, ran, kept, drawn, ?_, ?_⟩
  · rintro stays lines rfl
    exact drawn.fromFiles (leads.2 stays)
  · rintro leaves lines rfl
    exact drawn.fromFiles fun under => leaves (leads.1 under)

end Current

/-! ## A file beside the root -/

def nestedRoot : Path :=
  .ofPlace ["book", "src"]

/-- A source root with one file in it and another one beside it, on a branch that `git` tells. -/
def nestedWorld : World where
  files := { entries := [
    (["book"], .directory), (["book", "src"], .directory),
    (["book", "src", "a.scala"], .file ⟨Text.encode "val d = 1\n", 0, false⟩),
    (["book", "secret.txt"], .file ⟨Text.encode "outside\n", 0, false⟩)] }
  now := 5000
  base := ["book"]
  environment := []
  runner := .rehearsed [⟨["git", "branch"], 0, "* main\n", ""⟩]
  commands := []
  requests := []
  missing := []
  events := []
  recording := .start false fun _ => 0

theorem nested_files {place : Place} {file : File}
    (found : nestedWorld.files.find? place = some (.file file)) :
    place = ["book", "src", "a.scala"] ∧ file = ⟨Text.encode "val d = 1\n", 0, false⟩ ∨
      place = ["book", "secret.txt"] ∧ file = ⟨Text.encode "outside\n", 0, false⟩ := by
  simpa [nestedWorld] using FileStore.mem_of_find?_file found

/-- A path that leaves the root and comes back by its name gives the file that is there. -/
theorem excerpt_of_working_tree_back :
    ∃ after,
      (Excerpt.lines (.git nestedRoot) "main:../src/a.scala").exec nestedWorld =
        (.ok ["val d = 1"], after) ∧
      FromFiles nestedWorld.files (["book", "src"] <+: ·) ⟨"main", "../src/a.scala"⟩
        ["val d = 1"] := by
  have read : Location.parse? "main:../src/a.scala" = some ⟨"main", "../src/a.scala"⟩ := by
    decide +kernel
  obtain ⟨asked, current, files, base⟩ : ∃ asked,
      (Git.checkedOut nestedRoot).exec nestedWorld = (.ok (some "main"), asked) ∧
        asked.files = nestedWorld.files ∧ asked.base = nestedWorld.base := ⟨_, rfl, rfl, rfl⟩
  have answered : ((Excerpt.lines (.git nestedRoot) "main:../src/a.scala").exec
      nestedWorld).1.toOption = some ["val d = 1"] := by
    decide +kernel
  obtain ⟨after, ran⟩ := Action.exists_ok_of_toOption answered
  obtain ⟨answer, _, again, _, _, inside, _⟩ := excerpt_of_working_tree read current
  obtain ⟨rfl, _⟩ := Prod.mk.inj (ran.symm.trans again)
  rw [files, base] at inside
  exact ⟨after, ran, inside (by decide +kernel) _ rfl⟩

/-- A path that leads to the file beside the root gives its line. It is no line of the file under the
root, nor does it stand for anything missing. -/
theorem excerpt_from_outside :
    ∃ after,
      (Excerpt.lines (.git nestedRoot) "main:../secret.txt").exec nestedWorld =
        (.ok ["outside"], after) ∧
      ((Git.checkedOut nestedRoot).exec nestedWorld).1 = .ok (some "main") ∧
      ¬ FromFiles nestedWorld.files (["book", "src"] <+: ·) ⟨"main", "../secret.txt"⟩
        ["outside"] := by
  have answered : ((Excerpt.lines (.git nestedRoot) "main:../secret.txt").exec
      nestedWorld).1.toOption = some ["outside"] := by
    decide +kernel
  obtain ⟨after, ran⟩ := Action.exists_ok_of_toOption answered
  refine ⟨after, ran, rfl, ?_⟩
  rintro (missing | ⟨place, file, under, found, same⟩)
  · exact absurd missing (by decide +kernel)
  · rcases nested_files found with ⟨rfl, rfl⟩ | ⟨rfl, rfl⟩
    · exact absurd same (by decide +kernel)
    · exact absurd under (by decide)

end Excerpt

end Bindery
