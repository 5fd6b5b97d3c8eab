import Bindery.Proofs.Command.Contract
import Bindery.Proofs.Location.Reading
import Bindery.Proofs.Text.Breaking
import Bindery.Repository.Git

/-!
Contract: the branch that is checked out, by the list that `git branch` prints.

Owns:
- `BranchList`, branches with the marks that they are printed with, of which at most one is flagged,
  and the text of such a list;
- that the list is read back: the lines of its text are those of its branches, and the flagged branch
  is the one that is found;
- what a repository says is checked out, when its runner answers with such a list or fails.

Does **not** own: what is done with a branch (`Bindery.Proofs.Excerpt.WorkingTree`).
-/

namespace Bindery.Git

open Text

/-! ## The printed list -/

/-- What stands in front of a branch: a flag at the one that is checked out, another one at a branch
that is checked out in a second tree, or nothing. -/
inductive BranchMark where
  | flagged
  | elsewhere
  | plain
deriving DecidableEq, Repr

def BranchMark.text : BranchMark → String
  | .flagged => "* "
  | .elsewhere => "+ "
  | .plain => "  "

structure BranchLine where
  mark : BranchMark
  name : String
deriving DecidableEq, Repr

def BranchLine.text (line : BranchLine) : String :=
  line.mark.text ++ line.name

/-- A name of a branch: it is not empty, and has neither blanks nor the sign of the flag in it. -/
def IsBranchName (name : String) : Prop :=
  name ≠ "" ∧ ∀ c ∈ name.toList, isBlank c = false ∧ c ≠ '*'

instance (name : String) : Decidable (IsBranchName name) :=
  @instDecidableAnd _ _ _ (List.decidableBAll _ name.toList)

/-- The branches of a repository as they are listed: at most one is flagged. -/
structure BranchList where
  lines : List BranchLine
  named : ∀ line ∈ lines, IsBranchName line.name
  single : (lines.filter (·.mark = .flagged)).length ≤ 1

/-- The text of a list, one branch on each line. -/
def BranchList.print (list : BranchList) : String :=
  String.join (list.lines.map fun line => line.text ++ "\n")

/-! ## Reading it back -/

variable {line : BranchLine} {list : BranchList} {name : String}

theorem IsBranchName.unbroken (named : IsBranchName name) : Unbroken name.toList :=
  fun c among => isLineBoundary_eq_false_of_isBlank (named.2 c among).1

theorem IsBranchName.trim_eq (named : IsBranchName name) : trim name.toList = name.toList :=
  trim_eq_self_iff.2
    ⟨fun c first => (named.2 c (List.mem_of_head? first)).1,
      fun c last => (named.2 c (List.mem_of_getLast? last)).1⟩

theorem BranchMark.unbroken_text (mark : BranchMark) : Unbroken mark.text.toList := by
  cases mark <;> decide

theorem BranchLine.unbroken_text (named : IsBranchName line.name) : Unbroken line.text.toList := by
  intro c among
  rw [BranchLine.text, String.toList_append, List.mem_append] at among
  rcases among with front | behind
  · exact line.mark.unbroken_text c front
  · exact named.unbroken c behind

/-- The lines of the text are the branches. -/
theorem linesOf_print (list : BranchList) : linesOf list.print = list.lines.map BranchLine.text := by
  have written : list.print.toList =
      (list.lines.map fun line => line.text.toList).flatMap (· ++ ['\n']) := by
    have feed : "\n".toList = ['\n'] := rfl
    simp [BranchList.print, String.toList_join, List.flatMap_map, feed]
  have unbroken : ∀ line ∈ list.lines.map fun line => line.text.toList, Unbroken line := by
    intro _ among
    obtain ⟨line, member, rfl⟩ := List.mem_map.1 among
    exact BranchLine.unbroken_text (list.named line member)
  unfold linesOf
  rw [written, breakLines_flatMap unbroken, List.map_map]
  exact List.map_congr_left fun line _ => String.ofList_toList

/-- A line tells its branch if it is flagged. -/
theorem flaggedBranch_text (named : IsBranchName line.name) :
    flaggedBranch line.text = if line.mark = .flagged then some line.name else none := by
  obtain ⟨mark, name⟩ := line
  cases mark with
  | elsewhere => simp [flaggedBranch, BranchLine.text, BranchMark.text]
  | plain => simp [flaggedBranch, BranchLine.text, BranchMark.text]
  | flagged =>
      have spaced : trim (' ' :: name.toList) = name.toList := named.trim_eq
      simp [flaggedBranch, BranchLine.text, BranchMark.text, spaced]

/-- No two branches of a list are flagged. -/
theorem BranchList.eq_of_flagged {first second : BranchLine} (list : BranchList)
    (one : first ∈ list.lines) (other : second ∈ list.lines) (flagged : first.mark = .flagged)
    (also : second.mark = .flagged) : first = second := by
  have among : ∀ line ∈ list.lines, line.mark = .flagged →
      line ∈ list.lines.filter (·.mark = .flagged) := fun line member marked =>
    List.mem_filter.2 ⟨member, decide_eq_true marked⟩
  have both := And.intro (among first one flagged) (among second other also)
  rcases shape : list.lines.filter (·.mark = .flagged) with _ | ⟨only, _ | ⟨next, rest⟩⟩
  · simp [shape] at both
  · simp only [shape, List.mem_singleton] at both
    exact both.1.trans both.2.symm
  · have short := list.single
    simp [shape] at short

/-- The branch that is found in the text of a list is the flagged one. -/
theorem currentBranchOf_print_eq_some_iff (list : BranchList) (name : String) :
    currentBranchOf list.print = some name ↔ ⟨.flagged, name⟩ ∈ list.lines := by
  unfold currentBranchOf
  rw [linesOf_print, List.findSome?_map]
  constructor
  · intro found
    obtain ⟨⟨mark, other⟩, member, told⟩ := List.exists_of_findSome?_eq_some found
    rw [Function.comp_apply, flaggedBranch_text (list.named _ member)] at told
    obtain ⟨rfl, rfl⟩ : mark = .flagged ∧ other = name := by simpa using told
    exact member
  · intro member
    have told : (flaggedBranch ∘ BranchLine.text) ⟨.flagged, name⟩ = some name :=
      (flaggedBranch_text (list.named _ member)).trans (if_pos rfl)
    cases found : list.lines.findSome? (flaggedBranch ∘ BranchLine.text) with
    | none =>
        rw [List.findSome?_eq_none_iff.1 found _ member] at told
        contradiction
    | some other =>
        obtain ⟨line, among, tells⟩ := List.exists_of_findSome?_eq_some found
        rw [Function.comp_apply, flaggedBranch_text (list.named _ among)] at tells
        obtain ⟨flagged, rfl⟩ : line.mark = .flagged ∧ line.name = other := by simpa using tells
        rw [← list.eq_of_flagged member among rfl flagged]

/-! ## What is checked out -/

section CheckedOut

variable {root : Path} {world : World} {result : Completion} {files : FileStore}

/-- The branch that a repository says is checked out is the flagged one of the printed list, if the
command that prints it succeeds; otherwise it says that none is. -/
theorem checkedOut_iff_flagged (list : BranchList)
    (answered : world.runner.answer world.commands world.now world.base world.files
      ⟨["git", "branch"], some root⟩ = (.ok result, files))
    (printed : result.status = 0 → result.stdout = list.print) :
    ∃ branch after, (Repository.git root).checkedOut.exec world = (.ok branch, after) ∧
      ∀ name, branch = some name ↔ result.status = 0 ∧ ⟨.flagged, name⟩ ∈ list.lines := by
  obtain ⟨asked, ran⟩ : ∃ asked, (run root ["branch"]).exec world = (.ok result, asked) := by
    rw [run, Action.exec_run, answered]
    exact ⟨_, rfl⟩
  have asking : (Repository.git root).checkedOut.exec world = (checkedOut root).exec world := rfl
  rw [asking]
  unfold checkedOut
  rw [Action.exec_bind_of_ok ran]
  by_cases succeeded : result.status = 0
  · have good : result.ok = true := decide_eq_true succeeded
    rw [good]
    refine ⟨_, _, rfl, fun name => ?_⟩
    rw [printed succeeded, currentBranchOf_print_eq_some_iff]
    simp [succeeded]
  · have bad : result.ok = false := decide_eq_false succeeded
    rw [bad]
    exact ⟨none, _, rfl, fun name => by simp [succeeded]⟩

end CheckedOut

/-- Three branches, one of them in a second tree, with the flagged one between the others. -/
def threeBranches : BranchList where
  lines := [⟨.elsewhere, "chapter-1"⟩, ⟨.flagged, "main"⟩, ⟨.plain, "v1.+x"⟩]
  named := by decide
  single := by decide

def branchedWorld : World where
  files := .empty
  now := 5000
  base := ["book"]
  environment := []
  runner := .rehearsed [⟨["git", "branch"], 0, threeBranches.print, ""⟩]
  commands := []
  requests := []
  missing := []
  events := []
  recording := .start false fun _ => 0

theorem checkedOut_iff_flagged_between :
    branchedWorld.runner.answer [] 5000 ["book"] .empty ⟨["git", "branch"], some (.ofPlace ["book"])⟩ =
        (.ok ⟨["git", "branch"], 0, threeBranches.print, ""⟩, .empty) ∧
      threeBranches.print = "+ chapter-1\n* main\n  v1.+x\n" ∧
      ∃ after, (Repository.git (.ofPlace ["book"])).checkedOut.exec branchedWorld =
        (.ok (some "main"), after) := by
  have answered : branchedWorld.runner.answer [] 5000 ["book"] .empty
      ⟨["git", "branch"], some (.ofPlace ["book"])⟩ =
        (.ok ⟨["git", "branch"], 0, threeBranches.print, ""⟩, .empty) := rfl
  obtain ⟨branch, after, ran, told⟩ := checkedOut_iff_flagged threeBranches answered fun _ => rfl
  obtain rfl := (told "main").2 ⟨rfl, by decide⟩
  exact ⟨answered, by decide +kernel, after, ran⟩

end Bindery.Git
