import Bindery.Book
import Bindery.Proofs.World.Recording
import Bindery.Proofs.World.Replay

/-!
Contract: runs that ask a repository for a part of its files only.

Owns:
- `Repository.limitedTo`, a repository that answers chosen requests and refuses all others, and the
  book that asks it;
- the contracts `SteadyFor` and `FixedFor`, which say of chosen requests what `Steady` and `Fixed`
  say of all. The limited repository keeps the contract for all requests, so that what is known of
  steady and of fixed repositories applies to it;
- `Action.Follows`, the relation between what is done with the limited repository and with the whole
  one: it is the same, or it ends with the fault of a refused request. The rendering of texts and
  the build of a book follow;
- `Book.AsksOnly`, a run that asks for nothing but the chosen requests: it is the same with the
  limited repository.

Does not own: which requests a repository is steady for (`Bindery.Proofs.Repository.Beside`).

## Why the refusal is harmless

No operation reports the fault of a refused request. So a run with the limited repository that
answers at all has met no refusal, and is a run with the whole one.
-/

namespace Bindery

/-- The fault of a request that is refused. -/
def Request.refusal : Fault := .nullInPath

namespace Repository

/-- The repository that answers the chosen requests as another one does, and refuses all others. -/
def limitedTo (asked : Request → Bool) (repository : Repository) : Repository where
  checkedOut := repository.checkedOut
  readWorking path :=
    if asked (.working path) then repository.readWorking path else .fail Request.refusal
  readCommitted branch path :=
    if asked (.history branch path) then repository.readCommitted branch path
    else .fail Request.refusal

variable {asked : Request → Bool} {repository : Repository}
  {Holds : ∀ {α : Type}, Action α → Prop}

/-- A limited repository has for all requests what the whole one has for the chosen ones. -/
theorem AllFor.limitedTo (all : repository.AllFor asked Holds)
    (fails : ∀ {α : Type} (fault : Fault), Holds (Action.fail fault : Action α)) :
    (repository.limitedTo asked).All Holds where
  checkedOut := all.checkedOut
  readWorking path := by
    unfold Repository.limitedTo
    dsimp only
    split
    · rename_i chosen
      exact all.readWorking path chosen
    · exact fails _
  readCommitted branch path := by
    unfold Repository.limitedTo
    dsimp only
    split
    · rename_i chosen
      exact all.readCommitted branch path chosen
    · exact fails _

theorem All.allFor (all : repository.All Holds) (asked : Request → Bool) :
    repository.AllFor asked Holds where
  checkedOut := all.checkedOut
  readWorking path _ := all.readWorking path
  readCommitted branch path _ := all.readCommitted branch path

/-! ## Contracts for chosen requests -/

section Contracts

variable {runner : Runner} {directory : Place}

/-- A repository that is steady as far as the chosen requests go. -/
def SteadyFor (asked : Request → Bool) (runner : Runner) (directory : Place)
    (repository : Repository) : Prop :=
  repository.AllFor asked fun action =>
    Action.ReadOnly runner action ∧ Action.Steady runner directory action

/-- A repository with fixed answers and questions as far as the chosen requests go. -/
def FixedFor (asked : Request → Bool) (runner : Runner) (directory : Place)
    (repository : Repository) : Prop :=
  repository.AllFor asked fun action =>
    Action.ReadOnly runner action ∧ Action.Fixed runner directory action

theorem Steady.steadyFor (steady : repository.Steady runner directory) (asked : Request → Bool) :
    repository.SteadyFor asked runner directory :=
  All.allFor steady asked

theorem Fixed.fixedFor (fixed : repository.Fixed runner directory) (asked : Request → Bool) :
    repository.FixedFor asked runner directory :=
  All.allFor fixed asked

theorem SteadyFor.limitedTo (steady : repository.SteadyFor asked runner directory) :
    (repository.limitedTo asked).Steady runner directory :=
  AllFor.limitedTo steady Action.composes_steady.fail

theorem FixedFor.limitedTo (fixed : repository.FixedFor asked runner directory) :
    (repository.limitedTo asked).Fixed runner directory :=
  AllFor.limitedTo fixed Action.composes_fixed.fail

theorem ReadOnly.limitedTo (reads : repository.ReadOnly runner) (asked : Request → Bool) :
    (repository.limitedTo asked).ReadOnly runner :=
  (All.allFor reads asked).limitedTo Action.composes_readOnly.fail

theorem Unrecorded.limitedTo (unrecorded : repository.Unrecorded) (asked : Request → Bool) :
    (repository.limitedTo asked).Unrecorded :=
  (All.allFor unrecorded asked).limitedTo Action.composes_worksLike.fail

end Contracts

end Repository

namespace Action

variable {α β : Type}

/-- An action that does the same as another one, or ends with the fault of a refused request. -/
def Follows (limited full : Action α) : Prop :=
  ∀ world, limited.exec world = full.exec world ∨
    (limited.exec world).1 = .error Request.refusal

namespace Follows

variable {limited full : Action α} {world after : World} {value : α}

theorem refl (action : Action α) : action.Follows action :=
  fun _ => .inl rfl

/-- What has answered has done the same. -/
theorem exec_eq (follows : limited.Follows full) (ran : limited.exec world = (.ok value, after)) :
    full.exec world = (.ok value, after) := by
  rcases follows world with same | refused
  · exact same.symm.trans ran
  · rw [ran] at refused
    contradiction

theorem answer_eq (follows : limited.Follows full) (answered : (limited.exec world).1 = .ok value) :
    (full.exec world).1 = .ok value :=
  congrArg Prod.fst (follows.exec_eq (Prod.ext answered rfl))

theorem bind {next nextFull : α → Action β} (first : limited.Follows full)
    (rest : ∀ value, (next value).Follows (nextFull value)) :
    (limited >>= next).Follows (full >>= nextFull) := by
  intro world
  rw [exec_bind, exec_bind]
  rcases first world with same | refused
  · rw [same]
    rcases full.exec world with ⟨fault | value, after⟩
    · exact .inl rfl
    · exact rest value after
  · rcases ran : limited.exec world with ⟨answer, after⟩
    rw [ran] at refused
    obtain rfl : answer = .error Request.refusal := refused
    exact .inr rfl

theorem ite {condition : Prop} [Decidable condition] {other otherFull : Action α}
    (first : limited.Follows full) (second : other.Follows otherFull) :
    (if condition then limited else other).Follows (if condition then full else otherFull) := by
  split
  · exact first
  · exact second

/-- What is refused under a condition follows what is done without it. -/
theorem orRefused (condition : Prop) [Decidable condition] (action : Action α) :
    (if condition then action else fail Request.refusal).Follows action := by
  split
  · exact refl action
  · exact fun _ => .inr rfl

theorem within (name : String) (isRoot : Bool) (follows : limited.Follows full) :
    (within name isRoot limited).Follows (within name isRoot full) := by
  intro world
  rw [exec_within, exec_within]
  dsimp only
  rcases follows { world with recording := world.recording.push name isRoot } with same | refused
  · rw [same]
    exact .inl rfl
  · rw [refused]
    exact .inr rfl

theorem phase (name : String) {action other : Bool → Action α}
    (follows : ∀ recorded, (action recorded).Follows (other recorded)) :
    (phase name action).Follows (phase name other) := by
  intro world
  unfold Action.phase
  rw [exec_ofEffect, exec_ofEffect]
  split
  · exact ((follows true).within name false).bind (fun _ => refl _) world
  · exact follows false world

theorem assembleM {render other : α → Action (List Char)}
    (follows : ∀ value, (render value).Follows (other value)) (pieces : List (Text.Piece α)) :
    (Text.assembleM render pieces).Follows (Text.assembleM other pieces) := by
  induction pieces with
  | nil => exact refl _
  | cons piece rest inductionHypothesis =>
      cases piece with
      | plain c => exact inductionHypothesis.bind fun _ => refl _
      | found value => exact (follows value).bind fun _ => inductionHypothesis.bind fun _ => refl _

end Follows

end Action

variable {asked : Request → Bool}

/-! ## Excerpts -/

namespace Excerpt

variable (repository : Repository)

theorem follows_fetch (location : Location) :
    (fetch (repository.limitedTo asked) location).Follows (fetch repository location) := by
  refine (Action.Follows.refl _).bind fun current => .ite ?_ ?_
  · exact (Action.Follows.refl _).bind fun _ =>
      (Action.Follows.orRefused _ _).bind fun _ => .refl _
  · exact (Action.Follows.refl _).bind fun _ =>
      (Action.Follows.orRefused _ _).bind fun _ => .refl _

theorem follows_linesAt (location : Location) :
    (linesAt (repository.limitedTo asked) location).Follows (linesAt repository location) :=
  (follows_fetch repository location).bind fun _ => .refl _

theorem follows_lines (payload : String) :
    (lines (repository.limitedTo asked) payload).Follows (lines repository payload) :=
  (Action.Follows.refl _).bind fun location => follows_linesAt repository location

theorem follows_sectionLines (payload name : String) :
    (sectionLines (repository.limitedTo asked) payload name).Follows
      (sectionLines repository payload name) :=
  (Action.Follows.refl _).bind fun location =>
    (follows_linesAt repository location).bind fun _ => .refl _

end Excerpt

/-! ## Books -/

namespace Book

/-- The book that asks the limited repository. -/
def limitedTo (asked : Request → Bool) (book : Book) : Book :=
  { book with repository := book.repository.limitedTo asked }

/-- A run of an action on a book that asks for nothing but the chosen requests: it is the same when
all others are refused. -/
def AsksOnly {α : Type} (asked : Request → Bool) (book : Book) (action : Book → Action α)
    (world : World) : Prop :=
  (action (book.limitedTo asked)).exec world = (action book).exec world

/-- Where every request is chosen, a run asks for nothing else. -/
theorem asksOnly_all {α : Type} (book : Book) (action : Book → Action α) (world : World) :
    book.AsksOnly (fun _ => true) action world :=
  rfl

variable (book : Book)

theorem follows_render (text : String) :
    ((book.limitedTo asked).press.render text).Follows (book.press.render text) := by
  refine (Action.Follows.assembleM (fun location => ?_) _).bind fun included =>
    (Action.Follows.assembleM (fun pair => ?_) _).bind fun expanded => .refl _
  · exact (Excerpt.follows_lines book.repository _).bind fun _ => .refl _
  · exact (Excerpt.follows_sectionLines book.repository _ _).bind fun _ => .refl _

theorem follows_publish (source : Path) (name : String) :
    ((book.limitedTo asked).press.publish source name).Follows (book.press.publish source name) :=
  (Action.Follows.refl _).bind fun text =>
    (follows_render book text).bind fun _ => .refl _

theorem follows_refreshFragment (fragment : Path) :
    ((book.limitedTo asked).press.refreshFragment fragment).Follows
      (book.press.refreshFragment fragment) := by
  refine (Action.Follows.refl _).bind fun due => .ite ?_ (.refl _)
  exact (Action.Follows.refl _).bind fun _ =>
    (follows_publish book fragment _).bind fun _ => .refl _

theorem follows_typeset (document : Path) (demanded : Bool) :
    ((book.limitedTo asked).typesetter.typeset document demanded).Follows
      (book.typesetter.typeset document demanded) :=
  (follows_publish book document _).bind fun _ => .refl _

section Sources

variable {output : Path → Path} {treat other : Path → Action Bool}

theorem follows_treatAll (follows : ∀ path, (treat path).Follows (other path))
    (sources : List Path) :
    (treatAll output treat sources).Follows (treatAll output other sources) := by
  induction sources with
  | nil => exact .refl _
  | cons source rest inductionHypothesis =>
      exact (follows source).bind fun _ => inductionHypothesis.bind fun _ => .refl _

theorem follows_treatPhase (name : String) (follows : ∀ path, (treat path).Follows (other path))
    (sources : List Path) :
    (treatPhase name output treat sources).Follows (treatPhase name output other sources) :=
  Action.Follows.phase name fun _ => (follows_treatAll follows sources).bind fun _ => .refl _

end Sources

theorem follows_buildSources (sources : Source.Collection) :
    ((book.limitedTo asked).buildSources sources).Follows (book.buildSources sources) := by
  refine (Action.Follows.refl _).bind fun _ => (Action.Follows.refl _).bind fun diagrams => ?_
  refine (follows_treatPhase "fragments" (follows_refreshFragment book) _).bind fun fragments => ?_
  refine (Action.Follows.refl _).bind fun _ => ?_
  exact (follows_treatPhase "documents" (fun document => follows_typeset book document _) _).bind
    fun _ => .refl _

/-- A refusal passes the handler. -/
theorem follows_settle (op : String) (note : Failure → Action Unit) {limited full : Action Outcome}
    (follows : limited.Follows full) : (settle op note limited).Follows (settle op note full) := by
  intro world
  unfold settle
  rw [Action.exec_ofEffect, Action.exec_ofEffect]
  rcases follows world with same | refused
  · rw [same]
    exact .inl rfl
  · rcases ran : limited.exec world with ⟨answer, after⟩
    rw [ran] at refused
    obtain rfl : answer = .error Request.refusal := refused
    exact .inr rfl

theorem follows_recorded (name : String) {limited full : Action Outcome}
    (follows : limited.Follows full) : (recorded name limited).Follows (recorded name full) := by
  intro world
  unfold recorded
  rw [Action.exec_ofEffect, Action.exec_ofEffect]
  split
  · exact (follows.within name true).bind (fun _ => .refl _) world
  · exact follows world

/-- A build with the limited repository is the build, or meets a refusal. -/
theorem follows_build (chosen : Option Source.Collection) :
    ((book.limitedTo asked).build chosen).Follows (book.build chosen) := by
  refine follows_recorded _ ((Action.Follows.refl _).bind fun sources => ?_)
  refine (Action.Follows.refl _).bind fun _ => follows_settle _ _ ?_
  exact (follows_buildSources book sources).bind fun _ => .refl _

/-- A build that answers although all other requests are refused asks for nothing else. -/
theorem asksOnly_of_answered {chosen : Option Source.Collection} {world : World} {outcome : Outcome}
    (answered : (((book.limitedTo asked).build chosen).exec world).1 = .ok outcome) :
    book.AsksOnly asked (·.build chosen) world := by
  rcases ran : ((book.limitedTo asked).build chosen).exec world with ⟨answer, after⟩
  rw [ran] at answered
  obtain rfl : answer = .ok outcome := answered
  exact ran.trans ((follows_build book chosen).exec_eq ran).symm

end Book

end Bindery
