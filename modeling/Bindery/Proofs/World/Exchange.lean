import Bindery.Proofs.World.Replay

/-!
Contract: that actions which do not disturb each other can be done in another order.

Owns:
- `Footprint`, an action that looks at some places only and writes some of these;
- `Reordered`, two runs with the same commands in another order and with matching ends, and
  `Reorders`, an action that comes to the same as another one, up to the order of what it does;
- `exchange`, that two actions of which neither writes what the other looks at can be exchanged.

Does not own: the actions of a build (`Bindery.Proofs.Build.Order`).
-/

namespace Bindery.Action

variable {α β : Type} {runner : Runner} {base : Place} {directory : Path}

/-! ## Footprints -/

/-- An action that looks at the seen places only and writes at most the touched ones, which are
among these. -/
structure Footprint (runner : Runner) (base : Place) (directory : Path) (seen : Place → Prop)
    (touched : List Place) (action : Action α) : Prop where
  replays : Replays runner base directory seen action
  confined : Confined runner base directory touched action
  own : ∀ place ∈ touched, seen place

namespace Footprint

variable {seen : Place → Prop} {touched : List Place} {action : Action α}

/-- An action with a footprint changes no other place. -/
theorem matches_after {world after : World} {value : α}
    (footprint : Footprint runner base directory seen touched action)
    (offers : world.Offers runner base directory)
    (ran : action.exec world = (.ok value, after)) : world.Matches (· ∉ touched) after := by
  obtain ⟨_, _, replayed⟩ := footprint.replays world world after value offers (.refl _ _) ran
  have resembles := footprint.confined world offers.runner offers.base
    (offers.base ▸ offers.there)
  rw [ran] at resembles
  exact ⟨replayed.still.now, resembles.base, resembles.runner, resembles.files⟩

/-- Worlds that match everywhere match everywhere afterwards. -/
theorem replays_everywhere (footprint : Footprint runner base directory seen touched action) :
    Replays runner base directory (fun _ => True) action := by
  intro left right after value offers matching ran
  obtain ⟨later, again, replayed⟩ := footprint.replays left right after value offers
    (matching.mono fun _ _ => trivial) ran
  have onLeft := footprint.matches_after offers ran
  have onRight := footprint.matches_after (offers.of_matches matching) again
  have same := replayed.matching
  refine ⟨later, again, replayed.still, ⟨same.now, same.base, same.runner, same.files.directories,
    fun place _ => ?_⟩, replayed.ran⟩
  by_cases written : place ∈ touched
  · exact same.files.nodes place (footprint.own place written)
  · exact (onLeft.files.nodes place written).symm.trans
      ((matching.files.nodes place trivial).trans (onRight.files.nodes place written))

end Footprint

/-! ## Runs in another order -/

/-- What two runs that do the same in different orders have in common: the directories are as
before, the same commands were run, and their ends match. -/
structure Reordered (left right after later : World) : Prop where
  still : left.Matches (fun _ => False) after
  matching : after.Matches (fun _ => True) later
  ran : ∃ issued reordered : List Command, after.commands = left.commands ++ issued ∧
    later.commands = right.commands ++ reordered ∧ issued.Perm reordered

namespace Reordered

variable {left right middle other after later latest : World}

/-- Both runs go on. -/
theorem append (front : Reordered left right middle other)
    (back : Reordered middle other after later) : Reordered left right after later := by
  obtain ⟨early, earlyOther, ranMiddle, ranOther, sameEarly⟩ := front.ran
  obtain ⟨late, lateOther, ranAfter, ranLater, sameLate⟩ := back.ran
  refine ⟨front.still.trans back.still, back.matching, early ++ late, earlyOther ++ lateOther,
    ?_, ?_, sameEarly.append sameLate⟩
  · rw [ranAfter, ranMiddle, List.append_assoc]
  · rw [ranLater, ranOther, List.append_assoc]

/-- A run that was reordered is reordered once more. -/
theorem trans (first : Reordered left right after later)
    (second : Reordered right right later latest) : Reordered left right after latest := by
  obtain ⟨issued, middleOrder, ranAfter, ranLater, same⟩ := first.ran
  obtain ⟨again, lastOrder, ranAgain, ranLatest, also⟩ := second.ran
  obtain rfl : middleOrder = again := List.append_cancel_left (ranLater.symm.trans ranAgain)
  exact ⟨first.still, first.matching.trans second.matching, issued, lastOrder, ranAfter, ranLatest,
    same.trans also⟩

end Reordered

theorem Replayed.reordered {left right after later : World}
    (replayed : Replayed (fun _ => True) left right after later) :
    Reordered left right after later := by
  obtain ⟨issued, ranLeft, ranRight⟩ := replayed.ran
  exact ⟨replayed.still, replayed.matching, issued, issued, ranLeft, ranRight, .refl _⟩

/-- An action that, where a directory is there and it succeeds, is matched by a success of the
other one with a related answer. -/
def Reorders (runner : Runner) (base : Place) (directory : Path) (related : α → α → Prop)
    (action other : Action α) : Prop :=
  ∀ (left right after : World) (value : α), left.Offers runner base directory →
    left.Matches (fun _ => True) right → action.exec left = (.ok value, after) →
      ∃ same later, other.exec right = (.ok same, later) ∧ related value same ∧
        Reordered left right after later

section Reordering

variable {related : α → α → Prop} {resulting : β → β → Prop} {action other last : Action α}

theorem Replays.reorders (replays : Replays runner base directory (fun _ => True) action) :
    Reorders runner base directory Eq action action := by
  intro left right after value offers matching ran
  obtain ⟨later, again, replayed⟩ := replays left right after value offers matching ran
  exact ⟨value, later, again, rfl, replayed.reordered⟩

theorem reorders_pure {value same : α} (alike : related value same) :
    Reorders runner base directory related (pure value) (pure same) := by
  intro left right after answer offers matching ran
  obtain ⟨found, rfl⟩ := Prod.mk.inj ran
  obtain rfl := Except.ok.inj found
  exact ⟨same, right, rfl, alike, .refl _ _, matching, [], [], (List.append_nil _).symm,
    (List.append_nil _).symm, .refl _⟩

theorem reorders_bind {next otherNext : α → Action β}
    (first : Reorders runner base directory related action other)
    (rest : ∀ value same, related value same →
      Reorders runner base directory resulting (next value) (otherNext same)) :
    Reorders runner base directory resulting (action >>= next) (other >>= otherNext) := by
  intro left right after result offers matching ran
  obtain ⟨value, middle, start, onward⟩ := exec_bind_eq_ok_iff.1 ran
  obtain ⟨same, otherMiddle, startOther, alike, front⟩ :=
    first left right middle value offers matching start
  obtain ⟨sameResult, later, onwardOther, alikeResults, back⟩ := rest value same alike middle
    otherMiddle after result (offers.of_matches front.still) front.matching onward
  exact ⟨sameResult, later, exec_bind_eq_ok_iff.2 ⟨same, otherMiddle, startOther, onwardOther⟩,
    alikeResults, front.append back⟩

theorem Reorders.trans (transitive : ∀ {first second third : α}, related first second →
      related second third → related first third)
    (front : Reorders runner base directory related action other)
    (back : Reorders runner base directory related other last) :
    Reorders runner base directory related action last := by
  intro left right after value offers matching ran
  obtain ⟨same, later, ranOther, alike, first⟩ := front left right after value offers matching ran
  obtain ⟨sameLast, latest, ranLast, alikeLast, second⟩ :=
    back right right later same (offers.of_matches matching) (.refl _ _) ranOther
  exact ⟨sameLast, latest, ranLast, transitive alike alikeLast, first.trans second⟩

end Reordering

/-! ## Exchanging two actions -/

/-- Two actions of which neither writes what the other one looks at can be exchanged. -/
theorem exchange {first : Action α} {second : Action β} {seenFirst seenSecond : Place → Prop}
    {touchedFirst touchedSecond : List Place} {left right middle after : World} {value : α}
    {result : β} (footprintFirst : Footprint runner base directory seenFirst touchedFirst first)
    (footprintSecond : Footprint runner base directory seenSecond touchedSecond second)
    (forward : ∀ place ∈ touchedFirst, ¬ seenSecond place)
    (backward : ∀ place ∈ touchedSecond, ¬ seenFirst place)
    (offers : left.Offers runner base directory) (matching : left.Matches (fun _ => True) right)
    (ranFirst : first.exec left = (.ok value, middle))
    (ranSecond : second.exec middle = (.ok result, after)) :
    ∃ between later, second.exec right = (.ok result, between) ∧
      first.exec between = (.ok value, later) ∧ Reordered left right after later := by
  have early := footprintFirst.matches_after offers ranFirst
  have offersMiddle := offers.of_matches early
  have offersRight := offers.of_matches matching
  have late := footprintSecond.matches_after offersMiddle ranSecond
  -- The second action does not see what the first one has written, so it can be done before it.
  have unseen : middle.Matches seenSecond right :=
    (early.symm.mono fun place sees written => forward place written sees).trans
      (matching.mono fun _ _ => trivial)
  obtain ⟨between, ranSecondFirst, secondAgain⟩ :=
    footprintSecond.replays middle right after result offersMiddle unseen ranSecond
  have earlyAgain := footprintSecond.matches_after offersRight ranSecondFirst
  have offersBetween := offersRight.of_matches earlyAgain
  have unseenAgain : left.Matches seenFirst between :=
    (matching.mono fun _ _ => trivial).trans
      (earlyAgain.mono fun place sees written => backward place written sees)
  obtain ⟨later, ranFirstSecond, firstAgain⟩ :=
    footprintFirst.replays left between middle value offers unseenAgain ranFirst
  have lateAgain := footprintFirst.matches_after offersBetween ranFirstSecond
  refine ⟨between, later, ranSecondFirst, ranFirstSecond,
    firstAgain.still.trans secondAgain.still, ?_, ?_⟩
  · have ends : after.Matches (fun _ => False) later :=
      (late.symm.mono fun _ => False.elim).trans (firstAgain.matching.mono fun _ => False.elim)
    refine ⟨ends.now, ends.base, ends.runner, ends.files.directories, fun place _ => ?_⟩
    by_cases bySecond : place ∈ touchedSecond
    · have notFirst : place ∉ touchedFirst := fun written =>
        forward place written (footprintSecond.own place bySecond)
      exact (secondAgain.matching.files.nodes place (footprintSecond.own place bySecond)).trans
        (lateAgain.files.nodes place notFirst)
    · have unwritten := late.files.nodes place bySecond
      by_cases byFirst : place ∈ touchedFirst
      · exact unwritten.symm.trans
          (firstAgain.matching.files.nodes place (footprintFirst.own place byFirst))
      · calc after.files.find? place = middle.files.find? place := unwritten.symm
          _ = left.files.find? place := (early.files.nodes place byFirst).symm
          _ = right.files.find? place := matching.files.nodes place trivial
          _ = between.files.find? place := earlyAgain.files.nodes place bySecond
          _ = later.files.find? place := lateAgain.files.nodes place byFirst
  · obtain ⟨issuedFirst, ranMiddle, ranLater⟩ := firstAgain.ran
    obtain ⟨issuedSecond, ranAfter, ranBetween⟩ := secondAgain.ran
    refine ⟨issuedFirst ++ issuedSecond, issuedSecond ++ issuedFirst, ?_, ?_,
      List.perm_append_comm⟩
    · rw [ranAfter, ranMiddle, List.append_assoc]
    · rw [ranLater, ranBetween, List.append_assoc]

end Bindery.Action
