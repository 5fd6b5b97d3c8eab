import Bindery.Proofs.Path.Place

/-!
Contract: paths that lead up, and whether they come back.

Owns:
- `course`, names as the levels that they lead up and the names by which they then lead down, and
  that this is all that a walk along them depends on;
- `StaysUnder`, the paths that lead from a directory to a place under it, and which paths do so
  from every directory.

Does **not** own: whether the directories on the way are there (`Bindery.Proofs.FileStore.Access`).
-/

namespace Bindery.Path

/-! ## Up and down again -/

/-- One more name behind a course. A double dot takes the last name down back, or leads up. -/
def turn (course : Nat × List String) (name : String) : Nat × List String :=
  if name = ".." then
    if course.2 = [] then (course.1 + 1, []) else (course.1, course.2.dropLast)
  else (course.1, course.2 ++ [name])

/-- The levels that names lead up, and the names by which they then lead down. -/
def course (names : List String) : Nat × List String :=
  names.foldl turn (0, [])

/-- The place that a course leads to. Nothing is above the root. -/
def follow (place : Place) (course : Nat × List String) : Place :=
  place.take (place.length - course.1) ++ course.2

/-- One step of a walk is one more name of its course. -/
theorem descend_follow (place : Place) (so : Nat × List String) (name : String) :
    descend (follow place so) name = follow place (turn so name) := by
  obtain ⟨levels, names⟩ := so
  unfold descend turn follow
  by_cases up : name = ".."
  · by_cases top : names = []
    · simp [up, top, List.dropLast_eq_take, List.take_take]
      omega
    · simp [up, top, List.dropLast_append_of_ne_nil]
  · simp [up]

/-- A walk along names leads where their course does. -/
theorem foldl_descend (place : Place) (names : List String) :
    names.foldl descend place = follow place (course names) := by
  have onward : ∀ so, names.foldl descend (follow place so) =
      follow place (names.foldl turn so) := by
    induction names with
    | nil => exact fun so => rfl
    | cons name rest inductionHypothesis =>
        intro so
        rw [List.foldl_cons, descend_follow]
        exact inductionHypothesis _
  have start : follow place (0, []) = place := by simp [follow]
  have whole := onward (0, [])
  rwa [start] at whole

/-! ## Paths that stay under a directory -/

/-- A path that leads from a directory to a place under it. Where it leads up, it comes down again by
the names of the levels that it has left; an absolute path comes down by all of them. -/
def StaysUnder (directory : Place) (path : Path) : Prop :=
  (if path.isAbsolute then directory
    else directory.drop (directory.length - (course path.parts).1)) <+: (course path.parts).2

instance (directory : Place) (path : Path) : Decidable (path.StaysUnder directory) :=
  inferInstanceAs (Decidable (_ <+: _))

theorem prefix_follow_iff (directory : Place) (so : Nat × List String) :
    directory <+: follow directory so ↔ directory.drop (directory.length - so.1) <+: so.2 := by
  have halves := List.take_append_drop (directory.length - so.1) directory
  unfold follow
  constructor
  · intro under
    rw [← List.prefix_append_right_inj (directory.take (directory.length - so.1)), halves]
    exact under
  · intro down
    have joined := (List.prefix_append_right_inj (directory.take (directory.length - so.1))).2 down
    rwa [halves] at joined

/-- A path that is seen from a directory leads to a place under it exactly if it stays there. -/
theorem prefix_placeFrom_join_iff (base : Place) (directory path : Path) :
    directory.placeFrom base <+: (directory.join path).placeFrom base ↔
      path.StaysUnder (directory.placeFrom base) := by
  unfold StaysUnder join
  cases absolute : path.isAbsolute with
  | true =>
      simp only [if_true]
      have place : path.placeFrom base = (course path.parts).2 := by
        simp [placeFrom, absolute, foldl_descend, follow]
      rw [place]
  | false =>
      have place : (Path.mk directory.anchor (directory.parts ++ path.parts)).placeFrom base =
          follow (directory.placeFrom base) (course path.parts) := by
        rw [← foldl_descend]
        simp [placeFrom, isAbsolute]
      simp only [Bool.false_eq_true, if_false, place]
      exact prefix_follow_iff _ _

/-- A path stays under every directory exactly if it starts there and never leads up. -/
theorem staysUnder_all_iff (path : Path) :
    (∀ directory, path.StaysUnder directory) ↔
      path.isAbsolute = false ∧ (course path.parts).1 = 0 := by
  constructor
  · intro everywhere
    have relative : path.isAbsolute = false := by
      cases absolute : path.isAbsolute with
      | false => rfl
      | true =>
          have under := everywhere ((course path.parts).2 ++ [""])
          simp only [StaysUnder, absolute, if_true] at under
          exact absurd under.length_le (by simp)
    refine ⟨relative, ?_⟩
    rcases leads : course path.parts with ⟨levels, names⟩
    cases levels with
    | zero => rfl
    | succ above =>
        -- A path that leads up comes down by its own names, which are not those of every directory.
        obtain ⟨strange, other⟩ : ∃ strange, names.head? ≠ some strange := by
          cases names with
          | nil => exact ⟨"", by simp⟩
          | cons first rest =>
              refine ⟨first ++ "x", fun same => ?_⟩
              have longer := congrArg String.length (Option.some.inj same)
              simp [String.length_append] at longer
        have under := everywhere (List.replicate (above + 1) strange)
        simp only [StaysUnder, relative, leads, Bool.false_eq_true, if_false,
          List.length_replicate, Nat.sub_self, List.drop_zero] at under
        obtain ⟨rest, rfl⟩ := under
        exact absurd rfl other
  · rintro ⟨relative, level⟩ directory
    simp [StaysUnder, relative, level]

end Bindery.Path
