/-!
Contract: computations that change a state and may fail, and lists of questions put to them.

Owns:
- `Attempt`, for any faults and states, and the inversions by which one is taken apart at a bind;
- `Answers`, the questions of a list answered one after another, each in the state that the one
  before it has left;
- that asking all of a list gives these answers, or the first fault, behind which nothing is asked;
- `listing`, which lists the questions that are asked, and `Adds`, which says of an attempt that it
  adds to such a list and does not look at it.

Does **not** own: the actions of a build, which are attempts in its world
(`Bindery.Proofs.World.Effect`).
-/

namespace Bindery

/-- A computation that may fail and keeps the state that it has come to, whether or not it does. -/
abbrev Attempt (ε σ : Type) : Type → Type :=
  ExceptT ε (StateM σ)

namespace Attempt

variable {ε σ α β : Type}

/-- The answer of an attempt, or its fault, and the state behind it. -/
def exec (attempt : Attempt ε σ α) (state : σ) : Except ε α × σ :=
  ExceptT.run attempt state

theorem exec_pure_eq_ok_iff {value found : α} {before after : σ} :
    exec (pure value : Attempt ε σ α) before = (.ok found, after) ↔
      found = value ∧ after = before := by
  show ((Except.ok value : Except ε α), before) = (.ok found, after) ↔ _
  rw [Prod.mk.injEq, Except.ok.injEq, eq_comm, eq_comm (a := before)]

theorem exec_pure_ne_error {value : α} {fault : ε} {before after : σ} :
    exec (pure value : Attempt ε σ α) before ≠ (.error fault, after) := by
  intro impossible
  obtain ⟨result, _⟩ := Prod.mk.inj impossible
  contradiction

variable {attempt : Attempt ε σ α} {next : α → Attempt ε σ β} {before after : σ} {value : β}
variable {fault : ε}

theorem exec_bind (attempt : Attempt ε σ α) (next : α → Attempt ε σ β) (state : σ) :
    exec (attempt >>= next) state =
      match attempt.exec state with
      | (.ok value, after) => (next value).exec after
      | (.error fault, after) => (.error fault, after) := by
  change StateT.bind attempt (ExceptT.bindCont next) state = _
  simp only [StateT.bind, exec, ExceptT.run]
  rcases attempt state with ⟨result, after⟩
  cases result with
  | ok value => rfl
  | error fault => rfl

theorem exec_bind_eq_ok_iff :
    exec (attempt >>= next) before = (.ok value, after) ↔
      ∃ first middle, attempt.exec before = (.ok first, middle) ∧
        (next first).exec middle = (.ok value, after) := by
  rw [exec_bind]
  constructor
  · intro ran
    split at ran
    · exact ⟨_, _, by assumption, ran⟩
    · simp at ran
  · rintro ⟨first, middle, start, rest⟩
    rw [start]
    exact rest

theorem exec_bind_eq_error_iff :
    exec (attempt >>= next) before = (.error fault, after) ↔
      attempt.exec before = (.error fault, after) ∨
        ∃ first middle, attempt.exec before = (.ok first, middle) ∧
          (next first).exec middle = (.error fault, after) := by
  rw [exec_bind]
  constructor
  · intro ran
    split at ran
    · exact .inr ⟨_, _, by assumption, ran⟩
    · rename_i other middle start
      obtain ⟨same, rfl⟩ := Prod.mk.inj ran
      obtain rfl := Except.error.inj same
      exact .inl start
  · rintro (start | ⟨first, middle, start, rest⟩)
    · rw [start]
    · rw [start]
      exact rest

theorem exec_map_eq_ok_iff {convert : α → β} :
    exec (convert <$> attempt) before = (.ok value, after) ↔
      ∃ first, attempt.exec before = (.ok first, after) ∧ value = convert first := by
  rw [map_eq_pure_bind, exec_bind_eq_ok_iff]
  constructor
  · rintro ⟨first, middle, start, given⟩
    obtain ⟨same, rfl⟩ := exec_pure_eq_ok_iff.1 given
    exact ⟨first, start, same⟩
  · rintro ⟨first, start, same⟩
    exact ⟨first, after, start, exec_pure_eq_ok_iff.2 ⟨same, rfl⟩⟩

theorem exec_map_eq_error_iff {convert : α → β} :
    exec (convert <$> attempt) before = (.error fault, after) ↔
      attempt.exec before = (.error fault, after) := by
  rw [map_eq_pure_bind, exec_bind_eq_error_iff]
  apply or_iff_left
  rintro ⟨first, middle, _, impossible⟩
  exact exec_pure_ne_error impossible

/-! ## Lists of questions -/

/-- The questions are answered one after another, each in the state that the one before it has
left. -/
inductive Answers (ask : α → Attempt ε σ β) : σ → List α → List β → σ → Prop where
  | done (state : σ) : Answers ask state [] [] state
  | next {before middle after : σ} {question : α} {answer : β} {questions : List α}
      {answers : List β} (answered : (ask question).exec before = (.ok answer, middle))
      (others : Answers ask middle questions answers after) :
      Answers ask before (question :: questions) (answer :: answers) after

variable {ask : α → Attempt ε σ β} {questions : List α} {answers : List β}

/-- Asking a list of questions succeeds with the answers that they have one after another. -/
theorem exec_mapM_eq_ok_iff :
    exec (questions.mapM ask) before = (.ok answers, after) ↔
      Answers ask before questions answers after := by
  induction questions generalizing before answers with
  | nil =>
      rw [List.mapM_nil, exec_pure_eq_ok_iff]
      constructor
      · rintro ⟨rfl, rfl⟩
        exact .done _
      · rintro ⟨⟩
        exact ⟨rfl, rfl⟩
  | cons question rest inductionHypothesis =>
      rw [List.mapM_cons, exec_bind_eq_ok_iff]
      constructor
      · rintro ⟨answer, middle, answered, ran⟩
        obtain ⟨others, last, asked, given⟩ := exec_bind_eq_ok_iff.1 ran
        obtain ⟨rfl, rfl⟩ := exec_pure_eq_ok_iff.1 given
        exact .next answered (inductionHypothesis.1 asked)
      · rintro (_ | ⟨answered, others⟩)
        refine ⟨_, _, answered, ?_⟩
        exact exec_bind_eq_ok_iff.2
          ⟨_, _, inductionHypothesis.2 others, exec_pure_eq_ok_iff.2 ⟨rfl, rfl⟩⟩

/-- Asking a list of questions fails with the fault of one of them, in the state that the answers to
those before it have left. -/
theorem exec_mapM_eq_error_iff :
    exec (questions.mapM ask) before = (.error fault, after) ↔
      ∃ earlier question later answers middle, questions = earlier ++ question :: later ∧
        Answers ask before earlier answers middle ∧
        (ask question).exec middle = (.error fault, after) := by
  induction questions generalizing before with
  | nil =>
      rw [List.mapM_nil]
      apply iff_of_false exec_pure_ne_error
      rintro ⟨earlier, question, later, _, _, impossible, _⟩
      simp at impossible
  | cons question rest inductionHypothesis =>
      rw [List.mapM_cons, exec_bind_eq_error_iff]
      constructor
      · rintro (failed | ⟨answer, middle, answered, ran⟩)
        · exact ⟨[], question, rest, [], before, rfl, .done before, failed⟩
        · rcases exec_bind_eq_error_iff.1 ran with failed | ⟨_, _, _, impossible⟩
          · obtain ⟨earlier, other, later, answers, last, rfl, others, failed⟩ :=
              inductionHypothesis.1 failed
            exact ⟨question :: earlier, other, later, answer :: answers, last, rfl,
              .next answered others, failed⟩
          · exact absurd impossible exec_pure_ne_error
      · rintro ⟨earlier, other, later, answers, last, same, answered, failed⟩
        cases answered with
        | done =>
            obtain ⟨rfl, rfl⟩ := List.cons.inj same
            exact .inl failed
        | next first others =>
            obtain ⟨rfl, rfl⟩ := List.cons.inj same
            refine .inr ⟨_, _, first, exec_bind_eq_error_iff.2 (.inl ?_)⟩
            exact inductionHypothesis.2 ⟨_, other, later, _, last, rfl, others, failed⟩

/-! ## Listing the questions -/

/-- Answers a question as `ask` does, and adds it to a list, whether or not it is answered. -/
def listing (ask : α → Attempt ε σ β) (question : α) : Attempt ε (σ × List α) β :=
  ExceptT.mk fun (state, asked) =>
    let (answer, after) := (ask question).exec state
    (answer, after, asked ++ [question])

/-- The attempt adds to a list behind what is in it, and does the same whatever is in it. -/
def Adds {γ : Type} (attempt : Attempt ε (σ × List γ) β) : Prop :=
  ∀ state asked, attempt.exec (state, asked) =
    ((attempt.exec (state, [])).1, (attempt.exec (state, [])).2.1,
      asked ++ (attempt.exec (state, [])).2.2)

theorem adds_pure {γ : Type} (value : β) : Adds (pure value : Attempt ε (σ × List γ) β) := by
  intro state asked
  show ((Except.ok value : Except ε β), state, asked) = (.ok value, state, asked ++ [])
  rw [List.append_nil]

theorem adds_bind {γ : Type} {attempt : Attempt ε (σ × List γ) α}
    {next : α → Attempt ε (σ × List γ) β} (first : Adds attempt)
    (later : ∀ value, Adds (next value)) : Adds (attempt >>= next) := by
  intro state asked
  rw [exec_bind, exec_bind, first state asked]
  rcases attempt.exec (state, []) with ⟨result, middle, added⟩
  cases result with
  | error fault => rfl
  | ok value =>
      show (next value).exec (middle, asked ++ added) =
        (((next value).exec (middle, added)).1, ((next value).exec (middle, added)).2.1,
          asked ++ ((next value).exec (middle, added)).2.2)
      rw [later value middle (asked ++ added), later value middle added, List.append_assoc]

theorem adds_listing (ask : α → Attempt ε σ β) (question : α) : Adds (listing ask question) :=
  fun _ _ => rfl

end Attempt

end Bindery
