import Bindery.Proofs.Text.Joined
import Bindery.Text.Blank

/-!
Contract: a text cut at all of its line boundaries.

Owns:
- `Unbroken`, the lines that cutting gives;
- `StopsInside`, texts that do not stop at the end of a line, as no trimmed one does. A line feed
  behind them ends their last line and changes none;
- lines that are written one behind the other, with a line feed behind each or between two of them:
  cutting gives them back.

Does **not** own: cutting at line feeds alone (`Bindery.Proofs.Text.Joined`).
-/

namespace Bindery.Text

variable {c : Char} {text left line rest : List Char}

/-! ## Boundaries -/

/-- No character of the line ends it. -/
def Unbroken (line : List Char) : Prop :=
  ∀ c ∈ line, isLineBoundary c = false

instance (line : List Char) : Decidable (Unbroken line) :=
  List.decidableBAll _ line

/-- The last character of the text, if it has one, ends no line. -/
def StopsInside (text : List Char) : Prop :=
  ∀ c, text.getLast? = some c → isLineBoundary c = false

/-- What ends a line is blank. -/
theorem isLineBoundary_eq_false_of_isBlank (solid : isBlank c = false) :
    isLineBoundary c = false := by
  simp only [isBlank, isLineBoundary, Bool.or_eq_false_iff, Bool.and_eq_false_iff,
    decide_eq_false_iff_not, beq_eq_false_iff_ne] at solid ⊢
  omega

theorem Unbroken.tail (unbroken : Unbroken (c :: line)) : Unbroken line :=
  fun d among => unbroken d (List.mem_cons_of_mem c among)

theorem StopsInside.tail (stops : StopsInside (c :: rest)) : StopsInside rest := by
  intro d last
  apply stops
  rw [List.getLast?_cons, last]
  rfl

/-- A text that stops inside of a line goes on behind a boundary. -/
theorem StopsInside.ne_nil (stops : StopsInside (c :: rest)) (ends : isLineBoundary c = true) :
    rest ≠ [] := by
  rintro rfl
  have inside := stops c rfl
  rw [ends] at inside
  contradiction

/-- Trimmed text stops at a character that is not blank. -/
theorem stopsInside_trim (text : List Char) : StopsInside (trim text) := by
  intro c last
  have first : ((trimStart text).reverse.dropWhile isBlank).head? = some c := by
    rw [← List.getLast?_reverse]
    exact last
  have solid := List.head?_dropWhile_not isBlank (trimStart text).reverse
  rw [first] at solid
  exact isLineBoundary_eq_false_of_isBlank solid

/-! ## Cutting -/

/-- A character that ends no line begins the first of the lines behind it. -/
theorem breakLines_cons_of_inside (inside : isLineBoundary c = false) (rest : List Char) :
    breakLines (c :: rest) = (c :: (breakLines rest).headD []) :: (breakLines rest).tail := by
  have notReturn : c ≠ '\r' := by
    rintro rfl
    exact absurd inside (by decide)
  rw [breakLines.eq_3 _ _ fun _ same _ => notReturn same, if_neg (by simp [inside])]
  cases breakLines rest <;> rfl

theorem breakLines_lineFeed (rest : List Char) :
    breakLines ('\n' :: rest) = [] :: breakLines rest := by
  rw [breakLines.eq_3 _ _ fun _ same _ => absurd same (by decide), if_pos (by decide)]

/-- A boundary ends a line that has nothing in it. -/
theorem breakLines_of_boundary
    (single : ∀ others, c = '\r' → rest = '\n' :: others → False)
    (ends : isLineBoundary c = true) : breakLines (c :: rest) = [] :: breakLines rest := by
  rw [breakLines.eq_3 c rest single, if_pos ends]

/-- Induction on a text along its cutting: at the empty text, at the two kinds of boundaries, and at
a character inside of a line. -/
@[elab_as_elim]
theorem breaking_induction {motive : List Char → Prop} (text : List Char) (empty : motive [])
    (pair : ∀ rest, motive rest → motive ('\r' :: '\n' :: rest))
    (boundary : ∀ c rest, (∀ others, c = '\r' → rest = '\n' :: others → False) →
      isLineBoundary c = true → motive rest → motive (c :: rest))
    (inside : ∀ c rest, isLineBoundary c = false → motive rest → motive (c :: rest)) :
    motive text := by
  induction text using breakLines.induct with
  | case1 => exact empty
  | case2 rest behind => exact pair rest behind
  | case3 c rest single ends behind => exact boundary c rest single ends behind
  | case4 c rest _ solid _ behind => exact inside c rest (by simpa using solid) behind
  | case5 c rest _ solid _ _ _ behind => exact inside c rest (by simpa using solid) behind

theorem breakLines_ne_nil (some : text ≠ []) : breakLines text ≠ [] := by
  induction text using breaking_induction with
  | empty => contradiction
  | pair rest _ => exact List.cons_ne_nil _ _
  | boundary c rest single ends _ => simp [breakLines_of_boundary single ends]
  | inside c rest solid _ => simp [breakLines_cons_of_inside solid]

/-- Cutting leaves no boundary in a line. -/
theorem unbroken_of_mem_breakLines (among : line ∈ breakLines text) : Unbroken line := by
  induction text using breaking_induction generalizing line with
  | empty => contradiction
  | pair rest inductionHypothesis =>
      rcases List.mem_cons.1 among with rfl | later
      · exact nofun
      · exact inductionHypothesis later
  | boundary c rest single ends inductionHypothesis =>
      rw [breakLines_of_boundary single ends] at among
      rcases List.mem_cons.1 among with rfl | later
      · exact nofun
      · exact inductionHypothesis later
  | inside c rest solid inductionHypothesis =>
      have first : Unbroken ((breakLines rest).headD []) := by
        cases shape : breakLines rest with
        | nil => exact nofun
        | cons line others =>
            apply inductionHypothesis
            rw [shape]
            exact List.mem_cons_self
      rw [breakLines_cons_of_inside solid] at among
      rcases List.mem_cons.1 among with rfl | later
      · exact List.forall_mem_cons.2 ⟨solid, first⟩
      · exact inductionHypothesis (List.mem_of_mem_tail later)

/-- The last line of a text that stops inside of it is not empty. -/
theorem getLast?_breakLines_ne (stops : StopsInside text) :
    (breakLines text).getLast? ≠ some [] := by
  induction text using breaking_induction with
  | empty => exact nofun
  | pair rest inductionHypothesis =>
      have more : breakLines rest ≠ [] := breakLines_ne_nil (stops.tail.ne_nil (by decide))
      show ([] :: breakLines rest).getLast? ≠ some []
      rw [List.getLast?_cons_of_ne_nil more]
      exact inductionHypothesis stops.tail.tail
  | boundary c rest single ends inductionHypothesis =>
      have more : breakLines rest ≠ [] := breakLines_ne_nil (stops.ne_nil ends)
      rw [breakLines_of_boundary single ends, List.getLast?_cons_of_ne_nil more]
      exact inductionHypothesis stops.tail
  | inside c rest solid inductionHypothesis =>
      rw [breakLines_cons_of_inside solid]
      have behind := inductionHypothesis stops.tail
      rcases shape : breakLines rest with _ | ⟨line, _ | ⟨next, others⟩⟩
      · simp
      · simp
      · rw [shape, List.getLast?_cons_cons] at behind
        simpa only [List.tail_cons, List.getLast?_cons_cons] using behind

/-- A line feed ends a text that stops inside of a line, and nothing behind it changes the lines. -/
theorem breakLines_append_lineFeed (stops : StopsInside left) (some : left ≠ [])
    (right : List Char) :
    breakLines (left ++ '\n' :: right) = breakLines left ++ breakLines right := by
  induction left using breaking_induction with
  | empty => contradiction
  | pair rest inductionHypothesis =>
      have more : rest ≠ [] := stops.tail.ne_nil (by decide)
      exact congrArg ([] :: ·) (inductionHypothesis stops.tail.tail more)
  | boundary c rest single ends inductionHypothesis =>
      have more : rest ≠ [] := stops.ne_nil ends
      -- A carriage return at the end would be paired with the line feed; there is none.
      have alone : ∀ others, c = '\r' → rest ++ '\n' :: right = '\n' :: others → False := by
        intro others isReturn same
        obtain ⟨first, after, rfl⟩ := List.exists_cons_of_ne_nil more
        obtain ⟨rfl, _⟩ := List.cons.inj same
        exact single after isReturn rfl
      rw [List.cons_append, breakLines_of_boundary alone ends, breakLines_of_boundary single ends,
        inductionHypothesis stops.tail more]
      rfl
  | inside c rest solid inductionHypothesis =>
      rw [List.cons_append, breakLines_cons_of_inside solid, breakLines_cons_of_inside solid]
      by_cases last : rest = []
      · rw [last, List.nil_append, breakLines_lineFeed]
        rfl
      · obtain ⟨line, others, shape⟩ := List.exists_cons_of_ne_nil (breakLines_ne_nil last)
        rw [inductionHypothesis stops.tail last, shape]
        rfl

/-! ## Lines that are put together -/

theorem Unbroken.stopsInside (unbroken : Unbroken line) : StopsInside line :=
  fun c last => unbroken c (List.mem_of_getLast? last)

theorem breakLines_of_unbroken (unbroken : Unbroken line) (some : line ≠ []) :
    breakLines line = [line] := by
  induction line with
  | nil => contradiction
  | cons c line inductionHypothesis =>
      rw [breakLines_cons_of_inside (unbroken c List.mem_cons_self)]
      by_cases last : line = []
      · rw [last]
        rfl
      · rw [inductionHypothesis unbroken.tail last]
        rfl

/-- A line that is ended comes before the lines behind it. -/
theorem breakLines_of_unbroken_append (unbroken : Unbroken line) (rest : List Char) :
    breakLines (line ++ '\n' :: rest) = line :: breakLines rest := by
  by_cases empty : line = []
  · rw [empty]
    exact breakLines_lineFeed rest
  · rw [breakLines_append_lineFeed unbroken.stopsInside empty, breakLines_of_unbroken unbroken empty]
    rfl

variable {lines : List (List Char)}

/-- Lines that are all ended are cut into the same lines again. -/
theorem breakLines_flatMap (unbroken : ∀ line ∈ lines, Unbroken line) :
    breakLines (lines.flatMap (· ++ ['\n'])) = lines := by
  induction lines with
  | nil => rfl
  | cons line lines inductionHypothesis =>
      obtain ⟨first, others⟩ := List.forall_mem_cons.1 unbroken
      rw [List.flatMap_cons, List.append_assoc, List.singleton_append,
        breakLines_of_unbroken_append first, inductionHypothesis others]

/-- Lines that are joined are cut into the same lines again, if the last one can be seen. -/
theorem breakLines_intercalate (unbroken : ∀ line ∈ lines, Unbroken line)
    (ends : lines.getLast? ≠ some []) : breakLines (['\n'].intercalate lines) = lines := by
  induction lines with
  | nil => rfl
  | cons line lines inductionHypothesis =>
      obtain ⟨first, others⟩ := List.forall_mem_cons.1 unbroken
      by_cases single : lines = []
      · subst single
        rw [List.intercalate_singleton]
        exact breakLines_of_unbroken first fun empty => ends (by rw [empty]; rfl)
      · rw [List.getLast?_cons_of_ne_nil single] at ends
        rw [List.intercalate_cons_of_ne_nil single, List.append_assoc, List.singleton_append,
          breakLines_of_unbroken_append first, inductionHypothesis others ends]

/-! ## Lines of strings -/

theorem unbroken_of_mem_linesOf {text line : String} (among : line ∈ linesOf text) :
    Unbroken line.toList := by
  obtain ⟨chars, cut, rfl⟩ := List.mem_map.1 among
  rw [String.toList_ofList]
  exact unbroken_of_mem_breakLines cut

theorem linesOf_joinLines {lines : List String} (unbroken : ∀ line ∈ lines, Unbroken line.toList)
    (ends : lines.getLast? ≠ some "") : linesOf (joinLines lines) = lines := by
  have last : (lines.map String.toList).getLast? ≠ some [] := by
    rw [List.getLast?_map]
    simpa using ends
  have back : String.ofList ∘ String.toList = id := funext fun _ => String.ofList_toList
  unfold linesOf
  rw [toList_joinLines, breakLines_intercalate (by simpa using unbroken) last, List.map_map, back,
    List.map_id]

end Bindery.Text
