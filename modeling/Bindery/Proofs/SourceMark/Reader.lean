import Bindery.Proofs.Text.LineEnd
import Bindery.Proofs.Text.Occurrence
import Bindery.SourceMark

/-!
Contract: the deletion of source marks, in terms of what a mark leaves of a text.

Owns:
- `Takes`, the readers that take the same characters off every text that begins with them, and its
  laws for readers that are put together;
- `eraseBy`, the deletion of all that a reader takes, with one equation for a place where the reader
  applies and one for a place where it does not, and an induction along these;
- `eraseBy_append`, the deletion in two texts that are put together.

Does **not** own: the marks that there are (`Bindery.Proofs.SourceMark.Marks`).
-/

namespace Bindery.SourceMark

open Bindery.Text

/-- Takes something off the front of a text, and answers what is left. -/
abbrev Reader := List Char → Option (List Char)

/-! ## What a reader takes -/

/-- What the reader takes is of a certain form, and is taken off every text that begins with it. -/
def Takes (read : Reader) (form : List Char → Prop) : Prop :=
  ∀ text left, read text = some left →
    ∃ taken, form taken ∧ text = taken ++ left ∧ ∀ other, read (taken ++ other) = some other

/-- Something that does not reach over the end of a line. -/
def InLine (taken : List Char) : Prop :=
  taken ≠ [] ∧ '\n' ∉ taken

theorem InLine.behind {front taken : List Char} (whole : '\n' ∉ front) (inLine : InLine taken) :
    InLine (front ++ taken) :=
  ⟨List.append_ne_nil_of_right_ne_nil front inLine.1,
    fun among => (List.mem_append.1 among).elim whole inLine.2⟩

section

variable {read first second : Reader} {form earlier later whole : List Char → Prop}
variable {text left right : List Char}

theorem Takes.bind (one : Takes first earlier) (two : Takes second later)
    (joined : ∀ front behind, earlier front → later behind → whole (front ++ behind)) :
    Takes (fun text => (first text).bind second) whole := by
  intro text left found
  obtain ⟨middle, before, behind⟩ := Option.bind_eq_some_iff.1 found
  obtain ⟨front, formed, rfl, always⟩ := one text middle before
  obtain ⟨rest, ended, rfl, alwaysLater⟩ := two middle left behind
  refine ⟨front ++ rest, joined front rest formed ended, by rw [List.append_assoc], ?_⟩
  intro other
  show (first (front ++ rest ++ other)).bind second = some other
  rw [List.append_assoc, always]
  exact alwaysLater other

/-- Padding in front of something that does not begin with padding is taken as a whole. -/
theorem Takes.afterPadding {padding : Char → Bool} (takes : Takes read form)
    (stops : ∀ c rest, padding c = true → read (c :: rest) = none)
    (joined : ∀ front taken, (∀ c ∈ front, padding c = true) → form taken →
      whole (front ++ taken)) :
    Takes (fun text => read (text.dropWhile padding)) whole := by
  intro text left found
  obtain ⟨taken, formed, shape, always⟩ := takes _ left found
  have padded : ∀ c ∈ text.takeWhile padding, padding c = true :=
    List.all_eq_true.1 List.all_takeWhile
  refine ⟨text.takeWhile padding ++ taken, joined _ taken padded formed, ?_, ?_⟩
  · rw [List.append_assoc, ← shape, List.takeWhile_append_dropWhile]
  · intro other
    have stopped : (taken ++ other).dropWhile padding = taken ++ other := by
      have applies := always other
      cases begins : taken ++ other with
      | nil => rfl
      | cons c rest =>
          rw [begins] at applies
          apply List.dropWhile_cons_of_neg
          intro blank
          rw [stops c rest blank] at applies
          contradiction
    show read ((text.takeWhile padding ++ taken ++ other).dropWhile padding) = some other
    rw [List.append_assoc, List.dropWhile_append_of_pos padded, stopped]
    exact always other

theorem Takes.append_of_some (takes : Takes read form) (found : read text = some left)
    (right : List Char) : read (text ++ right) = some (left ++ right) := by
  obtain ⟨taken, _, rfl, always⟩ := takes text left found
  rw [List.append_assoc]
  exact always (left ++ right)

/-- What is found in a text only together with what follows reaches into that. -/
theorem Takes.suffix_of_none (takes : Takes read form) (nothing : read text = none)
    (found : read (text ++ right) = some left) :
    ∃ taken, form (text ++ taken) ∧ right = taken ++ left := by
  obtain ⟨taken, formed, shape, always⟩ := takes _ left found
  rcases List.append_eq_append_iff.1 shape with ⟨more, rfl, split_⟩ | ⟨more, rfl, _⟩
  · exact ⟨more, formed, split_⟩
  · rw [always more] at nothing
    contradiction

/-- A reader that stays in its line does not see what is behind the end of a text of whole lines. -/
theorem Takes.append_of_ended (takes : Takes read InLine) (ended : Ended text)
    (nonempty : text ≠ []) (right : List Char) :
    read (text ++ right) = (read text).map (· ++ right) := by
  cases alone : read text with
  | some left => exact takes.append_of_some alone right
  | none =>
      cases together : read (text ++ right) with
      | none => rfl
      | some left =>
          obtain ⟨taken, inLine, _⟩ := takes.suffix_of_none alone together
          have reached : '\n' ∈ text ++ taken :=
            List.mem_append_left taken (ended.lineFeed_mem nonempty)
          exact absurd reached inLine.2

/-- What such a reader leaves of a text of whole lines is not empty. -/
theorem Takes.ne_nil_of_ended (takes : Takes read InLine) (ended : Ended text)
    (nonempty : text ≠ []) (found : read text = some left) : left ≠ [] := by
  rintro rfl
  obtain ⟨taken, inLine, rfl, _⟩ := takes text [] found
  have reached := ended.lineFeed_mem nonempty
  rw [List.append_nil] at reached
  exact inLine.2 reached

end

/-! ## The rest of a line -/

theorem afterLine_suffix (text : List Char) : afterLine text <:+ text := by
  have dropped : text.dropWhile (· != '\n') <:+ text := List.dropWhile_suffix _
  unfold afterLine
  split
  · exact List.nil_suffix
  · rename_i c rest shape
    rw [shape] at dropped
    exact (List.suffix_cons c rest).trans dropped

/-- The rest of a line reaches over what has no end of a line. -/
theorem afterLine_append_of_notMem {text : List Char} (whole : '\n' ∉ text) (right : List Char) :
    afterLine (text ++ right) = afterLine right := by
  unfold afterLine
  rw [dropWhile_append_of_notMem whole]

/-- The end of a line is cut off what is taken with it. -/
theorem exists_afterLine_of_mem {text : List Char} (among : '\n' ∈ text) :
    ∃ line, text = line ++ '\n' :: afterLine text ∧
      ∀ right, afterLine (text ++ right) = afterLine text ++ right := by
  obtain ⟨line, rest, rfl, whole⟩ := List.eq_append_cons_of_mem among
  have cut (behind : List Char) : afterLine (line ++ '\n' :: behind) = behind := by
    rw [afterLine_append_of_notMem whole]
    rfl
  refine ⟨line, by rw [cut], fun right => ?_⟩
  rw [List.append_assoc, List.cons_append, cut, cut]

/-- What is behind the line in which a part of a text is taken is no longer than what is behind the
line. -/
theorem length_afterLine_le {taken left line after : List Char} (whole : '\n' ∉ line)
    (cut : line ++ after = taken ++ left) : (afterLine left).length ≤ after.length := by
  rcases List.append_eq_append_iff.1 cut with ⟨more, _, rfl⟩ | ⟨rest, rfl, rfl⟩
  · exact Nat.le_trans (afterLine_suffix left).length_le (List.suffix_append more left).length_le
  · rw [List.mem_append, not_or] at whole
    rw [afterLine_append_of_notMem whole.2]
    exact (afterLine_suffix after).length_le

/-- Takes the rest of the line as well. -/
def toLineEnd (read : Reader) : Reader := fun text =>
  (read text).map afterLine

theorem toLineEnd_of_some {read : Reader} {text tail : List Char} (found : read text = some tail) :
    toLineEnd read text = some (afterLine tail) :=
  congrArg (Option.map afterLine) found

theorem toLineEnd_eq_none_iff {read : Reader} {text : List Char} :
    toLineEnd read text = none ↔ read text = none :=
  Option.map_eq_none_iff

/-- A line that is ended is taken alike, whatever follows. -/
theorem Takes.toLineEnd_append {read : Reader} {form : List Char → Prop} {text tail : List Char}
    (takes : Takes read form) (found : read text = some tail) (lineEnds : '\n' ∈ tail)
    (right : List Char) : toLineEnd read (text ++ right) = some (afterLine tail ++ right) := by
  obtain ⟨_, _, apart⟩ := exists_afterLine_of_mem lineEnds
  rw [toLineEnd_of_some (takes.append_of_some found right), apart]

/-! ## Deletion -/

/-- Deletes all that a reader takes. -/
def eraseBy (read : Reader) (text : List Char) : List Char :=
  erase (fun text => takenFrom text (read text)) text

/-- Every place where the reader applies is passed. -/
def Consumes (read : Reader) : Prop :=
  ∀ text left, read text = some left → ∃ taken, taken ≠ [] ∧ text = taken ++ left

theorem Takes.consumes {read : Reader} {form : List Char → Prop} (takes : Takes read form)
    (some : ∀ taken, form taken → taken ≠ []) : Consumes read := by
  intro text left found
  obtain ⟨taken, formed, rfl, _⟩ := takes text left found
  exact ⟨taken, some taken formed, rfl⟩

theorem Consumes.toLineEnd {read : Reader} (consumes : Consumes read) :
    Consumes (toLineEnd read) := by
  intro text left found
  obtain ⟨rest, here, rfl⟩ := Option.map_eq_some_iff.1 found
  obtain ⟨taken, some, rfl⟩ := consumes text rest here
  obtain ⟨line, shape⟩ := afterLine_suffix rest
  refine ⟨taken ++ line, List.append_ne_nil_of_left_ne_nil some line, ?_⟩
  rw [List.append_assoc, shape]

section

variable {read : Reader} {text left right rest : List Char} {c : Char}

theorem eraseBy_cons_of_none (nothing : read (c :: rest) = none) :
    eraseBy read (c :: rest) = c :: eraseBy read rest := by
  apply erase_cons_of_none
  show takenFrom (c :: rest) (read (c :: rest)) = none
  rw [nothing]
  rfl

/-- Behind an occurrence, the scan goes on with what is left. -/
theorem scan_of_taken {α : Type} {recognise : Recogniser α} {taken : List Char} {value : α}
    (found : recognise (taken ++ left) = some (value, (taken ++ left).length - left.length))
    (some : taken ≠ []) : scan recognise (taken ++ left) = .found value :: scan recognise left := by
  rw [List.length_append, Nat.add_sub_cancel] at found
  exact scan_append_of_some found some

theorem Consumes.eraseBy_of_some (consumes : Consumes read) (found : read text = some left) :
    eraseBy read text = eraseBy read left := by
  obtain ⟨taken, some, rfl⟩ := consumes text left found
  have here : takenFrom (taken ++ left) (read (taken ++ left)) =
      Option.some ((), (taken ++ left).length - left.length) := by
    rw [found]
    rfl
  unfold eraseBy erase
  rw [scan_of_taken here some]
  rfl

/-- Induction along the deletion. A text is empty, or its first character stays, or something is
taken off it. The bound is on the length, because any number of characters may be taken. -/
@[elab_as_elim]
theorem Consumes.induction (consumes : Consumes read) {motive : List Char → Prop}
    (nil : motive [])
    (plain : ∀ c rest, read (c :: rest) = none → motive rest → motive (c :: rest))
    (found : ∀ text left, read text = some left → motive left → motive text)
    (text : List Char) : motive text := by
  suffices bounded : ∀ bound (text : List Char), text.length ≤ bound → motive text from
    bounded text.length text (Nat.le_refl _)
  intro bound
  induction bound with
  | zero =>
      intro text within
      rw [List.eq_nil_of_length_eq_zero (Nat.le_zero.1 within)]
      exact nil
  | succ bound inductionHypothesis =>
      intro text within
      cases tried : read text with
      | some left =>
          obtain ⟨taken, some, rfl⟩ := consumes text left tried
          have shorter : 0 < taken.length := List.length_pos_iff.2 some
          rw [List.length_append] at within
          exact found _ left tried (inductionHypothesis left (by omega))
      | none =>
          cases text with
          | nil => exact nil
          | cons c rest =>
              exact plain c rest tried (inductionHypothesis rest (Nat.le_of_succ_le_succ within))

/-- An invariant of the deletion in the first of two texts under which the second one does not
matter. -/
structure Separates (read : Reader) (right : List Char) (Holds : List Char → Prop) : Prop where
  alike : ∀ text, Holds text → text ≠ [] → read (text ++ right) = (read text).map (· ++ right)
  plain : ∀ c rest, Holds (c :: rest) → read (c :: rest) = none → Holds rest
  found : ∀ text left, Holds text → read text = some left → Holds left

/-- Texts with such an invariant are treated one by one. -/
theorem Consumes.eraseBy_append (consumes : Consumes read) {Holds : List Char → Prop}
    (separates : Separates read right Holds) (holds : Holds left) :
    eraseBy read (left ++ right) = eraseBy read left ++ eraseBy read right := by
  induction left using consumes.induction with
  | nil => rfl
  | plain c rest nothing inductionHypothesis =>
      have nothingHere : read (c :: (rest ++ right)) = none := by
        show read (c :: rest ++ right) = none
        rw [separates.alike _ holds (List.cons_ne_nil c rest), nothing]
        rfl
      rw [List.cons_append, eraseBy_cons_of_none nothingHere, eraseBy_cons_of_none nothing,
        inductionHypothesis (separates.plain c rest holds nothing)]
      rfl
  | found text left here inductionHypothesis =>
      have nonempty : text ≠ [] := by
        obtain ⟨taken, some, rfl⟩ := consumes text left here
        exact List.append_ne_nil_of_left_ne_nil some left
      have hereToo : read (text ++ right) = some (left ++ right) := by
        rw [separates.alike text holds nonempty, here]
        rfl
      rw [consumes.eraseBy_of_some hereToo, consumes.eraseBy_of_some here]
      exact inductionHypothesis (separates.found text left holds here)

/-- What no place of the first text takes anything off stays, whatever follows. -/
theorem eraseBy_append_of_none
    (nothing : ∀ place, place <:+ left → place ≠ [] → read (place ++ right) = none) :
    eraseBy read (left ++ right) = left ++ eraseBy read right := by
  have untaken : ∀ place, place <:+ left → place ≠ [] →
      takenFrom (place ++ right) (read (place ++ right)) = none := by
    intro place behind nonempty
    rw [nothing place behind nonempty]
    rfl
  unfold eraseBy erase
  rw [scan_append_of_none untaken, assemble_append, assemble_map_plain]

theorem length_eraseBy_le (read : Reader) (text : List Char) :
    (eraseBy read text).length ≤ text.length :=
  length_erase_le _ text.length text (Nat.le_refl _)

/-- A text of whole lines is treated apart from what follows if a reader is alike in both. -/
theorem Consumes.separates_ended (consumes : Consumes read)
    (alike : ∀ text, Ended text → text ≠ [] →
      read (text ++ right) = (read text).map (· ++ right)) : Separates read right Ended where
  alike := alike
  plain c rest ended _ := ended.of_suffix (List.suffix_cons c rest)
  found text left ended here := by
    obtain ⟨taken, _, rfl⟩ := consumes text left here
    exact ended.of_suffix (List.suffix_append taken left)

theorem Takes.separates (takes : Takes read InLine) (right : List Char) :
    Separates read right Ended :=
  (takes.consumes fun _ inLine => inLine.1).separates_ended fun _ ended nonempty =>
    takes.append_of_ended ended nonempty right

theorem Takes.separates_toLineEnd (takes : Takes read InLine) (right : List Char) :
    Separates (toLineEnd read) right Ended := by
  have consumes : Consumes read := takes.consumes fun _ inLine => inLine.1
  apply consumes.toLineEnd.separates_ended
  intro text ended nonempty
  cases found : read text with
  | none =>
      have nothing : read (text ++ right) = none := by
        rw [takes.append_of_ended ended nonempty, found]
        rfl
      rw [toLineEnd_eq_none_iff.2 nothing, toLineEnd_eq_none_iff.2 found]
      rfl
  | some left =>
      have goesOn : left ≠ [] := takes.ne_nil_of_ended ended nonempty found
      obtain ⟨taken, _, rfl⟩ := consumes text left found
      have endedBehind : Ended left := ended.of_suffix (List.suffix_append taken left)
      rw [takes.toLineEnd_append found (endedBehind.lineFeed_mem goesOn), toLineEnd_of_some found]
      rfl

/-- A reader that stays in its line leaves whole lines. -/
theorem Takes.ended_eraseBy (takes : Takes read InLine) (ended : Ended text) :
    Ended (eraseBy read text) := by
  have consumes : Consumes read := takes.consumes fun _ inLine => inLine.1
  suffices last : text ≠ [] → ['\n'] <:+ eraseBy read text by
    by_cases empty : text = []
    · rw [empty]
      exact ended_nil
    · exact .inr (last empty)
  intro nonempty
  induction text using consumes.induction with
  | nil => contradiction
  | plain c rest nothing inductionHypothesis =>
      rw [eraseBy_cons_of_none nothing]
      by_cases empty : rest = []
      · rw [empty] at ended ⊢
        exact ended.suffix (List.cons_ne_nil c [])
      · have later := inductionHypothesis (ended.of_suffix (List.suffix_cons c rest)) empty
        exact later.trans (List.suffix_cons c _)
  | found text left here inductionHypothesis =>
      have goesOn : left ≠ [] := takes.ne_nil_of_ended ended nonempty here
      obtain ⟨taken, _, rfl⟩ := consumes text left here
      rw [consumes.eraseBy_of_some here]
      exact inductionHypothesis (ended.of_suffix (List.suffix_append taken left)) goesOn

end

end Bindery.SourceMark
