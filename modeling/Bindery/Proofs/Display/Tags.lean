import Bindery.Display.Markup
import Bindery.Proofs.Display.Straight
import Bindery.Proofs.Text.Occurrence

/-!
Contract: which texts with tags show themselves.

Owns:
- `Tag.spell`, a tag as it is written, and that the pieces of a text spell it;
- `Inert`, the texts in which nothing is a tag and no backslash stands before a bracket. They show
  themselves;
- that any other text, if it can be read at all, shows a part of itself in which a bracket or a
  backslash is missing;
- `Readable`, the texts that can be read and whose styles can be read.

Does **not** own: which tags match each other, and the names of styles.
-/

namespace Bindery.Display.Markup

/-! ## Tags as they are written -/

/-- A tag without the backslashes before it. -/
def Tag.bare (tag : Tag) : List Char :=
  '[' :: tag.content ++ [']']

/-- A tag as it is written. -/
def Tag.spell (tag : Tag) : List Char :=
  List.replicate tag.escapes '\\' ++ tag.bare

theorem take_length_takeWhile {α : Type} (admits : α → Bool) (text : List α) :
    text.take (text.takeWhile admits).length = text.takeWhile admits :=
  (List.prefix_iff_eq_take.1 (List.takeWhile_prefix admits)).symm

theorem eq_spell_of_recognise {text : List Char} {tag : Tag} {taken : Nat}
    (found : recognise text = some (tag, taken)) :
    ∃ rest, text = tag.spell ++ rest ∧ taken = tag.spell.length := by
  unfold recognise at found
  simp only [] at found
  generalize count : (text.takeWhile (· = '\\')).length = escapes at found
  have front : text.take escapes = List.replicate escapes '\\' := by
    have own := take_length_takeWhile (fun c => decide (c = '\\')) text
    rw [count] at own
    rw [own, List.eq_replicate_iff]
    exact ⟨count, fun c member => by
      simpa using List.all_eq_true.1 List.all_takeWhile c member⟩
  have whole := List.take_append_drop escapes text
  cases behind : text.drop escapes with
  | nil =>
      rw [behind] at found
      contradiction
  | cons bracket others =>
      rw [behind] at found whole
      split at found
      · rename_i first rest same
        obtain ⟨rfl, rfl⟩ := List.cons.inj same
        split at found
        · rename_i closes
          simp only [Option.some.injEq, Prod.mk.injEq] at found
          obtain ⟨rfl, rfl⟩ := found
          have own := take_length_takeWhile (fun c => c != ']' && c != '[') rest
          generalize rest.takeWhile (fun c => c != ']' && c != '[') = content at closes own ⊢
          have inner := List.take_append_drop content.length rest
          cases shape : rest.drop content.length with
          | nil => simp [shape] at closes
          | cons last left =>
              simp only [shape, List.head?_cons, Option.some.injEq, Bool.and_eq_true,
                decide_eq_true_eq] at closes
              rw [own, shape, closes.2] at inner
              refine ⟨left, ?_, ?_⟩
              · rw [← whole, front, ← inner]
                simp [Tag.spell, Tag.bare]
              · simp [Tag.spell, Tag.bare]
                omega
        · contradiction
      · contradiction

theorem spell_ne_nil (tag : Tag) : tag.spell ≠ [] := by
  simp [Tag.spell, Tag.bare]

/-- The pieces of a text, put together as they are written, are the text. -/
theorem assemble_scan (text : List Char) :
    Text.assemble Tag.spell (Text.scan recognise text) = text := by
  induction total : text.length using Nat.strongRecOn generalizing text with
  | ind size inductionHypothesis =>
  cases text with
  | nil => rfl
  | cons c rest =>
      cases found : recognise (c :: rest) with
      | none =>
          rw [Text.scan_cons_of_none found]
          show c :: Text.assemble Tag.spell (Text.scan recognise rest) = c :: rest
          rw [inductionHypothesis rest.length (by simp [← total]) rest rfl]
      | some answer =>
          obtain ⟨tag, taken⟩ := answer
          obtain ⟨left, whole, rfl⟩ := eq_spell_of_recognise found
          rw [whole] at found total
          rw [whole, Text.scan_append_of_some found (spell_ne_nil tag)]
          show tag.spell ++ Text.assemble Tag.spell (Text.scan recognise left) = tag.spell ++ left
          have shorter : left.length < size := by
            have nonempty := List.length_pos_iff.2 (spell_ne_nil tag)
            rw [List.length_append] at total
            omega
          rw [inductionHypothesis left.length shorter left rfl]

/-! ## Inert texts -/

/-- Texts in which nothing is a tag and no backslash stands before a bracket. -/
def Inert (text : List Char) : Prop :=
  Text.occurs recognise text = false ∧ ¬ ['\\', '['] <:+: text

instance (text : List Char) : Decidable (Inert text) :=
  inferInstanceAs (Decidable (_ ∧ ¬ _))

theorem inert_of_notMem {text : List Char} (absent : '[' ∉ text) : Inert text := by
  constructor
  · rw [← Bool.not_eq_true, Text.occurs_iff]
    rintro ⟨place, suffix, _, applies⟩
    obtain ⟨⟨tag, taken⟩, found⟩ := Option.isSome_iff_exists.1 applies
    obtain ⟨rest, whole, _⟩ := eq_spell_of_recognise found
    refine absent (suffix.subset ?_)
    rw [whole]
    simp [Tag.spell, Tag.bare]
  · intro inside
    exact absent (inside.subset (by simp))

theorem dropControls_append (left right : List Char) :
    dropControls (left ++ right) = dropControls left ++ dropControls right :=
  List.filter_append left right

theorem Draft.add_append (draft : Draft) (left right : List Char) :
    draft.add (left ++ right) = (draft.add left).add right := by
  simp [Draft.add, dropControls_append, Nat.add_assoc]

theorem readFrom_cons {draft : Draft} {c : Char} {rest : List (Text.Piece Tag)}
    (apart : ∀ others, rest = .plain '[' :: others → c = '\\' → False) :
    readFrom draft (.plain c :: rest) = readFrom (draft.add [c]) rest := by
  rw [readFrom]
  exact apart

/-- Plain characters are added as they are, if no backslash stands before a bracket. -/
theorem readFrom_plain {text : List Char} (draft : Draft) (apart : ¬ ['\\', '['] <:+: text) :
    readFrom draft (text.map .plain) = .ok (draft.add text) := by
  induction text generalizing draft with
  | nil => rfl
  | cons c rest inductionHypothesis =>
      have behind := inductionHypothesis (draft.add [c]) fun inside =>
        apart (inside.trans (List.suffix_cons c rest).isInfix)
      rw [← Draft.add_append, List.singleton_append] at behind
      rw [List.map_cons, readFrom_cons, behind]
      rintro others same rfl
      cases rest with
      | nil => contradiction
      | cons next _ =>
          obtain rfl := Text.Piece.plain.inj (List.cons.inj same).1
          exact apart (List.prefix_append ['\\', '['] _).isInfix

/-- An inert text shows itself, except for what moves the cursor. -/
theorem read_of_inert {text : List Char} (inert : Inert text) :
    read text = .ok (.plain (dropControls text)) := by
  unfold read
  split
  · rw [Text.scan_of_not_occurs inert.1, readFrom_plain _ inert.2]
    simp [Except.map, Draft.finish, Draft.add, StyledText.plain]
  · rfl

/-! ## Other texts -/

/-- The brackets and backslashes of a text. -/
def marks (text : List Char) : Nat :=
  text.countP fun c => c = '[' || c = '\\'

theorem marks_append (left right : List Char) : marks (left ++ right) = marks left + marks right :=
  List.countP_append

theorem marks_le_of_sublist {part text : List Char} (within : part.Sublist text) :
    marks part ≤ marks text :=
  within.countP_le

theorem Draft.close_reversed {draft closed : Draft} {name : List Char}
    (closes : draft.close name = .ok closed) : closed.reversed = draft.reversed := by
  obtain ⟨⟨tag, opened⟩, _, behind⟩ := exists_of_bind closes
  dsimp only at behind
  split at behind
  · split at behind
    · rw [← Except.ok.inj behind]
      rfl
    · contradiction
  · rw [← Except.ok.inj behind]
    rfl

/-- A tag shows nothing itself. -/
theorem Draft.step_reversed {draft stepped : Draft} {tag : Tag}
    (steps : draft.step tag = .ok stepped) : stepped.reversed = draft.reversed := by
  unfold step at steps
  split at steps
  · exact close_reversed steps
  · obtain ⟨normal, _, behind⟩ := exists_of_bind steps
    rw [← Except.ok.inj behind]

theorem marks_backslashes (count : Nat) : marks (List.replicate count '\\') = count := by
  simp [marks, List.countP_replicate]

theorem marks_dropControls_le (text : List Char) : marks (dropControls text) ≤ marks text :=
  marks_le_of_sublist List.filter_sublist

/-- A part of a text in which a bracket or a backslash of the text is missing. -/
def Loses (part text : List Char) : Prop :=
  part.Sublist text ∧ marks part < marks text

theorem Loses.append {part text added rest : List Char} (loses : Loses part text)
    (within : added.Sublist rest) : Loses (part ++ added) (text ++ rest) := by
  refine ⟨loses.1.append within, ?_⟩
  rw [marks_append, marks_append]
  exact Nat.add_lt_add_of_lt_of_le loses.2 (marks_le_of_sublist within)

theorem sublist_halved (tag : Tag) :
    (dropControls (List.replicate (tag.escapes / 2) '\\')).Sublist
      (List.replicate tag.escapes '\\') :=
  List.filter_sublist.trans
    (List.replicate_sublist_replicate _ |>.2 (Nat.div_le_self tag.escapes 2))

theorem marks_halved_le (tag : Tag) :
    marks (dropControls (List.replicate (tag.escapes / 2) '\\')) ≤ tag.escapes / 2 :=
  Nat.le_trans (marks_dropControls_le _) (Nat.le_of_eq (marks_backslashes _))

/-- An escaped tag loses a backslash. -/
theorem loses_of_odd {tag : Tag} (odd : tag.escapes % 2 = 1) :
    Loses (dropControls (List.replicate (tag.escapes / 2) '\\') ++ dropControls tag.bare)
      tag.spell := by
  refine ⟨(sublist_halved tag).append List.filter_sublist, ?_⟩
  have halved := marks_halved_le tag
  have inner := marks_dropControls_le tag.bare
  rw [Tag.spell, marks_append, marks_append, marks_backslashes]
  omega

/-- Any other tag loses its brackets. -/
theorem loses_tag (tag : Tag) :
    Loses (dropControls (List.replicate (tag.escapes / 2) '\\')) tag.spell := by
  refine ⟨(sublist_halved tag).trans (List.sublist_append_left _ _), ?_⟩
  have halved := marks_halved_le tag
  have opens : 0 < marks tag.bare := by simp [marks, Tag.bare]
  rw [Tag.spell, marks_append, marks_backslashes]
  omega

/-- A bracket behind a backslash that does not escape it belongs to a tag. -/
theorem exists_found_of_bracket {pieces : List (Text.Piece Tag)}
    (apart : ∀ others, pieces = .plain '[' :: others → '\\' = '\\' → False)
    (opens : ['['] <+: Text.assemble Tag.spell pieces) : ∃ tag, .found tag ∈ pieces := by
  cases pieces with
  | nil => exact absurd (List.prefix_nil.1 opens) (by simp)
  | cons piece others =>
      cases piece with
      | plain c =>
          obtain ⟨rfl, _⟩ := List.cons_prefix_cons.1 opens
          exact (apart others rfl rfl).elim
      | found tag => exact ⟨tag, List.mem_cons_self⟩

/-- What is added for pieces is a part of what is written. Where a tag or an escaped bracket is
written, a bracket or a backslash is not added. -/
theorem exists_added {draft result : Draft} {pieces : List (Text.Piece Tag)}
    (reads : readFrom draft pieces = .ok result) :
    ∃ added, result.reversed = added.reverse ++ draft.reversed ∧
      added.Sublist (Text.assemble Tag.spell pieces) ∧
      ((∃ tag, .found tag ∈ pieces) ∨ ['\\', '['] <:+: Text.assemble Tag.spell pieces →
        Loses added (Text.assemble Tag.spell pieces)) := by
  fun_induction readFrom draft pieces with
  | case1 draft =>
      rw [← Except.ok.inj reads]
      refine ⟨[], rfl, List.nil_sublist _, ?_⟩
      rintro (⟨tag, inside⟩ | inside)
      · exact absurd inside List.not_mem_nil
      · exact absurd (List.infix_nil.1 inside) (by simp)
  | case2 draft rest inductionHypothesis =>
      obtain ⟨added, grown, within, _⟩ := inductionHypothesis reads
      have escaped : Loses ['['] ['\\', '['] := ⟨by decide, by decide⟩
      have loses := escaped.append within
      exact ⟨'[' :: added, by simp [grown, Draft.add, dropControls, movesCursor], loses.1,
        fun _ => loses⟩
  | case3 draft c rest apart inductionHypothesis =>
      obtain ⟨added, grown, within, fewer⟩ := inductionHypothesis reads
      have own : (dropControls [c]).Sublist [c] := List.filter_sublist
      refine ⟨dropControls [c] ++ added, by simp [grown, Draft.add], own.append within,
        fun active => ⟨own.append within, ?_⟩⟩
      have behind : (∃ tag, .found tag ∈ rest) ∨
          ['\\', '['] <:+: Text.assemble Tag.spell rest := by
        rcases active with ⟨tag, inside⟩ | inside
        · exact .inl ⟨tag, by simpa using inside⟩
        · rcases List.infix_cons_iff.1 inside with front | later
          · obtain ⟨rfl, opens⟩ := List.cons_prefix_cons.1 front
            exact .inl (exists_found_of_bracket apart opens)
          · exact .inr later
      have here := marks_le_of_sublist own
      have shrunk := (fewer behind).2
      show marks (dropControls [c] ++ added) < marks ([c] ++ Text.assemble Tag.spell rest)
      rw [marks_append, marks_append]
      omega
  | case4 draft tag rest next odd inductionHypothesis =>
      obtain ⟨added, grown, within, _⟩ := inductionHypothesis reads
      have loses := (loses_of_odd odd).append within
      exact ⟨_, by simp [grown, next, Draft.add, Tag.bare], loses.1, fun _ => loses⟩
  | case5 draft tag rest next even stepped steps inductionHypothesis =>
      obtain ⟨added, grown, within, _⟩ := inductionHypothesis reads
      have loses := (loses_tag tag).append within
      refine ⟨_, ?_, loses.1, fun _ => loses⟩
      rw [grown, Draft.step_reversed steps]
      simp [next, Draft.add]
  | case6 => contradiction

theorem reversed_foldl_addSpan (draft : Draft) (opened : List OpenTag) :
    (opened.foldl (fun draft tag => draft.addSpan tag (some tag.style)) draft).reversed =
      draft.reversed := by
  induction opened generalizing draft with
  | nil => rfl
  | cons tag rest inductionHypothesis => exact inductionHypothesis (draft.addSpan tag _)

theorem text_finish (draft : Draft) : draft.finish.text = draft.reversed.reverse := by
  show (draft.opened.foldl _ draft).reversed.reverse = _
  rw [reversed_foldl_addSpan]

section Read

variable {text : List Char} {styled : StyledText}

/-- A text shows a part of itself, and all of its brackets and backslashes only if it is inert. -/
theorem shown_of_read (reads : read text = .ok styled) :
    styled.text.Sublist text ∧ (¬ Inert text → marks styled.text < marks text) := by
  unfold read at reads
  split at reads
  · cases drafted : readFrom ⟨[], 0, [], []⟩ (Text.scan recognise text) with
    | error fault =>
        rw [drafted] at reads
        contradiction
    | ok draft =>
        rw [drafted] at reads
        obtain ⟨added, grown, within, fewer⟩ := exists_added drafted
        rw [assemble_scan] at within fewer
        have shown : styled.text = added := by
          rw [← Except.ok.inj reads, text_finish, grown]
          simp
        rw [shown]
        refine ⟨within, fun active => (fewer ?_).2⟩
        by_cases occurs : Text.occurs recognise text = true
        · exact .inl (Text.exists_found_of_occurs occurs)
        · refine .inr (by_contra fun apart => active ⟨?_, apart⟩)
          exact Bool.not_eq_true _ |>.mp occurs
  · rename_i free
    rw [← Except.ok.inj reads]
    exact ⟨List.filter_sublist, fun active => absurd (inert_of_notMem (by simpa using free)) active⟩

/-- Texts that can be read, and of which the styles can be read. -/
def Readable (text : List Char) : Prop :=
  ∃ styled, read text = .ok styled ∧ styled.checkStyles = .ok ()

theorem readable_of_inert (inert : Inert text) : Readable text :=
  ⟨_, read_of_inert inert, rfl⟩

theorem Readable.exists_showable (readable : Readable text) (free : joiner ∉ text) :
    ∃ styled, read text = .ok styled ∧ styled.Showable := by
  obtain ⟨styled, reads, styles⟩ := readable
  exact ⟨styled, reads, fun member => free ((shown_of_read reads).1.subset member),
    StyledText.checkStyles_eq_ok_iff.1 styles⟩

end Read

/-! ## What is shown -/

/-- What a text with tags stands for; itself if it cannot be read. -/
def shown (text : List Char) : StyledText :=
  match read text with
  | .ok styled => styled
  | .error _ => .plain text

theorem shown_of_read_eq {text : List Char} {styled : StyledText}
    (reads : read text = .ok styled) : shown text = styled := by
  rw [shown, reads]

/-- What a text shows is a part of it. -/
theorem shown_sublist (text : List Char) : (shown text).text.Sublist text := by
  unfold shown
  split
  · rename_i styled reads
    exact (shown_of_read reads).1
  · exact List.Sublist.refl text

theorem marks_shown_lt {text : List Char} (reads : read text = .ok (shown text))
    (active : ¬ Inert text) : marks (shown text).text < marks text :=
  (shown_of_read reads).2 active

theorem dropControls_of_straight {text : List Char} (straight : Straight text) :
    dropControls text = text := by
  refine List.filter_eq_self.2 fun c member => ?_
  obtain ⟨least, _⟩ := straight c member
  simp only [movesCursor, Bool.not_eq_true', Bool.or_eq_false_iff, beq_eq_false_iff_ne]
  omega

theorem shown_of_inert {text : List Char} (straight : Straight text) (inert : Inert text) :
    shown text = .plain text := by
  rw [shown_of_read_eq (read_of_inert inert), dropControls_of_straight straight]

/-- A text can be read if it is read as what it shows, and the styles of that can be read. -/
theorem readable_iff {text : List Char} :
    Readable text ↔ read text = .ok (shown text) ∧ (shown text).checkStyles = .ok () := by
  unfold Readable shown
  cases read text with
  | error fault => simp
  | ok styled => simp

end Bindery.Display.Markup
