/-!
Contract: a text up to the first place of a character, its mark.

Owns:
- what is read, and what is passed, up to a mark that the text before it does not have;
- that the first mark cuts a text in one way only;
- that a word without the mark stands on one side of it.

Does **not** own: a text that is cut at all of its marks (`Bindery.Text.splitAt`).
-/

namespace Bindery.Text

variable {mark : Char} {text text' word left left' : List Char}

theorem bne_of_notMem (absent : mark ∉ text) : ∀ c ∈ text, (c != mark) = true :=
  fun _ among => bne_iff_ne.2 fun same => absent (same ▸ among)

theorem takeWhile_append_mark (absent : mark ∉ text) (left : List Char) :
    (text ++ mark :: left).takeWhile (· != mark) = text := by
  rw [List.takeWhile_append_of_pos (bne_of_notMem absent), List.takeWhile_cons_of_neg (by simp),
    List.append_nil]

theorem dropWhile_append_of_notMem (absent : mark ∉ text) (left : List Char) :
    (text ++ left).dropWhile (· != mark) = left.dropWhile (· != mark) :=
  List.dropWhile_append_of_pos (bne_of_notMem absent)

/-- A text tells what stands before its first mark, and so what stands behind it. -/
theorem eq_of_append_mark (absent : mark ∉ text) (absent' : mark ∉ text')
    (same : text ++ mark :: left = text' ++ mark :: left') : text = text' ∧ left = left' := by
  have texts : text = text' := by
    rw [← takeWhile_append_mark absent left, same, takeWhile_append_mark absent' left']
  subst texts
  exact ⟨rfl, (List.cons.inj (List.append_cancel_left same)).2⟩

/-- What does not reach over a mark is part of the text that it begins. -/
theorem prefix_of_notMem (absent : mark ∉ word) (same : word ++ left = text ++ mark :: left') :
    word <+: text := by
  rcases List.append_eq_append_iff.1 same with ⟨rest, rfl, _⟩ | ⟨rest, rfl, cut⟩
  · exact List.prefix_append word rest
  · cases rest with
    | nil => simp
    | cons c others =>
        obtain ⟨rfl, _⟩ := List.cons.inj cut
        exact absurd (by simp) absent

/-- A word without the mark is on one of the two sides of it. -/
theorem infix_of_notMem (absent : mark ∉ word) (among : word <:+: text ++ mark :: left) :
    word <:+: text ∨ word <:+: left := by
  obtain ⟨before, after, shape⟩ := among
  rw [List.append_assoc] at shape
  rcases List.append_eq_append_iff.1 shape with ⟨rest, rfl, cut⟩ | ⟨rest, rfl, cut⟩
  · left
    exact (prefix_of_notMem absent cut).isInfix.trans (List.suffix_append before rest).isInfix
  · cases rest with
    | cons c others =>
        obtain ⟨_, rfl⟩ := List.cons.inj cut
        right
        exact ⟨others, after, List.append_assoc _ _ _⟩
    | nil =>
        cases word with
        | nil => exact .inl List.nil_infix
        | cons c others =>
            obtain ⟨rfl, _⟩ := List.cons.inj cut
            exact absurd List.mem_cons_self absent

end Bindery.Text
