import Bindery.Text.Scan

/-!
Contract: whether a pattern occurs in a text at all.

Owns:
- `occurs`, which tries a pattern at every place of a text;
- what the edits of `Bindery.Text.Scan` do where nothing occurs, namely nothing, and the one case
  in which that can be read off the result: erasing gives the text back only if nothing occurs.

Does **not** own: what the occurrences of a single pattern look like.
-/

namespace Bindery.Text

variable {α : Type} {recognise : Recogniser α}

/-- Whether a pattern applies at some place of a text. -/
def occurs (recognise : Recogniser α) : List Char → Bool
  | [] => false
  | c :: rest => (recognise (c :: rest)).isSome || occurs recognise rest

theorem occurs_cons_eq_false {c : Char} {rest : List Char} :
    occurs recognise (c :: rest) = false ↔
      recognise (c :: rest) = none ∧ occurs recognise rest = false := by
  simp [occurs]

/-- The places at which a pattern is tried are the nonempty ends of the text. -/
theorem occurs_iff {text : List Char} :
    occurs recognise text = true ↔
      ∃ place, place <:+ text ∧ place ≠ [] ∧ (recognise place).isSome = true := by
  induction text with
  | nil =>
      constructor
      · intro found
        contradiction
      · rintro ⟨place, suffix, nonempty, _⟩
        exact absurd (List.suffix_nil.1 suffix) nonempty
  | cons c rest inductionHypothesis =>
      show ((recognise (c :: rest)).isSome || occurs recognise rest) = true ↔ _
      rw [Bool.or_eq_true, inductionHypothesis]
      constructor
      · rintro (here | ⟨place, suffix, nonempty, applies⟩)
        · exact ⟨c :: rest, List.suffix_rfl, by simp, here⟩
        · exact ⟨place, suffix.trans (List.suffix_cons c rest), nonempty, applies⟩
      · rintro ⟨place, suffix, nonempty, applies⟩
        rcases List.suffix_cons_iff.1 suffix with rfl | later
        · exact .inl applies
        · exact .inr ⟨place, later, nonempty, applies⟩

/-- A pattern that needs a certain first character occurs only where that character is. -/
theorem occurs_eq_false_of_notMem {first : Char} {text : List Char}
    (starts : ∀ c rest, c ≠ first → recognise (c :: rest) = none) (absent : first ∉ text) :
    occurs recognise text = false := by
  induction text with
  | nil => rfl
  | cons c rest inductionHypothesis =>
      rw [List.mem_cons, not_or] at absent
      apply occurs_cons_eq_false.2
      exact ⟨starts c rest (Ne.symm absent.1), inductionHypothesis absent.2⟩

/-! ## Scanning where nothing occurs -/

/-- What no place of the first text applies to is scanned apart from what follows it. -/
theorem scan_append_of_none {left right : List Char}
    (nothing : ∀ place, place <:+ left → place ≠ [] → recognise (place ++ right) = none) :
    scan recognise (left ++ right) = left.map .plain ++ scan recognise right := by
  induction left with
  | nil => rfl
  | cons c rest inductionHypothesis =>
      have here : recognise (c :: (rest ++ right)) = none :=
        nothing (c :: rest) List.suffix_rfl (List.cons_ne_nil c rest)
      rw [List.cons_append, scan_cons_of_none here]
      refine congrArg (.plain c :: ·) (inductionHypothesis fun place behind => ?_)
      exact nothing place (behind.trans (List.suffix_cons c rest))

/-- Where nothing occurs, every piece is a plain character. -/
theorem scan_of_not_occurs {text : List Char} (free : occurs recognise text = false) :
    scan recognise text = text.map .plain := by
  have nothing : ∀ place, place <:+ text → place ≠ [] → recognise (place ++ []) = none := by
    intro place behind nonempty
    rw [List.append_nil, ← Option.not_isSome_iff_eq_none]
    intro applies
    rw [occurs_iff.2 ⟨place, behind, nonempty, applies⟩] at free
    contradiction
  have apart := scan_append_of_none nothing
  rw [scan_nil, List.append_nil, List.append_nil] at apart
  exact apart

/-- Where a pattern occurs, an occurrence is found. -/
theorem exists_found_of_occurs {text : List Char} (found : occurs recognise text = true) :
    ∃ value, .found value ∈ scan recognise text := by
  induction text with
  | nil => contradiction
  | cons c rest inductionHypothesis =>
      cases here : recognise (c :: rest) with
      | some answer =>
          rw [scan_cons_of_some (show recognise (c :: rest) = some (answer.1, answer.2) from here)]
          exact ⟨answer.1, List.mem_cons_self⟩
      | none =>
          rw [occurs, here] at found
          obtain ⟨value, member⟩ := inductionHypothesis found
          rw [scan_cons_of_none here]
          exact ⟨value, List.mem_cons_of_mem _ member⟩

/-- What a pattern takes at the front of a text is one occurrence, and the rest is scanned apart. -/
theorem scan_append_of_some {word rest : List Char} {value : α}
    (h : recognise (word ++ rest) = some (value, word.length)) (nonempty : word ≠ []) :
    scan recognise (word ++ rest) = .found value :: scan recognise rest := by
  cases word with
  | nil => contradiction
  | cons c others =>
      rw [List.cons_append] at h ⊢
      rw [scan_cons_of_some h, List.length_cons, Nat.add_sub_cancel, List.drop_left]

theorem assemble_map_plain (render : α → List Char) (text : List Char) :
    assemble render (text.map .plain) = text := by
  induction text with
  | nil => rfl
  | cons c rest inductionHypothesis =>
      show c :: assemble render (rest.map .plain) = c :: rest
      rw [inductionHypothesis]

/-- Plain characters stay where they are. -/
theorem assembleM_plain_append {m : Type → Type} [Monad m] [LawfulMonad m]
    (render : α → m (List Char)) (text : List Char) (pieces : List (Piece α)) :
    assembleM render (text.map .plain ++ pieces) = (text ++ ·) <$> assembleM render pieces := by
  induction text with
  | nil => exact (id_map _).symm
  | cons c rest inductionHypothesis =>
      show (assembleM render (rest.map .plain ++ pieces) >>= fun text => pure (c :: text)) =
        (c :: rest ++ ·) <$> assembleM render pieces
      rw [inductionHypothesis, bind_pure_comp, Functor.map_map]
      rfl

theorem assembleM_map_plain {m : Type → Type} [Monad m] [LawfulMonad m] (render : α → m (List Char))
    (text : List Char) : assembleM render (text.map .plain) = pure text := by
  have apart := assembleM_plain_append render text []
  rw [List.append_nil] at apart
  rw [apart, assembleM, map_pure, List.append_nil]

/-- Pieces are put together one part after the other. -/
theorem assembleM_append {m : Type → Type} [Monad m] [LawfulMonad m] (render : α → m (List Char))
    (left right : List (Piece α)) :
    assembleM render (left ++ right) = do
      let front ← assembleM render left
      let back ← assembleM render right
      return front ++ back := by
  induction left with
  | nil => simp only [List.nil_append, assembleM, pure_bind, bind_pure]
  | cons piece rest inductionHypothesis =>
      cases piece with
      | plain c =>
          simp only [List.cons_append, assembleM, inductionHypothesis, bind_assoc, pure_bind]
      | found value =>
          simp only [List.cons_append, assembleM, inductionHypothesis, bind_assoc, pure_bind,
            List.append_assoc]

theorem replaceAll_of_not_occurs {old new text : List Char}
    (free : occurs (literal old) text = false) : replaceAll old new text = text := by
  unfold replaceAll
  split
  · rfl
  · rw [scan_of_not_occurs free]
    exact assemble_map_plain _ text

/-! ## Erasing -/

theorem erase_cons_of_none {c : Char} {rest : List Char} (h : recognise (c :: rest) = none) :
    erase recognise (c :: rest) = c :: erase recognise rest := by
  unfold erase
  rw [scan_cons_of_none h]
  rfl

theorem erase_cons_of_some {c : Char} {rest : List Char} {value : α} {taken : Nat}
    (h : recognise (c :: rest) = some (value, taken)) :
    erase recognise (c :: rest) = erase recognise (rest.drop (taken - 1)) := by
  unfold erase
  rw [scan_cons_of_some h]
  rfl

/-- Erasing makes no text longer. The induction is on a bound, because an occurrence may take any
number of characters. -/
theorem length_erase_le (recognise : Recogniser α) :
    ∀ (bound : Nat) (text : List Char), text.length ≤ bound →
      (erase recognise text).length ≤ text.length
  | _, [], _ => Nat.le_refl _
  | bound + 1, c :: rest, within => by
      have shorter : rest.length ≤ bound := Nat.le_of_succ_le_succ within
      cases tried : recognise (c :: rest) with
      | none =>
          rw [erase_cons_of_none tried]
          exact Nat.succ_le_succ (length_erase_le recognise bound rest shorter)
      | some found =>
          obtain ⟨value, taken⟩ := found
          have dropped : (rest.drop (taken - 1)).length ≤ rest.length := by
            rw [List.length_drop]
            omega
          rw [erase_cons_of_some tried]
          calc (erase recognise (rest.drop (taken - 1))).length
              ≤ (rest.drop (taken - 1)).length :=
                length_erase_le recognise bound _ (Nat.le_trans dropped shorter)
            _ ≤ rest.length := dropped
            _ ≤ (c :: rest).length := Nat.le_succ _

/-- Erasing gives a text back exactly when the pattern does not occur in it. -/
theorem erase_eq_self_iff {text : List Char} :
    erase recognise text = text ↔ occurs recognise text = false := by
  induction text with
  | nil => exact iff_of_true rfl rfl
  | cons c rest inductionHypothesis =>
      cases tried : recognise (c :: rest) with
      | none =>
          rw [erase_cons_of_none tried, List.cons_inj_right, inductionHypothesis,
            occurs_cons_eq_false]
          exact (and_iff_right tried).symm
      | some found =>
          obtain ⟨value, taken⟩ := found
          rw [erase_cons_of_some tried, occurs_cons_eq_false, tried]
          have shorter : (erase recognise (rest.drop (taken - 1))).length ≤ rest.length := by
            have bounded := length_erase_le recognise _ (rest.drop (taken - 1)) (Nat.le_refl _)
            rw [List.length_drop] at bounded
            omega
          apply iff_of_false
          · intro same
            rw [same, List.length_cons] at shorter
            omega
          · rintro ⟨impossible, _⟩
            contradiction

end Bindery.Text
