import Bindery.Text.Scan
import Bindery.Proofs.Text.Occurrence
import Mathlib.Data.List.Infix

/-!
Contract: replacing all occurrences of one word in a text.

Owns:
- the reading of a text from left to right, past the occurrences of a word, as an induction;
- `StartsOutside`, that no occurrence of a word begins inside of one of another word;
- what a replacement does to the occurrences of another word: they stay where they are, and none
  comes up, as long as the text that is put in has no character of that word.

Does **not** own: tables of replacements (`Bindery.Substitution`).

## Why what is put in must not be empty

An empty text lets the two sides of an occurrence run into each other, and a word may come up across
that seam although none of its characters has been put in.
-/

namespace Bindery.Text

variable {old new word other text rest : List Char}

/-! ## Reading past the occurrences of a word -/

theorem literal_eq_none_iff : literal word text = none ↔ ¬ word <+: text := by
  unfold literal
  rw [← List.isPrefixOf_iff_prefix]
  split
  · rename_i begins
    simp [begins]
  · rename_i unbegun
    simp [unbegun]

theorem literal_append (word rest : List Char) :
    literal word (word ++ rest) = some ((), word.length) :=
  if_pos (List.isPrefixOf_iff_prefix.2 (List.prefix_append word rest))

/-- A nonempty word occurs in a text exactly if the text holds it. -/
theorem occurs_literal_iff (nonempty : word ≠ []) :
    occurs (literal word) text = true ↔ word <:+: text := by
  have applies : ∀ place, (literal word place).isSome = true ↔ word <+: place := by
    intro place
    rw [← Option.ne_none_iff_isSome, ne_eq, literal_eq_none_iff, not_not]
  simp only [occurs_iff, applies]
  constructor
  · rintro ⟨place, behind, _, begins⟩
    exact begins.isInfix.trans behind.isInfix
  · intro among
    obtain ⟨place, begins, behind⟩ := List.infix_iff_prefix_suffix.1 among
    refine ⟨place, behind, ?_, begins⟩
    rintro rfl
    exact nonempty (List.prefix_nil.1 begins)

@[simp]
theorem replaceAll_nil (old new : List Char) : replaceAll old new [] = [] := by
  unfold replaceAll
  split
  · rfl
  · rfl

theorem replaceAll_append (nonempty : old ≠ []) (new rest : List Char) :
    replaceAll old new (old ++ rest) = new ++ replaceAll old new rest := by
  have kept : ¬ old.isEmpty = true := fun empty => nonempty (List.isEmpty_iff.1 empty)
  unfold replaceAll
  rw [if_neg kept, if_neg kept, scan_append_of_some (literal_append old rest) nonempty]
  rfl

theorem replaceAll_cons {c : Char} (unbegun : ¬ old <+: c :: rest) (new : List Char) :
    replaceAll old new (c :: rest) = c :: replaceAll old new rest := by
  have kept : ¬ old.isEmpty = true := by
    intro empty
    rw [List.isEmpty_iff.1 empty] at unbegun
    exact unbegun List.nil_prefix
  unfold replaceAll
  rw [if_neg kept, if_neg kept, scan_cons_of_none (literal_eq_none_iff.2 unbegun)]
  rfl

/-- Characters at which the word does not begin stay as they are. -/
theorem replaceAll_append_of_unbegun
    (unbegun : ∀ place, place <:+ word → place ≠ [] → ¬ old <+: place ++ rest) (new : List Char) :
    replaceAll old new (word ++ rest) = word ++ replaceAll old new rest := by
  induction word with
  | nil => rfl
  | cons c others inductionHypothesis =>
      have here : ¬ old <+: c :: (others ++ rest) :=
        unbegun (c :: others) List.suffix_rfl (List.cons_ne_nil c others)
      rw [List.cons_append, replaceAll_cons here,
        inductionHypothesis fun place behind => unbegun place (behind.trans (List.suffix_cons c _)),
        List.cons_append]

theorem length_lt_append (nonempty : word ≠ []) (rest : List Char) :
    rest.length < (word ++ rest).length := by
  rw [List.length_append]
  exact Nat.lt_add_of_pos_left (List.length_pos_of_ne_nil nonempty)

/-- A text is read from left to right: past the word, where it begins with it, and else past its
first character. -/
theorem reading_induction {motive : List Char → Prop} (nonempty : word ≠ []) (nil : motive [])
    (found : ∀ rest, motive rest → motive (word ++ rest))
    (passed : ∀ c rest, ¬ word <+: c :: rest → motive rest → motive (c :: rest))
    (text : List Char) : motive text := by
  by_cases begins : word <+: text
  · obtain ⟨rest, rfl⟩ := begins
    have shorter : rest.length < (word ++ rest).length := length_lt_append nonempty rest
    exact found rest (reading_induction nonempty nil found passed rest)
  · cases text with
    | nil => exact nil
    | cons c rest => exact passed c rest begins (reading_induction nonempty nil found passed rest)
termination_by text.length

/-! ## What is put in is foreign to a word -/

theorem prefix_of_foreign {front : List Char} (filled : front ≠ []) (foreign : front.Disjoint word)
    (begins : word <+: front ++ rest) : word = [] := by
  cases word with
  | nil => rfl
  | cons c others =>
      obtain ⟨first, more, rfl⟩ := List.exists_cons_of_ne_nil filled
      obtain ⟨rfl, _⟩ := List.cons_prefix_cons.1 begins
      exact absurd List.mem_cons_self (foreign List.mem_cons_self)

theorem infix_of_foreign {front : List Char} (nonempty : word ≠ []) (foreign : front.Disjoint word)
    (among : word <:+: front ++ rest) : word <:+: rest := by
  induction front with
  | nil => exact among
  | cons c others inductionHypothesis =>
      rcases List.infix_cons_iff.1 among with begins | later
      · exact absurd (prefix_of_foreign (List.cons_ne_nil c others) foreign begins) nonempty
      · exact inductionHypothesis (List.disjoint_of_disjoint_cons_left foreign) later

/-- A replacement makes no text begin with a word that is foreign to what is put in. The induction
is for all such words, because of a word that begins with a passed character the rest is found
behind it. -/
theorem prefix_of_prefix_replaceAll (filled : new ≠ []) (foreign : new.Disjoint word)
    (begins : word <+: replaceAll old new text) : word <+: text := by
  by_cases empty : old = []
  · rw [empty, replaceAll_nil_left] at begins
    exact begins
  · induction text using reading_induction empty generalizing word with
    | nil =>
        rw [replaceAll_nil] at begins
        exact begins
    | found rest _ =>
        rw [replaceAll_append empty] at begins
        rw [prefix_of_foreign filled foreign begins]
        exact List.nil_prefix
    | passed c rest unbegun inductionHypothesis =>
        rw [replaceAll_cons unbegun] at begins
        cases word with
        | nil => exact List.nil_prefix
        | cons first others =>
            obtain ⟨rfl, behind⟩ := List.cons_prefix_cons.1 begins
            have foreignRest : new.Disjoint others := List.disjoint_of_disjoint_cons_right foreign
            exact List.cons_prefix_cons.2 ⟨rfl, inductionHypothesis foreignRest behind⟩

/-- Nor does it put such a word anywhere else. -/
theorem infix_of_infix_replaceAll (nonempty : word ≠ []) (filled : new ≠ [])
    (foreign : new.Disjoint word) (among : word <:+: replaceAll old new text) :
    word <:+: text := by
  by_cases empty : old = []
  · rw [empty, replaceAll_nil_left] at among
    exact among
  · induction text using reading_induction empty with
    | nil =>
        rw [replaceAll_nil] at among
        exact among
    | found rest inductionHypothesis =>
        rw [replaceAll_append empty] at among
        have later := inductionHypothesis (infix_of_foreign nonempty foreign among)
        exact later.trans (List.suffix_append old rest).isInfix
    | passed c rest unbegun inductionHypothesis =>
        rw [replaceAll_cons unbegun] at among
        rcases List.infix_cons_iff.1 among with begins | later
        · rw [← replaceAll_cons unbegun] at begins
          exact (prefix_of_prefix_replaceAll filled foreign begins).isInfix
        · exact (inductionHypothesis later).trans (List.suffix_cons c rest).isInfix

/-- A word that is foreign to what is put in for it is gone from the text. -/
theorem not_infix_replaceAll (nonempty : old ≠ []) (filled : new ≠ []) (foreign : new.Disjoint old)
    (text : List Char) : ¬ old <:+: replaceAll old new text := by
  induction text using reading_induction nonempty with
  | nil =>
      rw [replaceAll_nil, List.infix_nil]
      exact nonempty
  | found rest inductionHypothesis =>
      rw [replaceAll_append nonempty]
      exact fun among => inductionHypothesis (infix_of_foreign nonempty foreign among)
  | passed c rest unbegun inductionHypothesis =>
      rw [replaceAll_cons unbegun]
      intro among
      rcases List.infix_cons_iff.1 among with begins | later
      · rw [← replaceAll_cons unbegun] at begins
        exact unbegun (prefix_of_prefix_replaceAll filled foreign begins)
      · exact inductionHypothesis later

/-! ## Words that do not overlap -/

/-- No occurrence of the other word begins inside of an occurrence of the word, or where it begins:
whatever is left of the word from some place on, it and the other word are not both at the front
of one text. -/
def StartsOutside (other word : List Char) : Prop :=
  ∀ place ∈ word.tails, place ≠ [] → ¬ place <+: other ∧ ¬ other <+: place

instance (other word : List Char) : Decidable (StartsOutside other word) :=
  inferInstanceAs (Decidable (∀ place ∈ word.tails, _))

theorem StartsOutside.not_prefix (outside : StartsOutside other word) {place : List Char}
    (behind : place <:+ word) (nonempty : place ≠ []) (rest : List Char) :
    ¬ other <+: place ++ rest := by
  intro begins
  have apart := outside place ((List.mem_tails place word).2 behind) nonempty
  rcases List.prefix_or_prefix_of_prefix (List.prefix_append place rest) begins with
    reaches | within
  · exact apart.1 reaches
  · exact apart.2 within

/-- Words without a common character do not overlap. -/
theorem startsOutside_of_disjoint (nonempty : other ≠ []) (disjoint : word.Disjoint other) :
    StartsOutside other word := by
  intro place among some
  have foreign : place.Disjoint other :=
    List.disjoint_of_subset_left ((List.mem_tails place word).1 among).subset disjoint
  constructor
  · intro reaches
    rw [← List.append_nil other] at reaches
    exact some (prefix_of_foreign nonempty (List.disjoint_symm foreign) reaches)
  · intro within
    rw [← List.append_nil place] at within
    exact nonempty (prefix_of_foreign some foreign within)

/-- An occurrence of a word is passed as a whole when another one is replaced that does not begin
inside of it. -/
theorem StartsOutside.replaceAll_append (outside : StartsOutside old word) (new rest : List Char) :
    replaceAll old new (word ++ rest) = word ++ replaceAll old new rest :=
  replaceAll_append_of_unbegun (fun _ behind some => outside.not_prefix behind some rest) new

/-- Where a word begins is not changed by a replacement that does not touch the word and puts
nothing of it in. -/
theorem prefix_replaceAll_iff (outside : StartsOutside old word) (filled : new ≠ [])
    (foreign : new.Disjoint word) : word <+: replaceAll old new text ↔ word <+: text := by
  constructor
  · exact prefix_of_prefix_replaceAll filled foreign
  · rintro ⟨rest, rfl⟩
    rw [outside.replaceAll_append]
    exact List.prefix_append word _

end Bindery.Text
