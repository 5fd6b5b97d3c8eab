import Bindery.Proofs.Directive.Form
import Bindery.Proofs.Text.Occurrence

/-!
Contract: a text as its directives and the gaps between them.

Owns:
- `Form.Cuts`, the ways to write a text as a gap, a directive, a gap, a directive and so on, where
  no directive starts in a gap;
- that every text is written in exactly one such way;
- that the directives which a scan finds are those, in the same order.

A directive may start inside another one, so that a cut is more than a list of directives: the gaps
decide which of two directives counts that lie over one another, and it is the one on the left.
-/

namespace Bindery.Directive

open Bindery.Text

variable {α : Type} {form : Form α} {gap gap' text following following' : List Char}

/-- No directive starts at a place in the gap, in a text that goes on as given. -/
def Form.Bare (form : Form α) (gap following : List Char) : Prop :=
  ∀ place, place <:+ gap → place ≠ [] → ¬ form.Begins (place ++ following)

/-- A directive of a text, and the gap behind it. -/
structure Part (form : Form α) where
  payload : List Char
  asked : α
  admitted : form.Admits payload asked
  behind : List Char

/-- The text is the gap, then each directive with the gap behind it, and no directive starts in any
of the gaps. -/
inductive Form.Cuts (form : Form α) : List Char → List (Part form) → List Char → Prop where
  | last {gap : List Char} (bare : form.Bare gap []) : form.Cuts gap [] gap
  | next {gap text : List Char} {part : Part form} {parts : List (Part form)}
      (bare : form.Bare gap (form.spell part.payload ++ text))
      (later : form.Cuts part.behind parts text) :
      form.Cuts gap (part :: parts) (gap ++ (form.spell part.payload ++ text))

variable {part part' : Part form} {parts parts' : List (Part form)}

theorem Form.bare_nil (form : Form α) (following : List Char) : form.Bare [] following :=
  fun _ behind nonempty => absurd (List.suffix_nil.1 behind) nonempty

theorem Form.Bare.cons {c : Char} (bare : form.Bare gap following)
    (unbegun : ¬ form.Begins (c :: (gap ++ following))) : form.Bare (c :: gap) following := by
  intro place behind nonempty
  rcases List.suffix_cons_iff.1 behind with rfl | later
  · exact unbegun
  · exact bare place later nonempty

/-! ## Every text is cut in one way -/

theorem Form.Cuts.cons {c : Char} (cuts : form.Cuts gap parts text)
    (unbegun : ¬ form.Begins (c :: text)) : form.Cuts (c :: gap) parts (c :: text) := by
  cases cuts with
  | last bare =>
      apply Form.Cuts.last
      apply bare.cons
      rw [List.append_nil]
      exact unbegun
  | next bare later => exact .next (bare.cons unbegun) later

/-- Every text can be cut: at a directive, if it begins with one, and else behind its first
character. -/
theorem Form.exists_cuts (form : Form α) (text : List Char) :
    ∃ gap parts, form.Cuts gap parts text := by
  by_cases begins : form.Begins text
  · obtain ⟨payload, asked, admitted, left, rfl⟩ := begins
    have shorter : left.length < (form.spell payload ++ left).length := by
      rw [List.length_append, form.length_spell]
      unfold length
      omega
    obtain ⟨behind, parts, later⟩ := form.exists_cuts left
    let part : Part form := ⟨payload, asked, admitted, behind⟩
    exact ⟨[], part :: parts, .next (form.bare_nil _) later⟩
  · cases text with
    | nil => exact ⟨[], [], .last (form.bare_nil [])⟩
    | cons c rest =>
        obtain ⟨gap, parts, cuts⟩ := form.exists_cuts rest
        exact ⟨c :: gap, parts, cuts.cons begins⟩
termination_by text.length

theorem Part.begins (part : Part form) (text : List Char) :
    form.Begins (form.spell part.payload ++ text) :=
  ⟨part.payload, part.asked, part.admitted, List.prefix_append _ text⟩

/-- What a directive asks for is in its payload. -/
theorem Part.eq_of_payload (payloads : part.payload = part'.payload)
    (behind : part.behind = part'.behind) : part = part' := by
  obtain ⟨payload, asked, admitted, gap⟩ := part
  obtain ⟨payload', asked', admitted', gap'⟩ := part'
  obtain rfl : payload = payload' := payloads
  obtain rfl : gap = gap' := behind
  obtain rfl : asked = asked' := Option.some.inj (admitted.asks.symm.trans admitted'.asks)
  rfl

/-- A gap that goes up to the end of a text or to a directive does not go on in a longer one. -/
theorem Form.Bare.eq_of_append {rest : List Char} (bare : form.Bare (gap ++ rest) following')
    (stops : following = [] ∨ form.Begins following) (same : following = rest ++ following') :
    rest = [] := by
  rcases stops with rfl | begins
  · exact (List.append_eq_nil_iff.1 same.symm).1
  · rw [same] at begins
    apply Classical.byContradiction
    intro nonempty
    exact bare rest (List.suffix_append gap rest) nonempty begins

theorem Form.Bare.unique (bare : form.Bare gap following) (bare' : form.Bare gap' following')
    (stops : following = [] ∨ form.Begins following)
    (stops' : following' = [] ∨ form.Begins following')
    (same : gap ++ following = gap' ++ following') : gap = gap' ∧ following = following' := by
  have gaps : gap = gap' := by
    rcases List.append_eq_append_iff.1 same with ⟨rest, rfl, onward⟩ | ⟨rest, rfl, onward⟩
    · rw [bare'.eq_of_append stops onward, List.append_nil]
    · rw [bare.eq_of_append stops' onward, List.append_nil]
  subst gaps
  exact ⟨rfl, List.append_cancel_left same⟩

/-- A text can be cut in one way only. The induction is on the first way; of the second one, the
gap, the directive and what follows are found to be the same in this order, because a payload ends
at the first closing brace once it is known where it starts. -/
theorem Form.Cuts.unique (cuts : form.Cuts gap parts text) (cuts' : form.Cuts gap' parts' text) :
    gap = gap' ∧ parts = parts' := by
  induction cuts generalizing gap' parts' with
  | @last gap bare =>
      generalize whole : gap = text at cuts'
      cases cuts' with
      | last _ => exact ⟨rfl, rfl⟩
      | @next _ text' part' _ bare' _ =>
          rw [← List.append_nil gap] at whole
          obtain ⟨_, impossible⟩ := bare.unique bare' (.inl rfl) (.inr (part'.begins text')) whole
          exact absurd (List.append_eq_nil_iff.1 impossible.symm).1 (form.spell_ne_nil _)
  | @next gap text part parts bare later inductionHypothesis =>
      generalize whole : gap ++ (form.spell part.payload ++ text) = other at cuts'
      cases cuts' with
      | last bare' =>
          rw [← List.append_nil gap'] at whole
          obtain ⟨_, impossible⟩ := bare.unique bare' (.inr (part.begins text)) (.inl rfl) whole
          exact absurd (List.append_eq_nil_iff.1 impossible).1 (form.spell_ne_nil _)
      | @next _ text' part' _ bare' later' =>
          obtain ⟨rfl, onward⟩ :=
            bare.unique bare' (.inr (part.begins text)) (.inr (part'.begins text')) whole
          obtain ⟨payloads, rfl⟩ :=
            Form.eq_of_spell part.admitted.unclosed part'.admitted.unclosed onward
          obtain ⟨behind, rfl⟩ := inductionHypothesis later'
          exact ⟨rfl, congrArg (· :: _) (Part.eq_of_payload payloads behind)⟩

/-! ## The scan of a text -/

/-- The pieces of a text that is cut in this way. -/
def pieces (gap : List Char) (parts : List (Part form)) : List (Piece α) :=
  gap.map .plain ++ parts.flatMap fun part => .found part.asked :: part.behind.map .plain

theorem pieces_cons (gap : List Char) (part : Part form) (parts : List (Part form)) :
    pieces gap (part :: parts) =
      gap.map .plain ++ .found part.asked :: pieces part.behind parts := by
  simp [pieces]

/-- A scan finds the directives of a cut. -/
theorem Form.Cuts.scan_eq (cuts : form.Cuts gap parts text) :
    scan form.recognise text = pieces gap parts := by
  induction cuts with
  | @last gap bare =>
      have plain : scan form.recognise (gap ++ []) = gap.map .plain ++ scan form.recognise [] :=
        scan_append_of_none fun place behind nonempty =>
          Form.recognise_eq_none_iff.2 (bare place behind nonempty)
      rw [List.append_nil] at plain
      exact plain
  | @next gap text part parts bare later inductionHypothesis =>
      rw [scan_append_of_none fun place behind nonempty =>
          Form.recognise_eq_none_iff.2 (bare place behind nonempty),
        scan_append_of_some (Form.recognise_spell part.admitted text) (form.spell_ne_nil _),
        inductionHypothesis, pieces_cons]

/-- A directive that is not closed takes the next one into its payload. -/
example :
    scan fileForm.recognise "a INCLUDE_SOURCE_FILE\x7b INCLUDE_SOURCE_FILE\x7bb \x7d\x7d".toList =
      [.plain 'a', .plain ' ', .found "INCLUDE_SOURCE_FILE\x7bb".toList, .plain '\x7d'] := by
  decide +kernel

end Bindery.Directive
