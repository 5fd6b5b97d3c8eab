import Bindery.Proofs.Directive.Comma
import Bindery.Proofs.Directive.Cut
import Bindery.Proofs.Text.LineEnd
import Mathlib.Data.List.Infix

/-!
Contract: places of a text that its directives leave whole.

Owns:
- `Form.Outside`, a place between two parts of a text that is in none of its directives;
- that the parts on both sides of such a place are scanned apart;
- that the end of a line is one, if every keyword before it is followed by a closing brace;
- that what has the keyword and the braces of a directive, but is none, is passed as it is.

Does **not** own: what is put in place of directives (`Bindery.Proofs.Directive.Course`).
-/

namespace Bindery.Directive

open Bindery.Text

variable {α : Type} {form : Form α} {gap gap' text before after following more payload : List Char}
variable {part : Part form} {parts : List (Part form)}

/-- The text that is cut in this way. -/
def joined (gap : List Char) (parts : List (Part form)) : List Char :=
  gap ++ parts.flatMap fun part => form.spell part.payload ++ part.behind

theorem joined_nil (gap : List Char) : joined gap ([] : List (Part form)) = gap :=
  List.append_nil gap

theorem joined_cons (gap : List Char) (part : Part form) (parts : List (Part form)) :
    joined gap (part :: parts) = gap ++ (form.spell part.payload ++ joined part.behind parts) := by
  simp [joined]

theorem Form.Cuts.eq_joined (cuts : form.Cuts gap parts text) : text = joined gap parts := by
  induction cuts with
  | last bare => exact (joined_nil _).symm
  | next bare later inductionHypothesis => rw [joined_cons, inductionHypothesis]

/-- The directive that comes behind `front` in a text is not around the end of `before`: it ends
there at the latest, or begins there at the earliest. -/
def Part.Beside (part : Part form) (front before : List Char) : Prop :=
  front ++ form.spell part.payload <+: before ∨ before <+: front

/-- The place between two parts of a text is in none of the directives of the text. -/
def Form.Outside (form : Form α) (before after : List Char) : Prop :=
  ∀ gap earlier (part : Part form) later,
    form.Cuts gap (earlier ++ part :: later) (before ++ after) →
      part.Beside (joined gap earlier) before

/-! ## Gaps in a longer or a shorter text -/

theorem Form.Begins.append (begins : form.Begins text) (more : List Char) :
    form.Begins (text ++ more) := by
  obtain ⟨payload, asked, admitted, opening⟩ := begins
  exact ⟨payload, asked, admitted, opening.trans (List.prefix_append text more)⟩

/-- Where no directive begins in a text, none begins in a shorter one. -/
theorem Form.Bare.of_append (bare : form.Bare gap (following ++ more)) :
    form.Bare gap following := by
  intro place behind nonempty begins
  have longer := begins.append more
  rw [List.append_assoc] at longer
  exact bare place behind nonempty longer

/-- The front of a gap is a gap. -/
theorem Form.Bare.front (bare : form.Bare (gap ++ gap') following) :
    form.Bare gap (gap' ++ following) := by
  intro place behind nonempty
  obtain ⟨front, rfl⟩ := behind
  have longer : place ++ gap' <:+ front ++ place ++ gap' := by
    rw [List.append_assoc]
    exact List.suffix_append front (place ++ gap')
  rw [← List.append_assoc]
  exact bare (place ++ gap') longer (List.append_ne_nil_of_left_ne_nil nonempty gap')

theorem Form.Bare.scan_append (bare : form.Bare gap following) :
    scan form.recognise (gap ++ following) = gap.map .plain ++ scan form.recognise following :=
  scan_append_of_none fun place behind nonempty =>
    Form.recognise_eq_none_iff.2 (bare place behind nonempty)

theorem Form.Bare.scan_eq (bare : form.Bare gap following) :
    scan form.recognise gap = gap.map .plain := by
  have alone : form.Bare gap ([] ++ following) := bare
  have passed := alone.of_append.scan_append
  rw [List.append_nil, scan_nil, List.append_nil] at passed
  exact passed

theorem Form.Bare.scan_apart (bare : form.Bare gap following) :
    scan form.recognise (gap ++ following) =
      scan form.recognise gap ++ scan form.recognise following := by
  rw [bare.scan_append, bare.scan_eq]

/-! ## Scanning on both sides of a place -/

theorem Part.Beside.behind {other : Part form} {front others : List Char}
    (beside : other.Beside (gap ++ (form.spell part.payload ++ front))
      (gap ++ form.spell part.payload ++ others)) : other.Beside front others := by
  unfold Part.Beside at beside ⊢
  simp only [List.append_assoc, List.prefix_append_right_inj] at beside
  exact beside

/-- What is on the two sides of a place that is in none of the directives of a cut is scanned apart.
The induction is on the cut, and stops at the gap that holds the place. -/
theorem Form.Cuts.scan_append (cuts : form.Cuts gap parts text)
    (outside : ∀ earlier (part : Part form) later, parts = earlier ++ part :: later →
      part.Beside (joined gap earlier) before)
    (whole : text = before ++ after) :
    scan form.recognise (before ++ after) =
      scan form.recognise before ++ scan form.recognise after := by
  induction cuts generalizing before with
  | last bare =>
      subst whole
      have apart := bare.front.scan_apart
      rw [List.append_nil] at apart
      exact apart
  | @next gap text part parts bare later inductionHypothesis =>
      have split := outside [] part parts rfl
      rw [joined_nil] at split
      rcases split with passed | within
      · obtain ⟨others, rfl⟩ := passed
        have rest : text = others ++ after := by
          simp only [List.append_assoc] at whole
          exact List.append_cancel_left (List.append_cancel_left whole)
        have outside' : ∀ earlier (other : Part form) later', parts = earlier ++ other :: later' →
            other.Beside (joined part.behind earlier) others := by
          intro earlier other later' shape
          have beside := outside (part :: earlier) other later' (congrArg (part :: ·) shape)
          rw [joined_cons] at beside
          exact beside.behind
        have onward := inductionHypothesis outside' rest
        subst rest
        have found := Form.recognise_spell part.admitted
        have unbegun : form.Bare gap (form.spell part.payload ++ others) := by
          rw [← List.append_assoc] at bare
          exact bare.of_append
        simp only [List.append_assoc]
        rw [bare.scan_append, unbegun.scan_append,
          scan_append_of_some (found _) (form.spell_ne_nil _),
          scan_append_of_some (found _) (form.spell_ne_nil _), onward]
        simp
      · obtain ⟨others, rfl⟩ := within
        have rest : others ++ (form.spell part.payload ++ text) = after := by
          rw [List.append_assoc] at whole
          exact List.append_cancel_left whole
        rw [← rest]
        exact bare.front.scan_apart

theorem Form.Outside.scan_append (outside : form.Outside before after) :
    scan form.recognise (before ++ after) =
      scan form.recognise before ++ scan form.recognise after := by
  obtain ⟨gap, parts, cuts⟩ := form.exists_cuts (before ++ after)
  refine cuts.scan_append ?_ rfl
  rintro earlier part later rfl
  exact outside gap earlier part later cuts

/-! ## Ends of lines -/

/-- Every keyword in the text is followed by a closing brace. -/
def Form.ClosedIn (form : Form α) (text : List Char) : Prop :=
  ∀ front rest, text = front ++ (form.keyword ++ rest) → '\x7d' ∈ rest

theorem Form.closedIn_iff : form.ClosedIn text ↔
    ∀ place ∈ text.tails, form.keyword <+: place → '\x7d' ∈ place.drop form.keyword.length := by
  constructor
  · rintro closed place among ⟨rest, rfl⟩
    obtain ⟨front, shape⟩ := (List.mem_tails _ text).1 among
    rw [List.drop_left]
    exact closed front rest shape.symm
  · rintro closed front rest rfl
    have among : form.keyword ++ rest ∈ (front ++ (form.keyword ++ rest)).tails :=
      (List.mem_tails _ _).2 (List.suffix_append front _)
    have behind := closed _ among (List.prefix_append form.keyword rest)
    rw [List.drop_left] at behind
    exact behind

instance (form : Form α) (text : List Char) : Decidable (form.ClosedIn text) :=
  decidable_of_iff _ Form.closedIn_iff.symm

/-- A directive that begins in a text whose last line is ended, and in which every keyword is
followed by a closing brace, ends there: a part of its keyword would hold no line feed, and it does
not go on behind a closing brace. -/
theorem Form.spell_prefix_of_ended (singleLine : '\n' ∉ form.keyword)
    (unclosed : '\x7d' ∉ payload) (ended : Ended before) (nonempty : before ≠ [])
    (closed : form.ClosedIn before) (begins : form.spell payload <+: before ++ after) :
    form.spell payload <+: before := by
  rcases List.prefix_or_prefix_of_prefix begins (List.prefix_append before after) with
    within | ⟨more, reaches⟩
  · exact within
  rcases List.append_eq_append_iff.1 reaches with ⟨others, keyword, _⟩ | ⟨rest, rfl, behind⟩
  · have lineFeed : '\n' ∈ form.keyword := by
      rw [keyword]
      exact List.mem_append_left others (ended.lineFeed_mem nonempty)
    exact absurd lineFeed singleLine
  · obtain ⟨front, others, rfl, first⟩ := List.eq_append_cons_of_mem (closed [] rest rfl)
    rw [List.append_assoc] at behind
    obtain ⟨rfl, nothing⟩ := eq_of_append_mark unclosed first behind
    obtain ⟨rfl, rfl⟩ := List.append_eq_nil_iff.1 nothing.symm
    exact List.prefix_rfl

theorem Form.ClosedIn.behind (closed : form.ClosedIn (before ++ after)) : form.ClosedIn after := by
  rintro front rest rfl
  exact closed (before ++ front) rest (List.append_assoc before front _).symm

/-- So no directive reaches over the end of such a text. -/
theorem Form.outside_of_ended (singleLine : '\n' ∉ form.keyword) (ended : Ended before)
    (closed : form.ClosedIn before) (after : List Char) : form.Outside before after := by
  intro gap earlier part later cuts
  have whole : before ++ after =
      joined gap earlier ++ (form.spell part.payload ++ joined part.behind later) := by
    rw [cuts.eq_joined]
    simp [joined]
  rcases List.append_eq_append_iff.1 whole with ⟨rest, shape, _⟩ | ⟨inside, rfl, behind⟩
  · right
    exact ⟨rest, shape.symm⟩
  · by_cases empty : inside = []
    · right
      simp [empty]
    · left
      have begins : form.spell part.payload <+: inside ++ after := ⟨_, behind⟩
      rw [List.prefix_append_right_inj]
      exact Form.spell_prefix_of_ended singleLine part.admitted.unclosed
        ((ended_append_iff empty).1 ended) empty closed.behind begins

/-! ## Directives that ask for nothing -/

/-- What looks like a directive for a section, but has no comma with text on both sides in its
payload, is part of a gap. A directive that begins inside of it ends with the same brace, and would
have its comma there as well. -/
theorem bare_of_not_hasComma (unclosed : '\x7d' ∉ payload) (without : ¬ HasComma payload)
    (following : List Char) : sectionForm.Bare (sectionForm.spell payload) following := by
  have keyword : '\x7d' ∉ sectionKeyword := by decide
  have braceless : '\x7d' ∉ sectionKeyword ++ payload := by
    rw [List.mem_append]
    exact fun among => among.elim keyword unclosed
  rintro place behind nonempty ⟨payload', asked, admitted, left, begins⟩
  obtain ⟨unclosed', location, name, cuts, _⟩ := sectionForm_admits_iff.1 admitted
  have braceless' : '\x7d' ∉ sectionKeyword ++ payload' := by
    rw [List.mem_append]
    exact fun among => among.elim keyword unclosed'
  have shape : sectionForm.spell payload = (sectionKeyword ++ payload) ++ ['\x7d'] :=
    (List.append_assoc _ _ _).symm
  rw [shape] at behind
  rcases List.suffix_concat_iff.1 behind with empty | ⟨front, rfl, within⟩
  · exact nonempty empty
  have same : (sectionKeyword ++ payload') ++ '\x7d' :: left = front ++ '\x7d' :: following := by
    simp only [Form.spell, List.append_assoc, List.singleton_append] at begins ⊢
    exact begins
  have braceless'' : '\x7d' ∉ front := fun among => braceless (within.subset among)
  obtain ⟨rfl, _⟩ := eq_of_append_mark braceless' braceless'' same
  have ends : payload' <:+ sectionKeyword ++ payload :=
    (List.suffix_append sectionKeyword payload').trans within
  have shorter : payload'.length ≤ payload.length := by
    have bounded := within.length_le
    simp only [List.length_append] at bounded
    omega
  have inside : payload' <:+ payload :=
    List.suffix_of_suffix_length_le ends (List.suffix_append sectionKeyword payload) shorter
  exact without (cuts.hasComma.of_suffix inside)

end Bindery.Directive
