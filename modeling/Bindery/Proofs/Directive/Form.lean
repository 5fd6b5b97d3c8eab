import Bindery.Directive
import Bindery.Proofs.Text.Mark

/-!
Contract: what a directive of a manuscript looks like, and how it is recognised.

Owns:
- `Form`, the keyword of a kind of directives and the reading of their payloads, with the two forms
  that a manuscript may have;
- `Form.Admits`, the payloads of a form, and `Form.Begins`, the texts that begin with one of its
  directives;
- that a directive is recognised exactly where a text begins with it, and taken whole, and that a
  text begins with one directive of a form at most.

Does **not** own: the directives further on in a text (`Bindery.Proofs.Directive.Cut`).
-/

namespace Bindery.Directive

open Bindery.Text

/-- A kind of directives: a keyword, which ends with the opening brace, and what is asked for by the
payload that follows it, if anything is. -/
structure Form (α : Type) where
  keyword : List Char
  ask : List Char → Option α

/-- The directives that ask for a file, by its location. -/
def fileForm : Form (List Char) where
  keyword := fileKeyword
  ask payload := some (trim payload)

/-- The directives that ask for a section, by the location of its file and its name. -/
def sectionForm : Form (List Char × List Char) where
  keyword := sectionKeyword
  ask payload := (cutAtLastComma payload).map fun (location, name) => (trim location, trim name)

variable {α : Type} {form : Form α} {text payload payload' left left' : List Char} {asked : α}

/-! ## Spelling -/

/-- The directive with the given payload. -/
def Form.spell (form : Form α) (payload : List Char) : List Char :=
  form.keyword ++ (payload ++ ['\x7d'])

/-- The payloads of a form: they are not empty, do not reach over a closing brace, and ask for
something. -/
structure Form.Admits (form : Form α) (payload : List Char) (asked : α) : Prop where
  nonempty : payload ≠ []
  unclosed : '\x7d' ∉ payload
  asks : form.ask payload = some asked

/-- The text begins with a directive of the form. -/
def Form.Begins (form : Form α) (text : List Char) : Prop :=
  ∃ payload asked, form.Admits payload asked ∧ form.spell payload <+: text

theorem fileForm_admits_iff {location : List Char} :
    fileForm.Admits payload location ↔
      payload ≠ [] ∧ '\x7d' ∉ payload ∧ trim payload = location := by
  constructor
  · rintro ⟨nonempty, unclosed, asks⟩
    exact ⟨nonempty, unclosed, Option.some.inj asks⟩
  · rintro ⟨nonempty, unclosed, trimmed⟩
    exact ⟨nonempty, unclosed, congrArg some trimmed⟩

theorem Form.spell_ne_nil (form : Form α) (payload : List Char) : form.spell payload ≠ [] := by
  simp [spell]

theorem Form.length_spell (form : Form α) (payload : List Char) :
    (form.spell payload).length = length form.keyword payload := by
  simp only [spell, length, List.length_append, List.length_singleton, Nat.add_assoc]

/-- A text tells which directive of a form it begins with. -/
theorem Form.eq_of_spell (unclosed : '\x7d' ∉ payload) (unclosed' : '\x7d' ∉ payload')
    (same : form.spell payload ++ left = form.spell payload' ++ left') :
    payload = payload' ∧ left = left' := by
  have payloads : payload = payload' := by
    simp only [spell, List.append_assoc, List.singleton_append] at same
    exact (eq_of_append_mark unclosed unclosed' (List.append_cancel_left same)).1
  subst payloads
  exact ⟨rfl, List.append_cancel_left same⟩

/-! ## Recognising -/

theorem payloadAfter_eq_some_iff {keyword : List Char} :
    payloadAfter keyword text = some payload ↔
      payload ≠ [] ∧ '\x7d' ∉ payload ∧ keyword ++ (payload ++ ['\x7d']) <+: text := by
  unfold payloadAfter
  by_cases opens : keyword <+: text
  · obtain ⟨rest, rfl⟩ := opens
    rw [if_pos (List.isPrefixOf_iff_prefix.2 (List.prefix_append keyword rest)), List.drop_left,
      List.prefix_append_right_inj, ← beforeBrace_eq_some_iff]
    cases read : beforeBrace rest with
    | none => simp
    | some found =>
        cases found with
        | nil =>
            constructor
            · intro impossible
              contradiction
            · rintro ⟨nonempty, same⟩
              exact absurd (Option.some.inj same).symm nonempty
        | cons c others =>
            constructor
            · intro same
              obtain rfl := Option.some.inj same
              exact ⟨List.cons_ne_nil c others, rfl⟩
            · exact fun ⟨_, same⟩ => same
  · rw [if_neg fun also => opens (List.isPrefixOf_iff_prefix.1 also)]
    constructor
    · intro impossible
      contradiction
    · rintro ⟨_, _, whole⟩
      exact absurd ((List.prefix_append keyword _).trans whole) opens

/-- The recogniser of a form: it answers what the directive asks for. -/
def Form.recognise (form : Form α) : Recogniser α := fun text =>
  (payloadAfter form.keyword text).bind fun payload =>
    (form.ask payload).map fun asked => (asked, length form.keyword payload)

theorem file_eq_recognise : file = fileForm.recognise := by
  funext text
  show (payloadAfter fileKeyword text).map _ = (payloadAfter fileKeyword text).bind _
  cases payloadAfter fileKeyword text with
  | none => rfl
  | some payload => rfl

theorem sectionOf_eq_recognise : sectionOf = sectionForm.recognise := by
  funext text
  show (payloadAfter sectionKeyword text).bind _ = (payloadAfter sectionKeyword text).bind _
  refine congrArg _ (funext fun payload => ?_)
  show _ = ((cutAtLastComma payload).map _).map _
  rw [Option.map_map]
  rfl

/-- A directive is recognised exactly at the front of a text that begins with it. -/
theorem Form.recognise_eq_some_iff {taken : Nat} :
    form.recognise text = some (asked, taken) ↔
      ∃ payload, form.Admits payload asked ∧ form.spell payload <+: text ∧
        taken = (form.spell payload).length := by
  unfold recognise
  rw [Option.bind_eq_some_iff]
  constructor
  · rintro ⟨payload, read, answered⟩
    obtain ⟨nonempty, unclosed, begins⟩ := payloadAfter_eq_some_iff.1 read
    obtain ⟨found, asks, same⟩ := Option.map_eq_some_iff.1 answered
    obtain ⟨rfl, rfl⟩ := Prod.mk.inj same
    exact ⟨payload, ⟨nonempty, unclosed, asks⟩, begins, (form.length_spell payload).symm⟩
  · rintro ⟨payload, ⟨nonempty, unclosed, asks⟩, begins, rfl⟩
    refine ⟨payload, payloadAfter_eq_some_iff.2 ⟨nonempty, unclosed, begins⟩, ?_⟩
    rw [asks, form.length_spell]
    rfl

theorem Form.recognise_eq_none_iff : form.recognise text = none ↔ ¬ form.Begins text := by
  constructor
  · rintro nothing ⟨payload, asked, admitted, begins⟩
    have found := recognise_eq_some_iff.2 ⟨payload, admitted, begins, rfl⟩
    rw [nothing] at found
    contradiction
  · intro unbegun
    cases found : form.recognise text with
    | none => rfl
    | some answer =>
        obtain ⟨payload, admitted, begins, _⟩ := recognise_eq_some_iff.1 found
        exact absurd ⟨payload, answer.1, admitted, begins⟩ unbegun

theorem Form.recognise_spell (admitted : form.Admits payload asked) (left : List Char) :
    form.recognise (form.spell payload ++ left) = some (asked, (form.spell payload).length) :=
  recognise_eq_some_iff.2 ⟨payload, admitted, List.prefix_append _ left, rfl⟩

end Bindery.Directive
