import Bindery.Proofs.Directive.Cut
import Bindery.Proofs.World.Attempt

/-!
Contract: what the expansion of directives asks for, and the text that it gives.

Owns:
- `Form.expand`, the expansion of either form, and `weave`, a text with the lines of excerpts in
  place of its directives;
- that in every monad an expansion asks for the excerpts of the directives one after another, and
  weaves them in;
- for extractors that change a state and may fail: which answers a text is woven of, and which fault
  ends the expansion.

Does **not** own: the directives of a text (`Bindery.Proofs.Directive.Cut`), and what an extractor
does (`Bindery.Excerpt`).
-/

namespace Bindery.Directive

open Bindery.Text
open Bindery.Attempt (Answers)

section Weaving

variable {α : Type} {form : Form α} {gap text : List Char} {parts : List (Part form)}
variable {m : Type → Type} [Monad m]

/-- Puts the lines of an excerpt in place of every directive of a form. -/
def Form.expand (form : Form α) (extract : α → m (List String)) (text : List Char) :
    m (List Char) :=
  assembleM (fun asked => do
    let lines ← extract asked
    return (joinLines lines).toList) (scan form.recognise text)

theorem expandFiles_eq_expand (extract : String → m (List String)) (text : List Char) :
    expandFiles extract text =
      fileForm.expand (fun location => extract (String.ofList location)) text := by
  unfold expandFiles Form.expand
  rw [file_eq_recognise]

theorem expandSections_eq_expand (extract : String → String → m (List String))
    (text : List Char) :
    expandSections extract text =
      sectionForm.expand (fun (location, name) =>
        extract (String.ofList location) (String.ofList name)) text := by
  unfold expandSections Form.expand
  rw [sectionOf_eq_recognise]

/-- The excerpts in place of the directives, each before the gap behind its directive. -/
def weave (parts : List (Part form)) (excerpts : List (List String)) : List Char :=
  (List.zipWith (fun part lines => (joinLines lines).toList ++ part.behind) parts excerpts).flatten

/-- An expansion asks for the excerpts of the directives, one after another, and weaves them in. -/
theorem Form.Cuts.expand_eq [LawfulMonad m] (cuts : form.Cuts gap parts text)
    (extract : α → m (List String)) :
    form.expand extract text =
      (fun excerpts => gap ++ weave parts excerpts) <$>
        parts.mapM fun part => extract part.asked := by
  unfold Form.expand
  rw [cuts.scan_eq]
  -- From here on it does not matter which text the pieces are of.
  clear cuts
  induction parts generalizing gap with
  | nil =>
      rw [List.mapM_nil, map_pure]
      show assembleM _ (gap.map .plain ++ []) = pure (gap ++ [])
      rw [List.append_nil, List.append_nil, assembleM_map_plain]
  | cons part parts inductionHypothesis =>
      rw [pieces_cons, assembleM_plain_append, List.mapM_cons]
      simp only [assembleM, inductionHypothesis, map_eq_pure_bind, bind_assoc, pure_bind]
      simp only [weave, List.zipWith_cons_cons, List.flatten_cons, List.append_assoc]

end Weaving

/-! ## Extractors with a state -/

section Attempts

variable {ε σ α : Type} {form : Form α} {gap text shown : List Char} {parts : List (Part form)}
variable {extract : α → Attempt ε σ (List String)} {before after : σ} {fault : ε}

/-- What an expansion gives is woven of the answers that the directives get one after another. -/
theorem Form.Cuts.exec_expand_eq_ok_iff (cuts : form.Cuts gap parts text) :
    (form.expand extract text).exec before = (.ok shown, after) ↔
      ∃ excerpts, Answers (fun part => extract part.asked) before parts excerpts after ∧
        shown = gap ++ weave parts excerpts := by
  rw [cuts.expand_eq, Attempt.exec_map_eq_ok_iff]
  simp only [Attempt.exec_mapM_eq_ok_iff]

/-- An expansion fails with the fault of one of the directives, in the state that the answers to
those before it have left. -/
theorem Form.Cuts.exec_expand_eq_error_iff (cuts : form.Cuts gap parts text) :
    (form.expand extract text).exec before = (.error fault, after) ↔
      ∃ earlier part later excerpts middle, parts = earlier ++ part :: later ∧
        Answers (fun part => extract part.asked) before earlier excerpts middle ∧
        (extract part.asked).exec middle = (.error fault, after) := by
  rw [cuts.expand_eq, Attempt.exec_map_eq_error_iff, Attempt.exec_mapM_eq_error_iff]

/-- The location in a file directive. -/
def Part.location (part : Part fileForm) : String :=
  strip (String.ofList part.payload)

theorem Part.ofList_asked (part : Part fileForm) : String.ofList part.asked = part.location := by
  obtain ⟨_, _, trimmed⟩ := fileForm_admits_iff.1 part.admitted
  unfold location strip
  rw [String.toList_ofList, trimmed]

/-- A text is its file directives and the gaps between them in one way, and their expansion asks an
extractor for the location of each directive, from left to right: where all are answered, the lines
that it gives stand in place of the directives, and nothing else has changed; and it fails exactly
where one of them does, and behind that one nothing is asked. -/
theorem expandFiles_by_directives (text : List Char) :
    ∃ gap parts,
      (∀ gap' parts', fileForm.Cuts gap' parts' text ↔ gap' = gap ∧ parts' = parts) ∧
      ∀ (ε σ : Type) (extract : String → Attempt ε σ (List String)) (before after : σ),
        (∀ shown, (expandFiles extract text).exec before = (.ok shown, after) ↔
          ∃ excerpts,
            Answers (fun part => extract (Part.location part)) before parts excerpts after ∧
            shown = gap ++ weave parts excerpts) ∧
        ∀ fault, (expandFiles extract text).exec before = (.error fault, after) ↔
          ∃ earlier part later excerpts middle, parts = earlier ++ part :: later ∧
            Answers (fun part => extract (Part.location part)) before earlier excerpts middle ∧
            (extract part.location).exec middle = (.error fault, after) := by
  obtain ⟨gap, parts, cuts⟩ := fileForm.exists_cuts text
  refine ⟨gap, parts, fun gap' parts' => ?_, fun ε σ extract before after => ?_⟩
  · constructor
    · exact fun cuts' => cuts'.unique cuts
    · rintro ⟨rfl, rfl⟩
      exact cuts
  · simp only [expandFiles_eq_expand, ← Part.ofList_asked]
    exact ⟨fun shown => cuts.exec_expand_eq_ok_iff, fun fault => cuts.exec_expand_eq_error_iff⟩

end Attempts

end Bindery.Directive
