import Bindery.Proofs.Directive.Expansion
import Bindery.Proofs.Directive.Seam

/-!
Contract: what happens in the course of an expansion, part by part of a text.

Owns:
- `Course`, the text or the fault that an expansion comes to, the state behind it and the questions
  that the extractor has been asked, and courses that follow one another;
- that a text which is cut outside of its directives is expanded one part after the other, and that
  the end of a line is such a place if every keyword before it is followed by a closing brace;
- which question a section directive asks, and that what has no two arguments asks none.

Does **not** own: the answers of an extractor (`Bindery.Excerpt`).
-/

namespace Bindery.Directive

open Bindery.Text
open Bindery.Attempt (listing Adds adds_pure adds_bind adds_listing exec_bind)

variable {ε σ α γ : Type}

/-- What comes of an expansion that starts in some state: the text, or the fault that ends it, the
state that is left, and the questions that have been asked, in their order. -/
abbrev Course (ε σ γ : Type) : Type :=
  σ → Except ε (List Char) × σ × List γ

namespace Course

/-- The text is given as it is, and nothing is asked. -/
def plain (text : List Char) : Course ε σ γ := fun state =>
  (.ok text, state, [])

/-- One question is asked, and the lines of the answer are given. -/
def inquiry (extract : γ → Attempt ε σ (List String)) (question : γ) : Course ε σ γ := fun state =>
  match (extract question).exec state with
  | (.ok lines, after) => (.ok (joinLines lines).toList, after, [question])
  | (.error fault, after) => (.error fault, after, [question])

/-- The second course follows the first one, unless that one has ended with a fault. -/
def followedBy (first second : Course ε σ γ) : Course ε σ γ := fun state =>
  match first state with
  | (.error fault, middle, asked) => (.error fault, middle, asked)
  | (.ok front, middle, asked) =>
      match second middle with
      | (.ok back, after, askedToo) => (.ok (front ++ back), after, asked ++ askedToo)
      | (.error fault, after, askedToo) => (.error fault, after, asked ++ askedToo)

/-- The course of an attempt that lists its questions. -/
def ofAttempt (attempt : Attempt ε (σ × List γ) (List Char)) : Course ε σ γ := fun state =>
  attempt.exec (state, [])

theorem followedBy_plain_nil (course : Course ε σ γ) : course.followedBy (plain []) = course := by
  funext state
  simp only [followedBy, plain]
  rcases course state with ⟨result, after, asked⟩
  cases result with
  | ok text => simp
  | error fault => rfl

/-- An attempt that adds to the list of questions follows the one before it. -/
theorem ofAttempt_append {first second : Attempt ε (σ × List γ) (List Char)} (adds : Adds second) :
    ofAttempt (do
      let front ← first
      let back ← second
      return front ++ back) = (ofAttempt first).followedBy (ofAttempt second) := by
  funext state
  simp only [ofAttempt, followedBy]
  rw [exec_bind]
  rcases first.exec (state, []) with ⟨result, middle, asked⟩
  cases result with
  | error fault => rfl
  | ok front =>
      simp only
      rw [exec_bind, adds middle asked]
      rcases second.exec (middle, []) with ⟨result, after, askedToo⟩
      cases result with
      | error fault => rfl
      | ok back => rfl

theorem ofAttempt_listing (extract : γ → Attempt ε σ (List String)) (question : γ) :
    ofAttempt (do
      let lines ← listing extract question
      return (joinLines lines).toList) = inquiry extract question := by
  funext state
  simp only [ofAttempt, inquiry]
  rw [exec_bind]
  rcases answered : (extract question).exec state with ⟨result, after⟩
  have listed : (listing extract question).exec (state, []) = (result, after, [question]) := by
    show (((extract question).exec state).1, ((extract question).exec state).2, [question]) = _
    rw [answered]
  rw [listed]
  cases result with
  | ok lines => rfl
  | error fault => rfl

end Course

open Course

/-! ## Expansions, part by part -/

section Parts

variable {form : Form α} {gap before after following payload : List Char} {asked : α}
variable {extract : α → Attempt ε (σ × List γ) (List String)}

theorem adds_assembleM {render : α → Attempt ε (σ × List γ) (List Char)}
    (adds : ∀ value, Adds (render value)) (pieces : List (Piece α)) :
    Adds (assembleM render pieces) := by
  induction pieces with
  | nil => exact adds_pure []
  | cons piece rest inductionHypothesis =>
      cases piece with
      | plain c => exact adds_bind inductionHypothesis fun text => adds_pure (c :: text)
      | found value =>
          exact adds_bind (adds value) fun shown =>
            adds_bind inductionHypothesis fun text => adds_pure (shown ++ text)

theorem adds_expand (adds : ∀ asked, Adds (extract asked)) (text : List Char) :
    Adds (form.expand extract text) :=
  adds_assembleM (fun asked => adds_bind (adds asked) fun _ => adds_pure _) _

/-- The parts on the two sides of a place outside of the directives are expanded one after the
other. -/
theorem Form.Outside.expand_append (outside : form.Outside before after)
    (adds : ∀ asked, Adds (extract asked)) :
    ofAttempt (form.expand extract (before ++ after)) =
      (ofAttempt (form.expand extract before)).followedBy
        (ofAttempt (form.expand extract after)) := by
  rw [← ofAttempt_append (adds_expand adds after)]
  unfold Form.expand
  rw [outside.scan_append, assembleM_append]

/-- A directive asks its question. -/
theorem Form.Admits.expand_append (admitted : form.Admits payload asked)
    (adds : ∀ asked, Adds (extract asked)) (after : List Char) :
    ofAttempt (form.expand extract (form.spell payload ++ after)) =
      (ofAttempt (do
        let lines ← extract asked
        return (joinLines lines).toList)).followedBy (ofAttempt (form.expand extract after)) := by
  rw [← ofAttempt_append (adds_expand adds after)]
  unfold Form.expand
  rw [scan_append_of_some (Form.recognise_spell admitted after) (form.spell_ne_nil payload)]
  rfl

/-- A gap asks nothing. -/
theorem Form.Bare.expand_append (bare : form.Bare gap following)
    (adds : ∀ asked, Adds (extract asked)) :
    ofAttempt (form.expand extract (gap ++ following)) =
      (plain gap).followedBy (ofAttempt (form.expand extract following)) := by
  rw [show plain gap = ofAttempt (pure gap : Attempt ε (σ × List γ) (List Char)) from rfl,
    ← ofAttempt_append (adds_expand adds following)]
  unfold Form.expand
  rw [bare.scan_append, assembleM_plain_append, pure_bind, map_eq_pure_bind]

end Parts

/-! ## The two kinds of directives -/

/-- The course of the expansion of file directives, in which locations are asked for. -/
def filesCourse (extract : String → Attempt ε σ (List String)) (text : List Char) :
    Course ε σ String :=
  ofAttempt (expandFiles (listing extract) text)

/-- The course of the expansion of section directives, in which locations are asked for with the
name of a section. -/
def sectionsCourse (extract : String → String → Attempt ε σ (List String)) (text : List Char) :
    Course ε σ (String × String) :=
  ofAttempt (expandSections (fun location name => listing extract.uncurry (location, name)) text)

variable {before after payload : List Char}

theorem filesCourse_append (outside : fileForm.Outside before after)
    (extract : String → Attempt ε σ (List String)) :
    filesCourse extract (before ++ after) =
      (filesCourse extract before).followedBy (filesCourse extract after) := by
  unfold filesCourse
  simp only [expandFiles_eq_expand]
  exact outside.expand_append fun _ => adds_listing _ _

theorem sectionsCourse_append (outside : sectionForm.Outside before after)
    (extract : String → String → Attempt ε σ (List String)) :
    sectionsCourse extract (before ++ after) =
      (sectionsCourse extract before).followedBy (sectionsCourse extract after) := by
  unfold sectionsCourse
  simp only [expandSections_eq_expand]
  exact outside.expand_append fun _ => adds_listing _ _

/-- Text whose last line is ended, and in which every keyword is followed by a closing brace, is
expanded apart from what comes after it: first the directives of the one are asked for and then
those of the other, the texts that they give are put together, and a fault among the first ends the
expansion. -/
theorem expansions_part_at_line_ends (before after : List Char) (ended : Ended before) :
    (fileForm.ClosedIn before → ∀ (ε σ : Type) (extract : String → Attempt ε σ (List String)),
      filesCourse extract (before ++ after) =
        (filesCourse extract before).followedBy (filesCourse extract after)) ∧
    (sectionForm.ClosedIn before →
      ∀ (ε σ : Type) (extract : String → String → Attempt ε σ (List String)),
        sectionsCourse extract (before ++ after) =
          (sectionsCourse extract before).followedBy (sectionsCourse extract after)) := by
  have ofFiles : '\n' ∉ fileForm.keyword := by decide
  have ofSections : '\n' ∉ sectionForm.keyword := by decide
  constructor
  · intro closed ε σ extract
    exact filesCourse_append (Form.outside_of_ended ofFiles ended closed after) extract
  · intro closed ε σ extract
    exact sectionsCourse_append (Form.outside_of_ended ofSections ended closed after) extract

/-- A line with a directive of one kind, and with a keyword of the other kind whose braces are
closed at once, so that the brace in the next line is none of its own. -/
def closedLine : List Char :=
  "INCLUDE_SOURCE_FILE\x7b a \x7d, INCLUDE_SOURCE_FILE_SECTION\x7b\x7d\n".toList

def nextLine : List Char :=
  "b,c\x7d INCLUDE_SOURCE_FILE\x7bd\x7d".toList

theorem expansions_part_at_line_ends_closed :
    Ended closedLine ∧ fileForm.ClosedIn closedLine ∧ sectionForm.ClosedIn closedLine ∧
      (∀ extract : String → Attempt String Nat (List String),
        filesCourse extract (closedLine ++ nextLine) =
          (filesCourse extract closedLine).followedBy (filesCourse extract nextLine)) ∧
      ∀ extract : String → String → Attempt String Nat (List String),
        sectionsCourse extract (closedLine ++ nextLine) =
          (sectionsCourse extract closedLine).followedBy (sectionsCourse extract nextLine) := by
  have ended : Ended closedLine := by decide +kernel
  have closed : fileForm.ClosedIn closedLine := by decide +kernel
  have closed' : sectionForm.ClosedIn closedLine := by decide +kernel
  have parted := expansions_part_at_line_ends closedLine nextLine ended
  exact ⟨ended, closed, closed', parted.1 closed String Nat, parted.2 closed' String Nat⟩

/-! ## The questions of section directives -/

variable {location name : List Char}

theorem strip_ofList (text : List Char) :
    strip (String.ofList text) = String.ofList (trim text) := by
  unfold strip
  rw [String.toList_ofList]

theorem sectionsCourse_spell (unclosed : '\x7d' ∉ payload) (cuts : LastComma payload location name)
    (extract : String → String → Attempt ε σ (List String)) (after : List Char) :
    sectionsCourse extract (sectionForm.spell payload ++ after) =
      (inquiry extract.uncurry
        (strip (String.ofList location), strip (String.ofList name))).followedBy
          (sectionsCourse extract after) := by
  have admitted : sectionForm.Admits payload (trim location, trim name) :=
    sectionForm_admits_iff.2 ⟨unclosed, location, name, cuts, rfl⟩
  unfold sectionsCourse
  simp only [expandSections_eq_expand]
  rw [admitted.expand_append fun _ => adds_listing _ _, strip_ofList, strip_ofList,
    ← ofAttempt_listing]

theorem sectionsCourse_of_not_hasComma (unclosed : '\x7d' ∉ payload) (without : ¬ HasComma payload)
    (extract : String → String → Attempt ε σ (List String)) (after : List Char) :
    sectionsCourse extract (sectionForm.spell payload ++ after) =
      (plain (sectionForm.spell payload)).followedBy (sectionsCourse extract after) := by
  have bare : sectionForm.Bare (sectionForm.spell payload) after :=
    bare_of_not_hasComma unclosed without after
  unfold sectionsCourse
  simp only [expandSections_eq_expand]
  exact bare.expand_append fun _ => adds_listing _ _

/-- What has the keyword and the braces of a section directive, and is not inside of a directive
before it, is expanded exactly if its payload has a comma with text on both sides: by an excerpt of
what stands before the last such comma, the location, and behind it, the name, both trimmed. If not,
it stays as it is. So a directive with a location and a name without a comma asks for these two and
nothing else. -/
theorem sections_asked_by_last_comma :
    (∀ before payload after : List Char, '\x7d' ∉ payload →
      sectionForm.Outside before (sectionForm.spell payload ++ after) →
      ∀ (ε σ : Type) (extract : String → String → Attempt ε σ (List String)),
        (HasComma payload → ∃ location name, LastComma payload location name ∧
          sectionsCourse extract (before ++ (sectionForm.spell payload ++ after)) =
            (sectionsCourse extract before).followedBy
              ((inquiry extract.uncurry
                (strip (String.ofList location), strip (String.ofList name))).followedBy
                  (sectionsCourse extract after))) ∧
        (¬ HasComma payload →
          sectionsCourse extract (before ++ (sectionForm.spell payload ++ after)) =
            (sectionsCourse extract before).followedBy
              ((plain (sectionForm.spell payload)).followedBy (sectionsCourse extract after)))) ∧
    ∀ location name : String, location ≠ "" → name ≠ "" → '\x7d' ∉ location.toList →
      '\x7d' ∉ name.toList → ',' ∉ name.toList →
      ∀ (ε σ : Type) (extract : String → String → Attempt ε σ (List String)),
        sectionsCourse extract (sectionForm.spell (location.toList ++ ',' :: name.toList)) =
          inquiry extract.uncurry (strip location, strip name) := by
  constructor
  · intro before payload after unclosed outside ε σ extract
    rw [sectionsCourse_append outside]
    constructor
    · intro has
      obtain ⟨location, name, cuts⟩ := has.exists_last
      exact ⟨location, name, cuts, by rw [sectionsCourse_spell unclosed cuts]⟩
    · intro without
      rw [sectionsCourse_of_not_hasComma unclosed without]
  · intro location name located named unclosed unclosed' single ε σ extract
    have cuts : LastComma (location.toList ++ ',' :: name.toList) location.toList name.toList :=
      lastComma_of_notMem (mt String.toList_eq_nil_iff.1 located)
        (mt String.toList_eq_nil_iff.1 named) single
    have closed : '\x7d' ∉ location.toList ++ ',' :: name.toList := by
      rw [List.mem_append, List.mem_cons]
      rintro (inLocation | comma | inName)
      · exact unclosed inLocation
      · exact absurd comma (by decide)
      · exact unclosed' inName
    have asked := sectionsCourse_spell closed cuts extract []
    rw [List.append_nil, String.ofList_toList, String.ofList_toList,
      show sectionsCourse extract [] = plain [] from rfl, followedBy_plain_nil] at asked
    exact asked

/-- A line with what looks like a section directive, but has no two arguments. -/
def idleLine : List Char :=
  "INCLUDE_SOURCE_FILE_SECTION\x7b,a,\x7d\n".toList

/-- A payload with commas at both ends and in the location, which has an opening brace and a line
feed besides. -/
def manyCommas : List Char :=
  ",main:a\x7b,b\n, s,".toList

theorem sections_asked_by_last_comma_several :
    '\x7d' ∉ manyCommas ∧
      sectionForm.Outside idleLine (sectionForm.spell manyCommas ++ "c".toList) ∧
      HasComma manyCommas ∧
      (∀ extract : String → String → Attempt String Nat (List String),
        ∃ location name, LastComma manyCommas location name ∧
          sectionsCourse extract (idleLine ++ (sectionForm.spell manyCommas ++ "c".toList)) =
            (sectionsCourse extract idleLine).followedBy
              ((inquiry extract.uncurry
                (strip (String.ofList location), strip (String.ofList name))).followedBy
                  (sectionsCourse extract "c".toList))) ∧
      cutAtLastComma manyCommas = some (",main:a\x7b,b\n".toList, " s,".toList) ∧
      ∀ extract : String → String → Attempt String Nat (List String),
        sectionsCourse extract
            (sectionForm.spell (" main:a\x7b,b".toList ++ ',' :: " s\n".toList)) =
          inquiry extract.uncurry ("main:a\x7b,b", "s") := by
  have unclosed : '\x7d' ∉ manyCommas := by decide
  have outside : sectionForm.Outside idleLine (sectionForm.spell manyCommas ++ "c".toList) :=
    Form.outside_of_ended (by decide) (by decide +kernel) (by decide +kernel) _
  have has : HasComma manyCommas := by decide +kernel
  refine ⟨unclosed, outside, has, fun extract => ?_, by decide +kernel, fun extract => ?_⟩
  · exact (sections_asked_by_last_comma.1 _ _ _ unclosed outside String Nat extract).1 has
  · have asked := sections_asked_by_last_comma.2 " main:a\x7b,b" " s\n" (by decide) (by decide)
      (by decide) (by decide) (by decide) String Nat extract
    rw [show strip " main:a\x7b,b" = "main:a\x7b,b" by decide +kernel,
      show strip " s\n" = "s" by decide +kernel] at asked
    exact asked

end Bindery.Directive
