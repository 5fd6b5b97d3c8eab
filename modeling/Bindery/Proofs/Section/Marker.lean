import Bindery.Proofs.Text.Mark
import Bindery.Section

/-!
Contract: the form of the lines that mark the two ends of a section.

Owns:
- `Lead`, what stands in a line before the text of a comment: blanks, the sign of the comment and
  blanks, for any two classes of blanks;
- `isMarker_iff`, that a line is a marker exactly if it is a comment of the marker's label;
- that a line tells what its comment begins with, and so is a marker of one section and of one kind
  at most, as long as names have no closing brace.

Does **not** own: the lines between markers (`Bindery.Proofs.Section.Slicing`).
-/

namespace Bindery.Section

open Bindery.Text

/-- The signs that open a comment. -/
def signs : List (List Char) :=
  [['/', '/'], ['#']]

/-- What a line that is a comment leads with: characters of a first class, the sign of the comment,
and characters of a second class. -/
structure Lead (before behind : Char → Bool) where
  indent : List Char
  sign : List Char
  gap : List Char
  indented : ∀ c ∈ indent, before c = true
  known : sign ∈ signs
  padded : ∀ c ∈ gap, behind c = true

/-- The line in which `body` follows. -/
def Lead.line {before behind : Char → Bool} (lead : Lead before behind) (body : List Char) :
    List Char :=
  lead.indent ++ (lead.sign ++ (lead.gap ++ body))

/-- The line is a comment of the label of a marker, and anything may follow. -/
def Labelled (before behind : Char → Bool) (mark : Mark) (name line : String) : Prop :=
  ∃ (lead : Lead before behind) (rest : List Char),
    line.toList = lead.line (mark.label name.toList ++ rest)

variable {before behind : Char → Bool} {text gap body rest : List Char}
variable {mark other : Mark} {name line : String}

/-! ## Comments -/

theorem exists_of_afterSign (found : afterSign text = some rest) :
    ∃ sign ∈ signs, text = sign ++ rest := by
  unfold afterSign at found
  split at found
  · obtain rfl := Option.some.inj found
    exact ⟨['/', '/'], by decide, rfl⟩
  · obtain rfl := Option.some.inj found
    exact ⟨['#'], by decide, rfl⟩
  · contradiction

/-- Blanks in front of something that does not begin with a blank are trimmed, and nothing else. -/
theorem trimStart_append (blank : ∀ c ∈ gap, isBlank c = true) (trimmed : trimStart body = body) :
    trimStart (gap ++ body) = body := by
  calc trimStart (gap ++ body) = trimStart body := List.dropWhile_append_of_pos blank
    _ = body := trimmed

namespace Lead

def mono {before' behind' : Char → Bool} (lead : Lead before behind)
    (wider : ∀ c, before c = true → before' c = true)
    (wider' : ∀ c, behind c = true → behind' c = true) : Lead before' behind' where
  indent := lead.indent
  sign := lead.sign
  gap := lead.gap
  indented c among := wider c (lead.indented c among)
  known := lead.known
  padded c among := wider' c (lead.padded c among)

/-- The same with other blanks in front of the comment. -/
def behindBlanks (lead : Lead before behind) {before' : Char → Bool} (front : List Char)
    (fronted : ∀ c ∈ front, before' c = true) : Lead before' behind where
  indent := front
  sign := lead.sign
  gap := lead.gap
  indented := fronted
  known := lead.known
  padded := lead.padded

theorem line_append (lead : Lead before behind) (body more : List Char) :
    lead.line body ++ more = lead.line (body ++ more) := by
  simp only [line, List.append_assoc]

theorem suffix_line (lead : Lead before behind) (body : List Char) : body <:+ lead.line body :=
  ⟨lead.indent ++ (lead.sign ++ lead.gap), by simp only [line, List.append_assoc]⟩

theorem sign_cases (lead : Lead before behind) : lead.sign = ['/', '/'] ∨ lead.sign = ['#'] := by
  have known := lead.known
  simp only [signs, List.mem_cons, List.not_mem_nil, or_false] at known
  exact known

/-- What follows the sign of the comment. -/
theorem afterSign_sign (lead : Lead before behind) (rest : List Char) :
    afterSign (lead.sign ++ rest) = some rest := by
  rcases lead.sign_cases with slashes | number
  · rw [slashes]
    rfl
  · rw [number]
    rfl

/-- What stands before the comment is all of its class, if the signs are not of this class. -/
theorem takeWhile_line (lead : Lead before behind) (slash : before '/' = false)
    (number : before '#' = false) (body : List Char) :
    (lead.line body).takeWhile before = lead.indent := by
  have stops : (lead.sign ++ (lead.gap ++ body)).takeWhile before = [] := by
    rcases lead.sign_cases with sign | sign
    · rw [sign]
      exact List.takeWhile_cons_of_neg (by simp [slash])
    · rw [sign]
      exact List.takeWhile_cons_of_neg (by simp [number])
  unfold line
  rw [List.takeWhile_append_of_pos lead.indented, stops, List.append_nil]

theorem dropWhile_line (lead : Lead before behind) (slash : before '/' = false)
    (number : before '#' = false) (body : List Char) :
    (lead.line body).dropWhile before = lead.sign ++ (lead.gap ++ body) := by
  have cut : (lead.line body).takeWhile before ++ (lead.line body).dropWhile before =
      lead.line body :=
    List.takeWhile_append_dropWhile
  rw [lead.takeWhile_line slash number] at cut
  exact List.append_cancel_left cut

theorem trimStart_line (lead : Lead isBlank behind) (body : List Char) :
    trimStart (lead.line body) = lead.sign ++ (lead.gap ++ body) :=
  lead.dropWhile_line rfl rfl body

/-- A line tells how much of its comment is blank, and what the comment begins with. -/
theorem eq_of_line {one two : Lead isBlank isBlank} {body body' : List Char}
    (same : one.line body = two.line body') (trimmed : trimStart body = body)
    (trimmed' : trimStart body' = body') : one.gap = two.gap ∧ body = body' := by
  have comments : one.gap ++ body = two.gap ++ body' := by
    apply Option.some.inj
    rw [← one.afterSign_sign, ← one.trimStart_line, same, two.trimStart_line, two.afterSign_sign]
  have bodies : body = body' := by
    rw [← trimStart_append one.padded trimmed, comments, trimStart_append two.padded trimmed']
  rw [bodies] at comments
  exact ⟨List.append_cancel_right comments, bodies⟩

end Lead

/-! ## Labels -/

theorem Labelled.mono {before' behind' : Char → Bool}
    (labelled : Labelled before behind mark name line)
    (wider : ∀ c, before c = true → before' c = true)
    (wider' : ∀ c, behind c = true → behind' c = true) :
    Labelled before' behind' mark name line := by
  obtain ⟨lead, rest, shape⟩ := labelled
  exact ⟨lead.mono wider wider', rest, shape⟩

theorem trimStart_label (mark : Mark) (name rest : List Char) :
    trimStart (mark.label name ++ rest) = mark.label name ++ rest := by
  cases mark with
  | start => rfl
  | stop => rfl

/-- A line is a marker exactly if it is a comment of the marker's label. -/
theorem isMarker_iff :
    isMarker mark name line = true ↔ Labelled isBlank isBlank mark name line := by
  unfold isMarker afterMarker
  rw [Option.isSome_iff_exists]
  constructor
  · rintro ⟨_, found⟩
    obtain ⟨inside, opened, labelled⟩ := Option.bind_eq_some_iff.1 found
    simp only [Option.ite_none_right_eq_some] at labelled
    obtain ⟨rest, body⟩ := List.isPrefixOf_iff_prefix.1 labelled.1
    obtain ⟨sign, known, signed⟩ := exists_of_afterSign opened
    let lead : Lead isBlank isBlank := {
      indent := line.toList.takeWhile isBlank
      sign := sign
      gap := inside.takeWhile isBlank
      indented := List.all_eq_true.1 List.all_takeWhile
      known := known
      padded := List.all_eq_true.1 List.all_takeWhile }
    refine ⟨lead, rest, ?_⟩
    calc line.toList = line.toList.takeWhile isBlank ++ trimStart line.toList :=
          List.takeWhile_append_dropWhile.symm
      _ = lead.indent ++ (lead.sign ++ inside) := congrArg (lead.indent ++ ·) signed
      _ = lead.indent ++ (lead.sign ++ (lead.gap ++ trimStart inside)) := by
          rw [show lead.gap ++ trimStart inside = inside from List.takeWhile_append_dropWhile]
      _ = lead.line (mark.label name.toList ++ rest) := by
          rw [body]
          rfl
  · rintro ⟨lead, rest, shape⟩
    rw [shape, lead.trimStart_line, lead.afterSign_sign, Option.bind_some]
    simp only [trimStart_append lead.padded (trimStart_label mark name.toList rest)]
    rw [if_pos (List.isPrefixOf_iff_prefix.2 (List.prefix_append _ rest))]
    exact ⟨_, rfl⟩

/-- Neither of the two keywords goes on as the other one. -/
theorem eq_of_keyword {left right : List Char}
    (same : mark.keyword ++ left = other.keyword ++ right) : mark = other := by
  have differ : ∀ mark other : Mark, mark.keyword <+: other.keyword → mark = other := by
    intro mark other
    cases mark <;> cases other <;> decide
  have begins : mark.keyword <+: other.keyword ++ right := ⟨left, same⟩
  rcases List.prefix_or_prefix_of_prefix begins (List.prefix_append _ right) with shorter | longer
  · exact differ mark other shorter
  · exact (differ other mark longer).symm

/-- A label tells its kind and its name. -/
theorem eq_of_label {name name' left right : List Char}
    (same : mark.label name ++ left = other.label name' ++ right) (unclosed : '\x7d' ∉ name)
    (unclosed' : '\x7d' ∉ name') : mark = other ∧ name = name' := by
  simp only [Mark.label, List.append_assoc, List.singleton_append] at same
  obtain rfl := eq_of_keyword same
  exact ⟨rfl, (eq_of_append_mark unclosed unclosed' (List.append_cancel_left same)).1⟩

/-- A line is a marker of one section only, and of one kind. -/
theorem eq_of_isMarker {name' : String} (marks : isMarker mark name line = true)
    (marks' : isMarker other name' line = true) (unclosed : '\x7d' ∉ name.toList)
    (unclosed' : '\x7d' ∉ name'.toList) : mark = other ∧ name = name' := by
  obtain ⟨lead, rest, shape⟩ := isMarker_iff.1 marks
  obtain ⟨lead', rest', shape'⟩ := isMarker_iff.1 marks'
  obtain ⟨_, bodies⟩ := Lead.eq_of_line (shape.symm.trans shape') (trimStart_label mark _ rest)
    (trimStart_label other _ rest')
  obtain ⟨kind, names⟩ := eq_of_label bodies unclosed unclosed'
  exact ⟨kind, String.toList_inj.1 names⟩

end Bindery.Section
