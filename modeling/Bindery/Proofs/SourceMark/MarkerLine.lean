import Bindery.Proofs.Section.Marker
import Bindery.Proofs.SourceMark.Opening
import Mathlib.Data.List.DropRight
import Mathlib.Data.List.Infix

/-!
Contract: a marker of a section, and what the deletion of section lines leaves of its line.

Owns:
- the lines that are markers of some section, and those that have the word of the keywords in them;
- what the deletion takes, in the terms of markers: a comment with a keyword, behind spaces and with
  spaces and tabs in it, while a marker may have any blanks in these two places;
- what is left of a line: all of it without the word; nothing of a marker, if there is no other blank
  in these places; the blanks in front of its last spaces, if there is one before the comment; and
  at least the keyword, if there is one in the comment.

Does **not** own: files (`Bindery.Proofs.SourceMark.Agreement`), and comments that open a name and
do not close it (`Bindery.Proofs.SourceMark.Opening`).
-/

namespace Bindery.SourceMark

open Bindery.Text
open Bindery.Section (Mark isMarker Lead Labelled signs)

/-! ## Lines and markers -/

/-- What the keywords of both markers begin with. -/
def sectionWord : List Char :=
  "FILE_SECTION_".toList

/-- The word of the keywords is somewhere in the line. -/
def Mentions (line : String) : Prop :=
  sectionWord <:+: line.toList

/-- The line is a marker, for some section whose name has no closing brace. -/
def MarksSection (line : String) : Prop :=
  ∃ mark name, '\x7d' ∉ name.toList ∧ isMarker mark name line = true

/-- The line has the form of a marker, with a class of characters before the sign of its comment
and another one behind it. -/
def MarksWith (before behind : Char → Bool) (line : String) : Prop :=
  ∃ mark name, '\x7d' ∉ name.toList ∧ Labelled before behind mark name line

/-- A marker with nothing but spaces before its comment, and spaces and tabs in it. -/
def MarksPlainly (line : String) : Prop :=
  MarksWith (· = ' ') isPadding line

theorem isBlank_of_isPadding {c : Char} (padding : isPadding c = true) : isBlank c = true := by
  have either : c = ' ' ∨ c = '\t' := by
    simpa [isPadding] using padding
  rcases either with rfl | rfl
  · rfl
  · rfl

theorem isBlank_of_isSpace {c : Char} (space : decide (c = ' ') = true) : isBlank c = true := by
  obtain rfl := of_decide_eq_true space
  rfl

theorem marksSection_iff {line : String} : MarksSection line ↔ MarksWith isBlank isBlank line := by
  unfold MarksSection MarksWith
  simp only [Section.isMarker_iff]

theorem MarksWith.mono {before behind before' behind' : Char → Bool} {line : String}
    (marks : MarksWith before behind line) (wider : ∀ c, before c = true → before' c = true)
    (wider' : ∀ c, behind c = true → behind' c = true) : MarksWith before' behind' line := by
  obtain ⟨mark, name, unclosed, labelled⟩ := marks
  exact ⟨mark, name, unclosed, labelled.mono wider wider'⟩

theorem marksSection_of_tight {line : String} (tight : MarksWith isBlank isPadding line) :
    MarksSection line :=
  marksSection_iff.2 (tight.mono (fun _ blank => blank) fun _ => isBlank_of_isPadding)

theorem MarksPlainly.tight {line : String} (plainly : MarksPlainly line) :
    MarksWith isBlank isPadding line :=
  MarksWith.mono plainly (fun _ => isBlank_of_isSpace) fun _ padding => padding

/-- The text between the first opening brace of a line and the closing one that follows it. -/
def braced (line : String) : String :=
  String.ofList (((line.toList.dropWhile (· != '\x7b')).drop 1).takeWhile (· != '\x7d'))

/-- A marker has the name of its section in its first braces. -/
theorem braced_of_isMarker {mark : Mark} {name line : String} (unclosed : '\x7d' ∉ name.toList)
    (marks : isMarker mark name line = true) : braced line = name := by
  obtain ⟨lead, rest, shape⟩ := Section.isMarker_iff.1 marks
  obtain ⟨word, keyword, wordFree⟩ : ∃ word, mark.keyword = word ++ ['\x7b'] ∧ '\x7b' ∉ word := by
    cases mark with
    | start => exact ⟨"FILE_SECTION_BEGIN".toList, rfl, by decide⟩
    | stop => exact ⟨"FILE_SECTION_END".toList, rfl, by decide⟩
  have signFree : '\x7b' ∉ lead.sign := by
    have free : ∀ sign ∈ signs, '\x7b' ∉ sign := by decide
    exact free lead.sign lead.known
  have regrouped : line.toList = lead.line word ++ '\x7b' :: (name.toList ++ '\x7d' :: rest) := by
    rw [shape, lead.line_append]
    simp [Mark.label, keyword]
  have before : ∀ c ∈ lead.line word, (c != '\x7b') = true := by
    intro c among
    apply bne_iff_ne.2
    rintro rfl
    simp only [Lead.line, List.mem_append, signFree, wordFree, or_false, false_or] at among
    rcases among with inIndent | inGap
    · exact absurd (lead.indented _ inIndent) (by decide)
    · exact absurd (lead.padded _ inGap) (by decide)
  have found : (((line.toList.dropWhile (· != '\x7b')).drop 1).takeWhile (· != '\x7d')) =
      name.toList := by
    rw [regrouped, List.dropWhile_append_of_pos before]
    exact takeWhile_append_mark unclosed rest
  unfold braced
  rw [found, String.ofList_toList]

theorem marksSection_iff_braced {line : String} :
    MarksSection line ↔
      ∃ mark ∈ [Mark.start, Mark.stop], isMarker mark (braced line) line = true := by
  constructor
  · rintro ⟨mark, name, unclosed, marks⟩
    refine ⟨mark, by cases mark <;> decide, ?_⟩
    rw [braced_of_isMarker unclosed marks]
    exact marks
  · rintro ⟨mark, _, marks⟩
    refine ⟨mark, braced line, fun among => ?_, marks⟩
    unfold braced at among
    rw [String.toList_ofList] at among
    exact absurd (List.all_eq_true.1 List.all_takeWhile _ among) (by decide)

instance (line : String) : Decidable (MarksSection line) :=
  decidable_of_iff _ marksSection_iff_braced.symm

instance (line : String) : Decidable (Mentions line) :=
  inferInstanceAs (Decidable (sectionWord <:+: line.toList))

/-! ## Openings -/

variable {text left rest : List Char} {mark : Mark} {line : String}

theorem afterSectionKeyword_eq_some_iff :
    afterSectionKeyword text = some left ↔ ∃ mark : Mark, text = mark.keyword ++ left := by
  constructor
  · intro found
    obtain ⟨word, known, rfl, _⟩ := takes_afterSectionKeyword text left found
    simp only [sectionKeywords, List.mem_cons, List.not_mem_nil, or_false] at known
    rcases known with rfl | rfl
    · exact ⟨.start, rfl⟩
    · exact ⟨.stop, rfl⟩
  · rintro ⟨mark, rfl⟩
    cases mark with
    | start => rfl
    | stop => rfl

/-- An opening is a comment with a keyword, behind spaces and with spaces and tabs in it. -/
theorem afterOpening_eq_some_iff :
    afterOpening text = some left ↔
      ∃ (mark : Mark) (lead : Lead (· = ' ') isPadding),
        text = lead.line (mark.keyword ++ left) := by
  unfold afterOpening
  rw [Option.bind_eq_some_iff]
  constructor
  · rintro ⟨comment, commented, named⟩
    obtain ⟨mark, body⟩ := afterSectionKeyword_eq_some_iff.1 named
    obtain ⟨sign, known, shape⟩ := Section.exists_of_afterSign commented
    let lead : Lead (· = ' ') isPadding := {
      indent := text.takeWhile (· = ' ')
      sign := sign
      gap := comment.takeWhile isPadding
      indented := List.all_eq_true.1 List.all_takeWhile
      known := known
      padded := List.all_eq_true.1 List.all_takeWhile }
    refine ⟨mark, lead, ?_⟩
    show text = text.takeWhile (· = ' ') ++
      (sign ++ (comment.takeWhile isPadding ++ (mark.keyword ++ left)))
    rw [← body, List.takeWhile_append_dropWhile, ← shape, List.takeWhile_append_dropWhile]
  · rintro ⟨mark, lead, rfl⟩
    have comment : (lead.line (mark.keyword ++ left)).dropWhile (· = ' ') =
        lead.sign ++ (lead.gap ++ (mark.keyword ++ left)) :=
      lead.dropWhile_line rfl rfl _
    have body : (lead.gap ++ (mark.keyword ++ left)).dropWhile isPadding = mark.keyword ++ left := by
      rw [List.dropWhile_append_of_pos lead.padded]
      cases mark with
      | start => rfl
      | stop => rfl
    refine ⟨lead.gap ++ (mark.keyword ++ left), ?_, ?_⟩
    · rw [comment]
      exact lead.afterSign_sign _
    · rw [body]
      exact afterSectionKeyword_eq_some_iff.2 ⟨mark, rfl⟩

theorem toLineEnd_of_unopened (unopened : afterOpening text = none) :
    toLineEnd afterSectionMark text = none := by
  apply toLineEnd_eq_none_iff.2
  unfold afterSectionMark
  rw [unopened]
  rfl

theorem trimStart_keyword (mark : Mark) (rest : List Char) :
    trimStart (mark.keyword ++ rest) = mark.keyword ++ rest := by
  cases mark with
  | start => rfl
  | stop => rfl

/-- A comment with another blank than a space or a tab before its keyword is no opening, whatever
stands in front of it. -/
theorem afterOpening_of_loose (lead : Lead isBlank isBlank)
    (loose : ¬ ∀ c ∈ lead.gap, isPadding c = true) :
    afterOpening (lead.line (mark.keyword ++ rest)) = none := by
  cases opened : afterOpening (lead.line (mark.keyword ++ rest)) with
  | none => rfl
  | some left =>
      obtain ⟨other, lead', shape⟩ := afterOpening_eq_some_iff.1 opened
      let wider : Lead isBlank isBlank :=
        lead'.mono (fun _ => isBlank_of_isSpace) fun _ => isBlank_of_isPadding
      have same : lead.line (mark.keyword ++ rest) = wider.line (other.keyword ++ left) := shape
      obtain ⟨gaps, _⟩ :=
        Lead.eq_of_line same (trimStart_keyword mark rest) (trimStart_keyword other left)
      have padded : ∀ c ∈ lead.gap, isPadding c = true := by
        rw [gaps]
        exact lead'.padded
      exact absurd padded loose

/-- Characters that begin no comment are no openings, if the last of them is no space. -/
theorem afterOpening_of_unsigned {front rest : List Char}
    (unsigned : ∀ c ∈ front, c ≠ '/' ∧ c ≠ '#') (nonempty : front ≠ [])
    (stops : front.getLast nonempty ≠ ' ') : afterOpening (front ++ rest) = none := by
  cases shape : front.dropWhile (· = ' ') with
  | nil =>
      have spaces := List.dropWhile_eq_nil_iff.1 shape _ (List.getLast_mem nonempty)
      exact absurd (of_decide_eq_true spaces) stops
  | cons c others =>
      have among : c ∈ front := (List.dropWhile_sublist _).subset (shape ▸ List.mem_cons_self)
      have remaining : (front ++ rest).dropWhile (· = ' ') = c :: (others ++ rest) := by
        rw [List.dropWhile_append, shape]
        rfl
      have unread : afterCommentMark (c :: (others ++ rest)) = none := by
        unfold afterCommentMark
        split
        · rename_i behind same
          exact absurd (List.cons.inj same).1 (unsigned c among).1
        · rename_i behind same
          exact absurd (List.cons.inj same).1 (unsigned c among).2
        · rfl
      unfold afterOpening
      rw [remaining, unread]
      rfl

/-! ## What is left of a line -/

/-- Such characters stay, and what follows them is treated apart from them. -/
theorem eraseSectionLines_unsigned {front : List Char}
    (unsigned : ∀ c ∈ front, c ≠ '/' ∧ c ≠ '#')
    (stops : ∀ nonempty : front ≠ [], front.getLast nonempty ≠ ' ') (rest : List Char) :
    eraseSectionLines (front ++ rest) = front ++ eraseSectionLines rest := by
  rw [eraseSectionLines_eq]
  apply eraseBy_append_of_none
  intro place behind nonempty
  apply toLineEnd_of_unopened
  apply afterOpening_of_unsigned (fun c among => unsigned c (behind.subset among)) nonempty
  rw [behind.getLast nonempty]
  exact stops _

theorem unsigned_of_isBlank {c : Char} (blank : isBlank c = true) : c ≠ '/' ∧ c ≠ '#' := by
  constructor
  · rintro rfl
    contradiction
  · rintro rfl
    contradiction

/-- A marker with spaces before its comment, and spaces and tabs in it, goes with its line. -/
theorem eraseSectionLines_plainly (lead : Lead (· = ' ') isPadding) {name more : List Char}
    (unclosed : '\x7d' ∉ name) (whole : '\n' ∉ rest) :
    eraseSectionLines (lead.line (mark.label name ++ rest) ++ '\n' :: more) =
      eraseSectionLines more := by
  have opened : afterOpening (lead.line (mark.label name ++ rest) ++ '\n' :: more) =
      some (name ++ '\x7d' :: (rest ++ '\n' :: more)) := by
    apply afterOpening_eq_some_iff.2
    refine ⟨mark, lead, ?_⟩
    rw [lead.line_append]
    simp [Mark.label]
  have marked : afterSectionMark (lead.line (mark.label name ++ rest) ++ '\n' :: more) =
      some (rest ++ '\n' :: more) := by
    unfold afterSectionMark
    rw [opened, Option.bind_some, afterBrace_append_of_notMem unclosed]
    rfl
  rw [eraseSectionLines_of_line (toLineEnd_of_some marked), afterLine_append_of_notMem whole]
  rfl

/-- The blanks before the comment of a line, without the last spaces of them. -/
def residue (line : String) : List Char :=
  (line.toList.takeWhile isBlank).rdropWhile (· = ' ')

/-- Of a marker with only spaces and tabs in its comment, the blanks before its last spaces stay,
and its line goes on with the next one. -/
theorem eraseSectionLines_tight (whole : '\n' ∉ line.toList)
    (tight : MarksWith isBlank isPadding line) (more : List Char) :
    eraseSectionLines (line.toList ++ '\n' :: more) = residue line ++ eraseSectionLines more := by
  obtain ⟨mark, name, unclosed, lead, rest, shape⟩ := tight
  have wholeRest : '\n' ∉ rest := by
    intro among
    apply whole
    rw [shape]
    exact (lead.suffix_line _).subset (List.mem_append_right _ among)
  have left : residue line = lead.indent.rdropWhile (· = ' ') := by
    unfold residue
    rw [shape, lead.takeWhile_line rfl rfl]
  let plain : Lead (· = ' ') isPadding :=
    lead.behindBlanks (lead.indent.rtakeWhile (· = ' ')) fun c among =>
      List.mem_rtakeWhile_imp (p := fun c => decide (c = ' ')) among
  have cut : residue line ++ plain.indent = lead.indent := by
    rw [left]
    exact List.rdropWhile_append_rtakeWhile
  have regrouped : line.toList ++ '\n' :: more =
      residue line ++ (plain.line (mark.label name.toList ++ rest) ++ '\n' :: more) := by
    rw [shape, Lead.line, ← cut]
    simp only [plain, Lead.line, Lead.behindBlanks, List.append_assoc]
  rw [regrouped, eraseSectionLines_unsigned, eraseSectionLines_plainly plain unclosed wholeRest]
  · intro c among
    rw [left] at among
    exact unsigned_of_isBlank (lead.indented c ((List.rdropWhile_prefix _ _).subset among))
  · intro nonempty space
    exact List.rdropWhile_last_not _ _ nonempty (decide_eq_true space)

theorem afterOpening_slash {c : Char} {rest : List Char} (other : c ≠ '/') :
    afterOpening ('/' :: c :: rest) = none := by
  have unread : afterCommentMark ('/' :: c :: rest) = none := by
    unfold afterCommentMark
    split
    · rename_i behind same
      exact absurd (List.cons.inj (List.cons.inj same).2).1 other
    · rename_i behind same
      exact absurd (List.cons.inj same).1 (by decide)
    · rfl
  unfold afterOpening
  rw [show ('/' :: c :: rest).dropWhile (· = ' ') = '/' :: c :: rest from rfl, unread]
  rfl

/-- The sign of a comment stays, if a blank follows it and both together are no opening. -/
theorem eraseSectionLines_sign {before behind : Char → Bool} (lead : Lead before behind) {c : Char}
    (blank : isBlank c = true) (unopened : afterOpening (lead.sign ++ c :: rest) = none) :
    eraseSectionLines (lead.sign ++ c :: rest) = lead.sign ++ eraseSectionLines (c :: rest) := by
  have kept : ∀ first others, afterOpening (first :: others) = none →
      eraseSectionLines (first :: others) = first :: eraseSectionLines others := by
    intro first others none
    exact eraseSectionLines_cons (toLineEnd_eq_none_iff.1 (toLineEnd_of_unopened none))
  rcases lead.sign_cases with slashes | number
  · rw [slashes] at unopened ⊢
    show eraseSectionLines ('/' :: '/' :: c :: rest) = '/' :: '/' :: eraseSectionLines (c :: rest)
    rw [kept '/' ('/' :: c :: rest) unopened,
      kept _ _ (afterOpening_slash (unsigned_of_isBlank blank).1)]
  · rw [number] at unopened ⊢
    exact kept _ _ unopened

/-- What is in the keywords begins no comment, and ends with no space. -/
theorem unsigned_keyword (mark : Mark) :
    (∀ c ∈ mark.keyword, c ≠ '/' ∧ c ≠ '#') ∧
      ∀ nonempty : mark.keyword ≠ [], mark.keyword.getLast nonempty ≠ ' ' := by
  have free : '/' ∉ mark.keyword ∧ '#' ∉ mark.keyword := by
    cases mark with
    | start => decide
    | stop => decide
  constructor
  · intro c among
    exact ⟨fun same => free.1 (same ▸ among), fun same => free.2 (same ▸ among)⟩
  · cases mark with
    | start => decide
    | stop => decide

theorem sectionWord_prefix_keyword (mark : Mark) : sectionWord <+: mark.keyword := by
  cases mark with
  | start => decide
  | stop => decide

theorem mentions_of_marksSection (marks : MarksSection line) : Mentions line := by
  obtain ⟨mark, name, _, lead, rest, shape⟩ := marksSection_iff.1 marks
  have labelled : mark.label name.toList ++ rest <:+ line.toList := shape ▸ lead.suffix_line _
  have begins : mark.keyword <+: mark.label name.toList ++ rest := by
    unfold Mark.label
    rw [List.append_assoc, List.append_assoc]
    exact List.prefix_append _ _
  exact ((sectionWord_prefix_keyword mark).trans begins).isInfix.trans labelled.isInfix

/-- A comment with another blank than a space or a tab before its keyword stays. -/
theorem eraseSectionLines_loose (lead : Lead isBlank isBlank)
    (loose : ¬ ∀ c ∈ lead.gap, isPadding c = true) (mark : Mark) (rest : List Char) :
    eraseSectionLines (lead.line (mark.keyword ++ rest)) =
      lead.line (mark.keyword ++ eraseSectionLines rest) := by
  have indented : eraseSectionLines (lead.line (mark.keyword ++ rest)) =
      lead.indent ++ eraseSectionLines (lead.sign ++ (lead.gap ++ (mark.keyword ++ rest))) := by
    rw [eraseSectionLines_eq]
    apply eraseBy_append_of_none
    intro place behind _
    apply toLineEnd_of_unopened
    let later := lead.behindBlanks place fun c among => lead.indented c (behind.subset among)
    exact afterOpening_of_loose later loose
  have signed : eraseSectionLines (lead.sign ++ (lead.gap ++ (mark.keyword ++ rest))) =
      lead.sign ++ eraseSectionLines (lead.gap ++ (mark.keyword ++ rest)) := by
    let bare : Lead isBlank isBlank := lead.behindBlanks [] (List.forall_mem_nil _)
    have unopened : afterOpening (lead.sign ++ (lead.gap ++ (mark.keyword ++ rest))) = none :=
      afterOpening_of_loose bare loose
    cases gap : lead.gap with
    | nil => exact absurd (gap ▸ List.forall_mem_nil _) loose
    | cons c others =>
        rw [gap] at unopened
        exact eraseSectionLines_sign lead (lead.padded c (gap ▸ List.mem_cons_self)) unopened
  have worded : eraseSectionLines (lead.gap ++ (mark.keyword ++ rest)) =
      lead.gap ++ (mark.keyword ++ eraseSectionLines rest) := by
    obtain ⟨unsigned, stops⟩ := unsigned_keyword mark
    have some : mark.keyword ≠ [] := by
      cases mark with
      | start => decide
      | stop => decide
    rw [← List.append_assoc, eraseSectionLines_unsigned, List.append_assoc]
    · intro c among
      rcases List.mem_append.1 among with inGap | inKeyword
      · exact unsigned_of_isBlank (lead.padded c inGap)
      · exact unsigned c inKeyword
    · intro nonempty
      rw [List.getLast_append_of_ne_nil nonempty some]
      exact stops some
  rw [indented, signed, worded, Lead.line]

/-- A marker with another blank in its comment keeps its keyword. -/
theorem sectionWord_infix_of_loose (marks : MarksSection line)
    (loose : ¬ MarksWith isBlank isPadding line) (more : List Char) :
    sectionWord <:+: eraseSectionLines (line.toList ++ more) := by
  obtain ⟨mark, name, unclosed, lead, rest, shape⟩ := marksSection_iff.1 marks
  have looseGap : ¬ ∀ c ∈ lead.gap, isPadding c = true := by
    intro padded
    let tight : Lead isBlank isPadding := { lead with padded := padded }
    exact loose ⟨mark, name, unclosed, tight, rest, shape⟩
  have regrouped : line.toList ++ more =
      lead.line (mark.keyword ++ (name.toList ++ '\x7d' :: (rest ++ more))) := by
    rw [shape, lead.line_append]
    simp [Mark.label]
  rw [regrouped, eraseSectionLines_loose lead looseGap]
  apply (sectionWord_prefix_keyword mark).isInfix.trans
  exact (List.prefix_append _ _).isInfix.trans (lead.suffix_line _).isInfix

/-- A line without the word of the keywords stays as it is. -/
theorem eraseSectionLines_unmentioned (unmentioned : ¬ Mentions line) (more : List Char) :
    eraseSectionLines (line.toList ++ '\n' :: more) =
      line.toList ++ '\n' :: eraseSectionLines more := by
  have kept : eraseSectionLines ((line.toList ++ ['\n']) ++ more) =
      (line.toList ++ ['\n']) ++ eraseSectionLines more := by
    rw [eraseSectionLines_eq]
    apply eraseBy_append_of_none
    intro place behind nonempty
    apply toLineEnd_of_unopened
    cases opened : afterOpening (place ++ more) with
    | none => rfl
    | some left =>
        obtain ⟨taken, ⟨_, whole⟩, shape, _⟩ := takes_afterOpening _ left opened
        obtain ⟨mark, lead, form⟩ := afterOpening_eq_some_iff.1 opened
        obtain ⟨front, rfl, inLine⟩ : ∃ front, place = front ++ ['\n'] ∧ front <:+ line.toList := by
          rcases List.suffix_concat_iff.1 behind with empty | found
          · exact absurd empty nonempty
          · exact found
        have word : taken = lead.line mark.keyword := by
          apply List.append_cancel_right
          rw [← shape, form, lead.line_append]
        have begins : taken <+: front := by
          apply prefix_of_notMem whole
          rw [← shape, List.append_assoc]
          rfl
        have named : sectionWord <:+: taken := by
          rw [word]
          exact (sectionWord_prefix_keyword mark).isInfix.trans (lead.suffix_line _).isInfix
        exact absurd (named.trans (begins.isInfix.trans inLine.isInfix)) unmentioned
  simpa using kept

end Bindery.SourceMark
