import Bindery.Proofs.Build.Inclusion
import Bindery.Proofs.Excerpt.Verbatim

/-!
Contract: what the operation that shows an excerpt tells about its lines.

Owns:
- `Lineless`, when a shown excerpt has no line at all;
- that a content is answered word for word, and that the number of lines that is told is the number
  of lines of what is shown, unless the excerpt has none.

Does **not** own: the lines themselves (`Bindery.Proofs.Excerpt.Verbatim`), and what a book includes
(`Bindery.Proofs.Build.Inclusion`).

A shown text of no characters is one empty line to whoever counts line feeds. It may come from a
section of one empty line, which is counted as such, or from a file of nothing but line feeds, which
is counted as no line.
-/

namespace Bindery

theorem Excerpt.partAsked_eq_none_iff {name : Option String} :
    Excerpt.partAsked name = none ↔ name = none ∨ name = some "" := by
  unfold Excerpt.partAsked
  cases name with
  | none => simp
  | some text => simp

namespace Book

variable {book : Book} {payload : String} {name : Option String} {world after : World}
  {outcome : Outcome}

/-- No section is asked for, and the content holds line feeds and nothing else. -/
def Lineless (name : Option String) (content : String) : Prop :=
  (name = none ∨ name = some "") ∧ content ≠ "" ∧ ∀ c ∈ content.toList, c = '\n'

/-- What is shown with success is an extraction, and the outcome tells its lines and their number. -/
theorem exists_performed_of_showExcerpt
    (ran : (book.showExcerpt payload name).exec world = (.ok outcome, after))
    (ok : outcome.ok = true) :
    ∃ (extraction : Extraction) (middle : World),
      extraction.Performed book.repository { world with missing := [] } middle ∧
      extraction.payload = payload ∧ extraction.part = Excerpt.partAsked name ∧
      outcome.data.find? "line_count" = some (.int extraction.lines.length) ∧
      outcome.data.find? "content" = some (.str (Text.joinLines extraction.lines)) := by
  obtain ⟨lines, middle, extracted, counted, shown⟩ := showExcerpt_eq_ok ran ok
  rw [excerptLines_eq] at extracted
  obtain ⟨extraction, performed, asked, part, rfl⟩ := Extraction.exists_performed extracted
  exact ⟨extraction, middle, performed, asked, part, counted, shown⟩

theorem lineless_iff {extraction : Extraction} {repository : Repository}
    (performed : extraction.Performed repository world after)
    (part : extraction.part = Excerpt.partAsked name) :
    Lineless name extraction.content ↔ extraction.lines = [] := by
  unfold Lineless
  rw [performed.lines_eq_nil_iff, part, Excerpt.partAsked_eq_none_iff]

/-- Whatever version control has at a location comes back word for word, less the line feeds at its
end, as lines that are cut from the joined lines again. And whatever is shown with success, a file, a
section or the line for what is missing, has as many lines as the outcome tells, except that no line
is told, and nothing shown, exactly of a whole file that holds nothing but line feeds. -/
theorem excerpt_verbatim (book : Book) (payload : String) (world : World) :
    (∀ content, Excerpt.Fetches book.repository payload world content → content ≠ "" →
      ∃ lines after, (Excerpt.lines book.repository payload).exec world = (.ok lines, after) ∧
        Excerpt.Verbatim content lines) ∧
    ∀ name outcome after, (book.showExcerpt payload name).exec world = (.ok outcome, after) →
      outcome.ok = true →
      ∃ content count shown,
        Excerpt.Fetches book.repository payload { world with missing := [] } content ∧
        outcome.data.find? "line_count" = some (.int count) ∧
        outcome.data.find? "content" = some (.str shown) ∧
        (Lineless name content → count = 0 ∧ shown = "") ∧
        (¬ Lineless name content → count = (Text.splitNewlines shown).length) := by
  constructor
  · intro content fetches some
    obtain ⟨after, answered⟩ := Excerpt.exists_lines_of_fetches fetches some
    exact ⟨_, after, answered, Excerpt.verbatim_contentLines content⟩
  · intro name outcome after ran ok
    obtain ⟨extraction, middle, performed, rfl, part, counted, shown⟩ :=
      exists_performed_of_showExcerpt ran ok
    have lineless := lineless_iff performed part
    refine ⟨extraction.content, _, _, performed.fetches, counted, shown, ?_, ?_⟩
    · intro empty
      rw [lineless.1 empty]
      exact ⟨rfl, rfl⟩
    · intro filled
      rw [Text.splitNewlines_joinLines performed.lineFeed_notMem fun none => filled (lineless.2 none)]

/-! ## Blank lines -/

/-- A book whose repository holds one file with blank lines around its code, and one without code. -/
def blankBook : Book :=
  { tokenBook with
    repository := .ofSnapshot
      ⟨some "main", [("a.scala", "\na\n\nb\n\n"), ("b.scala", "\n\n")], [], []⟩ }

/-- The first file is answered from its first blank line to its last line of code. The second one has
no line, when it is shown for the section without a name. -/
theorem excerpt_verbatim_blank :
    (∃ lines after,
      (Excerpt.lines blankBook.repository "main:a.scala").exec tokenWorld = (.ok lines, after) ∧
      Excerpt.Verbatim "\na\n\nb\n\n" lines) ∧
    ∃ outcome after,
      (blankBook.showExcerpt "main:b.scala" (some "")).exec tokenWorld = (.ok outcome, after) ∧
      outcome.data.find? "line_count" = some (.int 0) ∧
      outcome.data.find? "content" = some (.str "") := by
  constructor
  · have fetches : Excerpt.Fetches blankBook.repository "main:a.scala" tokenWorld "\na\n\nb\n\n" :=
      ⟨⟨"main", "a.scala"⟩, .workingTree, _, by decide +kernel, rfl⟩
    exact (excerpt_verbatim blankBook "main:a.scala" tokenWorld).1 _ fetches (by decide)
  · obtain ⟨outcome, after, ran, ok⟩ : ∃ outcome after,
        (blankBook.showExcerpt "main:b.scala" (some "")).exec tokenWorld = (.ok outcome, after) ∧
          outcome.ok = true := ⟨_, _, rfl, rfl⟩
    obtain ⟨content, count, shown, fetches, counted, told, lineless, _⟩ :=
      (excerpt_verbatim blankBook "main:b.scala" tokenWorld).2 _ _ _ ran ok
    obtain ⟨location, origin, middle, read, fetched⟩ := fetches
    obtain rfl : location = ⟨"main", "b.scala"⟩ := by
      have reading : Location.parse? "main:b.scala" = some ⟨"main", "b.scala"⟩ := by
        decide +kernel
      exact Option.some.inj (read.symm.trans reading)
    have blank : (Excerpt.Origin.workingTree, "\n\n") = (origin, content) :=
      Except.ok.inj (congrArg Prod.fst fetched)
    obtain ⟨_, rfl⟩ := Prod.mk.inj blank
    obtain ⟨rfl, rfl⟩ := lineless ⟨.inr rfl, by decide, by simp⟩
    exact ⟨outcome, after, ran, counted, told⟩

end Book

end Bindery
