import Bindery.Proofs.Build.Boundary
import Bindery.Proofs.Directive.Form
import Bindery.Proofs.Text.Occurrence
import Bindery.Rehearsal

/-!
Contract: the excerpt that the operation shows, and the excerpt that a book includes.

Owns:
- `inclusion`, the manuscript that consists of one file directive, and what its first pass makes of
  it: the lines of the excerpt;
- `Press.revise`, the passes behind that one, and `Untouched`, the texts that none of them finds
  anything in;
- that the inclusion of a location is the shown content revised, so that both agree exactly when
  revising gives the content back, and in particular when it is untouched.

Does **not** own: the later passes one by one (`Bindery.Manuscript`).

## Why the two differ

The operation shows what the first pass inserts. The book goes on from there: a later pass sees what
an earlier one inserted, so section directives, path tokens, annotations and keys of the user's table
inside the excerpt are rewritten as well.
-/

namespace Bindery

/-! ## A manuscript of one directive -/

namespace Directive

open Bindery.Text

/-- A manuscript of one directive holds this directive and nothing else. -/
theorem scan_file_whole {payload : List Char} (clean : '}' ∉ payload) (nonempty : payload ≠ []) :
    scan file (fileKeyword ++ (payload ++ ['}'])) = [.found (trim payload)] := by
  have admitted : fileForm.Admits payload (trim payload) := ⟨nonempty, clean, rfl⟩
  have whole := scan_append_of_some (Form.recognise_spell admitted []) (fileForm.spell_ne_nil _)
  rw [List.append_nil, scan_nil] at whole
  rw [file_eq_recognise]
  exact whole

end Directive

/-- The manuscript that consists of one file directive. -/
def inclusion (location : String) : String :=
  "INCLUDE_SOURCE_FILE\x7b" ++ location ++ "\x7d"

theorem toList_inclusion (location : String) :
    (inclusion location).toList = Directive.fileKeyword ++ (location.toList ++ ['}']) := by
  unfold inclusion
  rw [String.toList_append, String.toList_append, List.append_assoc]
  rfl

namespace Press

/-- The passes behind the file directives. -/
def revise (press : Press) (text : String) : Action String := do
  let expanded ← Directive.expandSections (Excerpt.sectionLines press.repository) text.toList
  return String.ofList (press.finish expanded)

theorem render_eq (press : Press) (text : String) :
    press.render text =
      Directive.expandFiles (Excerpt.lines press.repository) text.toList >>= fun included =>
        press.revise (String.ofList included) := by
  unfold render revise
  simp only [String.toList_ofList]

/-- The inclusion of a location is its excerpt, revised. -/
theorem render_inclusion {press : Press} {location : String} (clean : '}' ∉ location.toList)
    (nonempty : location.toList ≠ []) :
    press.render (inclusion location) =
      Excerpt.lines press.repository (Text.strip location) >>= fun lines =>
        press.revise (Text.joinLines lines) := by
  rw [render_eq, toList_inclusion]
  unfold Directive.expandFiles
  rw [Directive.scan_file_whole clean nonempty]
  unfold Text.assembleM
  simp only [Text.assembleM, bind_assoc, pure_bind, List.append_nil, String.ofList_toList]
  rfl

/-! ## Texts that the later passes leave alone -/

/-- No entry of a table finds anything in a text; an empty key never does. -/
def Spared (table : List (String × String)) (text : List Char) : Prop :=
  ∀ entry ∈ table, entry.1 = "" ∨ Text.occurs (Text.literal entry.1.toList) text = false

instance (table : List (String × String)) (text : List Char) : Decidable (Spared table text) :=
  inferInstanceAs (Decidable (∀ entry ∈ table, _))

/-- A text in which no pass behind the file directives finds anything. -/
structure Untouched (press : Press) (text : List Char) : Prop where
  sections : Text.occurs Directive.sectionOf text = false
  tokens : Spared (pathTokens press.targetDirectory.render press.imagesDirectory.render) text
  foldMarks : Text.occurs SourceMark.foldMark text = false
  editorLines : Text.occurs SourceMark.editorLine text = false
  sectionLines : Text.occurs SourceMark.sectionLine text = false
  substitutes : Spared press.substitutes text

theorem apply_of_spared {table : List (String × String)} {text : List Char}
    (spared : Spared table text) : Substitution.apply table text = text := by
  induction table with
  | nil => rfl
  | cons entry rest inductionHypothesis =>
      have first : Substitution.applyOne text entry = text := by
        rcases spared entry List.mem_cons_self with empty | absent
        · exact Substitution.applyOne_of_empty_key empty text
        · exact Text.replaceAll_of_not_occurs absent
      rw [Substitution.apply_cons, first]
      exact inductionHypothesis fun other among => spared other (List.mem_cons_of_mem _ among)

theorem eraseMarks_of_untouched {press : Press} {text : List Char}
    (untouched : Untouched press text) : eraseMarks text = text := by
  have folds : SourceMark.eraseFoldMarks text = text :=
    Text.erase_eq_self_iff.2 untouched.foldMarks
  have editors : SourceMark.eraseEditorLines text = text :=
    Text.erase_eq_self_iff.2 untouched.editorLines
  have sections : SourceMark.eraseSectionLines text = text :=
    Text.erase_eq_self_iff.2 untouched.sectionLines
  unfold eraseMarks
  rw [folds, editors, sections]

theorem finish_of_untouched {press : Press} {text : List Char}
    (untouched : Untouched press text) : press.finish text = text := by
  unfold finish
  simp only [apply_of_spared untouched.tokens, eraseMarks_of_untouched untouched,
    apply_of_spared untouched.substitutes]

/-- Revising gives an untouched text back. -/
theorem revise_of_untouched {press : Press} {text : String}
    (untouched : Untouched press text.toList) : press.revise text = pure text := by
  unfold revise Directive.expandSections
  rw [Text.scan_of_not_occurs untouched.sections, Text.assembleM_map_plain, pure_bind,
    finish_of_untouched untouched, String.ofList_toList]

/-- Revising has every inherited property of its repository. -/
theorem inherited_revise {Holds : ∀ {α : Type}, Action α → Prop} (inherited : Inherited Holds)
    (press : Press) (asked : press.repository.All Holds) (text : String) :
    Holds (press.revise text) := by
  apply inherited.bind
  · apply inherited.assembleM
    intro pair
    exact inherited.bind (inherited.sectionLines asked _ _) fun _ => inherited.pure _
  · intro expanded
    exact inherited.pure _

end Press

/-! ## What is shown -/

/-- A location with blanks around it has the same excerpt. -/
theorem Excerpt.lines_strip {repository : Repository} {location : String} {place : Location}
    (read : Location.parse? location = some place) :
    Excerpt.lines repository (Text.strip location) = Excerpt.lines repository location := by
  unfold Excerpt.lines Excerpt.readLocation
  rw [Location.parse?_strip, read]

/-- Only what is written as a location has an excerpt. -/
theorem Excerpt.exists_place_of_lines {repository : Repository} {location : String}
    {lines : List String} {world after : World}
    (answered : (Excerpt.lines repository location).exec world = (.ok lines, after)) :
    ∃ place, Location.parse? location = some place := by
  obtain ⟨place, _, read, _⟩ := Action.exec_bind_eq_ok_iff.1 answered
  unfold Excerpt.readLocation at read
  split at read
  · exact ⟨_, by assumption⟩
  · obtain ⟨refused, _⟩ := Prod.mk.inj read
    contradiction

/-- The later passes find the same in a text whatever the repository answers. -/
theorem Press.Untouched.limitedTo {book : Book} {text : List Char}
    (untouched : Press.Untouched book.press text) (asked : Request → Bool) :
    Press.Untouched (book.limitedTo asked).press text :=
  ⟨untouched.sections, untouched.tokens, untouched.foldMarks, untouched.editorLines,
    untouched.sectionLines, untouched.substitutes⟩

namespace Book

variable {book : Book} {location : String} {world later after : World} {outcome : Outcome}

/-- A success shows the lines of the excerpt and tells their number. -/
theorem showExcerpt_eq_ok {name : Option String}
    (ran : (book.showExcerpt location name).exec world = (.ok outcome, after))
    (ok : outcome.ok = true) :
    ∃ lines middle,
      (book.excerptLines location name).exec { world with missing := [] } = (.ok lines, middle) ∧
      outcome.data.find? "line_count" = some (.int lines.length) ∧
      outcome.data.find? "content" = some (.str (Text.joinLines lines)) := by
  have forgets : Excerpt.forgetMissing.exec world = (.ok (), { world with missing := [] }) := rfl
  unfold showExcerpt at ran
  rw [Action.exec_bind_of_ok forgets] at ran
  obtain ⟨lines, middle, extracted, onward⟩ :=
    Action.exec_bind_eq_ok_iff.1 (settle_eq_ok ran ok)
  obtain ⟨same, _⟩ := Prod.mk.inj onward
  obtain rfl := Except.ok.inj same
  exact ⟨lines, middle, extracted, rfl, rfl⟩

variable {directory : Place}

/-- A rendering of the inclusion of a location whose excerpt was shown, in a world like the one of
the showing, is the shown content revised. -/
theorem exec_render_inclusion (steady : book.repository.Steady world.runner directory)
    (clean : '}' ∉ location.toList)
    (shown : (book.showExcerpt location none).exec world = (.ok outcome, after))
    (ok : outcome.ok = true) (beside : World.SameBeside directory world later) :
    ∃ content, outcome.data.find? "content" = some (.str content) ∧
      ((book.press.render (inclusion location)).exec later).1 =
        ((book.press.revise content).exec later).1 := by
  obtain ⟨lines, shownFrom, showing, _, told⟩ := showExcerpt_eq_ok shown ok
  have extracted : (Excerpt.lines book.repository location).exec { world with missing := [] } =
      (.ok lines, shownFrom) := showing
  refine ⟨_, told, ?_⟩
  obtain ⟨place, read⟩ := Excerpt.exists_place_of_lines extracted
  have nonempty : location.toList ≠ [] := by
    intro empty
    unfold Location.parse? at read
    rw [empty] at read
    contradiction
  obtain ⟨linesKeep, linesSteady⟩ :=
    (inherited_steady world.runner directory).lines steady location
  have revises : Action.ReadOnly world.runner (book.press.revise (Text.joinLines lines)) ∧
      Action.Steady world.runner directory (book.press.revise (Text.joinLines lines)) :=
    Press.inherited_revise (inherited_steady world.runner directory) book.press steady _
  have sameRunner : later.runner = world.runner := beside.runner.symm
  -- The excerpt does not depend on the notes that the showing starts with.
  have fetched : ((Excerpt.lines book.repository location).exec later).1 = .ok lines := by
    have same := linesSteady { world with missing := [] } later rfl
      ⟨beside.base, beside.runner, beside.files⟩
    rw [← same, extracted]
  rcases again : (Excerpt.lines book.repository location).exec later with ⟨answer, asked⟩
  rw [again] at fetched
  obtain rfl : answer = .ok lines := fetched
  have kept : World.Kept later asked := linesKeep.kept sameRunner again
  rw [Press.render_inclusion clean nonempty]
  show ((Excerpt.lines book.repository (Text.strip location) >>= _).exec later).1 = _
  rw [Excerpt.lines_strip read, Action.exec_bind_of_ok again]
  exact (revises.2 later asked sameRunner (kept.sameBeside directory)).symm

/-- The case of a version control that is steady for all requests. -/
theorem inclusion_of_steady (steady : book.repository.Steady world.runner directory)
    (clean : '}' ∉ location.toList)
    (shown : (book.showExcerpt location none).exec world = (.ok outcome, after))
    (ok : outcome.ok = true) (beside : World.SameBeside directory world later) :
    ∃ content, outcome.data.find? "content" = some (.str content) ∧
      (((book.press.render (inclusion location)).exec later).1 = .ok content ↔
        ((book.press.revise content).exec later).1 = .ok content) ∧
      (Press.Untouched book.press content.toList →
        ((book.press.render (inclusion location)).exec later).1 = .ok content) := by
  obtain ⟨content, told, included⟩ := exec_render_inclusion steady clean shown ok beside
  refine ⟨content, told, ?_, ?_⟩
  · rw [included]
  · intro untouched
    rw [included, Press.revise_of_untouched untouched]
    rfl

/-- Where the excerpt at a location is shown, the book includes the same text exactly when the
passes behind the file directives give the shown content back. They do whenever they find nothing
in it. Version control has to be steady for what the showing, the inclusion and the later passes ask
it. -/
theorem inclusion_shown_iff {asked : Request → Bool}
    (steady : book.repository.SteadyFor asked world.runner directory)
    (asksShown : book.AsksOnly asked (·.showExcerpt location none) world)
    (asksIncluded : book.AsksOnly asked (·.press.render (inclusion location)) later)
    (asksRevised : ∀ content, outcome.data.find? "content" = some (.str content) →
      book.AsksOnly asked (·.press.revise content) later)
    (clean : '}' ∉ location.toList)
    (shown : (book.showExcerpt location none).exec world = (.ok outcome, after))
    (ok : outcome.ok = true) (beside : World.SameBeside directory world later) :
    ∃ content, outcome.data.find? "content" = some (.str content) ∧
      (((book.press.render (inclusion location)).exec later).1 = .ok content ↔
        ((book.press.revise content).exec later).1 = .ok content) ∧
      (Press.Untouched book.press content.toList →
        ((book.press.render (inclusion location)).exec later).1 = .ok content) := by
  obtain ⟨content, told, sameText, included⟩ :=
    inclusion_of_steady steady.limitedTo clean (asksShown.trans shown) ok beside
  have includes : ((book.limitedTo asked).press.render (inclusion location)).exec later =
      (book.press.render (inclusion location)).exec later := asksIncluded
  have revises : ((book.limitedTo asked).press.revise content).exec later =
      (book.press.revise content).exec later := asksRevised content told
  rw [includes, revises] at sameText
  rw [includes] at included
  exact ⟨content, told, sameText, fun untouched => included (untouched.limitedTo asked)⟩

/-! ## Two excerpts -/

/-- A book whose repository holds a path token in one of its two files. -/
def tokenBook : Book where
  latexDirectory := .ofPlace ["tex"]
  graphvizDirectory := .ofPlace ["dot"]
  targetDirectory := .ofPlace ["out"]
  imagesDirectory := .ofPlace ["images"]
  engine := "pdflatex"
  substitutes := [("KEY", "value")]
  repository := .ofSnapshot
    ⟨some "main", [("a.scala", "val d = IMAGES_DIR"), ("b.scala", "val d = 1\n")], [], []⟩

def tokenWorld : World where
  files := .empty
  now := 5000
  base := []
  environment := []
  runner := .rehearsed []
  commands := []
  requests := []
  missing := []
  events := []
  recording := .start false fun _ => 0

theorem untouched_plainExcerpt : Press.Untouched tokenBook.press "val d = 1".toList where
  sections := by decide +kernel
  tokens := by decide +kernel
  foldMarks := by decide +kernel
  editorLines := by decide +kernel
  sectionLines := by decide +kernel
  substitutes := by decide +kernel

/-- The file without a token is included as it is shown, blanks around its location or not. -/
theorem inclusion_shown_iff_plain :
    ∃ outcome after,
      (tokenBook.showExcerpt " main:b.scala" none).exec tokenWorld = (.ok outcome, after) ∧
      outcome.data.find? "content" = some (.str "val d = 1") ∧
      ((tokenBook.press.render (inclusion " main:b.scala")).exec tokenWorld).1 =
        .ok "val d = 1" := by
  have steady : tokenBook.repository.SteadyFor (fun _ => true) tokenWorld.runner ["out"] :=
    (Repository.steady_ofSnapshot _ _ _).steadyFor _
  have shown : (tokenBook.showExcerpt " main:b.scala" none).exec tokenWorld =
      (.ok (.success "snippet" [("location", .str " main:b.scala"), ("section", .null),
        ("line_count", .int 1), ("content", .str "val d = 1")] []), _) := rfl
  obtain ⟨content, told, _, included⟩ :=
    inclusion_shown_iff steady (asksOnly_all _ _ _) (asksOnly_all _ _ _)
      (fun _ _ => asksOnly_all _ _ _) (by decide +kernel) shown rfl (.refl ["out"] tokenWorld)
  obtain rfl : "val d = 1" = content := Value.str.inj (Option.some.inj told)
  exact ⟨_, _, shown, told, included untouched_plainExcerpt⟩

/-- The file with a token is shown as it is and included with a directory in place of the token. -/
theorem inclusion_of_token_differs :
    ∃ outcome after,
      (tokenBook.showExcerpt "main:a.scala" none).exec tokenWorld = (.ok outcome, after) ∧
      outcome.ok = true ∧
      outcome.data.find? "content" = some (.str "val d = IMAGES_DIR") ∧
      ((tokenBook.press.render (inclusion "main:a.scala")).exec after).1 =
        .ok "val d = /images" := by
  refine ⟨_, _, rfl, rfl, rfl, eq_ok_of_toOption ?_⟩
  decide +kernel

end Book

end Bindery
