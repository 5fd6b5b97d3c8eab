import Bindery.Proofs.Excerpt.Extraction
import Bindery.Proofs.Location.Reading
import Bindery.Proofs.Text.Joined

/-!
Contract: the lines of an excerpt, compared with the content that they come from.

Owns:
- `Verbatim`, lines that are a text word for word, less the line feeds at its end, and that the lines
  of a content are;
- that a content with something in it is always answered with its lines;
- that no line of an extraction holds a line feed, not even the one that stands for a missing
  excerpt, and which extractions have no line at all.

Does **not** own: what an operation tells about the lines (`Bindery.Proofs.Build.Showing`).

The line for a missing excerpt names its path. That this is one line is a fact about locations: a
path that was read has none but its own line.
-/

namespace Bindery

namespace Excerpt

variable {text : String} {lines : List String}

/-! ## The lines of a content -/

/-- Lines that are a text word for word, less the line feeds at its end: no line is cut, the last one
is not empty, and the joined lines are cut into the same lines again. -/
structure Verbatim (text : String) (lines : List String) : Prop where
  joined : Text.joinLines lines = Text.withoutFinalLineFeeds text
  whole : ∀ line ∈ lines, '\n' ∉ line.toList
  ended : lines.getLast? ≠ some ""
  again : contentLines (Text.joinLines lines) = lines

theorem contentLines_eq (text : String) :
    contentLines text = (Text.splitNewlines text).rdropWhile (· = "") := rfl

theorem lineFeed_notMem_of_mem_contentLines {line : String} (among : line ∈ contentLines text) :
    '\n' ∉ line.toList :=
  Text.lineFeed_notMem_of_mem_splitNewlines ((List.rdropWhile_prefix _ _).subset among)

theorem getLast?_contentLines (text : String) : (contentLines text).getLast? ≠ some "" := by
  intro last
  have some : contentLines text ≠ [] := by
    intro none
    rw [none] at last
    contradiction
  have nonempty := List.rdropWhile_last_not (· = "") (Text.splitNewlines text) some
  rw [List.getLast?_eq_some_getLast some] at last
  exact nonempty (decide_eq_true (Option.some.inj last))

/-- The lines of joined lines are these lines, unless they end with an empty one. -/
theorem contentLines_joinLines (whole : ∀ line ∈ lines, '\n' ∉ line.toList)
    (ended : lines.getLast? ≠ some "") : contentLines (Text.joinLines lines) = lines := by
  by_cases none : lines = []
  · subst none
    rfl
  · rw [contentLines_eq, Text.splitNewlines_joinLines whole none, List.rdropWhile_eq_self_iff]
    intro some
    rw [List.getLast?_eq_some_getLast some] at ended
    simpa using ended

theorem verbatim_contentLines (text : String) : Verbatim text (contentLines text) where
  joined := by
    rw [contentLines_eq,
      Text.joinLines_rdropWhile fun _ => Text.lineFeed_notMem_of_mem_splitNewlines,
      Text.joinLines_splitNewlines]
  whole _ among := lineFeed_notMem_of_mem_contentLines among
  ended := getLast?_contentLines text
  again := contentLines_joinLines (fun _ => lineFeed_notMem_of_mem_contentLines)
    (getLast?_contentLines text)

/-- A text without lines consists of line feeds. -/
theorem contentLines_eq_nil_iff : contentLines text = [] ↔ ∀ c ∈ text.toList, c = '\n' := by
  have verbatim := verbatim_contentLines text
  have empty : contentLines text = [] ↔ Text.withoutFinalLineFeeds text = "" := by
    rw [← verbatim.joined]
    constructor
    · intro none
      rw [none]
      rfl
    · intro nothing
      rw [← verbatim.again, nothing]
      rfl
  rw [empty, Text.withoutFinalLineFeeds, ← String.toList_inj, String.toList_ofList]
  simp [List.rdropWhile_eq_nil_iff]

/-! ## Extractions with a content -/

variable {repository : Repository} {before middle after : World} {payload : String}
  {location : Location} {origin : Origin} {content : String}

/-- A place is read as a location, and version control answers a content there. -/
def Fetches (repository : Repository) (payload : String) (world : World) (content : String) : Prop :=
  ∃ location origin middle, Location.parse? payload = some location ∧
    (fetch repository location).exec world = (.ok (origin, content), middle)

/-- A content with something in it is answered with its lines. -/
theorem exists_lines_of_fetches (fetches : Fetches repository payload before content)
    (some : content ≠ "") :
    ∃ after,
      (Excerpt.lines repository payload).exec before = (.ok (contentLines content), after) := by
  obtain ⟨location, origin, middle, read, fetched⟩ := fetches
  obtain ⟨after, answered, _⟩ := exec_linesAt_of_fetched fetched
  rw [if_neg (by simpa [String.isEmpty_iff] using some)] at answered
  exact ⟨after, by rw [lines_of_parse? read, answered]⟩

end Excerpt

namespace Extraction

variable {repository : Repository} {before after : World} {extraction : Extraction}

/-- No line of an excerpt as a whole holds a line feed. -/
theorem lineFeed_notMem_standIn {payload : String} {location : Location}
    (read : Location.parse? payload = some location) :
    '\n' ∉ (Excerpt.standIn location.path).toList := by
  have oneLine := (Location.writable_of_parse? read).oneLine
  unfold Excerpt.standIn
  simp [oneLine]

theorem Performed.fetches (performed : extraction.Performed repository before after) :
    Excerpt.Fetches repository extraction.payload before extraction.content := by
  obtain ⟨middle, fetched⟩ := performed.fetched
  exact ⟨extraction.location, extraction.origin, middle, performed.read, fetched⟩

/-- No line of an extraction holds a line feed. -/
theorem Performed.lineFeed_notMem (performed : extraction.Performed repository before after) :
    ∀ line ∈ extraction.lines, '\n' ∉ line.toList := by
  obtain ⟨whole, _, _, _, _, shape, narrowed⟩ := performed.whole
  have clean : ∀ line ∈ whole, '\n' ∉ line.toList := by
    intro line among
    rw [shape] at among
    split at among
    · obtain rfl := List.mem_singleton.1 among
      exact lineFeed_notMem_standIn performed.read
    · exact Excerpt.lineFeed_notMem_of_mem_contentLines among
  unfold Excerpt.Narrowed at narrowed
  split at narrowed
  · rw [narrowed]
    exact clean
  · rw [narrowed.1]
    exact fun line among => clean line ((Section.collectFrom_sublist _ _ _).subset among)

/-- An extraction has no line exactly if it is one of a whole excerpt of nothing but line feeds. -/
theorem Performed.lines_eq_nil_iff (performed : extraction.Performed repository before after) :
    extraction.lines = [] ↔ extraction.part = none ∧ extraction.content ≠ "" ∧
      ∀ c ∈ extraction.content.toList, c = '\n' := by
  obtain ⟨whole, _, _, _, _, shape, narrowed⟩ := performed.whole
  cases asked : extraction.part with
  | some name =>
      rw [asked] at narrowed
      simp [narrowed.2]
  | none =>
      rw [asked] at narrowed
      rw [show extraction.lines = whole from narrowed, shape]
      by_cases missing : extraction.content = ""
      · simp [missing]
      · simp [missing, Excerpt.contentLines_eq_nil_iff]

end Extraction

end Bindery
