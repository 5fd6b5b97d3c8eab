import Bindery.Proofs.Press.Rendering
import Bindery.Proofs.Source.Finding

/-!
Contract: the extractions that an action performs, and the notes they leave.

Owns:
- `World.Unasked`, worlds between which nothing was asked of version control and nothing was found
  to be missing, and `Action.Unasking`, the actions that lead from a world to such a one;
- `Repository.Silent`, the contract of a repository whose own actions take no such notes;
- `Extraction`, one excerpt that was fetched, with the content that version control answered and the
  lines that came of it, and `Performed`, that a world led to another by it;
- what one extraction notes, and what a chain of them does: one request for each, and one missing
  place for each that came back empty.

Does **not** own: where the lines go (`Bindery.Proofs.Press.Filling`).

## Why the requests matter

An extraction cannot hide. Each one notes its request before anything else, so a chain whose requests
are all requests of an action holds every extraction of this action.
-/

namespace Bindery

/-! ## Actions that ask for nothing -/

/-- Worlds between which nothing was asked of version control, and nothing was missing. -/
structure World.Unasked (before after : World) : Prop where
  requests : after.requests = before.requests
  missing : after.missing = before.missing

namespace World.Unasked

theorem refl (world : World) : World.Unasked world world :=
  ⟨rfl, rfl⟩

theorem trans {before middle after : World} (first : World.Unasked before middle)
    (second : World.Unasked middle after) : World.Unasked before after :=
  ⟨second.requests.trans first.requests, second.missing.trans first.missing⟩

end World.Unasked

namespace Action

variable {α β : Type}

/-- An action that asks nothing of version control and finds nothing missing, whether or not it
fails. -/
def Unasking (action : Action α) : Prop :=
  ∀ world : World, World.Unasked world (action.exec world).2

theorem unasking_pure (value : α) : Unasking (pure value : Action α) :=
  fun world => .refl world

theorem unasking_observe (reading : World → Except Fault α) : Unasking (observe reading) :=
  fun world => .refl world

theorem unasking_fail (fault : Fault) : Unasking (fail fault : Action α) :=
  fun world => .refl world

theorem unasking_update {change : World → World}
    (keeps : ∀ world, World.Unasked world (change world)) : Unasking (update change) :=
  fun world => keeps world

theorem unasking_log (level : Level) (logger message : String) (fields : Entries) :
    Unasking (log level logger message fields) :=
  unasking_update fun _ => ⟨rfl, rfl⟩

theorem unasking_run (command : Command) : Unasking (run command) :=
  fun _ => ⟨rfl, rfl⟩

theorem unasking_bind {action : Action α} {next : α → Action β} (first : Unasking action)
    (rest : ∀ value, Unasking (next value)) : Unasking (action >>= next) := by
  intro world
  have start := first world
  rw [exec_bind]
  split
  · rename_i value middle ran
    rw [ran] at start
    exact start.trans (rest value middle)
  · rename_i fault middle ran
    rw [ran] at start
    exact start

theorem composes_unasking : Composes Unasking where
  pure := unasking_pure
  fail := unasking_fail
  log := unasking_log
  bind := unasking_bind

theorem Unasking.unasked {action : Action α} {world after : World} {answer : Except Fault α}
    (unasking : Unasking action) (ran : action.exec world = (answer, after)) :
    World.Unasked world after := by
  have unasked := unasking world
  rw [ran] at unasked
  exact unasked

theorem Looks.unasking {action : Action α} (looks : Looks action) : Unasking action := by
  intro world
  obtain ⟨reading, reads⟩ := looks
  rw [reads]
  exact .refl world

end Action

/-- A repository whose own actions take no notes about requests and missing places. -/
def Repository.Silent (repository : Repository) : Prop :=
  repository.All Action.Unasking

/-- The repository behind `git` runs commands and reads files, and notes neither. -/
theorem Repository.silent_git (root : Path) : (Repository.git root).Silent :=
  Action.composes_unasking.git (Action.unasking_run _) (fun _ => Action.unasking_run _)
    (fun _ => Action.unasking_observe _)
    (fun _ => Action.unasking_bind (Action.unasking_observe _) fun _ => Action.unasking_pure _)

/-! ## One extraction -/

/-- The request that is noted when an excerpt is read from its origin. -/
def Excerpt.Origin.request (origin : Excerpt.Origin) (location : Location) : Request :=
  match origin with
  | .workingTree => .working location.path
  | .history => .history location.branch location.path

/-- The lines of the excerpt at a written location, or of one of its sections. -/
def Excerpt.linesOrSection (repository : Repository) (payload : String) :
    Option String → Action (List String)
  | none => Excerpt.lines repository payload
  | some name => Excerpt.sectionLines repository payload name

/-- The section that a name asks for; an empty name asks for none. -/
def Excerpt.partAsked (name : Option String) : Option String :=
  name.filter fun text => !text.isEmpty

/-- A book shows an excerpt, or the section of it that is asked for. -/
theorem Book.excerptLines_eq (book : Book) (location : String) (name : Option String) :
    book.excerptLines location name =
      Excerpt.linesOrSection book.repository location (Excerpt.partAsked name) := by
  unfold Book.excerptLines Excerpt.partAsked
  cases name with
  | none => rfl
  | some text =>
      by_cases empty : text.isEmpty
      · simp [empty, Option.filter, Excerpt.linesOrSection]
      · simp [empty, Option.filter, Excerpt.linesOrSection]

/-- An excerpt that was fetched: how it was asked for, where it is, where it came from, the content
that version control answered, and the lines that came of it. -/
structure Extraction where
  payload : String
  part : Option String
  location : Location
  origin : Excerpt.Origin
  content : String
  lines : List String
deriving DecidableEq, Repr

namespace Extraction

def request (extraction : Extraction) : Request :=
  extraction.origin.request extraction.location

/-- Whether version control had nothing at the location. -/
def isMissing (extraction : Extraction) : Bool :=
  extraction.content.isEmpty

/-- The extraction was performed in a world and led to another one: version control answered its
content there, and its lines are what was answered to who asked. -/
structure Performed (repository : Repository) (before : World) (extraction : Extraction)
    (after : World) : Prop where
  read : Location.parse? extraction.payload = some extraction.location
  fetched : ∃ middle, (Excerpt.fetch repository extraction.location).exec before =
    (.ok (extraction.origin, extraction.content), middle)
  answered : (Excerpt.linesOrSection repository extraction.payload extraction.part).exec before =
    (.ok extraction.lines, after)

end Extraction

namespace Excerpt

variable {repository : Repository} {before middle after : World} {location : Location}
  {origin : Origin} {content : String} {lines : List String}

/-- Reading from an origin behind a note of the request. -/
theorem noted_of_read {read : Action String} {from_ : Origin} {request : Request}
    (unasking : read.Unasking)
    (ran : (noteRequest request >>= fun _ => do return (from_, ← read)).exec before =
      (.ok (origin, content), after)) :
    origin = from_ ∧ after.requests = before.requests ++ [request] ∧
      after.missing = before.missing := by
  obtain ⟨_, noted, notes, onward⟩ := Action.exec_bind_eq_ok_iff.1 ran
  obtain ⟨text, done, reads, answered⟩ := Action.exec_bind_eq_ok_iff.1 onward
  have quiet := unasking.unasked reads
  obtain ⟨_, rfl⟩ := Prod.mk.inj notes
  obtain ⟨same, rfl⟩ := Prod.mk.inj answered
  obtain ⟨rfl, rfl⟩ := Prod.mk.inj (Except.ok.inj same)
  exact ⟨rfl, quiet.requests, quiet.missing⟩

/-- Fetching notes its request, and nothing else of the kind. -/
theorem fetch_eq_ok (silent : repository.Silent)
    (ran : (fetch repository location).exec before = (.ok (origin, content), middle)) :
    middle.requests = before.requests ++ [origin.request location] ∧
      middle.missing = before.missing := by
  obtain ⟨current, asked, checked, onward⟩ := Action.exec_bind_eq_ok_iff.1 ran
  have quiet := silent.checkedOut.unasked checked
  rw [← quiet.requests, ← quiet.missing]
  split at onward
  · obtain ⟨rfl, noted⟩ := noted_of_read (silent.readWorking _) onward
    exact noted
  · obtain ⟨rfl, noted⟩ := noted_of_read (silent.readCommitted _ _) onward
    exact noted

/-- The notes about missing places after an excerpt with a content. -/
def missingAfter (location : Location) (content : String) (missing : List String) : List String :=
  if content.isEmpty then missing ++ [location.render] else missing

/-- An excerpt is the content that was fetched, or the line that stands for it. -/
theorem linesAt_eq_ok
    (ran : (linesAt repository location).exec before = (.ok lines, after)) :
    ∃ origin content middle,
      (fetch repository location).exec before = (.ok (origin, content), middle) ∧
      after.requests = middle.requests ∧
      after.missing = missingAfter location content middle.missing ∧
      lines = if content.isEmpty then [standIn location.path] else contentLines content := by
  obtain ⟨⟨origin, content⟩, middle, fetched, onward⟩ := Action.exec_bind_eq_ok_iff.1 ran
  refine ⟨origin, content, middle, fetched, ?_⟩
  unfold missingAfter
  simp only at onward
  by_cases nothing : content.isEmpty
  · rw [if_pos nothing] at onward ⊢
    rw [if_pos nothing]
    obtain ⟨same, rfl⟩ := Prod.mk.inj onward
    exact ⟨rfl, rfl, (Except.ok.inj same).symm⟩
  · rw [if_neg nothing] at onward ⊢
    rw [if_neg nothing]
    obtain ⟨same, rfl⟩ := Prod.mk.inj onward
    exact ⟨rfl, rfl, (Except.ok.inj same).symm⟩

/-- The lines of an excerpt are those at the location that its payload is read as. -/
theorem lines_of_parse? {payload : String} (read : Location.parse? payload = some location) :
    Excerpt.lines repository payload = linesAt repository location := by
  unfold Excerpt.lines readLocation
  rw [read]
  exact pure_bind _ _

/-- Where a content was fetched, an excerpt is answered, and notes are taken. -/
theorem exec_linesAt_of_fetched
    (fetched : (fetch repository location).exec before = (.ok (origin, content), middle)) :
    ∃ after, (linesAt repository location).exec before =
        (.ok (if content.isEmpty then [standIn location.path] else contentLines content), after) ∧
      World.Kept middle after := by
  have kept : ∀ events missing, World.Kept middle { middle with events := events, missing := missing } :=
    fun _ _ => .of_noted rfl rfl rfl rfl rfl
  unfold linesAt
  rw [Action.exec_bind_of_ok fetched]
  dsimp only
  by_cases nothing : content.isEmpty
  · rw [if_pos nothing, if_pos nothing]
    exact ⟨_, rfl, kept _ _⟩
  · rw [if_neg nothing, if_neg nothing]
    exact ⟨_, rfl, kept _ _⟩

/-- No section has a line of an excerpt of one line. -/
theorem collect_singleton (name line : String) : Section.collect name [line] = [] := by
  unfold Section.collect Section.collectFrom
  split
  · rfl
  · split
    · rfl
    · rfl

/-- The lines that are answered for an excerpt, or for the part of it that was asked for. -/
def Narrowed (part : Option String) (whole lines : List String) : Prop :=
  match part with
  | none => lines = whole
  | some name => lines = Section.collect name whole ∧ lines ≠ []

/-- An excerpt that is answered, with or without a section, is one at a location, narrowed. -/
theorem linesOrSection_eq_ok {payload : String} {part : Option String}
    (ran : (linesOrSection repository payload part).exec before = (.ok lines, after)) :
    ∃ location whole, Location.parse? payload = some location ∧
      (linesAt repository location).exec before = (.ok whole, after) ∧
      Narrowed part whole lines := by
  have read : ∀ {place : Location} {middle : World},
      (readLocation payload).exec before = (.ok place, middle) →
        Location.parse? payload = some place ∧ middle = before := by
    intro place middle reading
    unfold readLocation at reading
    split at reading
    · obtain ⟨same, rfl⟩ := Prod.mk.inj reading
      obtain rfl := Except.ok.inj same
      exact ⟨by assumption, rfl⟩
    · obtain ⟨refused, _⟩ := Prod.mk.inj reading
      contradiction
  cases part with
  | none =>
      obtain ⟨place, middle, reading, onward⟩ := Action.exec_bind_eq_ok_iff.1 ran
      obtain ⟨parsed, rfl⟩ := read reading
      exact ⟨place, lines, parsed, onward, rfl⟩
  | some name =>
      obtain ⟨place, middle, reading, onward⟩ := Action.exec_bind_eq_ok_iff.1 ran
      obtain ⟨parsed, rfl⟩ := read reading
      obtain ⟨whole, later, fetched, narrowed⟩ := Action.exec_bind_eq_ok_iff.1 onward
      split at narrowed
      · rename_i inside found
        obtain ⟨same, rfl⟩ := Prod.mk.inj narrowed
        obtain rfl := Except.ok.inj same
        exact ⟨place, whole, parsed, fetched, narrow_eq_ok_iff.1 found⟩
      · obtain ⟨refused, _⟩ := Prod.mk.inj narrowed
        contradiction

end Excerpt

namespace Extraction

variable {repository : Repository} {before after : World} {extraction : Extraction}

/-- Whatever an excerpt answers, an extraction was performed for it. -/
theorem exists_performed {payload : String} {part : Option String} {lines : List String}
    (ran : (Excerpt.linesOrSection repository payload part).exec before = (.ok lines, after)) :
    ∃ extraction : Extraction, extraction.Performed repository before after ∧
      extraction.payload = payload ∧ extraction.part = part ∧ extraction.lines = lines := by
  obtain ⟨location, whole, read, answered, _⟩ := Excerpt.linesOrSection_eq_ok ran
  obtain ⟨origin, content, middle, fetched, _⟩ := Excerpt.linesAt_eq_ok answered
  exact ⟨⟨payload, part, location, origin, content, lines⟩, ⟨read, ⟨middle, fetched⟩, ran⟩,
    rfl, rfl, rfl⟩

/-- The excerpt as a whole that an extraction came from, with its content. -/
theorem Performed.whole (performed : extraction.Performed repository before after) :
    ∃ whole middle,
      (Excerpt.fetch repository extraction.location).exec before =
        (.ok (extraction.origin, extraction.content), middle) ∧
      after.requests = middle.requests ∧
      after.missing =
        Excerpt.missingAfter extraction.location extraction.content middle.missing ∧
      whole = (if extraction.content.isEmpty then [Excerpt.standIn extraction.location.path]
        else Excerpt.contentLines extraction.content) ∧
      Excerpt.Narrowed extraction.part whole extraction.lines := by
  obtain ⟨location, whole, read, answered, narrowed⟩ :=
    Excerpt.linesOrSection_eq_ok performed.answered
  obtain rfl : extraction.location = location :=
    Option.some.inj (performed.read.symm.trans read)
  obtain ⟨origin, content, middle, fetched, requests, missing, lines⟩ :=
    Excerpt.linesAt_eq_ok answered
  obtain ⟨asked, also⟩ := performed.fetched
  obtain ⟨same, rfl⟩ := Prod.mk.inj (fetched.symm.trans also)
  obtain ⟨rfl, rfl⟩ := Prod.mk.inj (Except.ok.inj same)
  exact ⟨whole, middle, also, requests, missing, lines, narrowed⟩

/-- An extraction notes its request, and its location if version control had nothing there. -/
theorem Performed.notes (performed : extraction.Performed repository before after)
    (silent : repository.Silent) :
    after.requests = before.requests ++ [extraction.request] ∧
      after.missing =
        Excerpt.missingAfter extraction.location extraction.content before.missing := by
  obtain ⟨_, middle, fetched, requests, missing, _⟩ := performed.whole
  obtain ⟨noted, untouched⟩ := Excerpt.fetch_eq_ok silent fetched
  rw [requests, missing, untouched]
  exact ⟨noted, rfl⟩

/-- An extraction that found nothing is one of a whole excerpt, and the line that stands for the
excerpt is all that came of it. -/
theorem Performed.stands_in (performed : extraction.Performed repository before after)
    (missing : extraction.isMissing = true) :
    extraction.part = none ∧ extraction.lines = [Excerpt.standIn extraction.location.path] := by
  obtain ⟨whole, _, _, _, _, lines, narrowed⟩ := performed.whole
  rw [if_pos (show extraction.content.isEmpty = true from missing)] at lines
  subst lines
  cases asked : extraction.part with
  | none =>
      rw [asked] at narrowed
      exact ⟨rfl, narrowed⟩
  | some name =>
      -- One line holds no line between two markers, so that the section would have been refused.
      rw [asked] at narrowed
      obtain ⟨collected, nonempty⟩ := narrowed
      rw [Excerpt.collect_singleton] at collected
      contradiction

end Extraction

/-! ## Extractions one after another -/

/-- Extractions, each performed in the world that the one before it left. -/
inductive Extractions (repository : Repository) : World → List Extraction → World → Prop where
  | done (world : World) : Extractions repository world [] world
  | next {before middle after : World} {extraction : Extraction} {rest : List Extraction}
      (performed : extraction.Performed repository before middle)
      (onward : Extractions repository middle rest after) :
      Extractions repository before (extraction :: rest) after

/-- The places that a list of extractions found nothing at, in order and with repetitions. -/
def Extraction.missingPlaces (taken : List Extraction) : List String :=
  (taken.filter Extraction.isMissing).map fun extraction => extraction.location.render

theorem Extraction.missingPlaces_append (first second : List Extraction) :
    missingPlaces (first ++ second) = missingPlaces first ++ missingPlaces second := by
  unfold missingPlaces
  rw [List.filter_append, List.map_append]

/-- What a list of extractions has noted between two worlds. -/
structure Extraction.Noted (before : World) (taken : List Extraction) (after : World) : Prop where
  requests : after.requests = before.requests ++ taken.map Extraction.request
  missing : after.missing = before.missing ++ missingPlaces taken

namespace Extraction.Noted

variable {before middle after : World} {first second : List Extraction}

theorem of_unasked (unasked : World.Unasked before after) : Noted before [] after :=
  ⟨unasked.requests.trans (List.append_nil _).symm, unasked.missing.trans (List.append_nil _).symm⟩

theorem append (left : Noted before first middle) (right : Noted middle second after) :
    Noted before (first ++ second) after := by
  constructor
  · rw [right.requests, left.requests, List.map_append, List.append_assoc]
  · rw [right.missing, left.missing, missingPlaces_append, List.append_assoc]

theorem of_performed {repository : Repository} {extraction : Extraction}
    (silent : repository.Silent) (performed : extraction.Performed repository before after) :
    Noted before [extraction] after := by
  obtain ⟨requests, missing⟩ := performed.notes silent
  refine ⟨requests, missing.trans ?_⟩
  unfold Excerpt.missingAfter missingPlaces
  by_cases nothing : extraction.isMissing
  · rw [if_pos (show extraction.content.isEmpty = true from nothing),
      List.filter_cons_of_pos nothing]
    rfl
  · rw [if_neg (show ¬ extraction.content.isEmpty = true from nothing),
      List.filter_cons_of_neg nothing]
    exact (List.append_nil _).symm

end Extraction.Noted

namespace Extractions

variable {repository : Repository} {before middle after : World} {first second : List Extraction}

theorem append (left : Extractions repository before first middle)
    (right : Extractions repository middle second after) :
    Extractions repository before (first ++ second) after := by
  induction left with
  | done => exact right
  | next performed onward inductionHypothesis => exact .next performed (inductionHypothesis right)

/-- A chain of extractions notes what its members note. -/
theorem noted {taken : List Extraction} (silent : repository.Silent)
    (chain : Extractions repository before taken after) : Extraction.Noted before taken after := by
  induction chain with
  | done world => exact .of_unasked (.refl world)
  | next performed onward inductionHypothesis =>
      exact (Extraction.Noted.of_performed silent performed).append inductionHypothesis

/-- Every member of a chain that found nothing has put the line in place that stands for it. -/
theorem stands_in {taken : List Extraction} (chain : Extractions repository before taken after) :
    ∀ extraction ∈ taken, extraction.isMissing = true →
      extraction.part = none ∧ extraction.lines = [Excerpt.standIn extraction.location.path] := by
  induction chain with
  | done => exact fun _ among => absurd among List.not_mem_nil
  | next performed onward inductionHypothesis =>
      intro extraction among missing
      rcases List.mem_cons.1 among with rfl | later
      · exact performed.stands_in missing
      · exact inductionHypothesis extraction later missing

end Extractions

end Bindery
