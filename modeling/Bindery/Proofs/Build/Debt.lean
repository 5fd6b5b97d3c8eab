import Bindery.Proofs.Build.Operation
import Mathlib.Data.List.Induction

/-!
Contract: what successive builds owe to documents.

Owns:
- `starts`, the worlds in which the builds of a run start, between which anything may happen, and
  `history`, what these builds have treated;
- `Owes`, that something was refreshed and a document has not been typeset since;
- that a build can leave a debt only by failing: whatever it refreshes, it typesets all documents
  afterwards if it comes to its end;
- the theorem that a run owes a document exactly when one of its builds failed after a refresh
  without having typeset the document, and no build since then has typeset it.

Does not own: why a build treats what it treats (`Bindery.Proofs.Build.Plan`). A debt is not kept
anywhere: a later build typesets the document only for reasons of its own.
-/

namespace Bindery

open Source

namespace Book

/-! ## Runs of builds -/

/-- The worlds in which the builds of a run start. Each is what an edit makes of the world that the
build before it has left. -/
def starts (book : Book) (chosen : Option Collection) :
    World → List (World → World) → List World
  | world, [] => [world]
  | world, edit :: edits =>
      world :: book.starts chosen (edit ((book.build chosen).exec world).2) edits

/-- What the builds that start in the given worlds have treated, in its order. -/
def history (book : Book) (sources : Collection) (worlds : List World) : List Record :=
  worlds.flatMap fun world => book.deeds sources world.starting

/-- A diagram or a fragment was made, and the document has not been typeset since. -/
def Owes (records : List Record) (document : Path) : Prop :=
  ∃ front item back, records = front ++ (item, true) :: back ∧ item.kind ≠ .document ∧
    (⟨.document, document⟩, true) ∉ back

/-! ## Debts -/

section Debts

variable {records earlier later : List Record} {document : Path}

/-- A debt is from later on, or from earlier and not settled later. -/
theorem owes_append :
    Owes (earlier ++ later) document ↔
      Owes later document ∨ Owes earlier document ∧ (⟨.document, document⟩, true) ∉ later := by
  constructor
  · rintro ⟨front, item, back, split, role, since⟩
    rcases List.append_eq_append_iff.1 split with ⟨between, rfl, rfl⟩ | ⟨between, rfl, tail⟩
    · exact .inl ⟨between, item, back, rfl, role, since⟩
    · cases between with
      | nil => exact .inl ⟨[], item, back, tail.symm, role, since⟩
      | cons head between =>
          obtain ⟨rfl, rfl⟩ := List.cons.inj tail
          exact .inr ⟨⟨front, item, between, rfl, role,
            fun member => since (List.mem_append_left _ member)⟩,
            fun member => since (List.mem_append_right _ member)⟩
  · rintro (⟨front, item, back, rfl, role, since⟩ | ⟨⟨front, item, back, rfl, role, since⟩, unsettled⟩)
    · exact ⟨earlier ++ front, item, back, (List.append_assoc ..).symm, role, since⟩
    · refine ⟨front, item, back ++ later, by simp, role, fun member => ?_⟩
      rcases List.mem_append.1 member with early | late
      · exact since early
      · exact unsettled late

/-- Where documents come last, a document is owed exactly when something was refreshed and it was
not typeset at all. -/
theorem owes_iff_of_ordered (ordered : records.Pairwise fun first second =>
      first.1.kind = .document → second.1.kind = .document) :
    Owes records document ↔
      refreshes records = true ∧ (⟨.document, document⟩, true) ∉ records := by
  constructor
  · rintro ⟨front, item, back, rfl, role, since⟩
    refine ⟨List.any_eq_true.2 ⟨(item, true), by simp, by simp [role]⟩, fun member => ?_⟩
    rw [List.pairwise_append] at ordered
    rcases List.mem_append.1 member with early | late
    · exact role (ordered.2.2 _ early (item, true) List.mem_cons_self rfl)
    · rcases List.mem_cons.1 late with same | behind
      · exact role (by rw [← (Prod.mk.inj same).1])
      · exact since behind
  · rintro ⟨refreshed, untypeset⟩
    obtain ⟨⟨item, made⟩, member, flagged⟩ := List.any_eq_true.1 refreshed
    obtain ⟨role, rfl⟩ : item.kind ≠ .document ∧ made = true := by simpa using flagged
    obtain ⟨front, back, rfl⟩ := List.append_of_mem member
    exact ⟨front, item, back, rfl, role, fun behind => untypeset (by simp [behind])⟩

end Debts

/-! ## One build -/

section Build

variable {book : Book} {demanded : Bool} {sources : Collection} {records : List Record}
  {world after : World} {document : Path}

/-- A demanded document that was treated has been typeset. -/
theorem made_of_demanded {item : Item} {made : Bool} (kind : item.kind = .document)
    (ran : (book.treat true item).exec world = (.ok made, after)) : made = true := by
  obtain ⟨role, path⟩ := item
  obtain rfl : role = .document := kind
  obtain ⟨manuscript, published, _, deciding⟩ := Action.exec_bind_eq_ok_iff.1 ran
  obtain ⟨due, decided, asked, making⟩ := Action.exec_bind_eq_ok_iff.1 deciding
  obtain ⟨same, _⟩ := Prod.mk.inj asked
  obtain rfl := Except.ok.inj same
  obtain ⟨_, noted, _, running⟩ := Action.exec_bind_eq_ok_iff.1 making
  obtain ⟨result, finished, _, answering⟩ := Action.exec_bind_eq_ok_iff.1 running
  split at answering
  · exact (Except.ok.inj (Prod.mk.inj answering).1).symm
  · obtain ⟨_, _, _, failed⟩ := Action.exec_bind_eq_ok_iff.1 answering
    simp at failed

/-- A run that demands documents typesets all that it treats. -/
theorem Runs.typesets (run : book.Runs true world records after) :
    ∀ record ∈ records, record.1.kind = .document → record.2 = true := by
  generalize same : true = demanded at run
  induction run with
  | done kept => simp
  | step kept treated onward inductionHypothesis =>
      subst same
      intro record member kind
      rcases List.mem_cons.1 member with rfl | among
      · exact made_of_demanded kind treated
      · exact inductionHypothesis record among kind

theorem ordered_deeds (book : Book) (sources : Collection) (world : World) :
    (book.deeds sources world).Pairwise fun first second =>
      first.1.kind = .document → second.1.kind = .document := by
  rcases building : (book.buildSources sources).exec world with ⟨answer, after⟩
  obtain ⟨rest, items⟩ := (buildSources_ends building).front
  have ordered := sources.ordered
  rw [items, List.pairwise_append] at ordered
  exact List.pairwise_map.1 ordered.1

/-- A build that comes to its end after a refresh has typeset every document. -/
theorem typesets_of_ok {report : BuildReport}
    (ok : ((book.buildSources sources).exec world).1 = .ok report)
    (refreshed : refreshes (book.deeds sources world) = true) (among : document ∈ sources.documents) :
    (⟨.document, document⟩, true) ∈ book.deeds sources world := by
  rcases building : (book.buildSources sources).exec world with ⟨answer, after⟩
  have ends := buildSources_ends building
  rw [building] at ok
  generalize book.deeds sources world = records at ends refreshed ⊢
  cases ends with
  | unprepared refused => contradiction
  | stopped prepared stops items verdict => contradiction
  | complete prepared run items =>
      have also : ⟨.document, document⟩ ∈ records.map Prod.fst := by simpa [items] using among
      obtain ⟨record, recorded, same⟩ := List.mem_map.1 also
      rw [refreshed] at run
      have made := run.typesets record recorded (by rw [same])
      rwa [← same, ← made]

/-- A build leaves a debt exactly when it fails between a refresh and typesetting the document. -/
theorem owes_deeds_iff {chosen : Option Collection}
    (found : ((book.sourcesOr chosen).exec world).1 = .ok sources)
    (among : document ∈ sources.documents) :
    Owes (book.deeds sources world.starting) document ↔
      okOf ((book.build chosen).exec world).1 ≠ some true ∧
        refreshes (book.deeds sources world.starting) = true ∧
        (⟨.document, document⟩, true) ∉ book.deeds sources world.starting := by
  rw [owes_iff_of_ordered (ordered_deeds book sources _)]
  refine ⟨fun ⟨refreshed, untypeset⟩ => ⟨fun ok => ?_, refreshed, untypeset⟩, And.right⟩
  rw [okOf_build found, okOfReport_eq_true_iff] at ok
  obtain ⟨report, ok⟩ := ok
  exact untypeset (typesets_of_ok ok refreshed among)

end Build

/-! ## Successive builds -/

section History

variable {book : Book} {sources : Collection} {chosen : Option Collection} {document : Path}

theorem history_snoc (book : Book) (sources : Collection) (worlds : List World) (last : World) :
    book.history sources (worlds ++ [last]) =
      book.history sources worlds ++ book.deeds sources last.starting := by
  simp [history]

/-- What one more build makes of a debt: it settles it by typesetting the document, and leaves a new
one by failing after a refresh. -/
theorem owes_step {worlds : List World} {last : World}
    (found : ((book.sourcesOr chosen).exec last).1 = .ok sources)
    (among : document ∈ sources.documents) :
    Owes (book.history sources (worlds ++ [last])) document ↔
      (Owes (book.history sources worlds) document ∨
        okOf ((book.build chosen).exec last).1 ≠ some true ∧
          refreshes (book.deeds sources last.starting) = true) ∧
      (⟨.document, document⟩, true) ∉ book.deeds sources last.starting := by
  rw [history_snoc, owes_append, owes_deeds_iff found among]
  constructor
  · rintro (⟨failed, refreshed, untypeset⟩ | ⟨owes, untypeset⟩)
    · exact ⟨.inr ⟨failed, refreshed⟩, untypeset⟩
    · exact ⟨.inl owes, untypeset⟩
  · rintro ⟨owes | ⟨failed, refreshed⟩, untypeset⟩
    · exact .inr ⟨owes, untypeset⟩
    · exact .inl ⟨failed, refreshed, untypeset⟩

theorem owes_history_iff {worlds : List World}
    (found : ∀ start ∈ worlds, ((book.sourcesOr chosen).exec start).1 = .ok sources)
    (among : document ∈ sources.documents) :
    Owes (book.history sources worlds) document ↔
      ∃ front start rest, worlds = front ++ start :: rest ∧
        okOf ((book.build chosen).exec start).1 ≠ some true ∧
        refreshes (book.deeds sources start.starting) = true ∧
        (⟨.document, document⟩, true) ∉ book.history sources (start :: rest) := by
  -- The last build decides: what was owed before it is owed still unless it typesets the document.
  induction worlds using List.reverseRecOn with
  | nil => simp [history, Owes]
  | append_singleton worlds last inductionHypothesis =>
      have foundLast := found last (by simp)
      rw [owes_step foundLast among,
        inductionHypothesis fun start member => found start (List.mem_append_left _ member)]
      constructor
      · rintro ⟨⟨front, start, rest, rfl, failed, refreshed, unsettled⟩ | ⟨failed, refreshed⟩,
          untypeset⟩
        · refine ⟨front, start, rest ++ [last], by simp, failed, refreshed, ?_⟩
          rw [← List.cons_append, history_snoc]
          exact fun member => (List.mem_append.1 member).elim unsettled untypeset
        · exact ⟨worlds, last, [], rfl, failed, refreshed, by simpa [history] using untypeset⟩
      · rintro ⟨front, start, rest, splits, failed, refreshed, unsettled⟩
        rcases List.eq_nil_or_concat rest with rfl | ⟨between, final, rfl⟩
        · obtain ⟨rfl, same⟩ := List.append_inj' splits rfl
          obtain rfl := List.singleton_inj.1 same
          exact ⟨.inr ⟨failed, refreshed⟩, by simpa [history] using unsettled⟩
        · rw [List.concat_eq_append, ← List.cons_append] at splits unsettled
          rw [← List.append_assoc] at splits
          obtain ⟨rfl, same⟩ := List.append_inj' splits rfl
          obtain rfl := List.singleton_inj.1 same
          rw [history_snoc, List.mem_append, not_or] at unsettled
          exact ⟨.inl ⟨front, start, between, rfl, failed, refreshed, unsettled.1⟩, unsettled.2⟩

/-- A run owes a document exactly when one of its builds failed after a refresh, and neither that
build nor any since has typeset the document. -/
theorem cascade_lost_iff {world : World} {edits : List (World → World)}
    (found : ∀ start ∈ book.starts chosen world edits,
      ((book.sourcesOr chosen).exec start).1 = .ok sources)
    (among : document ∈ sources.documents) :
    Owes (book.history sources (book.starts chosen world edits)) document ↔
      ∃ front start rest, book.starts chosen world edits = front ++ start :: rest ∧
        okOf ((book.build chosen).exec start).1 ≠ some true ∧
        refreshes (book.deeds sources start.starting) = true ∧
        (⟨.document, document⟩, true) ∉ book.history sources (start :: rest) :=
  owes_history_iff found among

end History

set_option maxRecDepth 4000 in
/-- Where no build fails nothing is owed: the small project with a new fragment, built twice. -/
theorem cascade_lost_iff_sample :
    refreshes (sampleBook.deeds sampleSources writtenWorld.starting) = true ∧
      ¬ Owes (sampleBook.history sampleSources (sampleBook.starts (some sampleSources) writtenWorld
        [fun world => { world with now := 6000 }])) (.ofPlace ["tex", "c.latex"]) := by
  refine ⟨by decide +kernel, ?_⟩
  have found : ∀ start ∈ sampleBook.starts (some sampleSources) writtenWorld
      [fun world => { world with now := 6000 }],
      ((sampleBook.sourcesOr (some sampleSources)).exec start).1 = .ok sampleSources :=
    fun _ _ => rfl
  have among : .ofPlace ["tex", "c.latex"] ∈ sampleSources.documents := by decide
  have succeed : ∀ start ∈ sampleBook.starts (some sampleSources) writtenWorld
      [fun world => { world with now := 6000 }],
      okOf ((sampleBook.build (some sampleSources)).exec start).1 = some true := by
    decide +kernel
  rw [cascade_lost_iff found among]
  rintro ⟨front, start, rest, splits, failed, _⟩
  exact failed (succeed start (by simp [splits]))

/-- The run of the small project with a new fragment, in which the engine works from the second
build on. -/
def interruptedRun : List World :=
  sampleBook.starts (some sampleSources) (refusingWorld (sampleFiles 1000 3000))
    [fun world => { world with runner := .scripted fun _ => false }]

set_option maxRecDepth 4000 in
/-- The second build succeeds and leaves the document as it was typeset before the fragment was
refreshed. -/
theorem cascade_lost_sample :
    (∃ last, interruptedRun.getLast? = some last ∧
      okOf ((sampleBook.build (some sampleSources)).exec last).1 = some true) ∧
    Owes (sampleBook.history sampleSources interruptedRun) (.ofPlace ["tex", "c.latex"]) := by
  have last : interruptedRun.getLast?.map (fun world =>
      okOf ((sampleBook.build (some sampleSources)).exec world).1) = some (some true) := by
    decide +kernel
  have treated : sampleBook.history sampleSources interruptedRun =
      [(⟨.diagram, .ofPlace ["dot", "a.dot"]⟩, false)] ++
        (⟨.fragment, .ofPlace ["tex", "b.tex"]⟩, true) ::
        [(⟨.diagram, .ofPlace ["dot", "a.dot"]⟩, false),
          (⟨.fragment, .ofPlace ["tex", "b.tex"]⟩, false),
          (⟨.document, .ofPlace ["tex", "c.latex"]⟩, false)] := by
    decide +kernel
  refine ⟨by simpa using last, _, _, _, treated, by decide, by decide⟩

end Book

end Bindery
