import Bindery.Proofs.Build.Phases
import Bindery.Proofs.Build.Repetition

/-!
Contract: runs that have stopped at an item.

Owns:
- that along a run of items which do not disturb each other each of them has been treated once, and
  was spared otherwise;
- `Aborted`, a run over such items that stopped at one of them, and what treating its items again
  comes to: those before succeed again, and the last one fails again unless it is a document that is
  no longer due.

Does not own: what follows for a whole build (`Bindery.Proofs.Build.Failure`).
-/

namespace Bindery

open Source

namespace Book

/-! ## Runs that are recalled -/

section Recalling

variable {book : Book} {demanded : Bool} {before after : World} {records : List Record}

/-- A run spares the items that none of its items disturbs. -/
theorem Runs.spares (run : book.Runs demanded before records after)
    (sound : book.Sound before.runner) (ready : book.Ready before)
    (fit : ∀ record ∈ records, book.Fit before.base record.1) {item : Item}
    (undisturbed : ∀ record ∈ records,
      book.Undisturbed before.base (book.touches before.base record.1 true) item) :
    book.Spares item before after := by
  refine ⟨_, (run.effect sound ready fit).1.resembles, fun place member => ?_,
    ⟨fun member => ?_, fun member => ?_⟩⟩
  · obtain ⟨record, among, touched⟩ := List.mem_flatMap.1 member
    exact prefix_of_mem_touches (fit record among).named touched
  · obtain ⟨record, among, touched⟩ := List.mem_flatMap.1 member
    exact (undisturbed record among).source (touches_subset _ _ _ _ touched)
  · obtain ⟨record, among, touched⟩ := List.mem_flatMap.1 member
    exact (undisturbed record among).output (touches_subset _ _ _ _ touched)

/-- Each item of a run of independent items has been treated once, and spared otherwise. -/
theorem Runs.recalls (run : book.Runs demanded before records after)
    (sound : book.Sound before.runner) (ready : book.Ready before)
    (fit : ∀ record ∈ records, book.Fit before.base record.1)
    (independent : (records.map Prod.fst).Pairwise (book.Independent before.base)) :
    ∀ record ∈ records, ∃ start finish, book.Spares record.1 before start ∧
      (book.treat demanded record.1).exec start = (.ok record.2, finish) ∧
      book.Spares record.1 finish after := by
  induction run with
  | done kept => simp
  | @step before start middle after item made rest kept treated onward inductionHypothesis =>
      rw [List.map_cons, List.pairwise_cons] at independent
      have treatment := treated_of_step kept sound ready (fit _ List.mem_cons_self) treated
      have effect := treatment.effect
      have soundMiddle : book.Sound middle.runner := effect.runner ▸ sound
      have readyMiddle := ready.of_resembles effect.resembles
      have fitRest : ∀ record ∈ rest, book.Fit middle.base record.1 :=
        effect.base ▸ fun record member => fit record (List.mem_cons_of_mem _ member)
      intro record member
      rcases List.mem_cons.1 member with rfl | among
      · refine ⟨start, middle, .of_kept book _ kept, treated,
          onward.spares soundMiddle readyMiddle fitRest fun record among => ?_⟩
        rw [effect.base]
        exact (independent.1 record.1 (List.mem_map_of_mem among)).backward
      · obtain ⟨here, finish, spares, again, later⟩ := inductionHypothesis soundMiddle readyMiddle
          fitRest (effect.base ▸ independent.2) record among
        refine ⟨here, finish, Spares.trans ?_ spares, again, later⟩
        have forward := (independent.1 record.1 (List.mem_map_of_mem among)).forward
        exact (Spares.of_kept book record.1 kept).trans (.of_treat (kept.runner ▸ sound)
          (ready.of_resembles (kept.resembles [])) (fit _ List.mem_cons_self).named
          (kept.base ▸ forward) treated)

theorem Runs.not_refuses (run : book.Runs demanded before records after)
    (sound : book.Sound before.runner) (ready : book.Ready before)
    (fit : ∀ record ∈ records, book.Fit before.base record.1) :
    ∀ command ∈ book.toolsOf before.base records, ¬ before.runner.Refuses command := by
  induction run with
  | done kept => simp [toolsOf]
  | @step before start middle after item made rest kept treated onward inductionHypothesis =>
      have first := fit _ List.mem_cons_self
      have effect := (treated_of_step kept sound ready first treated).effect
      have later := inductionHypothesis (effect.runner ▸ sound)
        (ready.of_resembles effect.resembles)
        (effect.base ▸ fun record member => fit record (List.mem_cons_of_mem _ member))
      rw [effect.base, effect.runner] at later
      intro command member
      rcases List.mem_append.1 member with early | late
      · cases made with
        | false => simp at early
        | true =>
            rw [← kept.base] at early first
            rw [← kept.runner] at sound ⊢
            exact not_refuses_of_treat sound (ready.of_resembles (kept.resembles [])) first
              treated command early
      · exact later command late

end Recalling

/-! ## Runs that stopped -/

/-- A run over sources that do not disturb each other, which has stopped at an item. -/
structure Aborted (book : Book) (sources : Collection) (demanded : Bool) (records : List Record)
    (item : Item) (fault : Fault) (before after : World) : Prop where
  stable : book.Stable before.runner before.base
  ready : book.Ready before
  named : ∀ item ∈ sources.items, item.path.NamesFile
  separate : book.Separate sources before.base
  stops : book.Stops demanded before records item fault after
  items : ∃ rest, sources.items = records.map Prod.fst ++ item :: rest
  verdict : item.kind = .document → demanded = refreshes records

namespace Aborted

variable {book : Book} {sources : Collection} {demanded : Bool} {records : List Record}
  {item : Item} {fault : Fault} {before after : World}

theorem member (aborted : book.Aborted sources demanded records item fault before after) :
    item ∈ sources.items := by
  obtain ⟨rest, items⟩ := aborted.items
  simp [items]

theorem among (aborted : book.Aborted sources demanded records item fault before after) :
    ∀ record ∈ records, record.1 ∈ sources.items := by
  obtain ⟨rest, items⟩ := aborted.items
  exact fun record member => items ▸ List.mem_append_left _ (List.mem_map_of_mem member)

theorem fit (aborted : book.Aborted sources demanded records item fault before after) :
    ∀ record ∈ records, book.Fit before.base record.1 :=
  fun record member => aborted.separate.fit aborted.named _ (aborted.among record member)

theorem independent (aborted : book.Aborted sources demanded records item fault before after) :
    (records.map Prod.fst).Pairwise (book.Independent before.base) ∧
      ∀ record ∈ records, book.Independent before.base record.1 item := by
  obtain ⟨rest, items⟩ := aborted.items
  have whole := aborted.separate.independent
  rw [items, List.pairwise_append] at whole
  exact ⟨whole.1, fun record member =>
    whole.2.2 _ (List.mem_map_of_mem member) item List.mem_cons_self⟩

/-- Everything but documents comes before a document at which a run has stopped. -/
theorem before_document (aborted : book.Aborted sources demanded records item fault before after)
    (kind : item.kind = .document) {other : Item} (also : other ∈ sources.items)
    (role : other.kind ≠ .document) : ∃ made, (other, made) ∈ records := by
  obtain ⟨rest, items⟩ := aborted.items
  have later := Collection.documents_last items kind
  rw [items] at also
  rcases List.mem_append.1 also with early | late
  · obtain ⟨⟨_, made⟩, recorded, rfl⟩ := List.mem_map.1 early
    exact ⟨made, recorded⟩
  · rcases List.mem_cons.1 late with rfl | behind
    · exact absurd kind role
    · exact absurd (later other behind) role

theorem stopped (aborted : book.Aborted sources demanded records item fault before after) :
    ∃ start stopped, book.Runs demanded before records start ∧ book.Spares item before start ∧
      (book.treat demanded item).exec start = (.error fault, stopped) ∧
      World.Kept stopped after := by
  obtain ⟨start, stopped, run, failed, kept⟩ := aborted.stops
  refine ⟨start, stopped, run, run.spares aborted.stable.sound aborted.ready aborted.fit ?_,
    failed, kept⟩
  exact fun record member => (aborted.independent.2 record member).forward

/-- Each item before the last one has been treated, and was spared since then. -/
theorem recalls (aborted : book.Aborted sources demanded records item fault before after)
    {record : Record} (recorded : record ∈ records) :
    ∃ start finish, book.Spares record.1 before start ∧
      (book.treat demanded record.1).exec start = (.ok record.2, finish) ∧
      book.Spares record.1 finish after := by
  obtain ⟨last, stopped, run, spares, failed, kept⟩ := aborted.stopped
  obtain ⟨start, finish, first, treated, onward⟩ := run.recalls aborted.stable.sound aborted.ready
    aborted.fit aborted.independent.1 record recorded
  refine ⟨start, finish, first, treated, onward.trans (Spares.trans ?_ (.of_kept book _ kept))⟩
  have backward := (aborted.independent.2 record recorded).backward
  exact .of_treat (spares.stable aborted.stable).sound (spares.ready aborted.ready)
    (aborted.named item aborted.member) (spares.base ▸ backward) failed

/-- The tools of a run that stopped: those of its treatments, and at last those of the item, which
are refused, or none. -/
theorem ran (aborted : book.Aborted sources demanded records item fault before after) :
    ∃ touched issued,
      World.Effect before after touched (book.toolsOf before.base records ++ issued) ∧
      (issued = [] ∨ issued = book.tools before.base item) := by
  obtain ⟨start, stopped, run, spares, failed, kept⟩ := aborted.stopped
  have fit := aborted.separate.fit aborted.named item aborted.member
  have effect := (run.effect aborted.stable.sound aborted.ready aborted.fit).1
  obtain ⟨issued, last, cases, _⟩ := (treat_eq_error (spares.stable aborted.stable)
    (spares.ready aborted.ready) (spares.base ▸ fit) failed).ran
  rw [← spares.base] at cases
  exact ⟨_, issued, (effect.trans last).trans_kept kept, cases⟩

/-- Items before the last one succeed again, if no more is demanded than before. -/
theorem passes (aborted : book.Aborted sources demanded records item fault before after)
    {record : Record} (recorded : record ∈ records) {here : World} {less : Bool}
    (fewer : record.1.kind = .document → less = true → demanded = true)
    (spares : book.Spares record.1 after here) :
    ∃ made, ((book.treat less record.1).exec here).1 = .ok made := by
  obtain ⟨start, finish, first, treated, onward⟩ := aborted.recalls recorded
  have fit := first.base ▸ aborted.fit record recorded
  have stable := first.stable aborted.stable
  have ready := first.ready aborted.ready
  have apart := aborted.separate.apart _ (aborted.among record recorded) _
    (aborted.among record recorded)
  have effect := (treat_eq_ok stable.sound ready fit treated).effect
  obtain ⟨made, again⟩ :=
    treat_repeats stable ready fit.named (first.base ▸ apart) fewer treated
  have stableFinish : book.Stable finish.runner finish.base := by rwa [effect.runner, effect.base]
  have alike := treat_alike stableFinish (ready.of_resembles effect.resembles)
    (effect.base ▸ fit) (onward.trans spares) less
  exact ⟨made, alike.ok again⟩

/-- The last item fails again, or it is a document that is no longer due. -/
theorem fails (aborted : book.Aborted sources demanded records item fault before after)
    {here : World} {less : Bool} (fewer : item.kind = .document → less = true → demanded = true)
    (spares : book.Spares item after here) :
    (∃ other, ((book.treat less item).exec here).1 = .error other ∧
      Alike (.error fault : Except Fault Bool) (.error other) ∧
      ((∃ touched, World.Effect before after touched (book.toolsOf before.base records)) ∨
        book.isDue less here.files here.base item = true)) ∨
    (item.kind = .document ∧ less = false ∧
      ((book.treat less item).exec here).1 = .ok false ∧
      book.isDue false here.files here.base item = false ∧
      (∃ touched, World.Effect before after touched
        (book.toolsOf before.base records ++ book.tools before.base item)) ∧
      ∀ command ∈ book.tools before.base item, before.runner.Refuses command) := by
  obtain ⟨start, stopped, run, first, failed, kept⟩ := aborted.stopped
  have fit := aborted.separate.fit aborted.named item aborted.member
  have early := (run.effect aborted.stable.sound aborted.ready aborted.fit).1
  have cases := failure_cases (first.stable aborted.stable) (first.ready aborted.ready)
    (first.base ▸ fit) fewer failed ((Spares.of_kept book item kept).trans spares)
  rw [← first.base, ← first.runner] at cases
  rcases cases with ⟨other, again, alike, reason⟩ | ⟨kind, undemanded, passed, undue, late, refused⟩
  · refine .inl ⟨other, again, alike, reason.imp_left fun idle => ?_⟩
    have whole := (early.trans idle).trans_kept kept
    rw [List.append_nil] at whole
    exact ⟨_, whole⟩
  · exact .inr ⟨kind, undemanded, passed, undue, ⟨_, (early.trans late).trans_kept kept⟩, refused⟩

/-- A diagram or fragment that is due after a run has been made in it. -/
theorem made_of_isDue (aborted : book.Aborted sources demanded records item fault before after)
    {record : Record} (recorded : record ∈ records) (role : record.1.kind ≠ .document)
    {here : World} {less : Bool} (spares : book.Spares record.1 after here)
    (due : book.isDue less here.files here.base record.1 = true) : record.2 = true := by
  obtain ⟨start, finish, first, treated, onward⟩ := aborted.recalls recorded
  have fit := first.base ▸ aborted.fit record recorded
  have treatment := treat_eq_ok (first.stable aborted.stable).sound (first.ready aborted.ready)
    fit treated
  cases made : record.2 with
  | true => rfl
  | false =>
      have effect := treatment.effect
      rw [made] at treatment effect
      have untouched : book.Undisturbed start.base (book.touches start.base record.1 false)
          record.1 := by
        simpa [touches] using fit.undisturbed
      have fewer : record.1.kind = .document → less = true → demanded = true :=
        fun kind => absurd kind role
      rw [← (onward.trans spares).isDue_eq, effect.base,
        ← isDue_congr effect.files untouched] at due
      exact treatment.due.trans (isDue_mono fewer due)

end Aborted

end Book

end Bindery
