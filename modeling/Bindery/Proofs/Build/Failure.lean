import Bindery.Proofs.Build.Plan
import Bindery.Proofs.Build.Stopping

/-!
Contract: building again after a build that failed.

Owns:
- `Forgotten`, the one way in which a failure gets lost: the verdict had demanded a document, its
  engine failed, and by the times of the files that the build left nothing is due;
- what a build after an aborted one comes to: unless the failed item is forgotten it fails again,
  and if it is it succeeds exactly when all other documents pass;
- the theorem that says so of the build operation.

Does not own: builds after a successful one (`Bindery.Proofs.Build.Rerun`).
-/

namespace Bindery

open Source

/-- Of two elements of a list, one comes first or both are the same. -/
theorem cases_of_splits {α : Type} {front back rest more : List α} {first second : α}
    (splits : front ++ first :: rest = back ++ second :: more) :
    first = second ∨ second ∈ front ∨ first ∈ back := by
  rcases List.append_eq_append_iff.1 splits with ⟨between, rfl, tail⟩ | ⟨between, rfl, tail⟩
  · cases between with
    | nil => exact .inl (List.cons.inj tail).1
    | cons head _ => exact .inr (.inr (by simp [(List.cons.inj tail).1]))
  · cases between with
    | nil => exact .inl (List.cons.inj tail).1.symm
    | cons head _ => exact .inr (.inl (by simp [(List.cons.inj tail).1]))

def World.toolsSince (before after : World) : List Command :=
  (after.commands.drop before.commands.length).filter fun command => !command.isRequest

theorem World.toolsSince_eq {world before after : World} {touched : List Place}
    {tools : List Command} (asked : ∃ requests : List Command,
      before.commands = world.commands ++ requests ∧
        ∀ request ∈ requests, request.isRequest = true)
    (effect : Effect before after touched tools) : world.toolsSince after = tools := by
  obtain ⟨requests, opened, onlyRequests⟩ := asked
  obtain ⟨issued, commands, rfl⟩ := effect.ran
  have silent : requests.filter (fun command => !command.isRequest) = [] := by
    simpa using onlyRequests
  rw [toolsSince, commands, opened, List.append_assoc, List.drop_left, List.filter_append, silent,
    List.nil_append]

namespace Book

/-- A document whose failure is lost: the engine was refused for it last, and by the times of the
files nothing is due that would run the engine for it again. -/
structure Forgotten (book : Book) (sources : Collection) (tools : List Command) (after : World)
    (document : Path) : Prop where
  among : document ∈ sources.documents
  last : tools.getLast? = some (book.typesetter.command document.stem (book.manuscript document))
  refused : after.runner.Refuses
    (book.typesetter.command document.stem (book.manuscript document))
  idle : book.documentDue after.files after.base sources document = false

theorem forgotten_limitedTo_iff {book : Book} {asked : Request → Bool} {sources : Collection}
    {tools : List Command} {after : World} {document : Path} :
    (book.limitedTo asked).Forgotten sources tools after document ↔
      book.Forgotten sources tools after document :=
  ⟨fun ⟨among, last, refused, idle⟩ => ⟨among, last, refused, idle⟩,
    fun ⟨among, last, refused, idle⟩ => ⟨among, last, refused, idle⟩⟩

namespace Aborted

variable {book : Book} {sources : Collection} {demanded : Bool} {records : List Record}
  {item : Item} {fault : Fault} {before after : World}

/-! ## Running again -/

section Again

variable {again middle : World} {later : Bool} {anew : List Record}

/-- A run that stopped has left what a run needs. -/
theorem resumes (aborted : book.Aborted sources demanded records item fault before after)
    (resembles : World.Resembles [] after again) :
    before.base = again.base ∧ book.Stable again.runner again.base ∧ book.Ready again := by
  obtain ⟨touched, issued, effect, _⟩ := aborted.ran
  have onward := effect.resembles.trans (resembles.mono (List.nil_subset _))
  exact ⟨onward.base, onward.runner ▸ onward.base ▸ aborted.stable,
    aborted.ready.of_resembles onward⟩

/-- A source is treated in a run after as it would be at its start. -/
theorem treat_alike_after
    (aborted : book.Aborted sources demanded records item fault before after) {other : Item}
    (also : other ∈ sources.items) {here : World} (spares : book.Spares other after here)
    (less : Bool) :
    Alike ((book.treat less other).exec after).1 ((book.treat less other).exec here).1 := by
  obtain ⟨base, stable, ready⟩ := aborted.resumes (.refl [] after)
  have fit := aborted.separate.fit aborted.named other also
  exact treat_alike stable ready (base ▸ fit) spares less

/-- A run that goes through the first of the sources again decides by the files that were left. -/
theorem follows (aborted : book.Aborted sources demanded records item fault before after)
    (resembles : World.Resembles [] after again) (run : book.Runs later again anew middle)
    (front : ∃ rest, sources.items = anew.map Prod.fst ++ rest) :
    (∀ record ∈ anew, record.2 = book.isDue later again.files again.base record.1) ∧
      ∀ record ∈ anew, ∃ start finish, book.Spares record.1 after start ∧
        (book.treat later record.1).exec start = (.ok record.2, finish) := by
  obtain ⟨base, stable, ready⟩ := aborted.resumes resembles
  obtain ⟨rest, items⟩ := front
  have separate : book.Separate sources again.base := base ▸ aborted.separate
  have fit : ∀ record ∈ anew, book.Fit again.base record.1 := fun record member =>
    separate.fit aborted.named _ (items ▸ List.mem_append_left _ (List.mem_map_of_mem member))
  have independent : (anew.map Prod.fst).Pairwise (book.Independent again.base) := by
    have whole := separate.independent
    rw [items, List.pairwise_append] at whole
    exact whole.1
  refine ⟨run.follows stable.sound ready fit independent, fun record member => ?_⟩
  obtain ⟨start, finish, spares, treated, _⟩ :=
    run.recalls stable.sound ready fit independent record member
  exact ⟨start, finish, (Spares.of_resembles book _ resembles).trans spares, treated⟩

/-- What demands documents in a run after has demanded them before. -/
theorem demanded_of_refreshes
    (aborted : book.Aborted sources demanded records item fault before after)
    (resembles : World.Resembles [] after again) (run : book.Runs later again anew middle)
    (front : ∃ rest, sources.items = anew.map Prod.fst ++ rest) (kind : item.kind = .document)
    (refreshed : refreshes anew = true) : demanded = true := by
  have decided := (aborted.follows resembles run front).1
  obtain ⟨rest, items⟩ := front
  obtain ⟨record, member, flagged⟩ := List.any_eq_true.1 refreshed
  obtain ⟨role, made⟩ : record.1.kind ≠ .document ∧ record.2 = true := by simpa using flagged
  have also : record.1 ∈ sources.items :=
    items ▸ List.mem_append_left _ (List.mem_map_of_mem member)
  obtain ⟨earlier, recorded⟩ := aborted.before_document kind also role
  have due : book.isDue later again.files again.base record.1 = true :=
    (decided record member).symm.trans made
  have remade : earlier = true :=
    aborted.made_of_isDue recorded role (.of_resembles book _ resembles) due
  rw [aborted.verdict kind, refreshes, List.any_eq_true]
  exact ⟨_, recorded, by simp [role, remade]⟩

/-- A run after, in which a document passes that has failed before, shows that nothing demands it
any more if that run demanded nothing. -/
theorem demands_eq_false (aborted : book.Aborted sources demanded records item fault before after)
    (resembles : World.Resembles [] after again) (run : book.Runs later again anew middle)
    (front : ∃ rest, sources.items = anew.map Prod.fst ++ rest)
    (passed : item ∈ anew.map Prod.fst) (kind : item.kind = .document)
    (quiet : refreshes anew = false) : book.demands after.files after.base sources = false := by
  have decided := (aborted.follows resembles run front).1
  obtain ⟨rest, items⟩ := front
  obtain ⟨early, late, split⟩ := List.append_of_mem passed
  rw [split, List.append_assoc, List.cons_append] at items
  have behind := Collection.documents_last items kind
  rw [Bool.eq_false_iff]
  intro demands
  obtain ⟨other, also, role, overdue⟩ := demands_eq_true_iff.1 demands
  have repeated : other ∈ anew.map Prod.fst := by
    rw [items] at also
    rw [split]
    rcases List.mem_append.1 also with first | last
    · exact List.mem_append_left _ first
    · rcases List.mem_cons.1 last with rfl | after
      · exact absurd kind role
      · exact absurd (behind other after) role
  obtain ⟨newer, recorded, rfl⟩ := List.mem_map.1 repeated
  have flag := decided newer recorded
  rw [← (Spares.of_resembles book _ resembles).isDue_eq, isDue_of_not_document role, overdue]
    at flag
  have refreshed : refreshes anew = true :=
    List.any_eq_true.2 ⟨newer, recorded, by simp [role, flag]⟩
  rw [quiet] at refreshed
  contradiction

/-- What passes in a run after, but has failed before, is forgotten. -/
theorem forgotten_of_pass
    (aborted : book.Aborted sources demanded records item fault before after)
    (resembles : World.Resembles [] after again) (run : book.Runs later again anew middle)
    (front : ∃ rest, sources.items = anew.map Prod.fst ++ rest)
    (passed : item ∈ anew.map Prod.fst)
    (verdict : item.kind = .document → later = refreshes anew) :
    book.Forgotten sources (before.toolsSince after) after item.path := by
  have recalls := (aborted.follows resembles run front).2
  have fewer : item.kind = .document → later = true → demanded = true := by
    intro kind asked
    rw [verdict kind] at asked
    exact aborted.demanded_of_refreshes resembles run front kind asked
  obtain ⟨record, member, same⟩ := List.mem_map.1 passed
  obtain ⟨start, finish, spares, treated⟩ := recalls record member
  rw [same] at spares treated
  rcases aborted.fails fewer spares with ⟨other, failing, _⟩ |
    ⟨kind, undemanded, _, undue, ⟨touched, effect⟩, refused⟩
  · rw [treated] at failing
    simp at failing
  have idle := aborted.demands_eq_false resembles run front passed kind
    ((verdict kind).symm.trans undemanded)
  rw [← spares.isDue_eq] at undue
  have tools := World.toolsSince_eq ⟨[], (List.append_nil _).symm, by simp⟩ effect
  obtain ⟨role, path⟩ := item
  obtain rfl : role = .document := kind
  refine ⟨?_, ?_, ?_, ?_⟩
  · exact Collection.document_mem_items.1 aborted.member
  · rw [tools]
    simp [Book.tools]
  · rw [effect.runner]
    exact refused _ List.mem_cons_self
  · rw [isDue_document, Bool.false_or] at undue
    rw [documentDue, idle, undue, Bool.false_or]

/-- A document that is forgotten is the item at which the run has stopped. -/
theorem eq_of_forgotten
    (aborted : book.Aborted sources demanded records item fault before after) {document : Path}
    (forgotten : book.Forgotten sources (before.toolsSince after) after document) :
    item = ⟨.document, document⟩ ∧
      ∀ touched, ¬ World.Effect before after touched (book.toolsOf before.base records) := by
  obtain ⟨start, _, run, _, _, _⟩ := aborted.stopped
  have kept := run.not_refuses aborted.stable.sound aborted.ready aborted.fit
  obtain ⟨touched, issued, effect, cases⟩ := aborted.ran
  have refused := forgotten.refused
  rw [effect.runner] at refused
  have unlike : ∀ touched, ¬ World.Effect before after touched (book.toolsOf before.base records) := by
    intro touched idle
    have last := forgotten.last
    rw [World.toolsSince_eq ⟨[], (List.append_nil _).symm, by simp⟩ idle] at last
    exact kept _ (List.mem_of_getLast? last) refused
  refine ⟨?_, unlike⟩
  rcases cases with rfl | rfl
  · rw [List.append_nil] at effect
    exact absurd effect (unlike touched)
  have last := forgotten.last
  rw [World.toolsSince_eq ⟨[], (List.append_nil _).symm, by simp⟩ effect] at last
  have proper := aborted.stable.sound.proper
  have also : ⟨.document, document⟩ ∈ sources.items := by
    exact Collection.document_mem_items.2 forgotten.among
  rcases List.mem_append.1 (List.mem_of_getLast? last) with early | late
  · exact absurd refused (kept _ early)
  · have named := artifact?_of_mem_tools proper (aborted.named item aborted.member) late
    have engine : book.typesetter.command document.stem (book.manuscript document) ∈
        book.tools before.base ⟨.document, document⟩ := List.mem_cons_self
    have alsoNamed := artifact?_of_mem_tools proper (aborted.named _ also) engine
    exact aborted.separate.eq_of_output aborted.member also
      (Option.some.inj (named.symm.trans alsoNamed))

/-- A forgotten document passes wherever it was spared and is not demanded. -/
theorem passes_of_forgotten
    (aborted : book.Aborted sources demanded records item fault before after) {document : Path}
    (forgotten : book.Forgotten sources (before.toolsSince after) after document) {here : World}
    (spares : book.Spares item after here) :
    ((book.treat false item).exec here).1 = .ok false := by
  obtain ⟨rfl, unlike⟩ := aborted.eq_of_forgotten forgotten
  have fewer : (⟨.document, document⟩ : Item).kind = .document → false = true →
      demanded = true := by simp
  rcases aborted.fails fewer spares with ⟨other, _, _, reason⟩ | ⟨_, _, passed, _⟩
  · rcases reason with ⟨touched, idle⟩ | due
    · exact absurd idle (unlike touched)
    · have undue := (Bool.or_eq_false_iff.1 forgotten.idle).2
      rw [← spares.isDue_eq, isDue_document, Bool.false_or, undue] at due
      contradiction
  · exact passed

theorem refreshes_eq_false
    (aborted : book.Aborted sources demanded records item fault before after) {document : Path}
    (forgotten : book.Forgotten sources (before.toolsSince after) after document)
    (resembles : World.Resembles [] after again) (run : book.Runs later again anew middle)
    (front : ∃ rest, sources.items = anew.map Prod.fst ++ rest) : refreshes anew = false := by
  have decided := (aborted.follows resembles run front).1
  obtain ⟨rest, items⟩ := front
  have idle := (Bool.or_eq_false_iff.1 forgotten.idle).1
  refine Bool.eq_false_iff.2 fun refreshed => ?_
  obtain ⟨record, member, flagged⟩ := List.any_eq_true.1 refreshed
  obtain ⟨role, made⟩ : record.1.kind ≠ .document ∧ record.2 = true := by simpa using flagged
  rw [decided record member, ← (Spares.of_resembles book _ resembles).isDue_eq,
    isDue_of_not_document role] at made
  have demands := demands_eq_true_iff.2
    ⟨record.1, items ▸ List.mem_append_left _ (List.mem_map_of_mem member), role, made⟩
  rw [idle] at demands
  contradiction

/-- A run after that stops is a run of the same sources that stopped. -/
theorem aborts (aborted : book.Aborted sources demanded records item fault before after)
    (resembles : World.Resembles [] after again) {other : Item} {refusal : Fault}
    (stops : book.Stops later again anew other refusal middle)
    (items : ∃ rest, sources.items = anew.map Prod.fst ++ other :: rest)
    (verdict : other.kind = .document → later = refreshes anew) :
    book.Aborted sources later anew other refusal again middle := by
  obtain ⟨base, stable, ready⟩ := aborted.resumes resembles
  exact ⟨stable, ready, aborted.named, base ▸ aborted.separate, stops, items, verdict⟩

variable {answer : Except Fault BuildReport} {final : World}

/-- Unless the item is forgotten, a build after a reported failure fails and reports it. -/
theorem fails_again (aborted : book.Aborted sources demanded records item fault before after)
    (reported : (reported? fault).isSome) (resembles : World.Resembles [] after again)
    (ends : book.Ends sources again anew answer final)
    (unforgotten : ¬ book.Forgotten sources (before.toolsSince after) after item.path) :
    ∃ other, answer = .error other ∧ (reported? other).isSome := by
  rcases ends.cases_of_ready (aborted.resumes resembles).2.2 with
    ⟨later, other, rest, refusal, rfl, stops, items, verdict⟩ | ⟨rfl, run, items⟩
  · have reran := aborted.aborts resembles stops ⟨rest, items⟩ verdict
    obtain ⟨start, _, run, spares, failed, _⟩ := reran.stopped
    have spared := (Spares.of_resembles book other resembles).trans spares
    have fails := congrArg Prod.fst failed
    obtain ⟨_, first⟩ := aborted.items
    have onward : ∃ rest, sources.items = anew.map Prod.fst ++ rest := ⟨_, items⟩
    rcases cases_of_splits (first.symm.trans items) with rfl | before | after
    · have fewer : item.kind = .document → later = true → demanded = true := by
        intro kind asked
        rw [verdict kind] at asked
        exact aborted.demanded_of_refreshes resembles run onward kind asked
      rcases aborted.fails fewer spared with ⟨same, failing, alike, _⟩ | ⟨_, _, passed, _⟩
      · obtain rfl := Except.error.inj (failing.symm.trans fails)
        exact ⟨same, rfl, alike.reported reported⟩
      · rw [fails] at passed
        contradiction
    · -- An item before the one that failed succeeds again.
      obtain ⟨record, recorded, rfl⟩ := List.mem_map.1 before
      have fewer : record.1.kind = .document → later = true → demanded = true := by
        intro kind asked
        rw [verdict kind] at asked
        obtain ⟨early, late, split⟩ := List.append_of_mem before
        rw [split, List.append_assoc, List.cons_append] at first
        have lastKind := Collection.documents_last first kind item (by simp)
        exact aborted.demanded_of_refreshes resembles run onward lastKind asked
      obtain ⟨made, passed⟩ := aborted.passes recorded fewer spared
      rw [fails] at passed
      contradiction
    · -- The item has passed, so something behind it has failed.
      refine absurd (aborted.forgotten_of_pass resembles run onward after fun kind => ?_)
        unforgotten
      obtain ⟨early, late, split⟩ := List.append_of_mem after
      rw [split, List.append_assoc, List.cons_append] at items
      exact verdict (Collection.documents_last items kind other (by simp))
  · refine absurd (aborted.forgotten_of_pass resembles run ⟨[], by simp [items]⟩ ?_ fun _ => rfl)
      unforgotten
    rw [items]
    exact aborted.member

/-- If the item is forgotten, a build after succeeds exactly when all other documents pass. -/
theorem succeeds_iff (aborted : book.Aborted sources demanded records item fault before after)
    {document : Path}
    (forgotten : book.Forgotten sources (before.toolsSince after) after document)
    (resembles : World.Resembles [] after again)
    (ends : book.Ends sources again anew answer final) :
    (∃ report, answer = .ok report) ↔
      ∀ other ∈ sources.documents, other ≠ document →
        ∃ made, ((book.treat false ⟨.document, other⟩).exec after).1 = .ok made := by
  obtain ⟨base, stable, ready⟩ := aborted.resumes resembles
  have kind : item.kind = .document := by rw [(aborted.eq_of_forgotten forgotten).1]
  rcases ends.cases_of_ready ready with
    ⟨later, other, rest, refusal, rfl, stops, items, verdict⟩ | ⟨rfl, run, items⟩
  · refine iff_of_false (by simp) fun others => ?_
    have reran := aborted.aborts resembles stops ⟨rest, items⟩ verdict
    obtain ⟨start, _, run, spares, failed, _⟩ := reran.stopped
    have spared := (Spares.of_resembles book other resembles).trans spares
    have quiet := aborted.refreshes_eq_false forgotten resembles run ⟨_, items⟩
    have fails := congrArg Prod.fst failed
    have passes : ∃ made, ((book.treat later other).exec start).1 = .ok made := by
      by_cases role : other.kind = .document
      · rw [verdict role, quiet]
        by_cases same : other = item
        · subst same
          exact ⟨false, aborted.passes_of_forgotten forgotten spared⟩
        · obtain ⟨sort, path⟩ := other
          obtain rfl : sort = .document := role
          have among : path ∈ sources.documents := by
            exact Collection.document_mem_items.1 reran.member
          have different : path ≠ document := by
            rintro rfl
            exact same (aborted.eq_of_forgotten forgotten).1.symm
          obtain ⟨made, passed⟩ := others path among different
          exact ⟨made, (aborted.treat_alike_after reran.member spared false).ok passed⟩
      · obtain ⟨made, recorded⟩ := aborted.before_document kind reran.member role
        exact aborted.passes recorded (fun document => absurd document role) spared
    obtain ⟨made, passed⟩ := passes
    rw [fails] at passed
    contradiction
  · refine iff_of_true ⟨_, rfl⟩ fun other also _ => ?_
    have front : ∃ rest, sources.items = anew.map Prod.fst ++ rest := ⟨[], by simp [items]⟩
    have quiet := aborted.refreshes_eq_false forgotten resembles run front
    have among : ⟨.document, other⟩ ∈ sources.items := Collection.document_mem_items.2 also
    obtain ⟨record, recorded, same⟩ := List.mem_map.1 (items ▸ among)
    obtain ⟨start, finish, spares, treated⟩ :=
      (aborted.follows resembles run front).2 record recorded
    rw [same, quiet] at treated
    rw [same] at spares
    exact ⟨record.2, (aborted.treat_alike_after among spares false).symm.ok
      (congrArg Prod.fst treated)⟩

end Again

end Aborted

/-! ## Failures that recur -/

/-- Where the target directory was refused, it is refused again. -/
theorem unprepared_again {book : Book} {sources : Collection} {world again final : World}
    {fault : Fault} {anew : List Record} {answer : Except Fault BuildReport}
    (reported : (reported? fault).isSome)
    (refused : world.files.makeDirectories world.base book.targetDirectory =
      (.error fault, again.files)) (base : again.base = world.base)
    (ends : book.Ends sources again anew answer final) :
    ∃ other, answer = .error other ∧ (reported? other).isSome := by
  rcases FileStore.makeDirectories_refusal refused with rfl | ⟨refusal, rfl⟩
  · simp [reported?] at reported
  obtain ⟨other, left, refusedAgain⟩ := FileStore.makeDirectories_refused_again refused
  rw [← base] at refusedAgain
  cases ends with
  | unprepared failed =>
      obtain ⟨same, _⟩ := Prod.mk.inj (refusedAgain.symm.trans failed)
      exact ⟨_, rfl, Except.error.inj same ▸ rfl⟩
  | stopped made => simp [refusedAgain] at made
  | complete made => simp [refusedAgain] at made

theorem toolsSince_prepared {book : Book} {world after : World} {touched : List Place}
    {tools : List Command} (effect : World.Effect (book.prepared world) after touched tools) :
    world.toolsSince after = tools ∧ (book.prepared world).toolsSince after = tools := by
  obtain ⟨requests, opened, onlyRequests⟩ := world.kept_starting.asked
  have asked : (book.prepared world).commands = world.commands ++ requests := opened
  exact ⟨World.toolsSince_eq ⟨requests, asked, onlyRequests⟩ effect,
    World.toolsSince_eq ⟨[], (List.append_nil _).symm, by simp⟩ effect⟩

/-- The case of a version control that is steady for all requests. -/
theorem recurs_of_stable {book : Book} {chosen anew : Option Collection} {sources : Collection}
    {world after : World} {outcome : Outcome} (later : Int)
    (stable : book.Stable world.runner world.base)
    (named : ∀ item ∈ sources.items, item.path.NamesFile)
    (separate : book.Separate sources world.base)
    (found : ((book.sourcesOr chosen).exec world).1 = .ok sources)
    (foundAgain : ((book.sourcesOr anew).exec after).1 = .ok sources)
    (ran : (book.build chosen).exec world = (.ok outcome, after)) (failed : outcome.ok = false) :
    ((∀ document, ¬ book.Forgotten sources (world.toolsSince after) after document) →
      okOf ((book.build anew).exec { after with now := later }).1 = some false) ∧
    (okOf ((book.build anew).exec { after with now := later }).1 = some true ↔
      ∃ document, book.Forgotten sources (world.toolsSince after) after document ∧
        ∀ other ∈ sources.documents, other ≠ document →
          ∃ made, ((book.typesetter.typeset other false).exec after).1 = .ok made) := by
  have waiting : World.Resembles [] after { after with now := later } := ⟨rfl, rfl, .refl _ _⟩
  have sameFiles : ({ after with now := later } : World).files = after.files := rfl
  have looking := (book.looks_sourcesOr anew).exec_eq sameFiles rfl foundAgain
  have started := ({ after with now := later } : World).kept_starting
  have resembles := waiting.trans (started.resembles [])
  rw [okOf_build (congrArg Prod.fst looking)]
  rcases building : (book.buildSources sources).exec ({ after with now := later } : World).starting
    with ⟨answer, final⟩
  have ends := buildSources_ends building
  rw [okOfReport_eq_true_iff]
  obtain ⟨fault, reported, ⟨refused, kept⟩ |
    ⟨demanded, records, item, rest, made, stops, items, verdict⟩⟩ :=
      build_eq_failed found ran failed
  · -- The target directory cannot be made, and no tool has run.
    have base := resembles.base.symm.trans (kept.base.trans (book.base_prepared world))
    rw [← kept.files, ← sameFiles, ← started.files] at refused
    have again := unprepared_again reported refused base ends
    refine ⟨fun _ => okOfReport_of_reported again, iff_of_false ?_ ?_⟩
    · rintro ⟨report, rfl⟩
      simp at again
    · rintro ⟨document, forgotten, _⟩
      have last := forgotten.last
      rw [(toolsSince_prepared kept.effect).1] at last
      simp at last
  · have aborted : book.Aborted sources demanded records item fault (book.prepared world) after := by
      refine ⟨?_, ready_prepared made, named, ?_, stops, ⟨rest, items⟩, verdict⟩
      · rwa [runner_prepared, base_prepared]
      · rwa [base_prepared]
    obtain ⟨touched, issued, effect, _⟩ := aborted.ran
    obtain ⟨tools, alsoTools⟩ := toolsSince_prepared effect
    rw [tools, ← alsoTools]
    have fails := fun unforgotten => aborted.fails_again reported resembles ends unforgotten
    refine ⟨fun unforgotten => okOfReport_of_reported (fails (unforgotten item.path)), ?_⟩
    constructor
    · rintro ⟨report, rfl⟩
      by_cases forgotten : book.Forgotten sources ((book.prepared world).toolsSince after) after
          item.path
      · exact ⟨item.path, forgotten,
          (aborted.succeeds_iff forgotten resembles ends).1 ⟨report, rfl⟩⟩
      · obtain ⟨other, same, _⟩ := fails forgotten
        contradiction
    · rintro ⟨document, forgotten, others⟩
      exact (aborted.succeeds_iff forgotten resembles ends).2 others

/-- A build that failed fails again at any later time, unless its failure is forgotten. It succeeds
then exactly when, without being demanded, all other documents pass. Version control has to be
steady for what the two builds and the typesetting of the documents ask it. -/
theorem failure_recurs {book : Book} {chosen anew : Option Collection} {sources : Collection}
    {asked : Request → Bool} {world after : World} {outcome : Outcome} (later : Int)
    (stable : book.StableFor asked world.runner world.base)
    (asks : book.AsksOnly asked (·.build chosen) world)
    (asksAgain : book.AsksOnly asked (·.build anew) { after with now := later })
    (asksTypesetting : ∀ document ∈ sources.documents,
      book.AsksOnly asked (·.typesetter.typeset document false) after)
    (named : ∀ item ∈ sources.items, item.path.NamesFile)
    (separate : book.Separate sources world.base)
    (found : ((book.sourcesOr chosen).exec world).1 = .ok sources)
    (foundAgain : ((book.sourcesOr anew).exec after).1 = .ok sources)
    (ran : (book.build chosen).exec world = (.ok outcome, after)) (failed : outcome.ok = false) :
    ((∀ document, ¬ book.Forgotten sources (world.toolsSince after) after document) →
      okOf ((book.build anew).exec { after with now := later }).1 = some false) ∧
    (okOf ((book.build anew).exec { after with now := later }).1 = some true ↔
      ∃ document, book.Forgotten sources (world.toolsSince after) after document ∧
        ∀ other ∈ sources.documents, other ≠ document →
          ∃ made, ((book.typesetter.typeset other false).exec after).1 = .ok made) := by
  obtain ⟨recurs, succeeds⟩ := recurs_of_stable later stable.limitedTo named
    (separate.limitedTo asked) found foundAgain (asks.trans ran) failed
  have again : ((book.limitedTo asked).build anew).exec { after with now := later } =
      (book.build anew).exec { after with now := later } := asksAgain
  have typesets : ∀ document ∈ sources.documents,
      ((book.limitedTo asked).typesetter.typeset document false).exec after =
        (book.typesetter.typeset document false).exec after := asksTypesetting
  rw [again] at recurs succeeds
  refine ⟨fun unforgotten => recurs fun document forgotten =>
    unforgotten document (forgotten_limitedTo_iff.1 forgotten), succeeds.trans ⟨?_, ?_⟩⟩
  · rintro ⟨document, forgotten, others⟩
    refine ⟨document, forgotten_limitedTo_iff.1 forgotten, fun other member different => ?_⟩
    rw [← typesets other member]
    exact others other member different
  · rintro ⟨document, forgotten, others⟩
    refine ⟨document, forgotten_limitedTo_iff.2 forgotten, fun other member different => ?_⟩
    rw [typesets other member]
    exact others other member different

theorem stable_sampleBook : sampleBook.Stable (.scripted fun _ => true) [] where
  sound := sound_sampleBook _
  constant := Runner.constant_scripted
  steady := Repository.steady_ofSnapshot _ _ _

set_option maxRecDepth 4000 in
/-- A diagram that cannot be rendered fails the build of the small project, and the one after. -/
theorem failure_recurs_sample :
    ∃ outcome after, (sampleBook.build (some sampleSources)).exec
        (refusingWorld (sampleFiles 3000 1000)) = (.ok outcome, after) ∧ outcome.ok = false ∧
      okOf ((sampleBook.build (some sampleSources)).exec { after with now := 5001 }).1 =
        some false := by
  have named : ∀ item ∈ sampleSources.items, item.path.NamesFile := by decide
  have separate : sampleBook.Separate sampleSources
      (refusingWorld (sampleFiles 3000 1000)).base := by decide +kernel
  have fails : okOf ((sampleBook.build (some sampleSources)).exec
      (refusingWorld (sampleFiles 3000 1000))).1 = some false := by decide +kernel
  have demands : sampleBook.demands ((sampleBook.build (some sampleSources)).exec
      (refusingWorld (sampleFiles 3000 1000))).2.files ((sampleBook.build (some sampleSources)).exec
      (refusingWorld (sampleFiles 3000 1000))).2.base sampleSources = true := by decide +kernel
  rcases ran : (sampleBook.build (some sampleSources)).exec (refusingWorld (sampleFiles 3000 1000))
    with ⟨answer, after⟩
  rw [ran] at fails demands
  obtain ⟨outcome, rfl, failed⟩ := exists_of_okOf fails
  have found : ((sampleBook.sourcesOr (some sampleSources)).exec
      (refusingWorld (sampleFiles 3000 1000))).1 = .ok sampleSources := rfl
  have foundAgain : ((sampleBook.sourcesOr (some sampleSources)).exec after).1 =
      .ok sampleSources := rfl
  have recurs := failure_recurs 5001 (stable_sampleBook.stableFor fun _ => true)
    (asksOnly_all _ _ _) (asksOnly_all _ _ _) (fun _ _ => asksOnly_all _ _ _) named separate found
    foundAgain ran failed
  refine ⟨outcome, after, rfl, failed, recurs.1 fun document forgotten => ?_⟩
  have idle := (Bool.or_eq_false_iff.1 forgotten.idle).1
  rw [demands] at idle
  contradiction

set_option maxRecDepth 4000 in
/-- A fragment that is refreshed before the engine fails takes the failure with it: by the files
that the first build leaves nothing is due, and the next build succeeds. -/
theorem failure_forgotten_sample :
    sampleBook.Stable (refusingWorld (sampleFiles 1000 3000)).runner
        (refusingWorld (sampleFiles 1000 3000)).base ∧
      ∃ outcome after, (sampleBook.build (some sampleSources)).exec
          (refusingWorld (sampleFiles 1000 3000)) = (.ok outcome, after) ∧ outcome.ok = false ∧
        ∃ again final, (sampleBook.build (some sampleSources)).exec after = (.ok again, final) ∧
          again.ok = true := by
  refine ⟨stable_sampleBook, ?_⟩
  have fails : okOf ((sampleBook.build (some sampleSources)).exec
      (refusingWorld (sampleFiles 1000 3000))).1 = some false := by decide +kernel
  have succeeds : okOf ((sampleBook.build (some sampleSources)).exec
      ((sampleBook.build (some sampleSources)).exec
        (refusingWorld (sampleFiles 1000 3000))).2).1 = some true := by decide +kernel
  rcases ran : (sampleBook.build (some sampleSources)).exec (refusingWorld (sampleFiles 1000 3000))
    with ⟨answer, after⟩
  rw [ran] at fails succeeds
  obtain ⟨outcome, rfl, failed⟩ := exists_of_okOf fails
  rcases reran : (sampleBook.build (some sampleSources)).exec after with ⟨second, final⟩
  rw [reran] at succeeds
  obtain ⟨again, rfl, ok⟩ := exists_of_okOf succeeds
  exact ⟨outcome, after, rfl, failed, again, final, reran, ok⟩

end Book

end Bindery
