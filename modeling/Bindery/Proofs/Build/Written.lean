import Bindery.Proofs.Build.Operation

/-!
Contract: what the files hold after a build that succeeded.

Owns:
- `Holds`, a file that is what a source renders to;
- what treating an item writes into its manuscript and its product, and that no later item writes
  over it where the items do not share a place;
- the theorem on all files: manuscripts and fragments hold what was rendered, products that were
  not made again are as they were, and so is everything outside the target directory.

Does not own: what tools write into their artifacts (`Bindery.Proofs.Build.Fresh`), and what a text
renders to.
-/

namespace Bindery

open Source

namespace Book

/-- The file at a path is what a source renders to, as seen before. -/
def Holds (book : Book) (before after : World) (path source : Path) : Prop :=
  ∃ file, after.files.fileAt (path.placeFrom before.base) = some file ∧
    book.press.Renders before source file.content

/-- What a source renders to with a limited repository, it renders to. -/
theorem Holds.of_limitedTo {book : Book} {asked : Request → Bool} {before after : World}
    {path source : Path} (holds : (book.limitedTo asked).Holds before after path source) :
    book.Holds before after path source := by
  obtain ⟨file, found, bytes, text, read, rendered, content⟩ := holds
  exact ⟨file, found, bytes, text, read, (follows_render book _).answer_eq rendered, content⟩

theorem Holds.of_resembles {book : Book} {before middle after : World} {touched : List Place}
    {path source : Path} (holds : book.Holds before middle path source)
    (resembles : World.Resembles touched middle after)
    (apart : path.placeFrom before.base ∉ touched) : book.Holds before after path source := by
  obtain ⟨file, found, renders⟩ := holds
  refine ⟨file, ?_, renders⟩
  rw [← FileStore.fileAt_congr (resembles.files.nodes _ apart)]
  exact found

/-- What a file holds can be told from any world that differs in the target directory only. -/
theorem Holds.seen_from {book : Book} {left right after : World} {touched : List Place}
    {path source : Path} (holds : book.Holds left after path source)
    (steady : book.repository.Steady left.runner (book.targetDirectory.placeFrom left.base))
    (resembles : World.Resembles touched left right)
    (inside : ∀ place ∈ touched, book.targetDirectory.placeFrom left.base <+: place)
    (apart : source.placeFrom left.base ∉ touched) : book.Holds right after path source := by
  obtain ⟨file, found, renders⟩ := holds
  refine ⟨file, resembles.base ▸ found, ?_⟩
  exact renders.of_resembles steady resembles inside apart

/-! ## What a treatment writes -/

section Treatment

variable {book : Book} {item : Item} {world after : World}

theorem holds_of_publish {name : String} {source written : Path} (ready : book.Ready world)
    (part : Path.IsPart name) (sound : book.Sound world.runner)
    (ran : (book.press.publish source name).exec world = (.ok written, after)) :
    book.Holds world after (book.targetDirectory.joinText name) source := by
  obtain ⟨file, found, renders⟩ := Press.renders_of_publish ready.press part sound.press ran
  exact ⟨file, FileStore.fileAt_of_find? found, renders⟩

/-- The manuscript of a document is written whether or not the document is typeset. -/
theorem holds_manuscript_of_treat {demanded made : Bool} {document : Path}
    (sound : book.Sound world.runner) (ready : book.Ready world) (file : document.NamesFile)
    (ran : (book.treat demanded ⟨.document, document⟩).exec world = (.ok made, after)) :
    book.Holds world after (book.manuscript document) document := by
  have prepared := prepared_of_treat ran
  rcases preparing : (book.prepare ⟨.document, document⟩).exec world with ⟨answer, middle⟩
  rw [preparing] at prepared
  obtain rfl : answer = .ok () := prepared
  have effect := (prepare_eq_ok sound ready file preparing).1
  obtain ⟨written, published, publishing, done⟩ := Action.exec_bind_eq_ok_iff.1 preparing
  obtain ⟨_, rfl⟩ := Prod.mk.inj done
  have holds := holds_of_publish ready (isPart_manuscriptName file) sound publishing
  obtain ⟨noted, kept, treating⟩ := exec_treat_of_prepared demanded file preparing
  rw [treating] at ran
  split at ran
  · simp at ran
  · -- The engine writes the product, which is another file.
    have start := effect.trans_kept kept
    have readyNoted := ready.of_resembles start.resembles
    rw [← kept.base] at ran
    obtain ⟨_, made, _⟩ := make_eq_ok (by rw [start.runner]; exact sound) readyNoted file ran
    rw [start.base] at made
    have apart : (book.manuscript document).placeFrom world.base ∉
        [book.outputPlace world.base ⟨.document, document⟩] := by
      have different : book.outputPlace world.base ⟨.document, document⟩ ∉
          book.temporaryPlaces world.base ⟨.document, document⟩ :=
        outputPlace_notMem_temporaryPlaces book world.base file
      simpa [temporaryPlaces, eq_comm] using different
    exact (holds.of_resembles (kept.resembles []) (by simp)).of_resembles made.resembles apart
  · obtain ⟨_, rfl⟩ := Prod.mk.inj ran
    exact holds.of_resembles (kept.resembles []) (by simp)

/-- A fragment that was made again holds what it renders to. -/
theorem holds_fragment_of_treat {demanded : Bool} {fragment : Path}
    (sound : book.Sound world.runner) (ready : book.Ready world) (file : fragment.NamesFile)
    (steady : book.repository.Steady world.runner (book.targetDirectory.placeFrom world.base))
    (ran : (book.treat demanded ⟨.fragment, fragment⟩).exec world = (.ok true, after)) :
    book.Holds world after (book.output ⟨.fragment, fragment⟩) fragment := by
  have preparing : (book.prepare ⟨.fragment, fragment⟩).exec world = (.ok (), world) := rfl
  obtain ⟨noted, kept, treating⟩ := exec_treat_of_prepared demanded file preparing
  rw [treating] at ran
  split at ran
  · simp at ran
  · obtain ⟨written, published, publishing, done⟩ := Action.exec_bind_eq_ok_iff.1 ran
    obtain ⟨_, rfl⟩ := Prod.mk.inj done
    have readyNoted := ready.of_resembles (kept.resembles [])
    have holds := holds_of_publish readyNoted file.isPart_name
      (kept.runner ▸ sound) publishing
    rw [← kept.runner, ← kept.base] at steady
    exact holds.seen_from steady (kept.resembles []).symm (by simp) (by simp)
  · simp at ran

end Treatment

/-! ## What a run leaves -/

section Run

variable {book : Book} {demanded : Bool} {sources : Collection} {before after : World}
  {records front back : List Record} {record : Record}

/-- What sources in another directory than the target need to be separate. -/
theorem Separate.of_outside {base : Place} (named : ∀ item ∈ sources.items, item.path.NamesFile)
    (outside : ∀ item ∈ sources.items,
      ¬ book.targetDirectory.placeFrom base <+: sourcePlace base item)
    (distinct : (sources.items.flatMap fun item => book.touches base item true).Nodup) :
    book.Separate sources base := by
  refine ⟨distinct, fun item member other among touched => ?_⟩
  exact outside item member (prefix_of_mem_touches (named other among) touched)

theorem mem_touchedBy {base place : Place} {records : List Record}
    (member : place ∈ book.touchedBy base records) :
    ∃ record ∈ records, place ∈ book.touches base record.1 record.2 :=
  List.mem_flatMap.1 member

/-- All that a run touches lies in the target directory. -/
theorem prefix_of_mem_touchedBy {base place : Place}
    (fit : ∀ record ∈ records, book.Fit base record.1)
    (member : place ∈ book.touchedBy base records) :
    book.targetDirectory.placeFrom base <+: place := by
  obtain ⟨record, recorded, touched⟩ := mem_touchedBy member
  exact prefix_of_mem_touches (fit record recorded).named touched

theorem Separate.fit_of_records {base : Place} (separate : book.Separate sources base)
    (named : ∀ item ∈ sources.items, item.path.NamesFile)
    (items : records.map Prod.fst = sources.items) :
    ∀ record ∈ records, book.Fit base record.1 :=
  fun record member => separate.fit named record.1 (items ▸ List.mem_map_of_mem member)

/-- The places of an item are touched by no other treatment. -/
theorem Separate.notMem_touchedBy {base place : Place} (separate : book.Separate sources base)
    (items : (front ++ record :: back).map Prod.fst = sources.items)
    (member : place ∈ book.touches base record.1 true) :
    place ∉ book.touchedBy base front ∧ place ∉ book.touchedBy base back := by
  have disjoint := (List.nodup_flatMap.1 separate.distinct).2
  rw [← items, List.map_append, List.map_cons, List.pairwise_append, List.pairwise_cons] at disjoint
  obtain ⟨_, ⟨ahead, _⟩, behind⟩ := disjoint
  constructor
  · intro early
    obtain ⟨other, among, touched⟩ := mem_touchedBy early
    exact behind other.1 (List.mem_map_of_mem among) record.1 List.mem_cons_self
      (touches_subset book base other.1 other.2 touched) member
  · intro late
    obtain ⟨other, among, touched⟩ := mem_touchedBy late
    exact ahead other.1 (List.mem_map_of_mem among) member
      (touches_subset book base other.1 other.2 touched)

/-- Each treatment of a run starts with what the ones before it have left, and the ones behind it
go on with what it leaves. -/
theorem Runs.treated_within (run : book.Runs demanded before (front ++ record :: back) after)
    (sound : book.Sound before.runner) (ready : book.Ready before)
    (fit : ∀ other ∈ front ++ record :: back, book.Fit before.base other.1) :
    ∃ start finish,
      World.Effect before start (book.touchedBy before.base front)
        (book.toolsOf before.base front) ∧
      (book.treat demanded record.1).exec start = (.ok record.2, finish) ∧
      World.Effect finish after (book.touchedBy before.base back)
        (book.toolsOf before.base back) := by
  obtain ⟨middle, early, onward⟩ := run.of_append
  have reached := (early.effect sound ready fun other member =>
    fit other (List.mem_append_left _ member)).1
  have here := fit record (by simp)
  have behind : ∀ other ∈ back, book.Fit before.base other.1 :=
    fun other member => fit other (by simp [member])
  have readyMiddle := ready.of_resembles reached.resembles
  rw [← reached.base] at here behind
  rw [← reached.runner] at sound
  cases onward with
  | @step _ start finish _ item made _ kept treated late =>
      have effect := (treated_of_step kept sound readyMiddle here treated).effect
      rw [← effect.base] at behind
      have rest := (late.effect (effect.runner ▸ sound) (readyMiddle.of_resembles effect.resembles)
        behind).1
      refine ⟨start, finish, reached.trans_kept kept, treated, ?_⟩
      rw [← reached.base, ← effect.base]
      exact rest

/-- What a treatment has written for its item, the run leaves. -/
theorem Runs.holds (run : book.Runs demanded before (front ++ record :: back) after)
    (sound : book.Sound before.runner) (ready : book.Ready before)
    (steady : book.repository.Steady before.runner (book.targetDirectory.placeFrom before.base))
    (separate : book.Separate sources before.base)
    (named : ∀ item ∈ sources.items, item.path.NamesFile)
    (items : (front ++ record :: back).map Prod.fst = sources.items) {path : Path}
    (own : path.placeFrom before.base ∈ book.touches before.base record.1 true)
    (source : sourcePath before.base record.1 = record.1.path)
    (writes : ∀ start finish, book.Sound start.runner → book.Ready start →
      book.repository.Steady start.runner (book.targetDirectory.placeFrom start.base) →
      (book.treat demanded record.1).exec start = (.ok record.2, finish) →
      book.Holds start finish path record.1.path) :
    book.Holds before after path record.1.path := by
  have fit := separate.fit_of_records named items
  obtain ⟨start, finish, reached, treated, onward⟩ := run.treated_within sound ready fit
  have early := reached.resembles
  have late := onward.resembles
  have inside : ∀ place ∈ book.touchedBy before.base front,
      book.targetDirectory.placeFrom before.base <+: place :=
    fun place member => prefix_of_mem_touchedBy
      (fun other recorded => fit other (List.mem_append_left _ recorded)) member
  have among : ∀ other ∈ front ++ record :: back, other.1 ∈ sources.items :=
    fun other member => items ▸ List.mem_map_of_mem member
  have unread : record.1.path.placeFrom before.base ∉ book.touchedBy before.base front := by
    intro member
    obtain ⟨other, recorded, touched⟩ := mem_touchedBy member
    refine separate.apart record.1 (among record (by simp)) other.1
      (among other (List.mem_append_left _ recorded)) ?_
    rw [sourcePlace, source]
    exact touches_subset book _ _ _ touched
  have written := writes start finish (early.runner ▸ sound) (ready.of_resembles early)
    (early.base ▸ early.runner ▸ steady) treated
  have kept := written.of_resembles late (early.base ▸ (separate.notMem_touchedBy items own).2)
  exact kept.seen_from (early.base ▸ early.runner ▸ steady) early.symm (early.base ▸ inside)
    (early.base ▸ unread)

/-- A product that is not made again is left as it was. -/
theorem Runs.unmade_eq (run : book.Runs demanded before (front ++ record :: back) after)
    (sound : book.Sound before.runner) (ready : book.Ready before)
    (separate : book.Separate sources before.base)
    (named : ∀ item ∈ sources.items, item.path.NamesFile)
    (items : (front ++ record :: back).map Prod.fst = sources.items) (unmade : record.2 = false) :
    after.files.fileAt (book.outputPlace before.base record.1) =
      before.files.fileAt (book.outputPlace before.base record.1) := by
  have fit := separate.fit_of_records named items
  have effect := (run.effect sound ready fit).1
  have file := (fit record (by simp)).named
  have product : book.outputPlace before.base record.1 ∈
      book.touches before.base record.1 true := by
    simp [touches]
  obtain ⟨notEarly, notLate⟩ := separate.notMem_touchedBy items product
  have notHere : book.outputPlace before.base record.1 ∉
      book.touches before.base record.1 record.2 := by
    simpa [touches, unmade] using outputPlace_notMem_temporaryPlaces book before.base file
  refine (FileStore.fileAt_congr (effect.files.nodes _ fun member => ?_)).symm
  simp only [touchedBy, List.flatMap_append, List.flatMap_cons, List.mem_append] at member
  rcases member with early | here | late
  · exact notEarly early
  · exact notHere here
  · exact notLate late

end Run

/-! ## The theorem -/

/-- The case of a version control that is steady for all requests. -/
theorem writes_of_steady {book : Book} {chosen : Option Collection} {sources : Collection}
    {world after : World} {outcome : Outcome} (sound : book.Sound world.runner)
    (steady : book.repository.Steady world.runner (book.targetDirectory.placeFrom world.base))
    (found : ((book.sourcesOr chosen).exec world).1 = .ok sources)
    (named : ∀ item ∈ sources.items, item.path.NamesFile)
    (outside : ∀ item ∈ sources.items,
      ¬ book.targetDirectory.placeFrom world.base <+: sourcePlace world.base item)
    (distinct : (sources.items.flatMap fun item => book.touches world.base item true).Nodup)
    (ran : (book.build chosen).exec world = (.ok outcome, after)) (ok : outcome.ok = true) :
    ∃ records, records.map Prod.fst = sources.items ∧
      outcome.data = (book.reportOn records).toData ∧
      (∀ record ∈ records, record.1.kind = .document →
        book.Holds (book.prepared world) after (book.manuscript record.1.path) record.1.path) ∧
      (∀ record ∈ records, record.1.kind = .fragment → record.2 = true →
        book.Holds (book.prepared world) after (book.output record.1) record.1.path) ∧
      (∀ record ∈ records, record.2 = false →
        after.files.fileAt (book.outputPlace world.base record.1) =
          world.files.fileAt (book.outputPlace world.base record.1)) ∧
      ∀ place, ¬ book.targetDirectory.placeFrom world.base <+: place →
        after.files.fileAt place = world.files.fileAt place := by
  obtain ⟨records, made, run, items, data⟩ := build_eq_ok found ran ok
  have ready := ready_prepared made
  have grown := (FileStore.makeDirectories_eq_ok made).1
  have base := book.base_prepared world
  have separate := Separate.of_outside named outside distinct
  rw [← book.runner_prepared world] at sound steady
  rw [← base] at steady separate
  refine ⟨records, items, data, ?_, ?_, ?_, ?_⟩
  · intro record member kind
    obtain ⟨front, back, rfl⟩ := List.append_of_mem member
    obtain ⟨⟨role, document⟩, flag⟩ := record
    obtain rfl : role = .document := kind
    refine run.holds sound ready steady separate named items ?_ rfl ?_
    · simp [touches, temporaryPlaces]
    · intro start finish soundHere readyHere _ treated
      have file := named ⟨.document, document⟩ (items ▸ List.mem_map_of_mem member)
      exact holds_manuscript_of_treat soundHere readyHere file treated
  · intro record member kind again
    obtain ⟨front, back, rfl⟩ := List.append_of_mem member
    obtain ⟨⟨role, fragment⟩, flag⟩ := record
    obtain rfl : role = .fragment := kind
    obtain rfl : flag = true := again
    refine run.holds sound ready steady separate named items ?_ rfl ?_
    · simp [touches, outputPlace]
    · intro start finish soundHere readyHere steadyHere treated
      have file := named ⟨.fragment, fragment⟩ (items ▸ List.mem_map_of_mem member)
      exact holds_fragment_of_treat soundHere readyHere file steadyHere treated
  · intro record member unmade
    obtain ⟨front, back, rfl⟩ := List.append_of_mem member
    have same := run.unmade_eq sound ready separate named items unmade
    rw [base, grown.fileAt_eq] at same
    exact same
  · intro place apart
    have fit := separate.fit_of_records named items
    have effect := (run.effect sound ready fit).1
    rw [← grown.fileAt_eq]
    refine (FileStore.fileAt_congr (effect.files.nodes _ fun member => apart ?_)).symm
    rw [← base]
    exact prefix_of_mem_touchedBy fit member

/-- After a build that succeeded, the manuscript of every document and every fragment that was made
again hold what their sources render to, every product that was not made again is the file that it
was, and so is everything outside the target directory. Version control has to be steady for what the
build asks it. -/
theorem build_writes {book : Book} {chosen : Option Collection} {sources : Collection}
    {asked : Request → Bool} {world after : World} {outcome : Outcome}
    (sound : book.Sound world.runner)
    (steady : book.repository.SteadyFor asked world.runner
      (book.targetDirectory.placeFrom world.base))
    (asks : book.AsksOnly asked (·.build chosen) world)
    (found : ((book.sourcesOr chosen).exec world).1 = .ok sources)
    (named : ∀ item ∈ sources.items, item.path.NamesFile)
    (outside : ∀ item ∈ sources.items,
      ¬ book.targetDirectory.placeFrom world.base <+: sourcePlace world.base item)
    (distinct : (sources.items.flatMap fun item => book.touches world.base item true).Nodup)
    (ran : (book.build chosen).exec world = (.ok outcome, after)) (ok : outcome.ok = true) :
    ∃ records, records.map Prod.fst = sources.items ∧
      outcome.data = (book.reportOn records).toData ∧
      (∀ record ∈ records, record.1.kind = .document →
        book.Holds (book.prepared world) after (book.manuscript record.1.path) record.1.path) ∧
      (∀ record ∈ records, record.1.kind = .fragment → record.2 = true →
        book.Holds (book.prepared world) after (book.output record.1) record.1.path) ∧
      (∀ record ∈ records, record.2 = false →
        after.files.fileAt (book.outputPlace world.base record.1) =
          world.files.fileAt (book.outputPlace world.base record.1)) ∧
      ∀ place, ¬ book.targetDirectory.placeFrom world.base <+: place →
        after.files.fileAt place = world.files.fileAt place := by
  obtain ⟨records, items, data, manuscripts, fragments, rest⟩ :=
    writes_of_steady (sound.limitedTo asked) steady.limitedTo found named outside distinct
      (asks.trans ran) ok
  exact ⟨records, items, data, fun record member kind => (manuscripts record member kind).of_limitedTo,
    fun record member kind again => (fragments record member kind again).of_limitedTo, rest⟩

set_option maxRecDepth 4000 in
/-- In the small project the fragment is written again, with an excerpt from `git` in it, and the
diagram is left as it is. -/
theorem build_writes_sample :
    ∃ outcome after, (gitBook.build (some sampleSources)).exec quotedWorld =
        (.ok outcome, after) ∧ outcome.ok = true ∧
      ∃ records, records.map Prod.fst = sampleSources.items ∧
        outcome.data = (gitBook.reportOn records).toData ∧
        (∀ record ∈ records, record.1.kind = .document →
          gitBook.Holds (gitBook.prepared quotedWorld) after
            (gitBook.manuscript record.1.path) record.1.path) ∧
        (∀ record ∈ records, record.1.kind = .fragment → record.2 = true →
          gitBook.Holds (gitBook.prepared quotedWorld) after
            (gitBook.output record.1) record.1.path) ∧
        (∀ record ∈ records, record.2 = false →
          after.files.fileAt (gitBook.outputPlace quotedWorld.base record.1) =
            quotedWorld.files.fileAt (gitBook.outputPlace quotedWorld.base record.1)) ∧
        ∀ place, ¬ gitBook.targetDirectory.placeFrom quotedWorld.base <+: place →
          after.files.fileAt place = quotedWorld.files.fileAt place := by
  have found : ((gitBook.sourcesOr (some sampleSources)).exec quotedWorld).1 =
      .ok sampleSources := rfl
  have named : ∀ item ∈ sampleSources.items, item.path.NamesFile := by decide
  have outside : ∀ item ∈ sampleSources.items,
      ¬ gitBook.targetDirectory.placeFrom quotedWorld.base <+:
        sourcePlace quotedWorld.base item := by decide +kernel
  have distinct : (sampleSources.items.flatMap fun item =>
      gitBook.touches quotedWorld.base item true).Nodup := by decide +kernel
  have succeeds : okOf ((gitBook.build (some sampleSources)).exec quotedWorld).1 =
      some true := by
    decide +kernel
  rcases ran : (gitBook.build (some sampleSources)).exec quotedWorld with ⟨answer, after⟩
  rw [ran] at succeeds
  obtain ⟨outcome, rfl, ok⟩ := exists_of_okOf succeeds
  exact ⟨outcome, after, rfl, ok, build_writes sound_gitBook steadyFor_gitBook asksOnly_gitBook found
    named outside distinct ran ok⟩

end Book

end Bindery
