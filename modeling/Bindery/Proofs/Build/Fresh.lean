import Bindery.Proofs.Build.Failure
import Bindery.Proofs.Build.Written
import Bindery.Proofs.Source.Listing

/-!
Contract: a build of all sources that are found, into an empty target directory.

Owns:
- `LeftBy`, an artifact that is still as one run of a command has left it;
- `toolOutputs`, the paths that a build reports for diagrams and documents;
- that along a run an item whose product is missing at the start has its tool run once, and that the
  product stays when no other item touches its place;
- the theorem on fresh builds: every diagram and document has its tool run and keeps its product
  exactly when no two of them have one path, and a project in which two of them have.

Does not own: what is decided on products that are there already (`Bindery.Proofs.Build.Plan`).
-/

namespace Bindery

open Source

/-! ## What a command has left -/

/-- A command has run once between two worlds, with success, and its artifact is a file as that run
has left it: nothing has touched it since, and no later command names it. -/
def World.LeftBy (before after : World) (command : Command) (artifact : Path) : Prop :=
  ∃ start finish completion earlier later earlierTools laterTools,
    Effect before start earlier earlierTools ∧ command ∉ earlierTools ∧
    (Action.run command).exec start = (.ok completion, finish) ∧ completion.ok = true ∧
    Effect finish after later laterTools ∧ artifact.placeFrom before.base ∉ later ∧
    (∀ other ∈ laterTools, other.artifact? ≠ some artifact) ∧
    ∃ file, finish.files.find? (artifact.placeFrom before.base) = some (.file file) ∧
      after.files.find? (artifact.placeFrom before.base) = some (.file file)

/-- The tools that were run, cut at the command that has left an artifact. -/
theorem World.LeftBy.toolsSince_eq {before after : World} {command : Command} {artifact : Path}
    (left : LeftBy before after command artifact) (tidy : before.runner.Tidy)
    (named : command.artifact? = some artifact) (tool : command.isRequest = false) :
    ∃ earlier later, before.toolsSince after = earlier ++ command :: later ∧ command ∉ earlier ∧
      ∀ other ∈ later, other.artifact? ≠ some artifact := by
  obtain ⟨start, finish, completion, _, _, earlier, later, reached, once, ran, _, onward, _,
    unnamed, _⟩ := left
  have running := Action.effect_run (reached.runner ▸ tidy) named tool ran
  have whole := (reached.trans running).trans onward
  refine ⟨earlier, later, ?_, once, unnamed⟩
  rw [World.toolsSince_eq ⟨[], (List.append_nil _).symm, by simp⟩ whole]
  simp

/-- Behind the first occurrence of an element comes all that is behind a part which holds it. -/
theorem suffix_of_mem_front {α : Type} {front back early late : List α} {a : α}
    (splits : front ++ back = early ++ a :: late) (member : a ∈ front) (first : a ∉ early) :
    back <:+ late := by
  rcases List.append_eq_append_iff.1 splits with ⟨between, rfl, _⟩ | ⟨between, rfl, tail⟩
  · exact absurd (List.mem_append_left _ member) first
  · cases between with
    | nil =>
        rw [List.append_nil] at member
        exact absurd member first
    | cons head rest =>
        obtain ⟨_, rfl⟩ := List.cons.inj tail
        exact List.suffix_append _ _

namespace Book

/-! ## The products of tools -/

/-- The paths that a build reports for diagrams and documents. -/
def toolOutputs (book : Book) (sources : Collection) : List Path :=
  sources.diagrams.map (Diagram.target book.targetDirectory) ++
    sources.documents.map book.typesetter.target

theorem toolOutputs_eq (book : Book) (sources : Collection) :
    book.toolOutputs sources =
      (sources.items.filter fun item => item.kind ≠ .fragment).map book.output := by
  simp [toolOutputs, Collection.items, List.filter_map, Function.comp_def, output]

theorem nodup_toolOutputs_iff (book : Book) (sources : Collection) :
    (book.toolOutputs sources).Nodup ↔
      sources.items.Pairwise fun first second => first.kind ≠ .fragment →
        second.kind ≠ .fragment → book.output first ≠ book.output second := by
  rw [toolOutputs_eq, List.Nodup, List.pairwise_map, List.pairwise_filter]
  simp

section Products

variable {book : Book} {base : Place} {item other : Item} {command : Command}

theorem exists_mem_tools (book : Book) (base : Place) (kind : item.kind ≠ .fragment) :
    ∃ command, command ∈ book.tools base item := by
  obtain ⟨role, path⟩ := item
  cases role with
  | fragment => exact absurd rfl kind
  | diagram => exact ⟨_, List.mem_cons_self⟩
  | document => exact ⟨_, List.mem_cons_self⟩

theorem kind_of_mem_tools (member : command ∈ book.tools base item) : item.kind ≠ .fragment := by
  intro kind
  simp [tools, kind] at member

/-- A tool's product has another name than a fragment. -/
theorem append_pdf_ne_of_suffix {front name : String}
    (ends : fragmentSuffix.toList <:+ name.toList) : front ++ ".pdf" ≠ name := by
  rintro rfl
  obtain ⟨before, same⟩ := ends
  have last := congrArg List.getLast? same
  simp [fragmentSuffix] at last

theorem outputName_of_tooled (kind : item.kind ≠ .fragment) :
    outputName item = item.path.stem ++ ".pdf" := by
  obtain ⟨role, path⟩ := item
  cases role with
  | fragment => exact absurd rfl kind
  | diagram => rfl
  | document => rfl

/-- The product of a tool is written by the treatment of another item only if that item has the same
product. -/
theorem outputPlace_notMem_touches (file : item.path.NamesFile) (kind : item.kind ≠ .fragment)
    (otherFile : other.path.NamesFile)
    (suffix : other.kind = .fragment → fragmentSuffix.toList <:+ other.path.name.toList)
    (different : other.kind ≠ .fragment → book.output item ≠ book.output other) :
    book.outputPlace base item ∉ book.touches base other true := by
  intro member
  rcases List.mem_append.1 member with temporary | product
  · obtain ⟨role, path⟩ := other
    cases role with
    | diagram => simp [temporaryPlaces] at temporary
    | fragment => simp [temporaryPlaces] at temporary
    | document =>
        rw [temporaryPlaces, List.mem_singleton, outputPlace_eq file, outputName_of_tooled kind,
          manuscriptPlace_eq otherFile, List.append_cancel_left_eq] at temporary
        have last := congrArg (List.getLast? ∘ String.toList) (List.cons.inj temporary).1
        simp [Typesetter.temporarySuffix] at last
  · rw [if_pos rfl, List.mem_singleton, outputPlace_eq file, outputPlace_eq otherFile,
      List.append_cancel_left_eq] at product
    have same : outputName item = outputName other := (List.cons.inj product).1
    by_cases role : other.kind = .fragment
    · rw [outputName_of_tooled kind, outputName, role] at same
      exact append_pdf_ne_of_suffix (suffix role) same
    · refine different role ?_
      rw [output_eq, output_eq, same]

end Products

/-! ## One run of a tool -/

section Run

variable {book : Book} {demanded : Bool} {world before after : World} {item : Item}
  {front back records : List Record} {record : Record} {command : Command}

theorem isDue_of_absent {store : FileStore} {base : Place}
    (absent : store.find? (book.outputPlace base item) = none) :
    book.isDue demanded store base item = true := by
  simp [isDue, FileStore.isOverdue, FileStore.timeAt, absent]

/-- A treatment that makes the product of a tool ends with one run of the tool. -/
theorem run_of_treat (sound : book.Sound world.runner) (ready : book.Ready world)
    (fit : book.Fit world.base item)
    (ran : (book.treat demanded item).exec world = (.ok true, after))
    (member : command ∈ book.tools world.base item) :
    ∃ start completion,
      World.Effect world start (book.temporaryPlaces world.base item) [] ∧
      (Action.run command).exec start = (.ok completion, after) ∧ completion.ok = true := by
  have prepared := prepared_of_treat ran
  rcases preparing : (book.prepare item).exec world with ⟨answer, middle⟩
  obtain rfl : answer = .ok () := (congrArg Prod.fst preparing).symm.trans prepared
  obtain ⟨effect, _⟩ := prepare_eq_ok sound ready fit.named preparing
  obtain ⟨noted, kept, treating⟩ := exec_treat_of_prepared demanded fit.named preparing
  rw [treating, effect.base] at ran
  split at ran
  · simp at ran
  · have making : ∃ completion, (Action.run command).exec noted = (.ok completion, after) ∧
        completion.ok = true := by
      obtain ⟨role, path⟩ := item
      cases role with
      | fragment => simp [tools] at member
      | diagram =>
          obtain rfl := List.mem_singleton.1 member
          exact (Action.run_of_runTool ran).2
      | document =>
          obtain rfl := List.mem_singleton.1 member
          exact (Action.run_of_runTool ran).2
    obtain ⟨completion, running, succeeded⟩ := making
    exact ⟨noted, completion, effect.trans_kept kept, running, succeeded⟩
  · simp at ran

/-- The tools of a run name artifacts at places that the run touches. -/
theorem artifact_mem_touchedBy {base : Place} (proper : book.targetDirectory.IsProper)
    (named : ∀ record ∈ records, record.1.path.NamesFile)
    (member : command ∈ book.toolsOf base records) {artifact : Path}
    (names : command.artifact? = some artifact) :
    artifact.placeFrom base ∈ book.touchedBy base records := by
  obtain ⟨record, recorded, used⟩ := List.mem_flatMap.1 member
  refine List.mem_flatMap.2 ⟨record, recorded, ?_⟩
  split at used
  · rename_i made
    have own := artifact?_of_mem_tools proper (named record recorded) used
    obtain rfl := Option.some.inj (names.symm.trans own)
    simp [touches, made, outputPlace]
  · contradiction

/-- An item whose product is missing, and is touched by no other treatment of a run, has its tool
run once, and the product is what that has left. -/
theorem Runs.leftBy (run : book.Runs demanded before (front ++ record :: back) after)
    (sound : book.Sound before.runner) (punctual : before.runner.Punctual)
    (ready : book.Ready before)
    (fit : ∀ other ∈ front ++ record :: back, book.Fit before.base other.1)
    (absent : before.files.find? (book.outputPlace before.base record.1) = none)
    (early : book.outputPlace before.base record.1 ∉ book.touchedBy before.base front)
    (late : book.outputPlace before.base record.1 ∉ book.touchedBy before.base back) :
    record.2 = true ∧ ∀ command ∈ book.tools before.base record.1,
      before.LeftBy after command (book.output record.1) := by
  obtain ⟨start, finish, reached, treated, onward⟩ := run.treated_within sound ready fit
  have here := fit record (by simp)
  have soundStart : book.Sound start.runner := reached.runner ▸ sound
  have readyStart := ready.of_resembles reached.resembles
  have fitStart : book.Fit start.base record.1 := reached.base ▸ here
  have missing : start.files.find? (book.outputPlace start.base record.1) = none := by
    rw [reached.base, ← reached.files.nodes _ early, absent]
  have made : record.2 = true :=
    (treat_eq_ok soundStart readyStart fitStart treated).due.trans (isDue_of_absent missing)
  refine ⟨made, fun command member => ?_⟩
  rw [made] at treated
  rw [← reached.base] at member
  obtain ⟨prepared, completion, effect, ran, succeeded⟩ :=
    run_of_treat soundStart readyStart fitStart treated member
  have names := artifact?_of_mem_tools sound.proper here.named member
  have base := effect.base.trans reached.base
  have unnamed : ∀ records ⊆ front ++ record :: back,
      book.outputPlace before.base record.1 ∉ book.touchedBy before.base records →
      ∀ other ∈ book.toolsOf before.base records, other.artifact? ≠ some (book.output record.1) :=
    fun records among untouched other used own => untouched (artifact_mem_touchedBy sound.proper
      (fun also recorded => (fit also (among recorded)).named) used own)
  obtain ⟨file, found, _⟩ := Action.exists_file_of_run
    (by rw [effect.runner, reached.runner]; exact punctual) names ran succeeded
  rw [base] at found
  refine ⟨prepared, finish, completion, _, _, _, _, reached.trans effect, ?_, ran, succeeded,
    onward, late, unnamed back (by simp) late, file, found, ?_⟩
  · rw [List.append_nil]
    exact fun used => unnamed front (by simp) early command used names
  · exact (onward.files.nodes _ late).symm.trans found

end Run

/-! ## Sources that were found -/

/-- What the search for sources says of an item. -/
structure Found (world : World) (item : Item) : Prop where
  named : item.path.NamesFile
  suffix : item.kind = .fragment → fragmentSuffix.toList <:+ item.path.name.toList
  document : item.kind = .document →
    ∃ file, world.files.find? (item.path.placeFrom world.base) = some (.file file)

section Found

variable {book : Book} {sources : Collection} {world : World} {item : Item}

theorem found_of_sources (latex : book.latexDirectory.IsProper)
    (graphviz : book.graphvizDirectory.IsProper) (slashless : world.files.Slashless)
    (searched : (book.sources.exec world).1 = .ok sources) :
    ∀ item ∈ sources.items, Found world item := by
  obtain ⟨diagrams, fragments, documents⟩ := listed_of_collect searched
  have long : ∀ renderer ∈ renderers, 2 < ("." ++ renderer).toList.length := by decide
  intro item member
  rcases List.mem_append.1 member with drawn | written
  · obtain ⟨path, among, rfl⟩ := List.mem_map.1 drawn
    obtain ⟨renderer, known, listed⟩ := diagrams path among
    exact ⟨listed.namesFile graphviz slashless (long renderer known), by simp, by simp⟩
  rcases List.mem_append.1 written with included | typeset
  · obtain ⟨path, among, rfl⟩ := List.mem_map.1 included
    have listed := fragments path among
    exact ⟨listed.namesFile latex slashless (by decide), fun _ => listed.suffix_name, by simp⟩
  · obtain ⟨path, among, rfl⟩ := List.mem_map.1 typeset
    have listed := documents path among
    exact ⟨listed.namesFile latex slashless (by decide), by simp, fun _ => listed.file⟩

/-- A document that was found before an empty target directory was made is not the manuscript that
is written for it. -/
theorem Found.fit (found : Found world item) {files : FileStore}
    (grown : FileStore.Grown world.files files)
    (empty : ∀ name, files.find? (book.targetDirectory.placeFrom world.base ++ [name]) = none) :
    book.Fit world.base item := by
  refine ⟨found.named, fun member => ?_⟩
  obtain ⟨role, path⟩ := item
  cases role with
  | diagram => simp [temporaryPlaces] at member
  | fragment => simp [temporaryPlaces] at member
  | document =>
      obtain ⟨file, there⟩ := found.document rfl
      rw [temporaryPlaces, List.mem_singleton, manuscriptPlace_eq found.named] at member
      have missing := empty (path.stem ++ Typesetter.temporarySuffix)
      rw [← member] at missing
      rcases grown (sourcePlace world.base ⟨.document, path⟩) with same | ⟨free, _⟩
      · rw [missing] at same
        exact absurd (same.trans there) (by simp)
      · exact absurd (free.symm.trans there) (by simp)

end Found

/-! ## The theorem -/

section Fresh

variable {book : Book} {demanded : Bool} {sources : Collection} {world before after : World}
  {records : List Record} {outcome : Outcome}

/-- Along a run of sources whose tools have products of their own, with no product there at the
start, every tool is run once and its product stays. -/
theorem Runs.leftBy_of_distinct (run : book.Runs demanded before records after)
    (sound : book.Sound before.runner) (punctual : before.runner.Punctual)
    (ready : book.Ready before) (fit : ∀ record ∈ records, book.Fit before.base record.1)
    (suffix : ∀ record ∈ records, record.1.kind = .fragment →
      fragmentSuffix.toList <:+ record.1.path.name.toList)
    (empty : ∀ name,
      before.files.find? (book.targetDirectory.placeFrom before.base ++ [name]) = none)
    (distinct : (records.map Prod.fst).Pairwise fun first second => first.kind ≠ .fragment →
      second.kind ≠ .fragment → book.output first ≠ book.output second) :
    ∀ record ∈ records, record.1.kind ≠ .fragment →
      record.2 = true ∧ ∀ command ∈ book.tools before.base record.1,
        before.LeftBy after command (book.output record.1) := by
  intro record member kind
  have file := (fit record member).named
  obtain ⟨front, back, rfl⟩ := List.append_of_mem member
  rw [List.map_append, List.map_cons, List.pairwise_append, List.pairwise_cons] at distinct
  obtain ⟨_, ⟨ahead, _⟩, behind⟩ := distinct
  have absent : before.files.find? (book.outputPlace before.base record.1) = none := by
    rw [outputPlace_eq file]
    exact empty _
  have untouched : ∀ others ⊆ front ++ record :: back,
      (∀ other ∈ others, other.1.kind ≠ .fragment → book.output record.1 ≠ book.output other.1) →
      book.outputPlace before.base record.1 ∉ book.touchedBy before.base others := by
    intro others among different touched
    obtain ⟨other, recorded, place⟩ := mem_touchedBy touched
    exact outputPlace_notMem_touches file kind (fit other (among recorded)).named
      (suffix other (among recorded)) (different other recorded)
      (touches_subset book before.base other.1 other.2 place)
  refine run.leftBy sound punctual ready fit absent (untouched front (by simp) ?_)
    (untouched back (by simp) ?_)
  · intro other recorded role same
    exact behind other.1 (List.mem_map_of_mem recorded) record.1 List.mem_cons_self role kind
      same.symm
  · intro other recorded role
    exact ahead other.1 (List.mem_map_of_mem recorded) kind role

theorem toolsOf_of_made {base : Place}
    (made : ∀ record ∈ records, record.1.kind ≠ .fragment → record.2 = true) :
    book.toolsOf base records = (records.map Prod.fst).flatMap (book.tools base) := by
  rw [List.flatMap_map, toolsOf]
  refine List.flatMap_congr fun record member => ?_
  by_cases kind : record.1.kind = .fragment
  · simp [tools, kind]
  · rw [if_pos (made record member kind)]

/-- Two tools of which each has left its product have not the same product. -/
theorem nodup_of_leftBy (tidy : before.runner.Tidy) (proper : book.targetDirectory.IsProper)
    (named : ∀ item ∈ sources.items, item.path.NamesFile)
    (all : before.toolsSince after = sources.items.flatMap (book.tools before.base))
    (left : ∀ item ∈ sources.items, ∀ command ∈ book.tools before.base item,
      before.LeftBy after command (book.output item)) :
    (book.toolOutputs sources).Nodup := by
  rw [nodup_toolOutputs_iff, List.pairwise_iff_forall_sublist]
  intro first second ordered kind alsoKind same
  obtain ⟨front, back, items, early, late⟩ := List.cons_sublist_iff.1 ordered
  rw [List.singleton_sublist] at late
  have member : first ∈ sources.items := items ▸ List.mem_append_left _ early
  have also : second ∈ sources.items := items ▸ List.mem_append_right _ late
  obtain ⟨command, used⟩ := exists_mem_tools book before.base kind
  obtain ⟨other, alsoUsed⟩ := exists_mem_tools book before.base alsoKind
  have names := artifact?_of_mem_tools proper (named first member) used
  have alsoNames := artifact?_of_mem_tools proper (named second also) alsoUsed
  obtain ⟨earlier, later, splits, once, unnamed⟩ :=
    (left first member command used).toolsSince_eq tidy names (isRequest_of_mem_tools used)
  rw [all, items, List.flatMap_append] at splits
  -- The second tool runs behind the first one, whose artifact it would name again.
  have behind := suffix_of_mem_front splits (List.mem_flatMap.2 ⟨first, early, used⟩) once
  refine unnamed other (behind.subset (List.mem_flatMap.2 ⟨second, late, alsoUsed⟩)) ?_
  rw [alsoNames, same]

/-- A build of all that is found, into an empty target directory, which succeeds with tools that
write their artifacts: it runs the renderer once for every diagram and the engine once for every
document, and leaves at the path that it reports for each what the command for it has written,
exactly when no two of these paths are the same. -/
theorem fresh_build_iff (sound : book.Sound world.runner) (punctual : world.runner.Punctual)
    (latex : book.latexDirectory.IsProper) (graphviz : book.graphvizDirectory.IsProper)
    (slashless : world.files.Slashless) (found : (book.sources.exec world).1 = .ok sources)
    (empty : ∀ name, (book.prepared world).files.find?
      (book.targetDirectory.placeFrom world.base ++ [name]) = none)
    (ran : (book.build none).exec world = (.ok outcome, after)) (ok : outcome.ok = true) :
    ∃ records, records.map Prod.fst = sources.items ∧
      outcome.data = (book.reportOn records).toData ∧
      ((world.toolsSince after = sources.items.flatMap (book.tools world.base) ∧
        ∀ item ∈ sources.items, ∀ command ∈ book.tools world.base item,
          (book.prepared world).LeftBy after command (book.output item)) ↔
        (book.toolOutputs sources).Nodup) := by
  have searched : ((book.sourcesOr none).exec world).1 = .ok sources := found
  obtain ⟨records, made, run, items, data⟩ := build_eq_ok searched ran ok
  have ready := ready_prepared made
  have grown := (FileStore.makeDirectories_eq_ok made).1
  have known := found_of_sources latex graphviz slashless found
  have among : ∀ record ∈ records, record.1 ∈ sources.items :=
    fun record member => items ▸ List.mem_map_of_mem member
  have fit : ∀ record ∈ records, book.Fit world.base record.1 :=
    fun record member => (known record.1 (among record member)).fit grown empty
  rw [← book.runner_prepared world] at sound punctual
  rw [← book.base_prepared world] at fit empty
  have effect := (run.effect sound ready fit).1
  obtain ⟨tools, toolsPrepared⟩ := toolsSince_prepared effect
  refine ⟨records, items, data, ?_, ?_⟩
  · rintro ⟨all, left⟩
    rw [tools, ← toolsPrepared, ← book.base_prepared world] at all
    rw [← book.base_prepared world] at left
    exact nodup_of_leftBy sound.tidy sound.proper (fun item member => (known item member).named)
      all left
  · intro distinct
    rw [nodup_toolOutputs_iff, ← items] at distinct
    have left := run.leftBy_of_distinct sound punctual ready fit
      (fun record member => (known record.1 (among record member)).suffix) empty distinct
    refine ⟨?_, fun item member command used => ?_⟩
    · rw [tools, toolsOf_of_made fun record member kind => (left record member kind).1, items,
        book.base_prepared world]
    · rw [← items] at member
      obtain ⟨record, recorded, rfl⟩ := List.mem_map.1 member
      rw [← book.base_prepared world] at used
      exact (left record recorded (kind_of_mem_tools used)).2 command used

end Fresh

/-! ## Two projects -/

/-- The small project with the given diagrams and documents, nothing made yet, and tools that
work. -/
def freshWorld (diagrams documents : List String) : World :=
  sampleWorld (.scripted fun _ => false) ⟨
    [(["dot"], .directory), (["tex"], .directory), (["out"], .directory)] ++
      diagrams.map (fun name => (["dot", name], .file ⟨[], 1000, false⟩)) ++
      documents.map fun name => (["tex", name], .file ⟨[], 1000, false⟩)⟩

theorem lookup_eq_none {place : Place} {entries : List (Place × Node)}
    (absent : ∀ entry ∈ entries, entry.1 ≠ place) : FileStore.lookup place entries = none := by
  induction entries with
  | nil => rfl
  | cons entry rest inductionHypothesis =>
      rw [FileStore.lookup, if_neg (absent entry List.mem_cons_self)]
      exact inductionHypothesis fun other member => absent other (List.mem_cons_of_mem _ member)

theorem prepared_freshWorld (diagrams documents : List String) :
    (sampleBook.prepared (freshWorld diagrams documents)).files =
      (freshWorld diagrams documents).files := by
  have there : (freshWorld diagrams documents).files.isDirectory [] sampleBook.targetDirectory =
      .ok true := rfl
  exact congrArg Prod.snd (FileStore.makeDirectories_of_isDirectory there)

theorem find?_freshWorld (diagrams documents : List String) (name : String) :
    (freshWorld diagrams documents).files.find? ["out", name] = none := by
  refine (if_neg (by simp)).trans (lookup_eq_none fun entry member => ?_)
  simp only [freshWorld, sampleWorld, List.mem_append, List.mem_map, List.mem_cons] at member
  rcases member with ((rfl | rfl | rfl | none) | ⟨_, _, rfl⟩) | ⟨_, _, rfl⟩
  · simp
  · simp
  · simp
  · contradiction
  · simp
  · simp

/-- A diagram and a document of different names. -/
def freshSources : Collection :=
  ⟨[.ofPlace ["dot", "a.dot"]], [], [.ofPlace ["tex", "c.latex"]]⟩

/-- Two diagrams that differ only in their renderers. -/
def twinSources : Collection :=
  ⟨[.ofPlace ["dot", "a.dot"], .ofPlace ["dot", "a.neato"]], [], []⟩

set_option maxRecDepth 4000 in
/-- A diagram and a document of different names have both their tools run and keep their
products. -/
theorem fresh_build_iff_sample :
    ∃ outcome after, (sampleBook.build none).exec (freshWorld ["a.dot"] ["c.latex"]) =
        (.ok outcome, after) ∧ outcome.ok = true ∧
      (freshWorld ["a.dot"] ["c.latex"]).toolsSince after =
        [⟨["dot", "-Tpdf", "-o", "/out/a.pdf", "/dot/a.dot"], none⟩,
          ⟨["pdflatex", "-output-directory=/out", "-jobname=c", "-halt-on-error",
            "/out/c.tmp.latex"], none⟩] ∧
      ∀ item ∈ freshSources.items, ∀ command ∈ sampleBook.tools [] item,
        (sampleBook.prepared (freshWorld ["a.dot"] ["c.latex"])).LeftBy after command
          (sampleBook.output item) := by
  have found : (sampleBook.sources.exec (freshWorld ["a.dot"] ["c.latex"])).1 =
      .ok freshSources :=
    eq_ok_of_toOption (by decide +kernel)
  have slashless : (freshWorld ["a.dot"] ["c.latex"]).files.Slashless := by decide
  have empty : ∀ name, (sampleBook.prepared (freshWorld ["a.dot"] ["c.latex"])).files.find?
      (sampleBook.targetDirectory.placeFrom [] ++ [name]) = none := by
    intro name
    rw [prepared_freshWorld]
    exact find?_freshWorld _ _ name
  have succeeds : okOf ((sampleBook.build none).exec (freshWorld ["a.dot"] ["c.latex"])).1 =
      some true := by
    decide +kernel
  rcases ran : (sampleBook.build none).exec (freshWorld ["a.dot"] ["c.latex"])
    with ⟨answer, after⟩
  rw [ran] at succeeds
  obtain ⟨outcome, rfl, ok⟩ := exists_of_okOf succeeds
  obtain ⟨_, _, _, decides⟩ := fresh_build_iff (sound_sampleBook _) (Runner.punctual_scripted _)
    (by decide) (by decide) slashless found empty ran ok
  exact ⟨outcome, after, rfl, ok, decides.2 (by decide)⟩

set_option maxRecDepth 4000 in
/-- Two diagrams that differ only in their renderers share a product: when it comes to the second
one, what the first renderer has written is there and is no older, and the second renderer is never
run. -/
theorem twin_diagram_starved :
    (sampleBook.sources.exec (freshWorld ["a.dot", "a.neato"] [])).1 = .ok twinSources ∧
      (∀ name, (sampleBook.prepared (freshWorld ["a.dot", "a.neato"] [])).files.find?
        (sampleBook.targetDirectory.placeFrom [] ++ [name]) = none) ∧
      okOf ((sampleBook.build none).exec (freshWorld ["a.dot", "a.neato"] [])).1 = some true ∧
      twinSources.items.flatMap (sampleBook.tools []) =
        [⟨["dot", "-Tpdf", "-o", "/out/a.pdf", "/dot/a.dot"], none⟩,
          ⟨["neato", "-Tpdf", "-o", "/out/a.pdf", "/dot/a.neato"], none⟩] ∧
      (freshWorld ["a.dot", "a.neato"] []).toolsSince
          ((sampleBook.build none).exec (freshWorld ["a.dot", "a.neato"] [])).2 =
        [⟨["dot", "-Tpdf", "-o", "/out/a.pdf", "/dot/a.dot"], none⟩] := by
  refine ⟨eq_ok_of_toOption (by decide +kernel), fun name => ?_, by decide +kernel,
    by decide, by decide +kernel⟩
  rw [prepared_freshWorld]
  exact find?_freshWorld _ _ name

end Book

end Bindery
