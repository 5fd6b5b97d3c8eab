import Bindery.Proofs.Build.Blame
import Bindery.Proofs.Build.Operation

/-!
Contract: the first fault ends a build, whatever sources would have come next.

Owns:
- the sources of a build as one list again: `pathsOf` takes it apart by kind, and `upTo` cuts it;
- that treating sources stops at the first one that fails, in a phase and over all phases;
- the theorem on failed builds: the build of the sources up to the item that failed is the same
  build, in its outcome and in the world that it leaves.

Does not own: what a failed build has written (`Bindery.Proofs.Build.Stopping`).
-/

namespace Bindery

open Source

/-! ## The sources as one list -/

namespace Source

/-- The place of a kind in the order of a build. -/
def Kind.rank : Kind → Nat
  | .diagram => 0
  | .fragment => 1
  | .document => 2

/-- The paths of the items of one kind. -/
def pathsOf (kind : Kind) (items : List Item) : List Path :=
  (items.filter fun item => item.kind = kind).map Item.path

@[simp]
theorem pathsOf_append (kind : Kind) (front back : List Item) :
    pathsOf kind (front ++ back) = pathsOf kind front ++ pathsOf kind back := by
  simp [pathsOf]

@[simp]
theorem pathsOf_map_same (kind : Kind) (paths : List Path) :
    pathsOf kind (paths.map (Item.mk kind)) = paths := by
  simp [pathsOf, List.filter_map, Function.comp_def]

@[simp]
theorem pathsOf_map_other {kind other : Kind} (different : other ≠ kind) (paths : List Path) :
    pathsOf kind (paths.map (Item.mk other)) = [] := by
  simp [pathsOf, List.filter_map, Function.comp_def, different]

namespace Collection

variable {sources : Collection} {front back : List Item} {item : Item}

/-- The sources of one kind. -/
def ofKind (sources : Collection) : Kind → List Path
  | .diagram => sources.diagrams
  | .fragment => sources.fragments
  | .document => sources.documents

theorem ofKind_eq (sources : Collection) (kind : Kind) :
    sources.ofKind kind = pathsOf kind sources.items := by
  cases kind <;> simp [ofKind, Collection.items]

/-- The one list determines the sources. -/
theorem items_injective : Function.Injective Collection.items := by
  intro left right same
  have kinds : ∀ kind, left.ofKind kind = right.ofKind kind := by
    intro kind
    rw [ofKind_eq, ofKind_eq, same]
  obtain ⟨_, _, _⟩ := left
  obtain ⟨_, _, _⟩ := right
  obtain rfl := kinds .diagram
  obtain rfl := kinds .fragment
  obtain rfl := kinds .document
  rfl

theorem ordered_by_rank (sources : Collection) :
    sources.items.Pairwise fun first second => first.kind.rank ≤ second.kind.rank := by
  have anyhow : ∀ paths : List Path, paths.Pairwise fun _ _ => True :=
    fun _ => List.pairwise_of_forall fun _ _ => trivial
  simp [Collection.items, List.pairwise_append, List.pairwise_map, anyhow, Kind.rank]

/-- The sources of the kinds before that of an item come before it. -/
theorem ofKind_of_lower (items : sources.items = front ++ item :: back) (kind : Kind)
    (lower : kind.rank < item.kind.rank) : sources.ofKind kind = pathsOf kind front := by
  have ordered := sources.ordered_by_rank
  rw [items, List.pairwise_append, List.pairwise_cons] at ordered
  have later : ∀ other ∈ item :: back, ¬ other.kind = kind := by
    rintro other member rfl
    rcases List.mem_cons.1 member with rfl | behind
    · omega
    · have rank := ordered.2.1.1 other behind
      omega
  have none : pathsOf kind (item :: back) = [] := by
    rw [pathsOf, List.filter_eq_nil_iff.2 fun other member => by simpa using later other member]
    rfl
  rw [ofKind_eq, items, pathsOf_append, none, List.append_nil]

/-- An item cuts the sources of its kind. -/
theorem ofKind_of_same (items : sources.items = front ++ item :: back) :
    sources.ofKind item.kind =
      pathsOf item.kind front ++ item.path :: pathsOf item.kind back := by
  rw [ofKind_eq, items, pathsOf_append]
  simp [pathsOf]

/-- The sources up to a number of items, in the order in which they are treated. -/
def upTo (sources : Collection) (count : Nat) : Collection where
  diagrams := sources.diagrams.take count
  fragments := sources.fragments.take (count - sources.diagrams.length)
  documents :=
    sources.documents.take (count - sources.diagrams.length - sources.fragments.length)

theorem items_upTo (sources : Collection) (count : Nat) :
    (sources.upTo count).items = sources.items.take count := by
  simp [upTo, Collection.items, List.take_append, List.map_take]

end Collection

end Source

namespace Book

/-! ## One phase -/

section Phase

variable {output : Path → Path} {treat : Path → Action Bool} {paths front : List Path} {path : Path}
  {world start after : World} {products : List Product} {fault : Fault}

/-- Treating sources that fails has passed some of them and failed at the next one. -/
theorem treatAll_eq_error (failed : (treatAll output treat paths).exec world = (.error fault, after)) :
    ∃ front path rest products start, paths = front ++ path :: rest ∧
      (treatAll output treat front).exec world = (.ok products, start) ∧
      (treat path).exec start = (.error fault, after) := by
  induction paths generalizing world with
  | nil => simp [treatAll] at failed
  | cons first others inductionHypothesis =>
      rcases Action.exec_bind_eq_error_iff.1 failed with now | ⟨made, middle, treated, onward⟩
      · exact ⟨[], first, others, [], world, rfl, rfl, now⟩
      · rcases Action.exec_bind_eq_error_iff.1 onward with later | ⟨_, _, _, done⟩
        · obtain ⟨front, path, rest, products, start, split, passed, stopped⟩ :=
            inductionHypothesis later
          refine ⟨first :: front, path, rest, ⟨first, output first, made⟩ :: products, start,
            by rw [split, List.cons_append], ?_, stopped⟩
          exact (Action.exec_bind_of_ok treated _).trans (Action.exec_bind_of_ok passed _)
        · simp at done

/-- Behind a source that fails nothing is treated. -/
theorem treatAll_of_error (passed : (treatAll output treat front).exec world = (.ok products, start))
    (failed : (treat path).exec start = (.error fault, after)) (rest : List Path) :
    (treatAll output treat (front ++ path :: rest)).exec world = (.error fault, after) := by
  induction front generalizing world products with
  | nil =>
      obtain ⟨_, rfl⟩ := Prod.mk.inj passed
      exact Action.exec_bind_of_error failed _
  | cons first others inductionHypothesis =>
      obtain ⟨made, middle, treated, onward⟩ := Action.exec_bind_eq_ok_iff.1 passed
      obtain ⟨more, later, passedRest, done⟩ := Action.exec_bind_eq_ok_iff.1 onward
      obtain ⟨_, rfl⟩ := Prod.mk.inj done
      exact (Action.exec_bind_of_ok treated _).trans
        (Action.exec_bind_of_error (inductionHypothesis passedRest) _)

/-- A phase does nothing with its sources but to treat them. -/
theorem treatPhase_congr {name : String} {others : List Path}
    (same : (treatAll output treat paths).exec (world.entering name) =
      (treatAll output treat others).exec (world.entering name)) :
    (treatPhase name output treat paths).exec world =
      (treatPhase name output treat others).exec world := by
  unfold treatPhase Action.phase
  unfold World.entering at same
  rw [Action.exec_ofEffect, Action.exec_ofEffect]
  split
  · rename_i records
    rw [if_pos records] at same
    simp only [Action.within, Action.exec_bind, Action.exec_ofEffect, same]
  · rename_i silent
    rw [if_neg silent] at same
    simp only [Action.exec_bind, same]

/-- A phase that fails has stopped at a source: the sources before it pass, and with that source
next it fails in the same way whatever comes behind. -/
theorem treatPhase_eq_error {name : String}
    (failed : (treatPhase name output treat paths).exec world = (.error fault, after)) :
    ∃ front path rest, paths = front ++ path :: rest ∧
      (∃ products done, (treatPhase name output treat front).exec world = (.ok products, done)) ∧
      (∀ others, (treatPhase name output treat (front ++ path :: others)).exec world =
        (.error fault, after)) ∧
      ∃ products start,
        (treatAll output treat front).exec (world.entering name) = (.ok products, start) ∧
        ((treat path).exec start).1 = .error fault := by
  obtain ⟨closed, _, phase⟩ := exec_treatPhase name output treat paths world
  obtain ⟨answer, _⟩ := Prod.mk.inj (phase.symm.trans failed)
  have treating : (treatAll output treat paths).exec (world.entering name) =
      (.error fault, ((treatAll output treat paths).exec (world.entering name)).2) :=
    Prod.ext answer rfl
  obtain ⟨front, path, rest, products, start, split, passed, stopped⟩ := treatAll_eq_error treating
  refine ⟨front, path, rest, split, ?_, fun others => ?_, products, start, passed,
    congrArg Prod.fst stopped⟩
  · obtain ⟨done, _, passing⟩ := exec_treatPhase name output treat front world
    rw [passed] at passing
    exact ⟨products, done, passing⟩
  · rw [← failed]
    refine treatPhase_congr ?_
    rw [treating]
    exact treatAll_of_error passed stopped others

theorem treatPhase_nil (name : String) (output : Path → Path) (treat : Path → Action Bool)
    (world : World) : ∃ done, (treatPhase name output treat []).exec world = (.ok [], done) := by
  obtain ⟨done, _, phase⟩ := exec_treatPhase name output treat [] world
  exact ⟨done, phase⟩

theorem raises_treatAll {runner : Runner} {base : Place} {allowed : Fault → Prop}
    (raises : ∀ source, (treat source).Raises runner base allowed) (paths : List Path) :
    (treatAll output treat paths).Raises runner base allowed := by
  induction paths with
  | nil => exact Action.raises_pure _
  | cons path rest inductionHypothesis =>
      refine Action.raises_bind (raises path) fun _ => ?_
      exact Action.raises_bind inductionHypothesis fun _ => Action.raises_pure _

/-- Treatments that stay with their runner and working directory do so over a whole phase. -/
theorem treatPhase_keeps {name : String} {runner : Runner} {base : Place}
    (stays : ∀ source, (treat source).Raises runner base fun _ => True)
    (same : world.runner = runner) (here : world.base = base)
    {answer : Except Fault (List Product)}
    (ran : (treatPhase name output treat paths).exec world = (answer, after)) :
    after.runner = runner ∧ after.base = base := by
  obtain ⟨closed, kept, phase⟩ := exec_treatPhase name output treat paths world
  obtain ⟨_, rfl⟩ := Prod.mk.inj (phase.symm.trans ran)
  have entering := world.kept_entering name
  obtain ⟨sameInside, hereInside, _⟩ := raises_treatAll stays paths (world.entering name)
    (entering.runner.trans same) (entering.base.trans here)
  exact ⟨kept.runner.trans sameInside, kept.base.trans hereInside⟩

end Phase

/-! ## All phases -/

section Phases

variable {book : Book} {sources : Collection} {world ready drawn written after : World}
  {diagrams fragments documents : List Product} {fault : Fault}

theorem buildSources_eq (book : Book) (sources : Collection) :
    book.buildSources sources = (do
      .makeDirectories book.targetDirectory
      let diagrams ← book.phase false .diagram sources.diagrams
      let fragments ← book.phase false .fragment sources.fragments
      let demanded := verdict diagrams fragments
      .log .debug logger "build.verdict" [("needs_rebuild", .bool demanded)]
      let documents ← book.phase demanded .document sources.documents
      return ⟨book.targetDirectory, demanded, diagrams, fragments, documents⟩) := rfl

theorem buildSources_of_drawing
    (made : (Action.makeDirectories book.targetDirectory).exec world = (.ok (), ready))
    (drawing : (book.phase false .diagram sources.diagrams).exec ready = (.error fault, after)) :
    (book.buildSources sources).exec world = (.error fault, after) := by
  rw [buildSources_eq, Action.exec_bind_of_ok made, Action.exec_bind_of_error drawing]

theorem buildSources_of_refreshing
    (made : (Action.makeDirectories book.targetDirectory).exec world = (.ok (), ready))
    (drawing : (book.phase false .diagram sources.diagrams).exec ready = (.ok diagrams, drawn))
    (refreshing :
      (book.phase false .fragment sources.fragments).exec drawn = (.error fault, after)) :
    (book.buildSources sources).exec world = (.error fault, after) := by
  rw [buildSources_eq, Action.exec_bind_of_ok made, Action.exec_bind_of_ok drawing,
    Action.exec_bind_of_error refreshing]

theorem buildSources_of_typesetting {answer : Except Fault (List Product)}
    (made : (Action.makeDirectories book.targetDirectory).exec world = (.ok (), ready))
    (drawing : (book.phase false .diagram sources.diagrams).exec ready = (.ok diagrams, drawn))
    (refreshing :
      (book.phase false .fragment sources.fragments).exec drawn = (.ok fragments, written))
    (typesetting : (book.phase (verdict diagrams fragments) .document sources.documents).exec
      (written.logged (verdictNote (verdict diagrams fragments))) = (answer, after)) :
    (book.buildSources sources).exec world =
      (answer.map fun documents =>
        ⟨book.targetDirectory, verdict diagrams fragments, diagrams, fragments, documents⟩,
        after) := by
  have noted : (Action.log .debug logger "build.verdict"
      [("needs_rebuild", .bool (verdict diagrams fragments))]).exec written =
        (.ok (), written.logged (verdictNote (verdict diagrams fragments))) := rfl
  rw [buildSources_eq, Action.exec_bind_of_ok made, Action.exec_bind_of_ok drawing,
    Action.exec_bind_of_ok refreshing, Action.exec_bind_of_ok noted, Action.exec_bind, typesetting]
  cases answer <;> rfl

end Phases

/-! ## The item that stops a build -/

section Stopping

variable {book : Book} {sources : Collection} {world ready drawn written after : World}
  {diagrams fragments : List Product} {fault : Fault}

/-- With tools and a repository that are themselves blameless, a fault blames at most this item. -/
def Blames (book : Book) (world : World) (item : Item) (fault : Fault) : Prop :=
  world.runner.IsBlameless → book.repository.IsBlameless world.runner world.base →
    fault.BlamesOnly (sourcePath world.base item).render

/-- The blame is the same before an action that stays with its runner and working directory. -/
theorem Blames.before {item : Item} {before : World} (blames : book.Blames after item fault)
    (keeps : before.runner.IsBlameless → book.repository.IsBlameless before.runner before.base →
      after.runner = before.runner ∧ after.base = before.base) :
    book.Blames before item fault := by
  intro tools repository
  obtain ⟨runner, base⟩ := keeps tools repository
  have blamed := blames (runner ▸ tools) (base ▸ runner ▸ repository)
  rwa [base] at blamed

/-- A build that ends with the fault of an item: the items in front of it pass, and with that item
next the build ends in the same way whatever comes behind. A fault that blames a source blames this
one. -/
structure EndsAt (book : Book) (world : World) (front : List Item) (item : Item) (fault : Fault)
    (after : World) : Prop where
  passes : ∀ others : Collection, others.items = front →
    ∃ report done, (book.buildSources others).exec world = (.ok report, done)
  stops : ∀ (others : Collection) (back : List Item), others.items = front ++ item :: back →
    (book.buildSources others).exec world = (.error fault, after)
  blames : book.Blames world item fault

/-- A phase of blameless tools and answers stays with its runner and working directory. -/
theorem phase_keeps {demanded : Bool} {kind : Kind} {paths : List Path} {start finish : World}
    {answer : Except Fault (List Product)} (tools : start.runner.IsBlameless)
    (repository : book.repository.IsBlameless start.runner start.base)
    (ran : (book.phase demanded kind paths).exec start = (answer, finish)) :
    finish.runner = start.runner ∧ finish.base = start.base :=
  treatPhase_keeps (fun _ => (raises_treat demanded _ tools repository).mono fun _ _ => trivial)
    rfl rfl ran

theorem making_keeps (made : (Action.makeDirectories book.targetDirectory).exec world =
    (.ok (), ready)) : ready.runner = world.runner ∧ ready.base = world.base :=
  Action.Raises.keeps (Action.raises_makeDirectories (fun _ _ => trivial) _) made

/-- A phase that fails has stopped at an item and blames nobody else. -/
theorem phase_eq_error {demanded : Bool} {kind : Kind} {paths : List Path} {start : World}
    (failed : (book.phase demanded kind paths).exec start = (.error fault, after)) :
    ∃ front path rest, paths = front ++ path :: rest ∧
      (∃ products done, (book.phase demanded kind front).exec start = (.ok products, done)) ∧
      (∀ others, (book.phase demanded kind (front ++ path :: others)).exec start =
        (.error fault, after)) ∧
      book.Blames start ⟨kind, path⟩ fault := by
  obtain ⟨front, path, rest, split, passes, stops, products, reached, passed, stopped⟩ :=
    treatPhase_eq_error failed
  refine ⟨front, path, rest, split, passes, stops, fun tools repository => ?_⟩
  have entering := start.kept_entering (phaseName kind)
  have stays : ∀ source, (book.treat demanded ⟨kind, source⟩).Raises start.runner start.base
      fun _ => True :=
    fun _ => (raises_treat demanded _ tools repository).mono fun _ _ => trivial
  have staying : (book.treatKind demanded kind front).Raises start.runner start.base
      fun _ => True := raises_treatAll stays front
  have treating := staying (start.entering (phaseName kind)) entering.runner entering.base
  rw [treatKind, passed] at treating
  exact (raises_treat demanded _ tools repository reached treating.1 treating.2.1).2.2 fault stopped

theorem phase_nil (book : Book) (demanded : Bool) (kind : Kind) (start : World) :
    ∃ done, (book.phase demanded kind []).exec start = (.ok [], done) :=
  treatPhase_nil ..

theorem endsAt_of_drawing
    (made : (Action.makeDirectories book.targetDirectory).exec world = (.ok (), ready))
    (drawing : (book.phase false .diagram sources.diagrams).exec ready = (.error fault, after)) :
    ∃ front item rest, sources.items = front ++ item :: rest ∧
      book.EndsAt world front item fault after := by
  obtain ⟨front, path, rest, split, ⟨products, passed, passes⟩, stops, blames⟩ :=
    phase_eq_error drawing
  refine ⟨front.map (Item.mk .diagram), ⟨.diagram, path⟩, rest.map (Item.mk .diagram) ++
    (sources.fragments.map (Item.mk .fragment) ++ sources.documents.map (Item.mk .document)),
    by simp [Collection.items, split], ?_, ?_, ?_⟩
  · intro others items
    obtain rfl : others = ⟨front, [], []⟩ :=
      Collection.items_injective (items.trans (by simp [Collection.items]))
    obtain ⟨refreshed, refreshing⟩ := book.phase_nil false .fragment passed
    obtain ⟨done, typesetting⟩ := book.phase_nil (verdict products []) .document
      (refreshed.logged (verdictNote (verdict products [])))
    have ran : (book.buildSources ⟨front, [], []⟩).exec world = _ :=
      buildSources_of_typesetting made passes refreshing typesetting
    exact ⟨_, done, ran⟩
  · intro others back items
    have diagrams : others.diagrams = front ++ path :: pathsOf .diagram back := by
      simpa [Collection.ofKind] using Collection.ofKind_of_same items
    refine buildSources_of_drawing made ?_
    rw [diagrams]
    exact stops _
  · exact blames.before fun _ _ => making_keeps made

theorem endsAt_of_refreshing
    (made : (Action.makeDirectories book.targetDirectory).exec world = (.ok (), ready))
    (drawing : (book.phase false .diagram sources.diagrams).exec ready = (.ok diagrams, drawn))
    (refreshing :
      (book.phase false .fragment sources.fragments).exec drawn = (.error fault, after)) :
    ∃ front item rest, sources.items = front ++ item :: rest ∧
      book.EndsAt world front item fault after := by
  obtain ⟨front, path, rest, split, ⟨products, passed, passes⟩, stops, blames⟩ :=
    phase_eq_error refreshing
  refine ⟨sources.diagrams.map (Item.mk .diagram) ++ front.map (Item.mk .fragment),
    ⟨.fragment, path⟩, rest.map (Item.mk .fragment) ++ sources.documents.map (Item.mk .document),
    by simp [Collection.items, split], ?_, ?_, ?_⟩
  · intro others items
    obtain rfl : others = ⟨sources.diagrams, front, []⟩ :=
      Collection.items_injective (items.trans (by simp [Collection.items]))
    obtain ⟨done, typesetting⟩ := book.phase_nil (verdict diagrams products) .document
      (passed.logged (verdictNote (verdict diagrams products)))
    have ran : (book.buildSources ⟨sources.diagrams, front, []⟩).exec world = _ :=
      buildSources_of_typesetting made drawing passes typesetting
    exact ⟨_, done, ran⟩
  · intro others back items
    have sameDiagrams : others.diagrams = sources.diagrams := by
      simpa [Collection.ofKind] using
        Collection.ofKind_of_lower items .diagram Nat.zero_lt_one
    have fragments : others.fragments = front ++ path :: pathsOf .fragment back := by
      simpa [Collection.ofKind] using Collection.ofKind_of_same items
    refine buildSources_of_refreshing made (sameDiagrams ▸ drawing) ?_
    rw [fragments]
    exact stops _
  · have behindDrawing := blames.before fun tools repository => phase_keeps tools repository drawing
    exact behindDrawing.before fun _ _ => making_keeps made

theorem endsAt_of_typesetting
    (made : (Action.makeDirectories book.targetDirectory).exec world = (.ok (), ready))
    (drawing : (book.phase false .diagram sources.diagrams).exec ready = (.ok diagrams, drawn))
    (refreshing :
      (book.phase false .fragment sources.fragments).exec drawn = (.ok fragments, written))
    (typesetting : (book.phase (verdict diagrams fragments) .document sources.documents).exec
      (written.logged (verdictNote (verdict diagrams fragments))) = (.error fault, after)) :
    ∃ front item rest, sources.items = front ++ item :: rest ∧
      book.EndsAt world front item fault after := by
  obtain ⟨front, path, rest, split, ⟨products, passed, passes⟩, stops, blames⟩ :=
    phase_eq_error typesetting
  refine ⟨sources.diagrams.map (Item.mk .diagram) ++ (sources.fragments.map (Item.mk .fragment) ++
    front.map (Item.mk .document)), ⟨.document, path⟩, rest.map (Item.mk .document),
    by simp [Collection.items, split], ?_, ?_, ?_⟩
  · intro others items
    obtain rfl : others = ⟨sources.diagrams, sources.fragments, front⟩ :=
      Collection.items_injective items
    have ran : (book.buildSources ⟨sources.diagrams, sources.fragments, front⟩).exec world = _ :=
      buildSources_of_typesetting made drawing refreshing passes
    exact ⟨_, passed, ran⟩
  · intro others back items
    have sameDiagrams : others.diagrams = sources.diagrams := by
      simpa [Collection.ofKind] using
        Collection.ofKind_of_lower items .diagram Nat.zero_lt_two
    have sameFragments : others.fragments = sources.fragments := by
      simpa [Collection.ofKind] using
        Collection.ofKind_of_lower items .fragment Nat.one_lt_two
    have documents : others.documents = front ++ path :: pathsOf .document back := by
      simpa [Collection.ofKind] using Collection.ofKind_of_same items
    have stopped : (book.phase (verdict diagrams fragments) .document others.documents).exec
        (written.logged (verdictNote (verdict diagrams fragments))) = (.error fault, after) := by
      rw [documents]
      exact stops _
    exact buildSources_of_typesetting made (sameDiagrams ▸ drawing) (sameFragments ▸ refreshing)
      stopped
  · have noted : book.Blames written ⟨.document, path⟩ fault := blames
    have behindRefreshing :=
      noted.before fun tools repository => phase_keeps tools repository refreshing
    have behindDrawing :=
      behindRefreshing.before fun tools repository => phase_keeps tools repository drawing
    exact behindDrawing.before fun _ _ => making_keeps made

/-- A build that fails, once the target directory is there, ends at one of its items. -/
theorem buildSources_eq_error
    (made : (world.files.makeDirectories world.base book.targetDirectory).1 = .ok ())
    (failed : (book.buildSources sources).exec world = (.error fault, after)) :
    ∃ front item rest, sources.items = front ++ item :: rest ∧
      book.EndsAt world front item fault after := by
  obtain ⟨ready, making⟩ : ∃ ready,
      (Action.makeDirectories book.targetDirectory).exec world = (.ok (), ready) :=
    ⟨_, Prod.ext made rfl⟩
  rcases drawing : (book.phase false .diagram sources.diagrams).exec ready
    with ⟨problem | diagrams, drawn⟩
  · obtain ⟨same, rfl⟩ := Prod.mk.inj ((buildSources_of_drawing making drawing).symm.trans failed)
    obtain rfl := Except.error.inj same
    exact endsAt_of_drawing making drawing
  rcases refreshing : (book.phase false .fragment sources.fragments).exec drawn
    with ⟨problem | fragments, written⟩
  · obtain ⟨same, rfl⟩ :=
      Prod.mk.inj ((buildSources_of_refreshing making drawing refreshing).symm.trans failed)
    obtain rfl := Except.error.inj same
    exact endsAt_of_refreshing making drawing refreshing
  rcases typesetting : (book.phase (verdict diagrams fragments) .document sources.documents).exec
    (written.logged (verdictNote (verdict diagrams fragments))) with ⟨answer, finish⟩
  obtain ⟨same, rfl⟩ := Prod.mk.inj
    ((buildSources_of_typesetting making drawing refreshing typesetting).symm.trans failed)
  obtain rfl : answer = .error fault := error_of_map same
  exact endsAt_of_typesetting making drawing refreshing typesetting

end Stopping

/-! ## The operation -/

section Operation

variable {book : Book} {sources others : Collection} {world after : World} {outcome : Outcome}

theorem exec_recorded_congr {name : String} {left right : Action Outcome}
    (same : left.exec (world.opening name) = right.exec (world.opening name)) :
    (recorded name left).exec world = (recorded name right).exec world := by
  unfold recorded
  unfold World.opening at same
  rw [Action.exec_ofEffect, Action.exec_ofEffect]
  split
  · rename_i records
    rw [if_pos records] at same
    simp only [Action.within, Action.exec_bind, Action.exec_ofEffect, same]
  · rename_i silent
    rw [if_neg silent] at same
    exact same

/-- What the build operation does with given sources, once it has started. -/
def work (book : Book) (sources : Collection) : Action Outcome :=
  settle "build" noteFailure do
    let report ← book.buildSources sources
    return .success "build" report.toData (← warnings)

/-- The operation that the build of given sources records. -/
def started (book : Book) (sources : Collection) : Action Outcome := do
  let sources ← book.sourcesOr (some sources)
  Excerpt.forgetMissing
  book.work sources

theorem build_eq (book : Book) (sources : Collection) :
    book.build (some sources) = recorded "BuildService.build" (book.started sources) := rfl

theorem exec_started (book : Book) (sources : Collection) (world : World) :
    (book.started sources).exec (world.opening "BuildService.build") =
      (book.work sources).exec world.starting := rfl

/-- Source lists that are built alike are built alike by the operation. -/
theorem build_congr (same : (book.buildSources sources).exec world.starting =
      (book.buildSources others).exec world.starting) :
    (book.build (some sources)).exec world = (book.build (some others)).exec world := by
  rw [build_eq, build_eq]
  refine exec_recorded_congr ?_
  rw [exec_started, exec_started, work, work, settle, settle, Action.exec_ofEffect,
    Action.exec_ofEffect, Action.exec_bind, Action.exec_bind, same]

/-- A failed outcome reports the fault with which the build of its sources ended. -/
theorem error_of_build (ran : (book.build (some sources)).exec world = (.ok outcome, after))
    (failed : outcome.ok = false) :
    ∃ fault failure done, (book.buildSources sources).exec world.starting = (.error fault, done) ∧
      reported? fault = some failure ∧ outcome.error = some failure := by
  rw [build_eq] at ran
  obtain ⟨answer, finish, again, _, told⟩ :=
    exec_recorded "BuildService.build" (book.started sources) world
  obtain ⟨rfl, _⟩ := Prod.mk.inj (again.symm.trans ran)
  rw [exec_started, work, settle, Action.exec_ofEffect, Action.exec_bind] at told
  rcases building : (book.buildSources sources).exec world.starting with ⟨fault | report, done⟩
  · rw [building] at told
    cases reporting : reported? fault with
    | none =>
        simp only [reporting] at told
        cases told
    | some failure =>
        simp only [reporting] at told
        refine ⟨fault, failure, done, rfl, reporting, ?_⟩
        cases told with
        | same => rfl
        | remarked => rfl
  · rw [building] at told
    have succeeded : outcome.ok = true := by
      cases told with
      | same => rfl
      | remarked => rfl
    rw [failed] at succeeded
    contradiction

/-- A build that fails, with its target directory there, has failed at an item: the items in front
of it build without it, and the build of the sources up to that item, with whatever else behind it,
ends with the same outcome in the same world. If a tool failed, it is this item's. -/
theorem build_stops (ran : (book.build (some sources)).exec world = (.ok outcome, after))
    (failed : outcome.ok = false)
    (made : (world.files.makeDirectories world.base book.targetDirectory).1 = .ok ()) :
    ∃ front item rest, sources.items = front ++ item :: rest ∧
      okOf ((book.build (some (sources.upTo front.length))).exec world).1 = some true ∧
      (book.build (some (sources.upTo (front.length + 1)))).exec world = (.ok outcome, after) ∧
      (∀ (others : Collection) (back : List Item), others.items = front ++ item :: back →
        (book.build (some others)).exec world = (.ok outcome, after)) ∧
      (world.runner.IsBlameless → book.repository.IsBlameless world.runner world.base →
        ∀ failure, outcome.error = some failure → failure.code = "TOOL_FAILED" →
          failure.detail.lookup "source" =
            some (.str (sourcePath world.base item).render)) := by
  obtain ⟨fault, failure, done, building, reporting, error⟩ := error_of_build ran failed
  have opening := world.kept_starting
  have making : (world.starting.files.makeDirectories world.starting.base
      book.targetDirectory).1 = .ok () := by
    rw [opening.files, opening.base]
    exact made
  obtain ⟨front, item, rest, items, ends⟩ := buildSources_eq_error making building
  have same : ∀ (others : Collection) (back : List Item), others.items = front ++ item :: back →
      (book.build (some others)).exec world = (.ok outcome, after) := by
    intro others back split
    rw [← ran]
    exact build_congr ((ends.stops others back split).trans building.symm)
  refine ⟨front, item, rest, items, ?_, same _ [] ?_, same, ?_⟩
  · have cut : (sources.upTo front.length).items = front := by
      rw [Collection.items_upTo, items, List.take_left]
    obtain ⟨report, finish, passed⟩ := ends.passes _ cut
    have found : ((book.sourcesOr (some (sources.upTo front.length))).exec world).1 =
        .ok (sources.upTo front.length) := rfl
    rw [okOf_build found, passed]
    rfl
  · rw [Collection.items_upTo, items, List.take_append, List.take_of_length_le (by omega)]
    simp
  · intro tools repository told reported code
    obtain rfl : told = failure := Option.some.inj (reported.symm.trans error)
    obtain ⟨source, blamed, detail⟩ := Fault.blamed?_of_code reporting code
    rw [← opening.runner] at tools repository
    rw [← opening.base] at repository
    rw [detail, ends.blames tools repository source blamed, opening.base]

end Operation

set_option maxRecDepth 4000 in
/-- The renderer fails for the diagram of the small project, and the build of nothing but that
diagram fails in the same way. -/
theorem build_stops_sample :
    ∃ outcome after, (sampleBook.build (some sampleSources)).exec
        (refusingWorld (sampleFiles 3000 1000)) = (.ok outcome, after) ∧ outcome.ok = false ∧
      (sampleBook.build (some (sampleSources.upTo 1))).exec
        (refusingWorld (sampleFiles 3000 1000)) = (.ok outcome, after) ∧
      ∀ failure, outcome.error = some failure → failure.code = "TOOL_FAILED" →
        failure.detail.lookup "source" = some (.str "/dot/a.dot") := by
  have fails : okOf ((sampleBook.build (some sampleSources)).exec
      (refusingWorld (sampleFiles 3000 1000))).1 = some false := by
    decide +kernel
  have made : ((refusingWorld (sampleFiles 3000 1000)).files.makeDirectories
      (refusingWorld (sampleFiles 3000 1000)).base sampleBook.targetDirectory).1 = .ok () := by
    rfl
  rcases ran : (sampleBook.build (some sampleSources)).exec
    (refusingWorld (sampleFiles 3000 1000)) with ⟨answer, after⟩
  rw [ran] at fails
  obtain ⟨outcome, rfl, failed⟩ := exists_of_okOf fails
  obtain ⟨front, item, rest, items, passes, stops, _, blames⟩ := build_stops ran failed made
  have first : front = [] := by
    by_contra passed
    have one : okOf ((sampleBook.build (some (sampleSources.upTo 1))).exec
        (refusingWorld (sampleFiles 3000 1000))).1 = some false := by
      decide +kernel
    have two : okOf ((sampleBook.build (some (sampleSources.upTo 2))).exec
        (refusingWorld (sampleFiles 3000 1000))).1 = some false := by
      decide +kernel
    have length := congrArg List.length items
    simp [Collection.items, sampleSources] at length
    have count : front.length = 1 ∨ front.length = 2 := by
      have positive := List.length_pos_of_ne_nil passed
      omega
    rcases count with same | same
    · rw [same, one] at passes
      contradiction
    · rw [same, two] at passes
      contradiction
  subst first
  obtain rfl : item = ⟨.diagram, .ofPlace ["dot", "a.dot"]⟩ := (List.cons.inj items).1.symm
  exact ⟨outcome, after, rfl, failed, stops,
    blames (Runner.isBlameless_scripted _) (Repository.isBlameless_ofSnapshot _)⟩

end Book

end Bindery
