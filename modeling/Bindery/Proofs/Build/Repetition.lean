import Bindery.Proofs.Build.Treatment

/-!
Contract: treating an item again.

Owns:
- `Stable`, tools and a version control whose answers are fixed;
- `Spares`, that what happened between two worlds left an item alone, and that an item which was
  spared is treated alike;
- `treat_repeats`, that what was treated once is treated again, and `Failed`, the three ways in
  which a treatment fails;
- `undemanded_cases`, the only way in which a treatment that failed can be got rid of: a document
  that the engine refused when it was demanded is left alone when it is not.

Does not own: several items one after another (`Bindery.Proofs.Build.Failure`).
-/

namespace Bindery

open Source

theorem Alike.reported {α : Type} {fault other : Fault}
    (alike : Alike (.error fault : Except Fault α) (.error other))
    (reported : (Book.reported? fault).isSome) : (Book.reported? other).isSome := by
  cases alike with
  | same => exact reported
  | absent file _ _ => rfl

namespace Book

/-- A target directory as paths are read, with tools that are always answered in the same way and a
version control whose answers are fixed. -/
structure Stable (book : Book) (runner : Runner) (base : Place) : Prop where
  sound : book.Sound runner
  constant : runner.Constant
  steady : book.repository.Steady runner (book.targetDirectory.placeFrom base)

/-- The same for a version control whose answers to chosen requests are fixed. -/
structure StableFor (asked : Request → Bool) (book : Book) (runner : Runner) (base : Place) :
    Prop where
  sound : book.Sound runner
  constant : runner.Constant
  steady : book.repository.SteadyFor asked runner (book.targetDirectory.placeFrom base)

theorem StableFor.limitedTo {asked : Request → Bool} {book : Book} {runner : Runner} {base : Place}
    (stable : book.StableFor asked runner base) : (book.limitedTo asked).Stable runner base :=
  ⟨stable.sound.limitedTo asked, stable.constant, stable.steady.limitedTo⟩

theorem Stable.stableFor {book : Book} {runner : Runner} {base : Place}
    (stable : book.Stable runner base) (asked : Request → Bool) :
    book.StableFor asked runner base :=
  ⟨stable.sound, stable.constant, stable.steady.steadyFor asked⟩

/-! ## Sparing an item -/

/-- What happened between two worlds happened in the target directory, and neither where an item is
read nor where its product goes. -/
def Spares (book : Book) (item : Item) (left right : World) : Prop :=
  ∃ touched, World.Resembles touched left right ∧
    (∀ place ∈ touched, book.targetDirectory.placeFrom left.base <+: place) ∧
    book.Undisturbed left.base touched item

namespace Spares

variable {book : Book} {item : Item} {left middle right : World}

theorem base (spares : book.Spares item left right) : left.base = right.base :=
  spares.choose_spec.1.base

theorem runner (spares : book.Spares item left right) : left.runner = right.runner :=
  spares.choose_spec.1.runner

theorem ready (spares : book.Spares item left right) (ready : book.Ready left) :
    book.Ready right :=
  ready.of_resembles spares.choose_spec.1

theorem stable (spares : book.Spares item left right)
    (stable : book.Stable left.runner left.base) : book.Stable right.runner right.base := by
  rwa [← spares.runner, ← spares.base]

theorem of_resembles (book : Book) (item : Item) (resembles : World.Resembles [] left right) :
    book.Spares item left right :=
  ⟨[], resembles, by simp, ⟨by simp, by simp⟩⟩

theorem of_kept (book : Book) (item : Item) (kept : World.Kept left right) :
    book.Spares item left right :=
  .of_resembles book item (kept.resembles [])

theorem symm (spares : book.Spares item left right) : book.Spares item right left := by
  obtain ⟨touched, resembles, inside, undisturbed⟩ := spares
  rw [resembles.base] at inside undisturbed
  exact ⟨touched, resembles.symm, inside, undisturbed⟩

theorem trans (first : book.Spares item left middle) (second : book.Spares item middle right) :
    book.Spares item left right := by
  obtain ⟨early, resembles, inside, undisturbed⟩ := first
  obtain ⟨late, resemblesLate, insideLate, undisturbedLate⟩ := second
  rw [← resembles.base] at insideLate undisturbedLate
  refine ⟨early ++ late, ?_, fun place member => ?_, ⟨fun member => ?_, fun member => ?_⟩⟩
  · exact (resembles.mono (List.subset_append_left _ _)).trans
      (resemblesLate.mono (List.subset_append_right _ _))
  · rcases List.mem_append.1 member with first | second
    · exact inside place first
    · exact insideLate place second
  · rcases List.mem_append.1 member with first | second
    · exact undisturbed.source first
    · exact undisturbedLate.source second
  · rcases List.mem_append.1 member with first | second
    · exact undisturbed.output first
    · exact undisturbedLate.output second

/-- Touching the manuscript of an item spares the item. -/
theorem of_temporary (fit : book.Fit left.base item)
    (resembles : World.Resembles (book.temporaryPlaces left.base item) left right) :
    book.Spares item left right := by
  have among := temporaryPlaces_subset_touches book left.base item false
  exact ⟨_, resembles, fun _ member => prefix_of_mem_touches fit.named (among member),
    fit.undisturbed⟩

/-- Treating an item spares the items that it does not disturb, whether or not it fails. -/
theorem of_treat {other : Item} {demanded : Bool} {answer : Except Fault Bool}
    (sound : book.Sound left.runner) (ready : book.Ready left) (named : other.path.NamesFile)
    (undisturbed : book.Undisturbed left.base (book.touches left.base other true) item)
    (ran : (book.treat demanded other).exec left = (answer, right)) :
    book.Spares item left right := by
  have confined : World.Resembles (book.touches left.base other true) left
      ((book.treat demanded other).exec left).2 :=
    confined_treat sound named demanded left rfl rfl ready
  rw [ran] at confined
  exact ⟨_, confined, fun _ member => prefix_of_mem_touches named member, undisturbed⟩

/-- Whether a product is due is the same where the item was spared. -/
theorem isDue_eq (spares : book.Spares item left right) (demanded : Bool) :
    book.isDue demanded left.files left.base item =
      book.isDue demanded right.files right.base item := by
  obtain ⟨touched, resembles, _, undisturbed⟩ := spares
  rw [← resembles.base]
  exact isDue_congr resembles.files undisturbed

theorem finds (spares : book.Spares item left right)
    (finds : left.files.Finds left.base (sourcePath left.base item)) :
    right.files.Finds right.base (sourcePath right.base item) := by
  obtain ⟨touched, resembles, _, undisturbed⟩ := spares
  rw [← resembles.base]
  exact finds.of_agreesOn resembles.files undisturbed.source

theorem reaches (spares : book.Spares item left right)
    (reaches : left.files.Reaches left.base (book.output item)) :
    right.files.Reaches right.base (book.output item) := by
  rw [← spares.base]
  exact reaches.of_agreesOn spares.choose_spec.1.files

end Spares

/-! ## Answers of a treatment -/

section Answers

variable {book : Book} {item : Item} {left right : World} {touched : List Place}

theorem spares_of_prepare (sound : book.Sound left.runner) (ready : book.Ready left)
    (fit : book.Fit left.base item) (prepared : (book.prepare item).exec left = (.ok (), right)) :
    book.Spares item left right :=
  .of_temporary fit (prepare_eq_ok sound ready fit.named prepared).1.resembles

theorem askDue_alike (spares : book.Spares item left right) (demanded : Bool) :
    Alike (book.askDue demanded left.files left.base item)
      (book.askDue demanded right.files right.base item) := by
  obtain ⟨touched, resembles, _, undisturbed⟩ := spares
  rw [← resembles.base]
  unfold askDue
  split
  · exact .same _
  · exact FileStore.staleFor_alike resembles.files undisturbed.source undisturbed.output

/-- Whether a product can be made depends on nothing that a build writes. -/
theorem make_alike (stable : book.Stable left.runner left.base) (ready : book.Ready left)
    (file : item.path.NamesFile) (resembles : World.Resembles touched left right)
    (inside : ∀ place ∈ touched, book.targetDirectory.placeFrom left.base <+: place)
    (apart : sourcePlace left.base item ∉ touched) :
    Alike ((book.make left.base item).exec left).1 ((book.make left.base item).exec right).1 := by
  have tool : ∀ logger message source report command,
      Alike ((Action.runTool logger message source report command).exec left).1
        ((Action.runTool logger message source report command).exec right).1 := by
    intro logger message source report command
    rw [Action.runTool_constant stable.constant resembles.runner]
    exact .same _
  obtain ⟨kind, path⟩ := item
  cases kind with
  | diagram => exact tool ..
  | document => exact tool ..
  | fragment =>
      have answer : ∀ world, ((book.make left.base ⟨.fragment, path⟩).exec world).1 =
          ((book.press.publish path path.name).exec world).1.map fun _ => true := by
        intro world
        rw [make, Action.exec_bind]
        rcases (book.press.publish path path.name).exec world with ⟨fault | written, after⟩ <;> rfl
      have pressSteady : book.press.repository.Steady left.runner
          (book.press.targetDirectory.placeFrom left.base) := stable.steady
      rw [answer, answer]
      exact (Press.publish_alike file.isPart_name ready.press pressSteady resembles inside
        apart).map _

/-- An item that was spared is treated alike. -/
theorem treat_alike (stable : book.Stable left.runner left.base) (ready : book.Ready left)
    (fit : book.Fit left.base item) (spares : book.Spares item left right) (demanded : Bool) :
    Alike ((book.treat demanded item).exec left).1 ((book.treat demanded item).exec right).1 := by
  have fitRight : book.Fit right.base item := spares.base ▸ fit
  have stableRight := spares.stable stable
  have readyRight := spares.ready ready
  have preparing : Alike ((book.prepare item).exec left).1 ((book.prepare item).exec right).1 := by
    obtain ⟨touched, resembles, inside, undisturbed⟩ := spares
    exact prepare_alike stable.steady ready fit.named resembles inside undisturbed.source
  rcases preparedLeft : (book.prepare item).exec left with ⟨answer, middle⟩
  rcases preparedRight : (book.prepare item).exec right with ⟨other, middleRight⟩
  rw [preparedLeft, preparedRight] at preparing
  cases answer with
  | error fault =>
      rw [exec_treat_of_unprepared demanded preparedLeft]
      cases other with
      | ok done => exact absurd (preparing.symm.ok rfl) (by simp)
      | error refusal =>
          rw [exec_treat_of_unprepared demanded preparedRight]
          cases preparing with
          | same => exact .same _
          | absent file leftAbsent rightAbsent => exact .absent file leftAbsent rightAbsent
  | ok done =>
      obtain rfl : other = .ok () := preparing.ok rfl
      have onward : book.Spares item middle middleRight :=
        (spares_of_prepare stable.sound ready fit preparedLeft).symm.trans
          (spares.trans (spares_of_prepare stableRight.sound readyRight fitRight preparedRight))
      obtain ⟨noted, kept, treating⟩ := exec_treat_of_prepared demanded fit.named preparedLeft
      obtain ⟨notedRight, keptRight, treatingRight⟩ :=
        exec_treat_of_prepared demanded fitRight.named preparedRight
      rw [treating, treatingRight]
      rcases (askDue_alike onward demanded).eq_or_absent
        with same | ⟨_, _, file, leftStuck, rightStuck, leftAbsent, rightAbsent⟩
      · rw [same]
        cases book.askDue demanded middleRight.files middleRight.base item with
        | error fault => exact .same _
        | ok due =>
            cases due with
            | false => exact .same _
            | true =>
                have there := spares_of_prepare stable.sound ready fit preparedLeft
                have started := there.trans (.of_kept book item kept)
                have spared := started.symm.trans (there.trans (onward.trans
                  (.of_kept book item keptRight)))
                obtain ⟨touched, resembles, inside, undisturbed⟩ := spared
                have alike := make_alike (started.stable stable) (started.ready ready) fit.named
                  resembles inside undisturbed.source
                rw [kept.base] at alike
                rwa [← onward.base]
      · rw [leftStuck, rightStuck]
        exact .absent file leftAbsent rightAbsent

end Answers

/-! ## Treatments that succeed -/

section Success

variable {book : Book} {item : Item} {demanded : Bool} {before after : World}

/-- A product that was made was made after the preparations. -/
theorem made_of_treat (sound : book.Sound before.runner) (ready : book.Ready before)
    (fit : book.Fit before.base item)
    (ran : (book.treat demanded item).exec before = (.ok true, after)) :
    ∃ noted, World.Resembles (book.temporaryPlaces before.base item) before noted ∧
      (book.make before.base item).exec noted = (.ok true, after) := by
  rcases preparing : (book.prepare item).exec before with ⟨fault | _, middle⟩
  · rw [exec_treat_of_unprepared demanded preparing] at ran
    simp at ran
  obtain ⟨effect, _, _⟩ := prepare_eq_ok sound ready fit.named preparing
  obtain ⟨noted, kept, treating⟩ := exec_treat_of_prepared demanded fit.named preparing
  rw [treating] at ran
  cases asked : book.askDue demanded middle.files middle.base item with
  | error fault => simp [asked] at ran
  | ok due =>
      cases due with
      | false => simp [asked] at ran
      | true =>
          refine ⟨noted, effect.resembles.trans (kept.resembles _), ?_⟩
          rw [← effect.base]
          simpa only [asked] using ran

/-- The tools that made a product are not refused. -/
theorem not_refuses_of_treat (sound : book.Sound before.runner) (ready : book.Ready before)
    (fit : book.Fit before.base item)
    (ran : (book.treat demanded item).exec before = (.ok true, after)) :
    ∀ command ∈ book.tools before.base item, ¬ before.runner.Refuses command := by
  obtain ⟨noted, resembles, making⟩ := made_of_treat sound ready fit ran
  rw [resembles.runner]
  intro command member
  obtain ⟨kind, path⟩ := item
  cases kind with
  | fragment => simp [tools] at member
  | diagram =>
      simp only [tools, List.mem_singleton] at member
      rw [member]
      exact Action.not_refuses_of_runTool making
  | document =>
      simp only [tools, List.mem_singleton] at member
      rw [member]
      exact Action.not_refuses_of_runTool making

theorem isDue_mono {store : FileStore} {base : Place} {less : Bool}
    (fewer : item.kind = .document → less = true → demanded = true)
    (due : book.isDue less store base item = true) :
    book.isDue demanded store base item = true := by
  rw [isDue, Bool.or_eq_true, Bool.and_eq_true, decide_eq_true_eq] at due ⊢
  exact due.imp (fun asked => ⟨asked.1, fewer asked.1 asked.2⟩) id

/-- An item that was treated is treated again, if no more is demanded than before. -/
theorem treat_repeats {made less : Bool} (stable : book.Stable before.runner before.base)
    (ready : book.Ready before) (named : item.path.NamesFile)
    (apart : sourcePlace before.base item ∉ book.touches before.base item true)
    (fewer : item.kind = .document → less = true → demanded = true)
    (ran : (book.treat demanded item).exec before = (.ok made, after)) :
    ∃ again, ((book.treat less item).exec after).1 = .ok again := by
  have fit : book.Fit before.base item :=
    ⟨named, fun temporary => apart (List.mem_append_left _ temporary)⟩
  have treated := treat_eq_ok stable.sound ready fit ran
  have effect := treated.effect
  have stableAfter : book.Stable after.runner after.base := by
    rwa [effect.runner, effect.base]
  have readyAfter := ready.of_resembles effect.resembles
  have fitAfter : book.Fit after.base item := effect.base ▸ fit
  have untouched : sourcePlace before.base item ∉ book.touches before.base item made :=
    fun member => apart (touches_subset book before.base item made member)
  have inside : ∀ place ∈ book.touches before.base item made,
      book.targetDirectory.placeFrom before.base <+: place :=
    fun _ member => prefix_of_mem_touches named member
  have prepared := (prepare_alike stable.steady ready named effect.resembles inside untouched).ok
    (prepared_of_treat ran)
  rcases preparing : (book.prepare item).exec after with ⟨answer, middle⟩
  rw [preparing] at prepared
  obtain rfl : answer = .ok () := prepared
  have spares := spares_of_prepare stableAfter.sound readyAfter fitAfter preparing
  have finds := treated.finds.of_agreesOn effect.files untouched
  have reaches := treated.reaches.of_agreesOn effect.files
  rw [← effect.base] at finds reaches
  obtain ⟨noted, kept, treating⟩ := exec_treat_of_prepared less fitAfter.named preparing
  rw [askDue_of_reaches less (spares.finds finds) (spares.reaches reaches), ← spares.isDue_eq]
    at treating
  rw [treating]
  cases due : book.isDue less after.files after.base item with
  | false => exact ⟨false, rfl⟩
  | true =>
      -- What is due again has been made: what was left alone is no more due than before.
      have remade : made = true := by
        cases made with
        | true => rfl
        | false =>
            have untreated : book.Undisturbed before.base (book.touches before.base item false)
                item := by
              simpa [touches] using fit.undisturbed
            rw [effect.base, ← isDue_congr effect.files untreated] at due
            exact treated.due.trans (isDue_mono fewer due)
      subst remade
      obtain ⟨first, resembles, making⟩ := made_of_treat stable.sound ready fit ran
      have onward : World.Resembles (book.touches before.base item true) first noted := by
        have among := temporaryPlaces_subset_touches book before.base item true
        have again : World.Resembles (book.temporaryPlaces before.base item) after noted := by
          rw [← effect.base]
          exact (prepare_eq_ok stableAfter.sound readyAfter fitAfter.named
            preparing).1.resembles.trans (kept.resembles _)
        exact (resembles.symm.mono among).trans (effect.resembles.trans (again.mono among))
      have here : first.base = before.base := resembles.base.symm
      have stableFirst : book.Stable first.runner first.base := by
        rwa [← resembles.runner, here]
      have alike := make_alike stableFirst (ready.of_resembles resembles) named onward
        (by rwa [here]) (by rwa [here])
      rw [here, making] at alike
      refine ⟨true, ?_⟩
      rw [← spares.base, effect.base]
      exact alike.ok rfl

end Success

/-! ## Treatments that fail -/

/-- The ways in which treating an item fails: its manuscript cannot be published, it cannot be told
whether its product is due, or its product cannot be made. -/
inductive Failed (book : Book) (demanded : Bool) (item : Item) (fault : Fault)
    (before after : World) : Prop where
  | unprepared
      (effect : World.Effect before after (book.temporaryPlaces before.base item) [])
      (refused : ((book.prepare item).exec before).1 = .error fault) :
      Failed book demanded item fault before after
  | unanswered
      (effect : World.Effect before after (book.temporaryPlaces before.base item) [])
      (asked : (item.kind = .document && demanded) = false) :
      Failed book demanded item fault before after
  | unmade {noted : World}
      (effect : World.Effect before after (book.temporaryPlaces before.base item)
        (book.tools before.base item))
      (refused : ∀ command ∈ book.tools before.base item, before.runner.Refuses command)
      (due : book.isDue demanded before.files before.base item = true)
      (finds : before.files.Finds before.base (sourcePath before.base item))
      (reaches : before.files.Reaches before.base (book.output item))
      (prepared : ((book.prepare item).exec before).1 = .ok ())
      (resembles : World.Resembles (book.temporaryPlaces before.base item) before noted)
      (failed : ((book.make before.base item).exec noted).1 = .error fault) :
      Failed book demanded item fault before after

section Failure

variable {book : Book} {item : Item} {demanded : Bool} {fault : Fault} {before after : World}

theorem prepare_eq_error (sound : book.Sound before.runner) (ready : book.Ready before)
    (file : item.path.NamesFile)
    (failed : (book.prepare item).exec before = (.error fault, after)) :
    World.Kept before after := by
  obtain ⟨kind, path⟩ := item
  cases kind with
  | diagram => simp [prepare] at failed
  | fragment => simp [prepare] at failed
  | document =>
      rcases Action.exec_bind_eq_error_iff.1 failed with failing | ⟨_, _, _, done⟩
      · exact Press.publish_eq_error ready.press (isPart_manuscriptName file) sound.press failing
      · simp at done

theorem make_eq_error (stable : book.Stable before.runner before.base) (ready : book.Ready before)
    (file : item.path.NamesFile)
    (failed : (book.make before.base item).exec before = (.error fault, after)) :
    World.Effect before after [] (book.tools before.base item) ∧
      ∀ command ∈ book.tools before.base item, before.runner.Refuses command := by
  have tool : ∀ command, book.tools before.base item = [command] →
      ∀ logger message source report,
        (Action.runTool logger message source report command).exec before = (.error fault, after) →
        World.Effect before after [] (book.tools before.base item) ∧
          ∀ command ∈ book.tools before.base item, before.runner.Refuses command := by
    intro command only logger message source report running
    have member : command ∈ book.tools before.base item := by simp [only]
    obtain ⟨refuses, effect⟩ :=
      Action.runTool_eq_error stable.constant (isRequest_of_mem_tools member) running
    rw [only]
    exact ⟨effect, by simpa using refuses⟩
  obtain ⟨kind, path⟩ := item
  cases kind with
  | diagram => exact tool _ rfl _ _ _ _ failed
  | document => exact tool _ rfl _ _ _ _ failed
  | fragment =>
      refine ⟨?_, by simp [tools]⟩
      rcases Action.exec_bind_eq_error_iff.1 failed with failing | ⟨_, _, _, done⟩
      · exact (Press.publish_eq_error ready.press file.isPart_name stable.sound.press
          failing).effect
      · simp at done

theorem treat_eq_error (stable : book.Stable before.runner before.base) (ready : book.Ready before)
    (fit : book.Fit before.base item)
    (failed : (book.treat demanded item).exec before = (.error fault, after)) :
    book.Failed demanded item fault before after := by
  rcases preparing : (book.prepare item).exec before with ⟨refusal | _, middle⟩
  · rw [exec_treat_of_unprepared demanded preparing] at failed
    obtain ⟨same, rfl⟩ := Prod.mk.inj failed
    obtain rfl := Except.error.inj same
    have kept := prepare_eq_error stable.sound ready fit.named preparing
    exact .unprepared (kept.effect.mono (List.nil_subset _)) (congrArg Prod.fst preparing)
  obtain ⟨effect, _, _⟩ := prepare_eq_ok stable.sound ready fit.named preparing
  obtain ⟨noted, kept, treating⟩ := exec_treat_of_prepared demanded fit.named preparing
  rw [treating] at failed
  cases asked : book.askDue demanded middle.files middle.base item with
  | error refusal =>
      rw [asked] at failed
      obtain ⟨_, rfl⟩ := Prod.mk.inj failed
      refine .unanswered effect (Bool.eq_false_iff.2 fun undoubted => ?_)
      rw [askDue, if_pos undoubted] at asked
      contradiction
  | ok due =>
      cases due with
      | false => simp [asked] at failed
      | true =>
          have start := effect.trans_kept kept
          have making : (book.make noted.base item).exec noted = (.error fault, after) := by
            rw [kept.base]
            simpa only [asked] using failed
          obtain ⟨decided, finds, reaches⟩ := due_of_prepared stable.sound ready fit preparing asked
          obtain ⟨unmade, refused⟩ := make_eq_error (by rwa [start.runner, start.base])
            (ready.of_resembles start.resembles) fit.named making
          rw [start.base] at unmade refused making
          rw [start.runner] at refused
          refine .unmade ?_ refused decided.symm finds reaches (congrArg Prod.fst preparing)
            start.resembles (congrArg Prod.fst making)
          simpa using start.trans unmade

namespace Failed

/-- A treatment that failed spares its own item. -/
theorem spares (failed : book.Failed demanded item fault before after)
    (fit : book.Fit before.base item) : book.Spares item before after := by
  cases failed with
  | unprepared effect => exact .of_temporary fit effect.resembles
  | unanswered effect => exact .of_temporary fit effect.resembles
  | unmade effect => exact .of_temporary fit effect.resembles

/-- A treatment that failed has run the tools of its item or none, and what it ran is refused. -/
theorem ran (failed : book.Failed demanded item fault before after) :
    ∃ issued, World.Effect before after (book.temporaryPlaces before.base item) issued ∧
      (issued = [] ∨ issued = book.tools before.base item) ∧
      ∀ command ∈ issued, before.runner.Refuses command := by
  cases failed with
  | unprepared effect => exact ⟨[], effect, .inl rfl, by simp⟩
  | unanswered effect => exact ⟨[], effect, .inl rfl, by simp⟩
  | unmade effect refused => exact ⟨_, effect, .inr rfl, refused⟩

/-- A treatment that failed has run no tool, or its product was due. -/
theorem idle_or_due (failed : book.Failed demanded item fault before after) :
    World.Effect before after (book.temporaryPlaces before.base item) [] ∨
      book.isDue demanded before.files before.base item = true := by
  cases failed with
  | unprepared effect => exact .inl effect
  | unanswered effect => exact .inl effect
  | unmade _ _ due => exact .inr due

end Failed

/-- What a demanded treatment that failed comes to when nothing is demanded any more: it fails
again, or its product is not due, and it was the tool that failed. -/
theorem undemanded_cases {here : World} (stable : book.Stable before.runner before.base)
    (ready : book.Ready before) (fit : book.Fit before.base item) (kind : item.kind = .document)
    (failed : (book.treat true item).exec before = (.error fault, after))
    (spares : book.Spares item after here) :
    (∃ other, ((book.treat false item).exec here).1 = .error other ∧
      Alike (.error fault : Except Fault Bool) (.error other) ∧
      (World.Effect before after (book.temporaryPlaces before.base item) [] ∨
        book.isDue false here.files here.base item = true)) ∨
    (((book.treat false item).exec here).1 = .ok false ∧
      book.isDue false here.files here.base item = false ∧
      World.Effect before after (book.temporaryPlaces before.base item)
        (book.tools before.base item) ∧
      ∀ command ∈ book.tools before.base item, before.runner.Refuses command) := by
  have failure := treat_eq_error stable ready fit failed
  have spared : book.Spares item before here := (failure.spares fit).trans spares
  have fitHere : book.Fit here.base item := spared.base ▸ fit
  have stableHere := spared.stable stable
  have readyHere := spared.ready ready
  have preparing : Alike ((book.prepare item).exec before).1 ((book.prepare item).exec here).1 := by
    obtain ⟨touched, resembles, inside, undisturbed⟩ := spared
    exact prepare_alike stable.steady ready fit.named resembles inside undisturbed.source
  rcases prepared : (book.prepare item).exec here with ⟨answer, middle⟩
  rw [prepared] at preparing
  cases failure with
  | unanswered effect asked => simp [kind] at asked
  | unprepared effect refused =>
      rw [refused] at preparing
      left
      cases answer with
      | ok done => exact absurd (preparing.symm.ok rfl) (by simp)
      | error other =>
          refine ⟨other, by rw [exec_treat_of_unprepared false prepared], ?_, .inl effect⟩
          exact preparing.map fun _ => true
  | @unmade first effect refused _ finds reaches published resembles making =>
      rw [published] at preparing
      obtain rfl : answer = .ok () := preparing.ok rfl
      have onward := spares_of_prepare stableHere.sound readyHere fitHere prepared
      have whole := spared.trans onward
      obtain ⟨noted, kept, treating⟩ := exec_treat_of_prepared false fitHere.named prepared
      rw [askDue_of_reaches false (whole.finds finds) (whole.reaches reaches),
        ← onward.isDue_eq] at treating
      cases due : book.isDue false here.files here.base item with
      | false =>
          rw [due] at treating
          exact .inr ⟨congrArg Prod.fst treating, rfl, effect, refused⟩
      | true =>
          left
          rw [due] at treating
          have started : book.Spares item before first := .of_temporary fit resembles
          obtain ⟨touched, remaining, inside, undisturbed⟩ :=
            started.symm.trans (whole.trans (.of_kept book item kept))
          have alike := make_alike (started.stable stable) (started.ready ready) fit.named
            remaining inside undisturbed.source
          rw [← started.base, making, whole.base] at alike
          rw [treating]
          cases again : ((book.make middle.base item).exec noted).1 with
          | error other =>
              rw [again] at alike
              exact ⟨other, rfl, alike, .inr rfl⟩
          | ok made => exact absurd (alike.symm.ok again) (by simp)

/-- What a treatment that failed comes to when no more is demanded than before. -/
theorem failure_cases {here : World} {less : Bool}
    (stable : book.Stable before.runner before.base) (ready : book.Ready before)
    (fit : book.Fit before.base item)
    (fewer : item.kind = .document → less = true → demanded = true)
    (failed : (book.treat demanded item).exec before = (.error fault, after))
    (spares : book.Spares item after here) :
    (∃ other, ((book.treat less item).exec here).1 = .error other ∧
      Alike (.error fault : Except Fault Bool) (.error other) ∧
      (World.Effect before after (book.temporaryPlaces before.base item) [] ∨
        book.isDue less here.files here.base item = true)) ∨
    (item.kind = .document ∧ less = false ∧
      ((book.treat less item).exec here).1 = .ok false ∧
      book.isDue false here.files here.base item = false ∧
      World.Effect before after (book.temporaryPlaces before.base item)
        (book.tools before.base item) ∧
      ∀ command ∈ book.tools before.base item, before.runner.Refuses command) := by
  have failure := treat_eq_error stable ready fit failed
  have spared : book.Spares item before here := (failure.spares fit).trans spares
  by_cases same : book.treat less item = book.treat demanded item ∧
      ∀ store base, book.isDue less store base item = book.isDue demanded store base item
  · left
    have alike := treat_alike stable ready fit spared demanded
    rw [failed, ← same.1] at alike
    cases answer : ((book.treat less item).exec here).1 with
    | ok made => exact absurd (alike.symm.ok answer) (by simp)
    | error other =>
        rw [answer] at alike
        refine ⟨other, rfl, alike, failure.idle_or_due.imp_right fun due => ?_⟩
        rw [same.2, ← spared.isDue_eq, due]
  · have kind : item.kind = .document := by
      by_contra other
      exact same ⟨book.treat_of_not_document other less demanded, by simp [isDue, other]⟩
    have different : less ≠ demanded := fun equal => same ⟨by rw [equal], by simp [equal]⟩
    obtain rfl : less = false := by
      cases less with
      | false => rfl
      | true => exact absurd (fewer kind rfl).symm different
    obtain rfl : demanded = true := by simpa using different
    exact (undemanded_cases stable ready fit kind failed spares).imp_right fun lost =>
      ⟨kind, rfl, lost⟩

end Failure

end Book

end Bindery
