import Bindery.Proofs.Build.Operation

/-!
Contract: what leaves an operation on a book.

Owns:
- `Operation`, the four operations of a book with their arguments, and `perform`, their meaning;
- `Coherent`, an outcome whose parts fit each other, and `Handled`, an answer in which nothing that
  is to be reported has been raised;
- the theorem that every operation handles what it meets, unless it looks for the sources itself and
  the file system refuses to be looked at, and a project in which that happens.

Does not own: which outcome an operation comes to (`Bindery.Proofs.Build.Operation`).
-/

namespace Bindery

open Source

/-! ## Outcomes whose parts fit each other -/

/-- An outcome has an error exactly when it did not succeed, and then it tells nothing else. -/
structure Outcome.Coherent (outcome : Outcome) : Prop where
  ok : outcome.ok = true ↔ outcome.error = none
  empty : outcome.ok = false → outcome.data = [] ∧ outcome.warnings = []

namespace Outcome

theorem coherent_success (op : String) (data : Entries) (warnings : List String) :
    (success op data warnings).Coherent :=
  ⟨by simp [success], by simp [success]⟩

theorem coherent_failed (op : String) (failure : Failure) : (failed op failure).Coherent :=
  ⟨by simp [failed], by simp [failed]⟩

theorem coherent_remark_iff {outcome : Outcome} {key : String} {value : Value} :
    (outcome.remark key value).Coherent ↔ outcome.Coherent :=
  ⟨fun coherent => ⟨coherent.ok, coherent.empty⟩, fun coherent => ⟨coherent.ok, coherent.empty⟩⟩

end Outcome

namespace Book

/-! ## Operations and their answers -/

/-- An operation with its arguments. -/
inductive Operation where
  | build (chosen : Option Collection)
  | drawDiagrams (chosen : Option Collection)
  | renderManuscript (source : Path) (name : Option String)
  | showExcerpt (location : String) (name : Option String)

def perform (book : Book) : Operation → Action Outcome
  | .build chosen => book.build chosen
  | .drawDiagrams chosen => book.drawDiagrams chosen
  | .renderManuscript source name => book.renderManuscript source name
  | .showExcerpt location name => book.showExcerpt location name

/-- Whether an operation looks for the sources itself. -/
def Operation.finds : Operation → Bool
  | .build chosen | .drawDiagrams chosen => chosen.isNone
  | .renderManuscript .. | .showExcerpt .. => false

/-- A coherent outcome, or a fault that is neither an error of a build nor a refusal of the file
system. -/
inductive Handled : Except Fault Outcome → Prop where
  | answered {outcome : Outcome} (coherent : outcome.Coherent) : Handled (.ok outcome)
  | passed {fault : Fault} (unreported : reported? fault = none) : Handled (.error fault)

theorem handled_error_iff {fault : Fault} :
    Handled (.error fault) ↔ reported? fault = none := by
  constructor
  · intro handled
    cases handled with
    | passed unreported => exact unreported
  · exact .passed

theorem handled_ok_iff {outcome : Outcome} : Handled (.ok outcome) ↔ outcome.Coherent := by
  constructor
  · intro handled
    cases handled with
    | answered coherent => exact coherent
  · exact .answered

/-- A remark on an outcome makes no difference. -/
theorem Told.handled_iff {answer told : Except Fault Outcome} (tells : Told answer told) :
    Handled told ↔ Handled answer := by
  cases tells with
  | same => exact Iff.rfl
  | remarked outcome key value =>
      rw [handled_ok_iff, handled_ok_iff, Outcome.coherent_remark_iff]

/-- Of the faults that are no errors of a build, the refusals of the file system are reported. -/
theorem reported?_eq_none_iff {fault : Fault} (foreign : fault.IsForeign) :
    reported? fault = none ↔ ∀ refusal, fault ≠ .io refusal := by
  cases fault with
  | build error => exact absurd rfl (foreign error)
  | io refusal => simp [reported?]
  | _ => simp [reported?]

/-! ## The handler -/

/-- An action that answers with coherent outcomes only. -/
def Tells (action : Action Outcome) : Prop :=
  ∀ world outcome, (action.exec world).1 = .ok outcome → outcome.Coherent

theorem tells_bind {α : Type} (first : Action α) {next : α → Action Outcome}
    (rest : ∀ value, Tells (next value)) : Tells (first >>= next) := by
  intro world outcome answered
  rw [Action.exec_bind] at answered
  split at answered
  · exact rest _ _ _ answered
  · contradiction

theorem tells_success (op : String) (data : Entries) (warnings : List String) :
    Tells (pure (.success op data warnings)) := by
  intro world outcome answered
  obtain rfl := Except.ok.inj answered
  exact Outcome.coherent_success op data warnings

/-- A note on a failure that is always taken. -/
def Quiet (note : Failure → Action Unit) : Prop :=
  ∀ failure world, ((note failure).exec world).1 = .ok ()

theorem quiet_silent : Quiet silent :=
  fun _ _ => rfl

theorem quiet_noteFailure : Quiet noteFailure :=
  fun _ _ => rfl

/-- Whatever an action raises, it is handled. -/
theorem handled_settle {op : String} {note : Failure → Action Unit} {action : Action Outcome}
    (quiet : Quiet note) (tells : Tells action)
    (world : World) : Handled ((settle op note action).exec world).1 := by
  unfold settle
  rw [Action.exec_ofEffect]
  rcases ran : action.exec world with ⟨fault | outcome, after⟩
  · cases reporting : reported? fault with
    | none =>
        simp only [reporting]
        exact .passed reporting
    | some failure =>
        simp only [reporting]
        have noted : (note failure).exec after = (.ok (), ((note failure).exec after).2) :=
          Prod.ext (quiet failure after) rfl
        rw [Action.exec_bind_of_ok noted]
        exact .answered (Outcome.coherent_failed op failure)
  · exact .answered (tells world outcome (congrArg Prod.fst ran))

/-- A success is the action's own; what is handled becomes a failure. -/
theorem settle_eq_ok {op : String} {note : Failure → Action Unit} {action : Action Outcome}
    {world after : World} {outcome : Outcome}
    (ran : (settle op note action).exec world = (.ok outcome, after)) (ok : outcome.ok = true) :
    action.exec world = (.ok outcome, after) := by
  unfold settle at ran
  rw [Action.exec_ofEffect] at ran
  rcases inside : action.exec world with ⟨fault | told, middle⟩
  · rw [inside] at ran
    cases reporting : reported? fault with
    | none =>
        simp only [reporting] at ran
        obtain ⟨raised, _⟩ := Prod.mk.inj ran
        contradiction
    | some failure =>
        simp only [reporting] at ran
        obtain ⟨_, _, _, answered⟩ := Action.exec_bind_eq_ok_iff.1 ran
        obtain ⟨same, _⟩ := Prod.mk.inj answered
        obtain rfl := Except.ok.inj same
        contradiction
  · rw [inside] at ran
    exact ran

/-- A recorded operation that succeeds has acted with success, and only notes were taken around
it. -/
theorem acted_of_recorded {name : String} {operation : Action Outcome} {world after : World}
    {outcome : Outcome} (ran : (recorded name operation).exec world = (.ok outcome, after)) (ok : outcome.ok = true) :
    ∃ opened told inside, World.Kept world opened ∧
      operation.exec opened = (.ok told, inside) ∧ told.ok = true ∧ World.Kept inside after := by
  obtain ⟨answer, finish, again, kept, told⟩ := exec_recorded name operation world
  obtain ⟨rfl, rfl⟩ := Prod.mk.inj (again.symm.trans ran)
  have opening := world.kept_opening name
  rcases acted : operation.exec (world.opening name) with ⟨result, inside⟩
  rw [acted] at kept told
  cases told with
  | same => exact ⟨_, outcome, inside, opening, acted, ok, kept⟩
  | remarked first key value => exact ⟨_, first, inside, opening, acted, ok, kept⟩

/-! ## Operations on sources -/

/-- Taking sources that are given raises nothing, and finding them raises no error of a build. -/
theorem raises_sourcesOr (book : Book) (chosen : Option Collection) (runner : Runner)
    (base : Place) : (book.sourcesOr chosen).Raises runner base Fault.IsForeign := by
  cases chosen with
  | some sources => exact Action.raises_pure sources
  | none => exact book.raises_sources runner base

/-- What is raised while sources are looked for leaves the operation. -/
theorem exec_recorded_of_error {book : Book} {name : String} {chosen : Option Collection}
    {treat : Collection → Action Outcome} {world : World} {fault : Fault}
    (failed : ((book.sourcesOr chosen).exec world).1 = .error fault) :
    ((recorded name (book.sourcesOr chosen >>= treat)).exec world).1 = .error fault := by
  obtain ⟨answer, finish, ran, _, told⟩ := exec_recorded name (book.sourcesOr chosen >>= treat) world
  have opened := world.kept_opening name
  have finding := (book.looks_sourcesOr chosen).exec_of_answer opened.files opened.base failed
  rw [Action.exec_bind_of_error finding] at told
  rw [ran]
  cases told with
  | same => rfl

/-- An operation that handles what it meets with any sources lets nothing out but a refusal met
while the sources are looked for. -/
theorem handled_recorded_iff {book : Book} {name : String} {chosen : Option Collection}
    {treat : Collection → Action Outcome} {world : World}
    (handles : ∀ sources start, Handled ((treat sources).exec start).1) :
    Handled ((recorded name (book.sourcesOr chosen >>= treat)).exec world).1 ↔
      ¬ (chosen.isNone = true ∧
        ∃ refusal, (book.sources.exec world).1 = .error (.io refusal)) := by
  cases found : ((book.sourcesOr chosen).exec world).1 with
  | ok sources =>
      obtain ⟨answer, finish, ran, _, told⟩ :=
        exec_recorded name (book.sourcesOr chosen >>= treat) world
      have opened := world.kept_opening name
      have finding := (book.looks_sourcesOr chosen).exec_of_answer opened.files opened.base found
      rw [ran, told.handled_iff, Action.exec_bind_of_ok finding]
      refine iff_of_true (handles sources _) ?_
      rintro ⟨missing, refusal, refused⟩
      obtain rfl := Option.isNone_iff_eq_none.1 missing
      rw [sourcesOr, refused] at found
      contradiction
  | error fault =>
      have foreign := (book.raises_sourcesOr chosen world.runner world.base world rfl rfl).2.2
        fault found
      rw [exec_recorded_of_error found, handled_error_iff, reported?_eq_none_iff foreign]
      cases chosen with
      | some sources => contradiction
      | none =>
          rw [sourcesOr] at found
          simp [found]

theorem handled_recorded {name : String} {operation : Action Outcome}
    (handles : ∀ start, Handled (operation.exec start).1) (world : World) :
    Handled ((recorded name operation).exec world).1 := by
  obtain ⟨answer, finish, ran, _, told⟩ := exec_recorded name operation world
  rw [ran, told.handled_iff]
  exact handles _

/-! ## The theorem -/

/-- Nothing that is to be reported leaves an operation as a fault, and what it answers is coherent,
exactly when the operation does not meet a refusal of the file system while it looks for the
sources itself. -/
theorem perform_handled_iff (book : Book) (operation : Operation) (world : World) :
    Handled ((book.perform operation).exec world).1 ↔
      ¬ (operation.finds = true ∧
        ∃ refusal, (book.sources.exec world).1 = .error (.io refusal)) := by
  cases operation with
  | build chosen =>
      exact handled_recorded_iff fun sources start => handled_settle quiet_noteFailure
        (tells_bind _ fun _ => tells_bind _ fun _ => tells_success _ _ _) _
  | drawDiagrams chosen =>
      exact handled_recorded_iff fun sources start => handled_settle quiet_silent
        (tells_bind _ fun _ => tells_bind _ fun _ => tells_success _ _ _) _
  | renderManuscript source name =>
      refine iff_of_true (handled_recorded (fun start => ?_) world) (by simp [Operation.finds])
      exact handled_settle quiet_silent
        (tells_bind _ fun _ => tells_bind _ fun _ => tells_success _ _ _) _
  | showExcerpt location name =>
      refine iff_of_true ?_ (by simp [Operation.finds])
      exact handled_settle quiet_silent
        (tells_bind _ fun _ => tells_bind _ fun _ => tells_success _ _ _) _

/-! ## A project that cannot be looked at -/

/-- A name of more bytes than a name can have. -/
def overlongName : String :=
  String.ofList (List.replicate (FileStore.nameLimit + 1) 'a')

/-- The small book without diagrams, with an overlong name for its directory of documents. -/
def overlongBook : Book :=
  { sampleBook with
    latexDirectory := .ofPlace [overlongName]
    graphvizDirectory := .ofPlace ["none"] }

theorem utf8ByteSize_replicate (count : Nat) :
    (String.ofList (List.replicate count 'a')).utf8ByteSize = count := by
  induction count with
  | zero => rfl
  | succ count inductionHypothesis =>
      have byte : 'a'.utf8Size = 1 := by decide
      rw [List.replicate_succ, String.ofList_cons, String.utf8ByteSize_append,
        inductionHypothesis, String.utf8ByteSize_singleton]
      omega

/-- A refusal that does not come from something missing is passed on to who asks for a
directory. -/
theorem isDirectory_of_refusal {store : FileStore} {base : Place} {path : Path} {refusal : IoFault}
    (present : refusal.cause.isAbsence = false)
    (refused : store.locate base path = .error (.io refusal)) :
    store.isDirectory base path = .error (.io refusal) := by
  have other : ¬ (refusal.cause = .notFound ∨ refusal.cause = .notDirectory) := by
    simpa [IoCause.isAbsence] using present
  simp [FileStore.isDirectory, FileStore.status?, FileStore.status, refused, other, Except.map]

theorem isDirectory_overlongName (store : FileStore) (base : Place) :
    store.isDirectory base (.ofPlace [overlongName]) =
      .error (.io ⟨.nameTooLong, (Path.ofPlace [overlongName]).render⟩) := by
  have size : overlongName.utf8ByteSize = FileStore.nameLimit + 1 := utf8ByteSize_replicate _
  have ordinary : overlongName ≠ ".." := by
    intro same
    rw [same] at size
    contradiction
  have clean : (Path.ofPlace [overlongName]).hasNull = false := by
    have letters : overlongName.toList = List.replicate (FileStore.nameLimit + 1) 'a' :=
      String.toList_ofList
    simp only [Path.hasNull, Path.ofPlace, List.any_cons, List.any_nil, letters]
    simp [List.mem_replicate]
  have short : ¬ FileStore.pathLimit < (Path.ofPlace [overlongName]).render.utf8ByteSize := by
    have slash : "/".utf8ByteSize = 1 := by decide
    simp [Path.render, Path.ofPlace, Path.Anchor.slashes, size, slash, FileStore.nameLimit,
      FileStore.pathLimit]
  have walked : store.walk [] [overlongName] = .error .nameTooLong := by
    simp [FileStore.walk, ordinary, size]
  have start : (Path.ofPlace [overlongName]).isAbsolute = true := rfl
  have parts : (Path.ofPlace [overlongName]).parts = [overlongName] := rfl
  refine isDirectory_of_refusal rfl ?_
  rw [FileStore.locate, clean, start, parts, if_neg short, if_pos rfl, walked]
  rfl

set_option maxRecDepth 4000 in
/-- A build of that book raises the refusal of the file system and answers nothing. -/
theorem overlongBook_raises :
    ((overlongBook.perform (.build none)).exec writtenWorld).1 =
        .error (.io ⟨.nameTooLong, overlongBook.latexDirectory.render⟩) ∧
      ¬ Handled ((overlongBook.perform (.build none)).exec writtenWorld).1 := by
  have diagrams : (findDiagrams (.ofPlace ["none"]) renderers).exec writtenWorld =
      (.ok [], writtenWorld) := rfl
  have refused : (Action.isDirectory overlongBook.latexDirectory).exec writtenWorld =
      (.error (.io ⟨.nameTooLong, overlongBook.latexDirectory.render⟩), writtenWorld) :=
    congrArg (fun answer => (answer, writtenWorld)) (isDirectory_overlongName _ _)
  have fragments : (find overlongBook.latexDirectory fragmentSuffix).exec writtenWorld =
      (.error (.io ⟨.nameTooLong, overlongBook.latexDirectory.render⟩), writtenWorld) :=
    Action.exec_bind_of_error refused _
  have finding : overlongBook.sources.exec writtenWorld =
      (.error (.io ⟨.nameTooLong, overlongBook.latexDirectory.render⟩), writtenWorld) :=
    (Action.exec_bind_of_ok diagrams _).trans (Action.exec_bind_of_error fragments _)
  have raised : ((overlongBook.perform (.build none)).exec writtenWorld).1 =
      .error (.io ⟨.nameTooLong, overlongBook.latexDirectory.render⟩) :=
    exec_recorded_of_error (congrArg Prod.fst finding)
  refine ⟨raised, ?_⟩
  rw [raised, handled_error_iff]
  simp [reported?]

end Book

end Bindery
