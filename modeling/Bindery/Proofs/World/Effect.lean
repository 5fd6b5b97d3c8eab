import Bindery.Proofs.FileStore.Access
import Bindery.Proofs.World.Attempt
import Bindery.World

/-!
Contract: what an action does to the world that a build acts on.

Owns:
- the equations and inversions by which an action is taken apart at its binds;
- `Composes`, the properties that an action has from its parts;
- `World.Kept`, worlds that differ by notes and by questions to version control only, and
  `Action.ReadOnly`, the actions that do no more than that;
- `Action.Observes`, the actions that leave the world as it is;
- `Action.Steady`, the actions whose answer does not depend on a directory, the clock or the notes;
- `World.Resembles`, worlds whose files differ at most at given places, and `Action.Confined`, the
  actions that change no others, whether or not they fail;
- `World.Effect`, the footprint of an action: the places it may have changed and the tools it ran.

Does not own: what the actions of a build are (`Bindery.Proofs.Build.Treatment`).
-/

namespace Bindery

namespace Action

/-! ## Taking actions apart -/

section Equations

variable {α β : Type}

@[simp]
theorem exec_observe (reading : World → Except Fault α) (world : World) :
    (observe reading).exec world = (reading world, world) := rfl

@[simp]
theorem exec_update (change : World → World) (world : World) :
    (update change).exec world = (.ok (), change world) := rfl

@[simp]
theorem exec_fail (fault : Fault) (world : World) :
    (fail fault : Action α).exec world = (.error fault, world) := rfl

/-- A run that has no value has failed, and one that has a value has answered it. -/
theorem exists_error_of_toOption {result : Except Fault α × World}
    (failed : result.1.toOption = none) : ∃ fault after, result = (.error fault, after) := by
  obtain ⟨answer, after⟩ := result
  cases answer with
  | error fault => exact ⟨fault, after, rfl⟩
  | ok value => contradiction

theorem exists_ok_of_toOption {result : Except Fault α × World} {value : α}
    (answered : result.1.toOption = some value) : ∃ after, result = (.ok value, after) := by
  obtain ⟨answer, after⟩ := result
  cases answer with
  | error fault => contradiction
  | ok found => exact ⟨after, by rw [Option.some.inj answered]⟩

theorem exec_bind_of_ok {action : Action α} {world middle : World} {first : α}
    (ran : action.exec world = (.ok first, middle)) (next : α → Action β) :
    (action >>= next).exec world = (next first).exec middle := by
  rw [exec_bind, ran]

theorem exec_bind_of_error {action : Action α} {world middle : World} {fault : Fault}
    (ran : action.exec world = (.error fault, middle)) (next : α → Action β) :
    (action >>= next).exec world = (.error fault, middle) := by
  rw [exec_bind, ran]

theorem exec_bind_eq_ok_iff {action : Action α} {next : α → Action β} {world after : World}
    {value : β} :
    (action >>= next).exec world = (.ok value, after) ↔
      ∃ first middle, action.exec world = (.ok first, middle) ∧
        (next first).exec middle = (.ok value, after) :=
  Attempt.exec_bind_eq_ok_iff

theorem exec_bind_eq_error_iff {action : Action α} {next : α → Action β} {world after : World}
    {fault : Fault} :
    (action >>= next).exec world = (.error fault, after) ↔
      action.exec world = (.error fault, after) ∨
        ∃ first middle, action.exec world = (.ok first, middle) ∧
          (next first).exec middle = (.error fault, after) :=
  Attempt.exec_bind_eq_error_iff

end Equations

end Action

/-! ## Notes and questions -/

/-- A question to version control, which is asked inside the source repository. The commands of
tools name no directory to run in. -/
def Command.isRequest (command : Command) : Bool :=
  command.args.head? = some "git" && command.directory.isSome

namespace World

/-- What a build acts on is as before; notes and questions to version control may be added. -/
structure Kept (before after : World) : Prop where
  files : after.files = before.files
  now : after.now = before.now
  base : after.base = before.base
  runner : after.runner = before.runner
  asked : ∃ requests : List Command, after.commands = before.commands ++ requests ∧
    ∀ request ∈ requests, request.isRequest = true

/-- Worlds with one working directory and runner that hold the same outside of a directory. -/
structure SameBeside (directory : Place) (left right : World) : Prop where
  base : left.base = right.base
  runner : left.runner = right.runner
  files : ∀ place, ¬ directory <+: place → left.files.find? place = right.files.find? place

/-- Worlds with one working directory and runner whose files differ at most at the touched places. -/
structure Resembles (touched : List Place) (left right : World) : Prop where
  base : left.base = right.base
  runner : left.runner = right.runner
  files : left.files.AgreesOn (· ∉ touched) right.files

/-- The footprint of an action: it has changed no place but the touched ones, made or removed no
directory, and run exactly these tools. -/
structure Effect (before after : World) (touched : List Place) (tools : List Command) : Prop where
  files : before.files.AgreesOn (· ∉ touched) after.files
  now : after.now = before.now
  base : after.base = before.base
  runner : after.runner = before.runner
  ran : ∃ issued : List Command, after.commands = before.commands ++ issued ∧
    issued.filter (fun command => !command.isRequest) = tools

namespace Kept

variable {before middle after : World}

/-- Nothing but notes differs. -/
theorem of_noted (files : after.files = before.files) (now : after.now = before.now)
    (base : after.base = before.base) (runner : after.runner = before.runner)
    (commands : after.commands = before.commands) : Kept before after :=
  ⟨files, now, base, runner, [], commands.trans (List.append_nil _).symm, by simp⟩

theorem refl (world : World) : Kept world world :=
  of_noted rfl rfl rfl rfl rfl

theorem trans (first : Kept before middle) (second : Kept middle after) : Kept before after := by
  obtain ⟨earlier, askedEarlier, allEarlier⟩ := first.asked
  obtain ⟨later, askedLater, allLater⟩ := second.asked
  refine ⟨second.files.trans first.files, second.now.trans first.now,
    second.base.trans first.base, second.runner.trans first.runner, earlier ++ later, ?_, ?_⟩
  · rw [askedLater, askedEarlier, List.append_assoc]
  · intro request member
    rcases List.mem_append.1 member with early | late
    · exact allEarlier request early
    · exact allLater request late

theorem effect (kept : Kept before after) : Effect before after [] [] := by
  obtain ⟨requests, asked, all⟩ := kept.asked
  refine ⟨?_, kept.now, kept.base, kept.runner, requests, asked, ?_⟩
  · rw [kept.files]
    exact .refl _ _
  · simpa using all

end Kept

namespace Effect

variable {before middle after : World} {earlier later touched : List Place}
  {earlierTools laterTools tools : List Command}

theorem trans (first : Effect before middle earlier earlierTools)
    (second : Effect middle after later laterTools) :
    Effect before after (earlier ++ later) (earlierTools ++ laterTools) := by
  obtain ⟨front, ranFront, rfl⟩ := first.ran
  obtain ⟨back, ranBack, rfl⟩ := second.ran
  refine ⟨?_, second.now.trans first.now, second.base.trans first.base,
    second.runner.trans first.runner, front ++ back, ?_, List.filter_append ..⟩
  · refine (first.files.mono ?_).trans (second.files.mono ?_)
    · exact fun place outside early => outside (List.mem_append_left _ early)
    · exact fun place outside late => outside (List.mem_append_right _ late)
  · rw [ranBack, ranFront, List.append_assoc]

theorem mono {more : List Place} (effect : Effect before after touched tools)
    (among : touched ⊆ more) : Effect before after more tools :=
  ⟨effect.files.mono fun _ outside member => outside (among member), effect.now, effect.base,
    effect.runner, effect.ran⟩

theorem trans_kept (first : Effect before middle touched tools) (second : Kept middle after) :
    Effect before after touched tools := by
  simpa using first.trans second.effect

theorem kept_trans (first : Kept before middle) (second : Effect middle after touched tools) :
    Effect before after touched tools := by
  simpa using first.effect.trans second

theorem resembles (effect : Effect before after touched tools) : Resembles touched before after :=
  ⟨effect.base.symm, effect.runner.symm, effect.files⟩

end Effect

namespace Resembles

variable {left middle right : World} {touched more : List Place}

theorem refl (touched : List Place) (world : World) : Resembles touched world world :=
  ⟨rfl, rfl, .refl _ _⟩

theorem symm (resembles : Resembles touched left right) : Resembles touched right left :=
  ⟨resembles.base.symm, resembles.runner.symm, resembles.files.symm⟩

theorem trans (first : Resembles touched left middle) (second : Resembles touched middle right) :
    Resembles touched left right :=
  ⟨first.base.trans second.base, first.runner.trans second.runner,
    first.files.trans second.files⟩

theorem mono (resembles : Resembles touched left right) (among : touched ⊆ more) :
    Resembles more left right :=
  ⟨resembles.base, resembles.runner, resembles.files.mono fun _ outside member =>
    outside (among member)⟩

/-- Worlds that differ inside a directory only are the same beside it. -/
theorem sameBeside {directory : Place} (resembles : Resembles touched left right)
    (inside : ∀ place ∈ touched, directory <+: place) : SameBeside directory left right :=
  ⟨resembles.base, resembles.runner, fun place beside =>
    resembles.files.nodes place fun member => beside (inside place member)⟩

end Resembles

theorem Kept.resembles {before after : World} (kept : Kept before after) (touched : List Place) :
    Resembles touched before after :=
  kept.effect.resembles.mono (List.nil_subset _)

namespace SameBeside

variable {directory : Place} {left middle right : World}

theorem refl (directory : Place) (world : World) : SameBeside directory world world :=
  ⟨rfl, rfl, fun _ _ => rfl⟩

theorem symm (same : SameBeside directory left right) : SameBeside directory right left :=
  ⟨same.base.symm, same.runner.symm, fun place beside => (same.files place beside).symm⟩

theorem trans (first : SameBeside directory left middle)
    (second : SameBeside directory middle right) : SameBeside directory left right :=
  ⟨first.base.trans second.base, first.runner.trans second.runner, fun place beside =>
    (first.files place beside).trans (second.files place beside)⟩

end SameBeside

theorem Kept.sameBeside {before after : World} (kept : Kept before after) (directory : Place) :
    SameBeside directory before after :=
  (kept.resembles []).sameBeside (by simp)

end World

def World.logged (world : World) (event : Event) : World :=
  { world with events := world.events ++ [event] }

theorem World.kept_logged (world : World) (event : Event) : Kept world (world.logged event) :=
  .of_noted rfl rfl rfl rfl rfl

namespace Action

@[simp]
theorem exec_log (level : Level) (logger message : String) (fields : Entries) (world : World) :
    (log level logger message fields).exec world =
      (.ok (), world.logged ⟨level, logger, message, fields⟩) := rfl

/-- What is due is made after a note; what is not due is noted as well. -/
theorem exec_whenDue {ask make : Action Bool} {level other : Level}
    {logger message otherLogger otherMessage : String} {fields otherFields : Entries}
    {world : World} {answer : Except Fault Bool} :
    ask.exec world = (answer, world) → ∃ noted, World.Kept world noted ∧
      (ask >>= fun due =>
        if due then log level logger message fields >>= fun _ => make
        else log other otherLogger otherMessage otherFields >>= fun _ => pure false).exec world =
        match answer with
        | .error fault => (.error fault, world)
        | .ok true => make.exec noted
        | .ok false => (.ok false, noted) := by
  intro asked
  rw [exec_bind, asked]
  cases answer with
  | error fault => exact ⟨world, .refl world, rfl⟩
  | ok due =>
      cases due with
      | true =>
          refine ⟨_, world.kept_logged ⟨level, logger, message, fields⟩, ?_⟩
          simp only [if_true]
          rw [exec_bind, exec_log]
      | false =>
          exact ⟨_, world.kept_logged ⟨other, otherLogger, otherMessage, otherFields⟩, rfl⟩

/-! ## Properties of whole actions -/

/-- A property that an action has from its parts: what answers, fails or takes notes has it, and
binds hand it on. -/
structure Composes (Holds : ∀ {α : Type}, Action α → Prop) : Prop where
  pure : ∀ {α : Type} (value : α), Holds (Pure.pure value : Action α)
  fail : ∀ {α : Type} (fault : Fault), Holds (fail fault : Action α)
  log : ∀ (level : Level) (logger message : String) (fields : Entries),
    Holds (log level logger message fields)
  bind : ∀ {α β : Type} {action : Action α} {next : α → Action β}, Holds action →
    (∀ value, Holds (next value)) → Holds (action >>= next)

/-- What is made when it is due has the property when the question and the making have it. -/
theorem Composes.whenDue {Holds : ∀ {α : Type}, Action α → Prop} (composes : Composes Holds)
    {ask make : Action Bool} {level other : Level}
    {logger message otherLogger otherMessage : String} {fields otherFields : Entries}
    (asks : Holds ask) (makes : Holds make) :
    Holds (ask >>= fun due =>
      if due then Action.log level logger message fields >>= fun _ => make
      else Action.log other otherLogger otherMessage otherFields >>= fun _ => Pure.pure false) := by
  refine composes.bind asks fun due => ?_
  split
  · exact composes.bind (composes.log _ _ _ _) fun _ => makes
  · exact composes.bind (composes.log _ _ _ _) fun _ => composes.pure false

/-! ## Actions that only read -/

section ReadOnly

variable {α β : Type} {runner : Runner}

/-- An action that does no more than ask and take notes, whether or not it fails. -/
def ReadOnly (runner : Runner) (action : Action α) : Prop :=
  ∀ world : World, world.runner = runner → World.Kept world (action.exec world).2

theorem readOnly_pure (value : α) : ReadOnly runner (pure value) :=
  fun world _ => .refl world

theorem readOnly_observe (reading : World → Except Fault α) : ReadOnly runner (observe reading) :=
  fun world _ => .refl world

theorem readOnly_fail (fault : Fault) : ReadOnly runner (fail fault : Action α) :=
  fun world _ => .refl world

theorem readOnly_update {change : World → World} (keeps : ∀ world, World.Kept world (change world)) :
    ReadOnly runner (update change) :=
  fun world _ => keeps world

theorem readOnly_log (level : Level) (logger message : String) (fields : Entries) :
    ReadOnly runner (log level logger message fields) :=
  readOnly_update fun world => world.kept_logged ⟨level, logger, message, fields⟩

theorem readOnly_bind {action : Action α} {next : α → Action β} (first : ReadOnly runner action)
    (rest : ∀ value, ReadOnly runner (next value)) : ReadOnly runner (action >>= next) := by
  intro world same
  have start := first world same
  rw [exec_bind]
  split
  · rename_i value middle ran
    rw [ran] at start
    exact start.trans (rest value middle (start.runner.trans same))
  · rename_i fault middle ran
    rwa [ran] at start

theorem readOnly_readText (path : Path) : ReadOnly runner (readText path) :=
  readOnly_bind (readOnly_observe _) fun _ => readOnly_pure _

theorem composes_readOnly : Composes (ReadOnly runner) where
  pure := readOnly_pure
  fail := readOnly_fail
  log := readOnly_log
  bind := readOnly_bind

theorem ReadOnly.kept {action : Action α} (reads : ReadOnly runner action) {world after : World}
    {answer : Except Fault α} (same : world.runner = runner)
    (ran : action.exec world = (answer, after)) : World.Kept world after := by
  simpa [ran] using reads world same

end ReadOnly

/-! ## Actions that only observe -/

section Observes

variable {α β : Type}

/-- An action that leaves the world as it is, whether or not it fails. -/
def Observes (action : Action α) : Prop :=
  ∀ world, (action.exec world).2 = world

theorem observes_pure (value : α) : Observes (pure value) := fun _ => rfl

theorem observes_observe (reading : World → Except Fault α) : Observes (observe reading) := fun _ => rfl

theorem observes_fail (fault : Fault) : Observes (fail fault : Action α) := fun _ => rfl

theorem observes_bind {action : Action α} {next : α → Action β} (first : Observes action)
    (rest : ∀ value, Observes (next value)) : Observes (action >>= next) := by
  intro world
  have start := first world
  rw [exec_bind]
  split
  · rename_i value middle ran
    rw [ran] at start
    rw [rest value middle]
    exact start
  · rename_i fault middle ran
    rw [ran] at start
    exact start

/-- The answer of an action that only observes, and the world it leaves to the next one. -/
theorem Observes.exec_eq {action : Action α} (observes : Observes action) {world : World} {value : α}
    (answered : (action.exec world).1 = .ok value) : action.exec world = (.ok value, world) :=
  Prod.ext answered (observes world)

theorem Observes.of_exec {action : Action α} (observes : Observes action) {world after : World} {value : α}
    (ran : action.exec world = (.ok value, after)) :
    (action.exec world).1 = .ok value ∧ after = world := by
  have same := observes world
  rw [ran] at same ⊢
  exact ⟨rfl, same⟩

end Observes

/-! ## Actions with a steady answer -/

section Steady

variable {α β : Type} {runner : Runner} {directory : Place}

/-- An action that answers the same in worlds that differ only inside a directory, by the clock and
by notes. -/
def Steady (runner : Runner) (directory : Place) (action : Action α) : Prop :=
  ∀ left right : World, left.runner = runner → World.SameBeside directory left right →
    (action.exec left).1 = (action.exec right).1

theorem steady_pure (value : α) : Steady runner directory (pure value) :=
  fun _ _ _ _ => rfl

theorem steady_fail (fault : Fault) : Steady runner directory (fail fault : Action α) :=
  fun _ _ _ _ => rfl

theorem steady_update (change : World → World) : Steady runner directory (update change) :=
  fun _ _ _ _ => rfl

theorem steady_bind {action : Action α} {next : α → Action β} (reads : ReadOnly runner action)
    (first : Steady runner directory action)
    (rest : ∀ value, Steady runner directory (next value)) :
    Steady runner directory (action >>= next) := by
  intro left right same beside
  have answers := first left right same beside
  have keptLeft := reads left same
  have keptRight := reads right (beside.runner.symm.trans same)
  rw [exec_bind, exec_bind]
  rcases ranLeft : action.exec left with ⟨answerLeft, afterLeft⟩
  rcases ranRight : action.exec right with ⟨answerRight, afterRight⟩
  rw [ranLeft] at answers keptLeft
  rw [ranRight] at answers keptRight
  obtain rfl : answerLeft = answerRight := answers
  cases answerLeft with
  | error fault => rfl
  | ok value =>
      exact rest value afterLeft afterRight (keptLeft.runner.trans same)
        ((keptLeft.sameBeside directory).symm.trans
          (beside.trans (keptRight.sameBeside directory)))

theorem composes_steady :
    Composes fun action => ReadOnly runner action ∧ Steady runner directory action where
  pure value := ⟨readOnly_pure value, steady_pure value⟩
  fail fault := ⟨readOnly_fail fault, steady_fail fault⟩
  log level logger message fields :=
    ⟨readOnly_log level logger message fields, steady_update _⟩
  bind first rest := ⟨readOnly_bind first.1 fun value => (rest value).1,
    steady_bind first.1 first.2 fun value => (rest value).2⟩

end Steady

/-! ## Actions that are confined to some places -/

section Confined

variable {α β : Type} {runner : Runner} {base : Place} {directory : Path} {touched more : List Place}

/-- An action that, where a directory is there, changes nothing but the touched places, whether or
not it fails. -/
def Confined (runner : Runner) (base : Place) (directory : Path) (touched : List Place)
    (action : Action α) : Prop :=
  ∀ world : World, world.runner = runner → world.base = base →
    world.files.isDirectory base directory = .ok true →
    World.Resembles touched world (action.exec world).2

theorem ReadOnly.confined {action : Action α} (reads : ReadOnly runner action) :
    Confined runner base directory touched action :=
  fun world same _ _ => (reads world same).resembles touched

theorem Confined.mono {action : Action α} (confined : Confined runner base directory touched action)
    (among : touched ⊆ more) : Confined runner base directory more action :=
  fun world same here there => (confined world same here there).mono among

theorem confined_bind {action : Action α} {next : α → Action β}
    (first : Confined runner base directory touched action)
    (rest : ∀ value, Confined runner base directory touched (next value)) :
    Confined runner base directory touched (action >>= next) := by
  intro world same here there
  have start := first world same here there
  rw [exec_bind]
  split
  · rename_i value middle ran
    rw [ran] at start
    exact start.trans (rest value middle (start.runner.symm.trans same)
      (start.base.symm.trans here) (FileStore.isDirectory_of_agreesOn start.files there))
  · rename_i fault middle ran
    rwa [ran] at start

theorem composes_confined : Composes (Confined runner base directory touched) where
  pure value := (readOnly_pure value).confined
  fail fault := (readOnly_fail fault).confined
  log level logger message fields := (readOnly_log level logger message fields).confined
  bind := confined_bind

end Confined

end Action

end Bindery
