import Bindery.Proofs.Build.Operation
import Bindery.Proofs.Press.Publishing

/-!
Contract: a source that cannot be read or rendered.

Owns:
- `Press.draft`, the part of publishing that comes before anything is written;
- `Route`, the three ways in which a source is rendered into the target directory, with the world in
  which each of them begins to read;
- that a draft which fails, whatever version control has done for it, ends each of them: nothing but
  notes follows, so that files, directories, commands and the staleness of fragments are as before.

Does **not** own: what is written when the draft succeeds (`Bindery.Proofs.Press.Publishing`), and
the build of all sources (`Bindery.Proofs.Build.Stopping`).
-/

namespace Bindery

namespace Press

variable {press : Press} {source : Path} {name : String} {world middle : World} {fault : Fault}

/-- Reads a source and renders it. -/
def draft (press : Press) (source : Path) : Action String := do
  press.render (← .readText source)

/-- Directories are made and files written behind the draft. -/
theorem publish_eq (press : Press) (source : Path) (name : String) :
    press.publish source name = do
      let rendered ← press.draft source
      let written ← .writeText (press.targetDirectory.joinText name) rendered
      .log .debug logger "preprocess.write"
        [("source", .str source.render), ("output", .str written.render)]
      return written := by
  unfold publish draft
  rw [bind_assoc]

theorem exec_publish_of_undrafted
    (failed : (press.draft source).exec world = (.error fault, middle)) :
    (press.publish source name).exec world = (.error fault, middle) := by
  rw [publish_eq, Action.exec_bind_of_error failed]

theorem readOnly_draft {runner : Runner} (reads : press.repository.ReadOnly runner)
    (source : Path) : Action.ReadOnly runner (press.draft source) :=
  Action.readOnly_bind (Action.readOnly_readText source) fun text => readOnly_render reads text

end Press

/-- What only takes notes and asks version control runs no engine. -/
theorem World.Kept.engine_idle {before after : World} (kept : World.Kept before after)
    (typesetter : Typesetter) :
    ∃ asked, after.commands = before.commands ++ asked ∧
      ∀ job manuscript, typesetter.command job manuscript ∉ asked := by
  obtain ⟨asked, ran, requests⟩ := kept.asked
  refine ⟨asked, ran, fun job manuscript among => ?_⟩
  have request : (typesetter.command job manuscript).isRequest = true := requests _ among
  simp [Command.isRequest, Typesetter.command] at request

namespace Book

/-- A way in which a source is rendered into the target directory. -/
inductive Route where
  | manuscript (name : Option String)
  | fragment
  | document (demanded : Bool)

namespace Route

/-- Whether a source comes to be rendered at all: a fragment does when it is stale. -/
def isDue (book : Book) (source : Path) : Route → Action Bool
  | .fragment => Staleness.isStaleFor source (book.press.fragmentPath source)
  | .manuscript _ | .document _ => pure true

/-- The world in which the source begins to be read. -/
def start (book : Book) (source : Path) (world : World) : Route → World
  | .manuscript _ => { world.opening "BuildService.preprocess_file" with missing := [] }
  | .fragment => world.logged ⟨.info, Press.logger, "fragment.preprocess",
      [("source", .str source.render), ("target", .str (book.press.fragmentPath source).render)]⟩
  | .document _ => world

/-- What is answered when the source cannot be rendered: an operation turns the faults that are
reported into failed outcomes, the other routes raise what they are given. -/
def refusal (fault : Fault) : Route → Except Fault Bool
  | .manuscript _ => if (reported? fault).isSome then .ok false else .error fault
  | .fragment | .document _ => .error fault

theorem kept_start (book : Book) (source : Path) (world : World) (route : Route) :
    World.Kept world (route.start book source world) := by
  cases route with
  | manuscript name =>
      exact (world.kept_opening _).trans (.of_noted rfl rfl rfl rfl rfl)
  | fragment => exact world.kept_logged _
  | document demanded => exact .refl world

end Route

/-- Renders a source on a route, and answers whether it was made: a manuscript written, a fragment
written anew, a document typeset. -/
def send (book : Book) (source : Path) : Route → Action Bool
  | .manuscript name => do return (← book.renderManuscript source name).ok
  | .fragment => book.press.refreshFragment source
  | .document demanded => book.typesetter.typeset source demanded

/-- How a route ends when the draft of its source fails in the world `middle`: with the refusal, and
at most notes after it. What is not due is not drafted. -/
inductive Undrafted (book : Book) (source : Path) (route : Route) (fault : Fault)
    (world middle : World) : Except Fault Bool → World → Prop where
  | refused {after : World} (due : ((route.isDue book source).exec world).1 = .ok true)
      (kept : World.Kept middle after) :
      Undrafted book source route fault world middle (route.refusal fault) after
  | idle {answer : Except Fault Bool} {after : World}
      (asked : ((route.isDue book source).exec world).1 = answer) (idle : answer ≠ .ok true)
      (kept : World.Kept world after) :
      Undrafted book source route fault world middle answer after

variable {book : Book} {source : Path} {world middle : World} {fault : Fault}

theorem exec_settle_of_error {op : String} {action : Action Outcome}
    (failed : action.exec world = (.error fault, middle)) :
    (settle op silent action).exec world =
      (match reported? fault with
        | some failure => .ok (.failed op failure)
        | none => .error fault, middle) := by
  unfold settle
  rw [Action.exec_ofEffect, failed]
  dsimp only
  cases reported? fault <;> rfl

/-- Around an operation that is recorded only notes are taken. -/
theorem exec_recorded_of_acted {name : String} {operation : Action Outcome}
    {answer : Except Fault Outcome}
    (acted : operation.exec (world.opening name) = (answer, middle)) :
    ∃ told after, (recorded name operation).exec world = (told, after) ∧
      World.Kept middle after ∧ Told answer told := by
  obtain ⟨told, after, ran, kept, tells⟩ := exec_recorded name operation world
  rw [acted] at kept tells
  exact ⟨told, after, ran, kept, tells⟩

/-- The operation on one manuscript fails with its draft. -/
theorem exec_send_manuscript {name : Option String}
    (failed : (book.press.draft source).exec ((Route.manuscript name).start book source world) =
      (.error fault, middle)) :
    ∃ after, (book.send source (.manuscript name)).exec world =
      ((Route.manuscript name).refusal fault, after) ∧ World.Kept middle after := by
  obtain ⟨told, after, ran, kept, tells⟩ : ∃ told after,
      (book.renderManuscript source name).exec world = (told, after) ∧ World.Kept middle after ∧
        Told (match reported? fault with
          | some failure => .ok (.failed "preprocess" failure)
          | none => .error fault) told := by
    refine exec_recorded_of_acted ?_
    have forgets : Excerpt.forgetMissing.exec (world.opening "BuildService.preprocess_file") =
        (.ok (), (Route.manuscript name).start book source world) := rfl
    rw [Action.exec_bind_of_ok forgets]
    exact exec_settle_of_error (Action.exec_bind_of_error (Press.exec_publish_of_undrafted failed) _)
  refine ⟨after, ?_, kept⟩
  unfold send Route.refusal
  rw [Action.exec_bind, ran]
  cases reporting : reported? fault with
  | none =>
      rw [reporting] at tells
      cases tells
      rfl
  | some failure =>
      rw [reporting] at tells
      cases tells <;> rfl

/-- A fragment that is stale fails with its draft, and any other one is left alone. -/
theorem exec_send_fragment
    (failed : (book.press.draft source).exec (Route.fragment.start book source world) =
      (.error fault, middle)) :
    ∃ answer after, (book.send source .fragment).exec world = (answer, after) ∧
      book.Undrafted source .fragment fault world middle answer after := by
  have looks : (Route.fragment.isDue book source).Looks := Action.looks_isStaleFor _ _
  unfold send Press.refreshFragment
  dsimp only
  cases due : ((Route.fragment.isDue book source).exec world).1 with
  | error refusal =>
      have asked := looks.exec_of_answer rfl rfl due
      exact ⟨_, _, Action.exec_bind_of_error asked _, .idle due (by simp) (.refl world)⟩
  | ok stale =>
      have asked := looks.exec_of_answer rfl rfl due
      cases stale with
      | true =>
          refine ⟨_, middle, (Action.exec_bind_of_ok asked _).trans ?_, .refused due (.refl middle)⟩
          rw [if_pos rfl, Action.exec_bind_of_ok (Action.exec_log ..)]
          exact Action.exec_bind_of_error (Press.exec_publish_of_undrafted failed) _
      | false =>
          exact ⟨_, _, Action.exec_bind_of_ok asked _, .idle due (by simp) (world.kept_logged _)⟩

theorem exec_send (route : Route)
    (failed : (book.press.draft source).exec (route.start book source world) =
      (.error fault, middle)) :
    ∃ answer after, (book.send source route).exec world = (answer, after) ∧
      book.Undrafted source route fault world middle answer after := by
  cases route with
  | manuscript name =>
      obtain ⟨after, ran, kept⟩ := exec_send_manuscript failed
      exact ⟨_, after, ran, .refused rfl kept⟩
  | fragment => exact exec_send_fragment failed
  | document demanded =>
      refine ⟨_, middle, ?_, .refused rfl (.refl middle)⟩
      exact Action.exec_bind_of_error (Press.exec_publish_of_undrafted failed) _

/-- Where version control changes nothing, a route without a draft changes nothing. -/
theorem Undrafted.kept {route : Route} {answer : Except Fault Bool} {after : World}
    (ends : book.Undrafted source route fault world middle answer after)
    (reads : book.repository.ReadOnly world.runner)
    (failed : (book.press.draft source).exec (route.start book source world) =
      (.error fault, middle)) : World.Kept world after := by
  have started := route.kept_start book source world
  have drafted := (Press.readOnly_draft reads source).kept started.runner failed
  cases ends with
  | refused due noted => exact (started.trans drafted).trans noted
  | idle asked idle noted => exact noted

/-- Whatever a source holds and version control does: where the source cannot be read or rendered,
its route ends there. Nothing but notes follows on the draft, and if version control changes nothing,
then files and directories are as before, no engine has run, and every fragment that was stale is
stale. -/
theorem undrafted_changes_nothing (route : Route)
    (failed : (book.press.draft source).exec (route.start book source world) =
      (.error fault, middle)) :
    ∃ answer after, (book.send source route).exec world = (answer, after) ∧
      book.Undrafted source route fault world middle answer after ∧
      (book.repository.ReadOnly world.runner →
        World.Kept world after ∧
        (∃ asked, after.commands = world.commands ++ asked ∧
          ∀ job manuscript, book.typesetter.command job manuscript ∉ asked) ∧
        ∀ fragment, ((Route.fragment.isDue book fragment).exec world).1 = .ok true →
          ((Route.fragment.isDue book fragment).exec after).1 = .ok true) := by
  obtain ⟨answer, after, ran, ends⟩ := exec_send route failed
  refine ⟨answer, after, ran, ends, fun reads => ?_⟩
  have kept := ends.kept reads failed
  refine ⟨kept, kept.engine_idle book.typesetter, fun fragment stale => ?_⟩
  have looks : (Route.fragment.isDue book fragment).Looks := Action.looks_isStaleFor _ _
  exact congrArg Prod.fst (looks.exec_eq kept.files kept.base stale)

/-! ## A draft that fails half-way -/

/-- A book whose repository holds one file. -/
def draftedBook : Book :=
  { sampleBook with repository := .ofSnapshot ⟨some "main", [("a.scala", "val d = 1\n")], [], []⟩ }

def draftedFragment : Path :=
  .ofPlace ["tex", "b.tex"]

/-- The fragment is newer than what was written of it. It includes the file, and then something that
is no location. -/
def draftedWorld : World :=
  sampleWorld (.scripted fun _ => false)
    { entries := [
        (["tex"], .directory), (["out"], .directory),
        (["tex", "b.tex"], .file ⟨Text.encode
          "INCLUDE_SOURCE_FILE\x7bmain:a.scala\x7d INCLUDE_SOURCE_FILE\x7bnowhere\x7d", 3000, false⟩),
        (["out", "b.tex"], .file ⟨[], 2000, false⟩)] }

/-- The fragment cannot be rendered, and what was written of it stays as it was, and stale. -/
theorem undrafted_changes_nothing_halfway :
    ∃ fault after,
      (draftedBook.send draftedFragment .fragment).exec draftedWorld = (.error fault, after) ∧
      after.files = draftedWorld.files ∧
      ((Route.fragment.isDue draftedBook draftedFragment).exec after).1 = .ok true := by
  have stale : ((Route.fragment.isDue draftedBook draftedFragment).exec draftedWorld).1 = .ok true :=
    eq_ok_of_toOption (by decide +kernel)
  have unread : ((draftedBook.press.draft draftedFragment).exec
      (Route.fragment.start draftedBook draftedFragment draftedWorld)).1.toOption = none := by
    decide +kernel
  obtain ⟨fault, middle, drafting⟩ := Action.exists_error_of_toOption unread
  have reads : draftedBook.repository.ReadOnly draftedWorld.runner :=
    (Repository.steady_ofSnapshot _ [] _).readOnly
  obtain ⟨answer, after, ran, ends, unchanged⟩ := undrafted_changes_nothing .fragment drafting
  obtain ⟨kept, _, stays⟩ := unchanged reads
  cases ends with
  | refused _ _ => exact ⟨fault, after, ran, kept.files, stays draftedFragment stale⟩
  | idle asked idle _ => exact absurd (asked.symm.trans stale) idle

end Book

end Bindery
