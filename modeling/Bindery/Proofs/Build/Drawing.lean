import Bindery.Proofs.Build.Operation
import Bindery.Proofs.Source.Listing

/-!
Contract: that the name of a diagram says how it is rendered.

Owns:
- where a name that ends in a dot and an extension is cut: there, unless the dot is its first
  character, and then nowhere;
- what a renderer asks for: at most one command, for the diagram as it was found;
- the theorem that the command of a diagram that was found is the one its name ends in, and its
  target the rest of the name, for all names but those that are nothing but the ending.

Does not own: which diagrams are found (`Bindery.Proofs.Source.Listing`), and when one is rendered
(`Bindery.Proofs.Staleness.Overdue`).
-/

namespace Bindery

namespace Path

/-- A text without dots has no suffix, whatever is in front of it. -/
theorem cutSuffix_of_notMem {text : List Char} (clean : '.' ∉ text) : cutSuffix text = none := by
  induction text with
  | nil => rfl
  | cons c rest inductionHypothesis =>
      have behind : '.' ∉ rest := fun member => clean (List.mem_cons_of_mem c member)
      unfold cutSuffix
      rw [inductionHypothesis behind]
      cases rest with
      | nil => rfl
      | cons d more =>
          have other : d ≠ '.' := fun same => behind (same ▸ List.mem_cons_self)
          simp [other]

section Extension

variable {before after : List Char}

/-- A dot in front of all else starts no suffix. -/
theorem cutSuffix_dot_cons (clean : '.' ∉ after) : cutSuffix ('.' :: after) = none := by
  unfold cutSuffix
  rw [cutSuffix_of_notMem clean]
  cases after with
  | nil => rfl
  | cons d more =>
      have other : d ≠ '.' := fun same => clean (same ▸ List.mem_cons_self)
      simp [other]

/-- The last dot with text on both sides starts the suffix, whether there are dots before it. -/
theorem cutSuffix_append (front : before ≠ []) (ending : after ≠ []) (clean : '.' ∉ after) :
    cutSuffix (before ++ '.' :: after) = some (before, after) := by
  induction before with
  | nil => contradiction
  | cons c rest inductionHypothesis =>
      rw [List.cons_append]
      unfold cutSuffix
      cases rest with
      | nil => simp [cutSuffix_dot_cons clean, ending, clean]
      | cons d more => rw [inductionHypothesis (by simp)]

end Extension

section Named

variable {path : Path} {stem extension : String}

theorem stem_extension_of_name (named : path.name = stem ++ "." ++ extension) (front : stem ≠ "")
    (ending : extension ≠ "") (clean : '.' ∉ extension.toList) :
    path.stem = stem ∧ path.extension = extension := by
  have cut : cutSuffix path.name.toList = some (stem.toList, extension.toList) := by
    have spelled : path.name.toList = stem.toList ++ '.' :: extension.toList := by simp [named]
    rw [spelled]
    exact cutSuffix_append (by simpa using front) (by simpa using ending) clean
  simp [Path.stem, Path.extension, cut]

/-- A hidden file without further dots has a stem only. -/
theorem stem_extension_of_hidden (named : path.name = "." ++ extension)
    (clean : '.' ∉ extension.toList) :
    path.stem = path.name ∧ path.extension = "" := by
  have spelled : path.name.toList = '.' :: extension.toList := by simp [named]
  simp [Path.stem, Path.extension, spelled, cutSuffix_dot_cons clean]

end Named

end Path

namespace Diagram

/-! ## What a renderer is asked for -/

section Rendering

variable {directory diagram : Path} {world : World}

/-- A diagram that is to be rendered, as the renderer asks for it. -/
def IsDue (directory diagram : Path) (world : World) : Prop :=
  let source := (Path.ofPlace world.base).join diagram
  ((Staleness.isStaleFor source (target directory source)).exec world).1 = .ok true

/-- A diagram that is due is one command, whether or not its renderer succeeds. -/
theorem commands_render_of_isDue (due : IsDue directory diagram world) :
    ((render directory diagram).exec world).2.commands =
      world.commands ++ [command ((Path.ofPlace world.base).join diagram)
        (target directory ((Path.ofPlace world.base).join diagram))] := by
  have here : Action.workingDirectory.exec world = (.ok (.ofPlace world.base), world) := rfl
  have asked := (Action.looks_isStaleFor _ _).exec_of_answer rfl rfl due
  unfold render
  rw [Action.exec_bind_of_ok here, Action.exec_bind_of_ok asked]
  simp only [if_true]
  rw [Action.exec_bind_of_ok (Action.exec_log ..)]
  exact Action.commands_runTool logger "diagram.failed" _ (failure _) _ _

theorem commands_render_of_not_isDue (current : ¬ IsDue directory diagram world) :
    ((render directory diagram).exec world).2.commands = world.commands := by
  have here : Action.workingDirectory.exec world = (.ok (.ofPlace world.base), world) := rfl
  unfold render
  rw [Action.exec_bind_of_ok here]
  cases answered : ((Staleness.isStaleFor ((Path.ofPlace world.base).join diagram)
      (target directory ((Path.ofPlace world.base).join diagram))).exec world).1 with
  | error fault =>
      have asked := (Action.looks_isStaleFor _ _).exec_of_answer rfl rfl answered
      rw [Action.exec_bind_of_error asked]
  | ok stale =>
      cases stale with
      | true => exact absurd answered current
      | false =>
          have asked := (Action.looks_isStaleFor _ _).exec_of_answer rfl rfl answered
          rw [Action.exec_bind_of_ok asked]
          rfl

end Rendering

/-! ## The name and the command -/

/-- The command of a renderer for a source, the target being a name in the target directory. -/
def renderingOf (renderer stem : String) (directory source : Path) : Command where
  args := [renderer, "-Tpdf", "-o", (Source.below directory [stem ++ ".pdf"]).render, source.render]
  directory := none

section Naming

variable {directory source : Path} {stem renderer : String}

theorem command_eq (slashless : '/' ∉ source.name.toList) :
    command source (target directory source) =
      renderingOf source.extension source.stem directory source := by
  have absent : '/' ∉ source.stem.toList := fun member =>
    slashless ((Path.prefix_stem_toList source).subset member)
  have part : Path.IsPart (source.stem ++ ".pdf") :=
    ⟨Path.append_ne_of_length_lt (by decide), Path.append_ne_of_length_lt (by decide),
      by simp [absent]⟩
  simp [command, target, renderingOf, Path.joinText_of_isPart part, Source.below]

/-- A source is rendered as its name asks for, if there is anything in front of the ending. -/
theorem command_eq_iff (slashless : '/' ∉ source.name.toList)
    (named : source.name = stem ++ "." ++ renderer) (known : renderer ∈ Source.renderers) :
    (command source (target directory source) = renderingOf renderer stem directory source ↔
        stem ≠ "") ∧
      (stem = "" →
        command source (target directory source) =
          renderingOf "" ("." ++ renderer) directory source) := by
  have all : ∀ renderer ∈ Source.renderers, renderer ≠ "" ∧ '.' ∉ renderer.toList := by decide
  have plain := all renderer known
  rw [command_eq slashless]
  by_cases hidden : stem = ""
  · subst hidden
    obtain ⟨whole, none⟩ :=
      Path.stem_extension_of_hidden (named.trans (by simp)) plain.2
    have name : source.name = "." ++ renderer := named.trans (by simp)
    rw [whole, none, name]
    refine ⟨⟨fun same => ?_, fun some => absurd rfl some⟩, fun _ => rfl⟩
    have first : "" = renderer := (List.cons.inj (congrArg Command.args same)).1
    exact absurd first.symm plain.1
  · obtain ⟨front, ending⟩ := Path.stem_extension_of_name named hidden plain.1 plain.2
    rw [front, ending]
    exact ⟨⟨fun _ => hidden, fun _ => rfl⟩, fun empty => absurd empty hidden⟩

/-- A diagram that was found is rendered by the renderer that its name ends in, into the target
directory under the rest of its name: if there is a rest. A hidden file that is named as a renderer
has no suffix, so that no program is named and the whole name is kept. -/
theorem render_as_named_iff {world : World} {latexDirectory graphvizDirectory diagram : Path}
    {sources : Source.Collection} (slashless : world.files.Slashless)
    (found : ((Source.collect latexDirectory graphvizDirectory).exec world).1 = .ok sources)
    (member : diagram ∈ sources.diagrams) :
    ∃ renderer ∈ Source.renderers, ∃ stem, diagram.name = stem ++ "." ++ renderer ∧
      ∀ (directory : Path) (later : World),
        (¬ IsDue directory diagram later →
          ((render directory diagram).exec later).2.commands = later.commands) ∧
        (IsDue directory diagram later →
          ∃ issued, ((render directory diagram).exec later).2.commands =
              later.commands ++ [issued] ∧
            (issued = renderingOf renderer stem directory
                ((Path.ofPlace later.base).join diagram) ↔ stem ≠ "") ∧
            (stem = "" → issued = renderingOf "" ("." ++ renderer) directory
              ((Path.ofPlace later.base).join diagram))) := by
  obtain ⟨renderer, known, listed⟩ := (Source.listed_of_collect found).1 diagram member
  obtain ⟨name, rfl, ends, entry, among, stored⟩ := listed.inside
  obtain ⟨front, cut⟩ := ends
  have spelled : name = String.ofList front ++ "." ++ renderer := by
    rw [← String.toList_inj, ← cut]
    simp
  refine ⟨renderer, known, String.ofList front, by rw [Source.name_below, spelled], ?_⟩
  intro directory later
  refine ⟨commands_render_of_not_isDue, fun due => ⟨_, commands_render_of_isDue due, ?_⟩⟩
  have same :
      ((Path.ofPlace later.base).join (Source.below graphvizDirectory [name])).name = name := by
    rw [Path.name_join (by simp [Source.below]), Source.name_below]
  exact command_eq_iff (by rw [same]; exact slashless entry among name stored)
    (same.trans spelled) known

end Naming

/-- Diagrams whose names have several dots, or nothing but a renderer's name. -/
def dottedWorld : World :=
  Book.sampleWorld (.scripted fun _ => false) ⟨[
    (["src"], .directory), (["src", ".dot"], .file ⟨[], 0, false⟩),
    (["src", "ring.v2.neato"], .file ⟨[], 0, false⟩), (["out"], .directory)]⟩

def hiddenDiagram : Path :=
  .ofPlace ["src", ".dot"]

def ringDiagram : Path :=
  .ofPlace ["src", "ring.v2.neato"]

def dottedSources : Source.Collection :=
  ⟨[hiddenDiagram, ringDiagram], [], []⟩

theorem collect_dottedWorld :
    ((Source.collect (.ofPlace ["src"]) (.ofPlace ["src"])).exec dottedWorld).1 =
      .ok dottedSources :=
  Book.eq_ok_of_toOption (by decide +kernel)

theorem render_as_named_iff_ring :
    dottedWorld.files.Slashless ∧
      ((Source.collect (.ofPlace ["src"]) (.ofPlace ["src"])).exec dottedWorld).1 =
        .ok dottedSources ∧
      ringDiagram ∈ dottedSources.diagrams ∧
      IsDue (.ofPlace ["out"]) ringDiagram dottedWorld ∧
      ((render (.ofPlace ["out"]) ringDiagram).exec dottedWorld).2.commands =
        [⟨["neato", "-Tpdf", "-o", "/out/ring.v2.pdf", "/src/ring.v2.neato"], none⟩] := by
  have slashless : dottedWorld.files.Slashless := by decide
  have member : ringDiagram ∈ dottedSources.diagrams := by decide
  have due : IsDue (.ofPlace ["out"]) ringDiagram dottedWorld :=
    Book.eq_ok_of_toOption (by decide +kernel)
  refine ⟨slashless, collect_dottedWorld, member, due, ?_⟩
  obtain ⟨renderer, known, stem, named, runs⟩ :=
    render_as_named_iff slashless collect_dottedWorld member
  obtain ⟨issued, ran, asNamed, _⟩ := (runs (.ofPlace ["out"]) dottedWorld).2 due
  have spelled : "ring.v2.neato" = stem ++ "." ++ renderer := named
  simp only [Source.renderers, List.mem_cons, List.not_mem_nil, or_false] at known
  rcases known with rfl | rfl
  · have last := congrArg (fun text : String => text.toList.getLast?) spelled
    simp at last
  · obtain rfl : "ring.v2" = stem := by
      rw [← String.toList_inj]
      have letters : "ring.v2".toList ++ ".neato".toList = stem.toList ++ ".neato".toList := by
        simpa using congrArg String.toList spelled
      exact (List.append_inj' letters rfl).1
    rw [ran, asNamed.2 (by decide)]
    decide +kernel

/-- A file that is named as a renderer is found as its diagram, and no program is named for it. -/
theorem render_hidden :
    dottedWorld.files.Slashless ∧
      ((Source.collect (.ofPlace ["src"]) (.ofPlace ["src"])).exec dottedWorld).1 =
        .ok dottedSources ∧
      hiddenDiagram ∈ dottedSources.diagrams ∧
      ((render (.ofPlace ["out"]) hiddenDiagram).exec dottedWorld).2.commands =
        [⟨["", "-Tpdf", "-o", "/out/.dot.pdf", "/src/.dot"], none⟩] :=
  ⟨by decide, collect_dottedWorld, by decide, by decide +kernel⟩

end Diagram

end Bindery
