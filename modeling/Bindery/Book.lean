import Bindery.Diagram
import Bindery.Document
import Bindery.Outcome
import Bindery.Source.Collection

/-!
Contract: the operations on a book.

Owns:
- `Book`, the directories, tools and tables of a project, and its source repository;
- the build: diagrams, then fragments, then the verdict, then documents. Any diagram or fragment
  that was made again demands that every document is typeset again; nothing finer is tracked;
- the partial operations: diagrams only, one manuscript, one excerpt.

The first fault ends an operation; nothing after it is done. Build errors and refusals of the file
system come back as failed outcomes.
-/

namespace Bindery

structure Book where
  latexDirectory : Path
  graphvizDirectory : Path
  targetDirectory : Path
  imagesDirectory : Path
  engine : String
  substitutes : List (String × String)
  repository : Repository

/-- What became of one source. -/
structure Product where
  source : Path
  output : Path
  rebuilt : Bool
deriving DecidableEq, Repr

/-- What became of all sources. -/
structure BuildReport where
  target : Path
  demanded : Bool
  diagrams : List Product
  fragments : List Product
  documents : List Product
deriving DecidableEq, Repr

namespace Product

def toValue (product : Product) : Value :=
  .map [("source", .str product.source.render), ("output", .str product.output.render),
    ("rebuilt", .bool product.rebuilt)]

def listValue (products : List Product) : Value :=
  .list (products.map toValue)

def rebuiltCount (products : List Product) : Nat :=
  products.countP (·.rebuilt)

end Product

def BuildReport.toData (report : BuildReport) : Entries := [
  ("target", .str report.target.render), ("needs_rebuild", .bool report.demanded),
  ("diagrams", Product.listValue report.diagrams),
  ("fragments", Product.listValue report.fragments),
  ("documents", Product.listValue report.documents)]

namespace Book

def logger : String := "bookctl.services.build"

def recordingLogger : String := "bookctl.telemetry"

def press (book : Book) : Press :=
  ⟨book.repository, book.targetDirectory, book.imagesDirectory, book.substitutes⟩

def typesetter (book : Book) : Typesetter :=
  ⟨book.press, book.engine⟩

def sources (book : Book) : Action Source.Collection :=
  Source.collect book.latexDirectory book.graphvizDirectory

/-- The given sources, or those that are there. -/
def sourcesOr (book : Book) : Option Source.Collection → Action Source.Collection
  | some sources => pure sources
  | none => book.sources

def warnings : Action (List String) :=
  .observe fun world => .ok (world.missing.map ("Snippet not found: " ++ ·))

/-! ## Treating sources one after another -/

/-- Treats sources in order, `output` telling where each goes. -/
def treatAll (output : Path → Path) (treat : Path → Action Bool) :
    List Path → Action (List Product)
  | [] => pure []
  | source :: rest => do
      let rebuilt ← treat source
      let products ← treatAll output treat rest
      return ⟨source, output source, rebuilt⟩ :: products

/-- Treats sources as a recorded phase, which notes how many were made again. -/
def treatPhase (name : String) (output : Path → Path) (treat : Path → Action Bool)
    (sources : List Path) : Action (List Product) :=
  .phase name fun recorded => do
    let products ← treatAll output treat sources
    if recorded then
      .annotate "rebuilt" (.int (Product.rebuiltCount products))
    return products

def drawAll (book : Book) (diagrams : List Path) : Action (List Product) :=
  treatAll (Diagram.target book.targetDirectory) (Diagram.render book.targetDirectory) diagrams

/-- Whether anything was made again that documents may use. -/
def verdict (diagrams fragments : List Product) : Bool :=
  (diagrams ++ fragments).any (·.rebuilt)

def buildSources (book : Book) (sources : Source.Collection) : Action BuildReport := do
  .makeDirectories book.targetDirectory
  let diagrams ← treatPhase "diagrams" (Diagram.target book.targetDirectory)
    (Diagram.render book.targetDirectory) sources.diagrams
  let fragments ← treatPhase "fragments" book.press.fragmentPath book.press.refreshFragment
    sources.fragments
  let demanded := verdict diagrams fragments
  .log .debug logger "build.verdict" [("needs_rebuild", .bool demanded)]
  let documents ← treatPhase "documents" book.typesetter.target
    (fun document => book.typesetter.typeset document demanded) sources.documents
  return ⟨book.targetDirectory, demanded, diagrams, fragments, documents⟩

/-! ## Operations -/

/-- The failure that a fault is reported as, if it is reported at all. -/
def reported? : Fault → Option Failure
  | .build error => some (.ofBuildError error)
  | .io fault => some (.ofIoFault fault)
  | _ => none

/-- Turns a reported fault into a failed outcome, after `note` has seen it. -/
def settle (op : String) (note : Failure → Action Unit) (action : Action Outcome) :
    Action Outcome :=
  .ofEffect fun world =>
    match action.exec world with
    | (.ok outcome, after) => (.ok outcome, after)
    | (.error fault, after) =>
        match reported? fault with
        | some failure => ((do note failure; return .failed op failure : Action Outcome)).exec after
        | none => (.error fault, after)

def silent (_ : Failure) : Action Unit :=
  pure ()

def noteFailure (failure : Failure) : Action Unit :=
  .log .info logger "build.failed"
    [("code", .str failure.code), ("message", .str failure.message)]

/-- Runs an operation as a root phase while phases are recorded, and adds their tree to its
outcome. -/
def recorded (name : String) (operation : Action Outcome) : Action Outcome :=
  .ofEffect fun world =>
    if world.recording.enabled then
      Action.exec (do
        let (outcome, phase) ← Action.within name true operation
        match phase with
        | none => return outcome
        | some tree =>
            .log .debug recordingLogger "span.complete" [
              ("span_name", .str tree.name), ("duration_ms", .float tree.duration),
              ("phases", .list (tree.children.map fun child => .str child.name))]
            return outcome.remark "telemetry" tree.toValue) world
    else operation.exec world

/-- Makes everything that is not up to date. -/
def build (book : Book) (sources : Option Source.Collection) : Action Outcome :=
  recorded "BuildService.build" do
    let sources ← book.sourcesOr sources
    Excerpt.forgetMissing
    settle "build" noteFailure do
      let report ← book.buildSources sources
      return .success "build" report.toData (← warnings)

/-- Renders the diagrams that are not up to date. -/
def drawDiagrams (book : Book) (sources : Option Source.Collection) : Action Outcome :=
  recorded "BuildService.render_diagrams" do
    let sources ← book.sourcesOr sources
    settle "render_diagrams" silent do
      .makeDirectories book.targetDirectory
      let diagrams ← book.drawAll sources.diagrams
      return .success "render_diagrams"
        [("target", .str book.targetDirectory.render), ("diagrams", Product.listValue diagrams)] []

/-- Renders one manuscript into the target directory, under its own name unless another one is
given. -/
def renderManuscript (book : Book) (source : Path) (name : Option String) : Action Outcome :=
  recorded "BuildService.preprocess_file" do
    Excerpt.forgetMissing
    settle "preprocess" silent do
      let own := source.name
      let chosen := match name with
        | some text => if text.isEmpty then own else text
        | none => own
      let written ← book.press.publish source chosen
      return .success "preprocess"
        [("source", .str source.render), ("path", .str written.render)] (← warnings)

/-- The lines of an excerpt, or of one of its sections; an empty name asks for no section. -/
def excerptLines (book : Book) (location : String) (name : Option String) :
    Action (List String) :=
  match name with
  | some text =>
      if text.isEmpty then Excerpt.lines book.repository location
      else Excerpt.sectionLines book.repository location text
  | none => Excerpt.lines book.repository location

def showExcerpt (book : Book) (location : String) (name : Option String) : Action Outcome := do
  Excerpt.forgetMissing
  settle "snippet" silent do
    let lines ← book.excerptLines location name
    return .success "snippet" [
      ("location", .str location), ("section", .ofOption name),
      ("line_count", .int lines.length), ("content", .str (Text.joinLines lines))] (← warnings)

end Book

end Bindery
