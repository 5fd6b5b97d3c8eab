import Bindery.Settings.Issue

/-!
Contract: the settings of a book project.

Owns:
- the sections and switches with their defaults, which are the usual layout of a book;
- reading them from a tree of values: a key that is not there has its default, an unknown key is an
  issue at the top and ignored inside a section;
- the directories of the project, which are seen from its root unless they are absolute.

Does not own: where the tree comes from (`Bindery.Settings.Load`).
-/

namespace Bindery

namespace Settings

structure Latex where
  builder : String
  directory : Path
deriving DecidableEq, Repr

structure Graphviz where
  directory : Path
deriving DecidableEq, Repr

/-- Where everything else is, and what is replaced in manuscripts. -/
structure Build where
  targetDirectory : Path
  imagesDirectory : Path
  sourceRoot : Path
  substitutes : List (String × String)
deriving DecidableEq, Repr

structure Switches where
  json : Bool
  quiet : Bool
  verbose : Bool
  logJson : Bool
deriving DecidableEq, Repr

def Latex.default : Latex := ⟨"pdflatex", .ofString "src/book/latex"⟩

def Graphviz.default : Graphviz := ⟨.ofString "src/book/graphviz"⟩

def Build.default : Build :=
  ⟨.ofString "target/book", .ofString "src/book/images", .ofString "src", []⟩

def Switches.default : Switches := ⟨false, false, false, false⟩

def Latex.read (place : List String) (entries : Entries) : Checked Latex :=
  ((readMember readText Latex.default.builder place entries "builder").zip
    (readMember readPath Latex.default.directory place entries "directory")).map
      fun (builder, directory) => ⟨builder, directory⟩

def Graphviz.read (place : List String) (entries : Entries) : Checked Graphviz :=
  (readMember readPath Graphviz.default.directory place entries "directory").map
    fun directory => ⟨directory⟩

def Build.read (place : List String) (entries : Entries) : Checked Build :=
  let member (key : String) (default : Path) := readMember readPath default place entries key
  ((member "target_directory" Build.default.targetDirectory).zip
    ((member "images_directory" Build.default.imagesDirectory).zip
      ((member "source_root" Build.default.sourceRoot).zip
        (readMember readTextTable [] place entries "substitutes")))).map
          fun (target, images, source, substitutes) => ⟨target, images, source, substitutes⟩

def Switches.read (entries : Entries) : Checked Switches :=
  let member (key : String) := readMember readSwitch false [] entries key
  ((member "json_output").zip
    ((member "quiet").zip ((member "verbose").zip (member "log_json")))).map
      fun (json, quiet, verbose, logJson) => ⟨json, quiet, verbose, logJson⟩

def sectionKeys : List String := ["latex", "graphviz", "build"]

def switchKeys : List String := ["json_output", "quiet", "verbose", "log_json"]

/-- The keys whose values are decided before the tree is read. -/
def decidedKeys : List String := ["project_root", "config_path"]

/-- An issue for every key that nothing reads. -/
def unknownKeys (entries : Entries) : Checked Unit :=
  let known := decidedKeys ++ switchKeys ++ sectionKeys
  match entries.filter fun entry => !known.contains entry.1 with
  | [] => .ok ()
  | unknown => .error (unknown.map fun entry => ⟨[entry.1], .unknownKey⟩)

end Settings

structure Settings where
  projectRoot : Path
  configPath : Option Path
  switches : Settings.Switches
  latex : Settings.Latex
  graphviz : Settings.Graphviz
  build : Settings.Build
deriving DecidableEq, Repr

namespace Settings

/-- Reads the settings of a project from a tree of values. -/
def read (projectRoot : Path) (configPath : Option Path) (entries : Entries) :
    Checked Settings :=
  ((unknownKeys entries).zip ((Switches.read entries).zip
    ((readMember (readSection Latex.read) Latex.default [] entries "latex").zip
      ((readMember (readSection Graphviz.read) Graphviz.default [] entries "graphviz").zip
        (readMember (readSection Build.read) Build.default [] entries "build"))))).map
          fun ((), switches, latex, graphviz, build) =>
            ⟨projectRoot, configPath, switches, latex, graphviz, build⟩

/-! ## Directories -/

/-- A configured path seen from the project root. -/
def resolve (settings : Settings) (path : Path) : Path :=
  if path.isAbsolute then path else settings.projectRoot.join path

def targetDirectory (settings : Settings) : Path :=
  settings.resolve settings.build.targetDirectory

def imagesDirectory (settings : Settings) : Path :=
  settings.resolve settings.build.imagesDirectory

def sourceRoot (settings : Settings) : Path :=
  settings.resolve settings.build.sourceRoot

def latexDirectory (settings : Settings) : Path :=
  settings.resolve settings.latex.directory

def graphvizDirectory (settings : Settings) : Path :=
  settings.resolve settings.graphviz.directory

end Settings

end Bindery
