import Bindery.Book
import Bindery.Settings.Basic
import Bindery.Repository.Git

/-!
Contract: the book that a project's settings describe.

Owns: putting a book together. Excerpts come from the repository in the configured source root
unless another one is given.
-/

namespace Bindery

def Settings.book (settings : Settings) (repository : Option Repository) : Book where
  latexDirectory := settings.latexDirectory
  graphvizDirectory := settings.graphvizDirectory
  targetDirectory := settings.targetDirectory
  imagesDirectory := settings.imagesDirectory
  engine := settings.latex.builder
  substitutes := settings.build.substitutes
  repository := repository.getD (.git settings.sourceRoot)

end Bindery
