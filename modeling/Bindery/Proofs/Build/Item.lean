import Bindery.Book
import Bindery.Proofs.Command.Contract
import Bindery.Proofs.Repository.Limited
import Bindery.Proofs.Staleness.Overdue
import Mathlib.Data.List.Nodup
import Mathlib.Data.List.Pairwise

/-!
Contract: the sources of a build by role, and where each of them reads and writes.

Owns:
- `Source.Item`, a source with its role, so that a statement about the three kinds is one statement;
- where an item is read, where its product goes, and the tool that makes it;
- `isDue`, the decision to make a product again;
- `Separate`, a source list whose products and temporary manuscripts are files of their own, and
  that the treatment of one item then disturbs no other.

Does not own: what treating an item does (`Bindery.Proofs.Build.Treatment`).
-/

namespace Bindery

/-- A source with its role in the build. -/
structure Source.Item where
  kind : Kind
  path : Path
deriving DecidableEq

/-- The sources of one run in the order in which they are treated. -/
def Source.Collection.items (sources : Collection) : List Item :=
  sources.diagrams.map (Item.mk .diagram) ++
    (sources.fragments.map (Item.mk .fragment) ++ sources.documents.map (Item.mk .document))

open Source

theorem Source.Collection.ordered (sources : Collection) :
    sources.items.Pairwise fun first second =>
      first.kind = .document → second.kind = .document := by
  have anyhow : ∀ paths : List Path, paths.Pairwise fun _ _ => True :=
    fun _ => List.pairwise_of_forall fun _ _ => trivial
  simp [Collection.items, List.pairwise_append, List.pairwise_map, anyhow]

theorem Source.Collection.documents_last {sources : Collection} {front rest : List Item}
    {item : Item} (items : sources.items = front ++ item :: rest) (kind : item.kind = .document) :
    ∀ other ∈ rest, other.kind = .document := by
  have ordered := sources.ordered
  rw [items, List.pairwise_append, List.pairwise_cons] at ordered
  exact fun other member => ordered.2.1.1 other member kind

@[simp]
theorem Source.Collection.document_mem_items {sources : Collection} {document : Path} :
    ⟨.document, document⟩ ∈ sources.items ↔ document ∈ sources.documents := by
  simp [Collection.items]

namespace Book

/-! ## Where an item reads and writes -/

/-- The path under which an item is read; a diagram's is absolute. -/
def sourcePath (base : Place) (item : Item) : Path :=
  match item.kind with
  | .diagram => (Path.ofPlace base).join item.path
  | .fragment | .document => item.path

def outputName (item : Item) : String :=
  match item.kind with
  | .fragment => item.path.name
  | .diagram | .document => item.path.stem ++ ".pdf"

def output (book : Book) (item : Item) : Path :=
  match item.kind with
  | .diagram => Diagram.target book.targetDirectory item.path
  | .fragment => book.press.fragmentPath item.path
  | .document => book.typesetter.target item.path

def manuscript (book : Book) (document : Path) : Path :=
  book.targetDirectory.joinText (document.stem ++ Typesetter.temporarySuffix)

def sourcePlace (base : Place) (item : Item) : Place :=
  (sourcePath base item).placeFrom base

def outputPlace (book : Book) (base : Place) (item : Item) : Place :=
  (book.output item).placeFrom base

/-- The places of the manuscripts that an item needs for a while. -/
def temporaryPlaces (book : Book) (base : Place) (item : Item) : List Place :=
  match item.kind with
  | .document => [(book.manuscript item.path).placeFrom base]
  | .diagram | .fragment => []

/-- The places that are written when an item is treated, and its product is made or not. -/
def touches (book : Book) (base : Place) (item : Item) (made : Bool) : List Place :=
  book.temporaryPlaces base item ++ if made then [book.outputPlace base item] else []

def tools (book : Book) (base : Place) (item : Item) : List Command :=
  match item.kind with
  | .diagram => [Diagram.command (sourcePath base item) (book.output item)]
  | .fragment => []
  | .document => [book.typesetter.command item.path.stem (book.manuscript item.path)]

/-- Whether the product of an item has to be made: documents on demand, and everything that is
overdue. -/
def isDue (book : Book) (demanded : Bool) (store : FileStore) (base : Place) (item : Item) : Bool :=
  (item.kind = .document && demanded) ||
    store.isOverdue (sourcePlace base item) (book.outputPlace base item)

/-! ## Products in the target directory -/

section Products

variable {book : Book} {base : Place} {item : Item}

theorem output_eq (book : Book) (item : Item) :
    book.output item = book.targetDirectory.joinText (outputName item) := by
  obtain ⟨kind, path⟩ := item
  cases kind <;> rfl

theorem isPart_outputName (file : item.path.NamesFile) : Path.IsPart (outputName item) := by
  obtain ⟨kind, path⟩ := item
  cases kind with
  | fragment => exact file.isPart_name
  | diagram => exact file.proper.isPart_stem_append (by decide) (by decide)
  | document => exact file.proper.isPart_stem_append (by decide) (by decide)

theorem outputName_ne_up (file : item.path.NamesFile) : outputName item ≠ ".." := by
  obtain ⟨kind, path⟩ := item
  cases kind with
  | fragment => exact file.down
  | diagram => exact path.stem_append_ne_up (by decide)
  | document => exact path.stem_append_ne_up (by decide)

theorem isPart_manuscriptName {document : Path} (file : document.NamesFile) :
    Path.IsPart (document.stem ++ Typesetter.temporarySuffix) :=
  file.proper.isPart_stem_append (by decide) (by decide)

theorem isProper_output (proper : book.targetDirectory.IsProper) (file : item.path.NamesFile) :
    (book.output item).IsProper := by
  rw [output_eq]
  exact proper.joinText (isPart_outputName file)

theorem outputPlace_eq (file : item.path.NamesFile) :
    book.outputPlace base item = book.targetDirectory.placeFrom base ++ [outputName item] := by
  rw [outputPlace, output_eq, Path.placeFrom_joinText (isPart_outputName file),
    Path.descend_down (outputName_ne_up file)]

theorem manuscriptPlace_eq {document : Path} (file : document.NamesFile) :
    (book.manuscript document).placeFrom base = book.targetDirectory.placeFrom base ++
      [document.stem ++ Typesetter.temporarySuffix] := by
  rw [manuscript, Path.placeFrom_joinText (isPart_manuscriptName file),
    Path.descend_down (document.stem_append_ne_up (by decide))]

/-- All that is written lies directly in the target directory. -/
theorem exists_name_of_mem_touches (file : item.path.NamesFile) {made : Bool} {place : Place}
    (member : place ∈ book.touches base item made) :
    ∃ name, place = book.targetDirectory.placeFrom base ++ [name] := by
  rcases List.mem_append.1 member with temporary | product
  · obtain ⟨kind, path⟩ := item
    cases kind with
    | document =>
        simp only [temporaryPlaces, List.mem_singleton] at temporary
        exact ⟨_, temporary.trans (manuscriptPlace_eq file)⟩
    | diagram => simp [temporaryPlaces] at temporary
    | fragment => simp [temporaryPlaces] at temporary
  · cases made with
    | true =>
        simp only [if_true, List.mem_singleton] at product
        exact ⟨_, product.trans (outputPlace_eq file)⟩
    | false => simp at product

theorem prefix_of_mem_touches (file : item.path.NamesFile) {made : Bool} {place : Place}
    (member : place ∈ book.touches base item made) :
    book.targetDirectory.placeFrom base <+: place := by
  obtain ⟨name, rfl⟩ := exists_name_of_mem_touches file member
  exact List.prefix_append _ _

theorem touches_subset (book : Book) (base : Place) (item : Item) (made : Bool) :
    book.touches base item made ⊆ book.touches base item true := by
  cases made with
  | true => exact List.Subset.refl _
  | false => simp [touches]

theorem temporaryPlaces_subset_touches (book : Book) (base : Place) (item : Item) (made : Bool) :
    book.temporaryPlaces base item ⊆ book.touches base item made :=
  List.subset_append_left _ _

/-- A product and a temporary manuscript never have one place. -/
theorem outputPlace_notMem_temporaryPlaces (book : Book) (base : Place) (file : item.path.NamesFile) :
    book.outputPlace base item ∉ book.temporaryPlaces base item := by
  obtain ⟨kind, path⟩ := item
  cases kind with
  | document =>
      rw [temporaryPlaces, List.mem_singleton, outputPlace_eq file, manuscriptPlace_eq file]
      intro same
      have names : path.stem ++ ".pdf" = path.stem ++ Typesetter.temporarySuffix := by
        simpa [outputName] using same
      have lengths := congrArg (List.length ∘ String.toList) names
      simp [Typesetter.temporarySuffix] at lengths
  | diagram => simp [temporaryPlaces]
  | fragment => simp [temporaryPlaces]

theorem named_sourcePath (base : Place) (file : item.path.NamesFile) :
    (sourcePath base item).parts ≠ [] ∧ (sourcePath base item).name = item.path.name ∧
      (sourcePath base item).stem = item.path.stem := by
  obtain ⟨kind, path⟩ := item
  cases kind with
  | diagram =>
      refine ⟨?_, Path.name_join file.named _, Path.stem_join file.named _⟩
      simp only [sourcePath, Path.join]
      split
      · exact file.named
      · simp [file.named]
  | fragment => exact ⟨file.named, rfl, rfl⟩
  | document => exact ⟨file.named, rfl, rfl⟩

theorem hasNull_output (file : item.path.NamesFile)
    (directory : book.targetDirectory.hasNull = false)
    (source : (sourcePath base item).hasNull = false) : (book.output item).hasNull = false := by
  obtain ⟨named, sameName, sameStem⟩ := named_sourcePath base file
  have name := Path.contains_null_name named source
  have stem := Path.contains_null_stem named source
  rw [sameName] at name
  rw [sameStem] at stem
  rw [output_eq, Path.hasNull_joinText (isPart_outputName file), directory, Bool.false_or]
  obtain ⟨kind, path⟩ := item
  cases kind with
  | fragment => exact name
  | diagram => simpa [outputName] using stem
  | document => simpa [outputName] using stem

end Products

/-! ## Items that do not disturb each other -/

/-- Neither where an item is read nor where its product goes is touched. -/
structure Undisturbed (book : Book) (base : Place) (touched : List Place) (item : Item) : Prop where
  source : sourcePlace base item ∉ touched
  output : book.outputPlace base item ∉ touched

theorem Undisturbed.mono {book : Book} {base : Place} {touched fewer : List Place} {item : Item}
    (undisturbed : book.Undisturbed base touched item) (among : fewer ⊆ touched) :
    book.Undisturbed base fewer item :=
  ⟨fun member => undisturbed.source (among member),
    fun member => undisturbed.output (among member)⟩

/-- An item that can be treated: it names a file, and is not its own manuscript. -/
structure Fit (book : Book) (base : Place) (item : Item) : Prop where
  named : item.path.NamesFile
  apart : sourcePlace base item ∉ book.temporaryPlaces base item

theorem Fit.undisturbed {book : Book} {base : Place} {item : Item} (fit : book.Fit base item) :
    book.Undisturbed base (book.temporaryPlaces base item) item :=
  ⟨fit.apart, outputPlace_notMem_temporaryPlaces book base fit.named⟩

/-- Two items of which neither disturbs the other. -/
structure Independent (book : Book) (base : Place) (first second : Item) : Prop where
  forward : book.Undisturbed base (book.touches base first true) second
  backward : book.Undisturbed base (book.touches base second true) first

instance (book : Book) (base : Place) : Std.Symm (book.Independent base) :=
  ⟨fun _ _ independent => ⟨independent.backward, independent.forward⟩⟩

/-- Whether a product has to be made is not changed by touching other places. -/
theorem isDue_congr {book : Book} {demanded : Bool} {base : Place} {touched : List Place}
    {left right : FileStore} {item : Item} (agrees : left.AgreesOn (· ∉ touched) right)
    (undisturbed : book.Undisturbed base touched item) :
    book.isDue demanded left base item = book.isDue demanded right base item := by
  rw [isDue, isDue, FileStore.isOverdue_congr (agrees.nodes _ undisturbed.source)
    (agrees.nodes _ undisturbed.output)]

/-- A source list whose products and temporary manuscripts are distinct and no sources. -/
structure Separate (book : Book) (sources : Collection) (base : Place) : Prop where
  distinct : (sources.items.flatMap fun item => book.touches base item true).Nodup
  apart : ∀ item ∈ sources.items, ∀ other ∈ sources.items,
    sourcePlace base item ∉ book.touches base other true

theorem Separate.limitedTo {book : Book} {sources : Collection} {base : Place}
    (separate : book.Separate sources base) (asked : Request → Bool) :
    (book.limitedTo asked).Separate sources base :=
  ⟨separate.distinct, separate.apart⟩

/-- An item whose source and product are files, if they are there. -/
structure Plain (book : Book) (base : Place) (store : FileStore) (item : Item) : Prop where
  source : store.find? (sourcePlace base item) ≠ some .directory
  output : store.find? (book.outputPlace base item) ≠ some .directory

theorem Plain.limitedTo {book : Book} {base : Place} {store : FileStore} {item : Item}
    (plain : book.Plain base store item) (asked : Request → Bool) :
    (book.limitedTo asked).Plain base store item :=
  ⟨plain.source, plain.output⟩

instance (book : Book) (sources : Collection) (base : Place) :
    Decidable (book.Separate sources base) :=
  decidable_of_iff
    ((sources.items.flatMap fun item => book.touches base item true).Nodup ∧
      ∀ item ∈ sources.items, ∀ other ∈ sources.items,
        sourcePlace base item ∉ book.touches base other true)
    ⟨fun ⟨distinct, apart⟩ => ⟨distinct, apart⟩,
      fun separate => ⟨separate.distinct, separate.apart⟩⟩

instance (book : Book) (base : Place) (store : FileStore) (item : Item) :
    Decidable (book.Plain base store item) :=
  decidable_of_iff
    (store.find? (sourcePlace base item) ≠ some .directory ∧
      store.find? (book.outputPlace base item) ≠ some .directory)
    ⟨fun ⟨source, output⟩ => ⟨source, output⟩, fun plain => ⟨plain.source, plain.output⟩⟩

namespace Separate

variable {book : Book} {sources : Collection} {base : Place}

theorem fit (separate : book.Separate sources base)
    (named : ∀ item ∈ sources.items, item.path.NamesFile) :
    ∀ item ∈ sources.items, book.Fit base item :=
  fun item member => ⟨named item member, fun temporary =>
    separate.apart item member item member (List.mem_append_left _ temporary)⟩

theorem independent (separate : book.Separate sources base) :
    sources.items.Pairwise (book.Independent base) := by
  have disjoint := (List.nodup_flatMap.1 separate.distinct).2
  refine disjoint.imp_of_mem fun {first second} among alsoAmong apart => ?_
  have product : ∀ item, book.outputPlace base item ∈ book.touches base item true :=
    fun item => by simp [touches]
  refine ⟨⟨separate.apart second alsoAmong first among, ?_⟩,
    ⟨separate.apart first among second alsoAmong, ?_⟩⟩
  · exact fun member => apart member (product second)
  · exact fun member => apart (product first) member

/-- Items with one product are one item. -/
theorem eq_of_output (separate : book.Separate sources base) {item other : Item}
    (member : item ∈ sources.items) (also : other ∈ sources.items)
    (same : book.output item = book.output other) : item = other := by
  by_contra different
  have independent := separate.independent.forall member also different
  refine independent.forward.output ?_
  rw [outputPlace, ← same]
  simp [touches, outputPlace]

end Separate

end Book

end Bindery
