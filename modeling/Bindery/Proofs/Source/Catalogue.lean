import Bindery.Proofs.Command.Contract
import Bindery.Proofs.FileStore.Lawful
import Bindery.Proofs.Source.Listing

/-!
Contract: that the sources which are found are all that are there, each once and in order.

Owns:
- `Catalogue`, the files directly inside a directory whose names end in a suffix, in the order of
  their names, and that no two catalogues of different suffixes share a file;
- `Visits`, the paths that finding looks at. It is refused exactly when one of them is longer than
  a path can be;
- the theorem that a collection of sources is made up of the four catalogues, and a directory that
  cannot be looked at.

Does not own: what the patterns for names mean (`Bindery.Proofs.Source.Listing`).
-/

namespace Bindery

namespace Source

/-! ## Catalogues -/

/-- A regular file directly inside a directory. -/
def FileIn (store : FileStore) (base : Place) (directory : Path) (name : String) : Prop :=
  store.status base directory = .ok .directory ∧
    ∃ file, store.find? (directory.placeFrom base ++ [name]) = some (.file file)

/-- The paths of exactly the regular files directly inside a directory whose names end in a suffix,
in strictly ascending order of the names. A directory that is not there has none. -/
def Catalogue (store : FileStore) (base : Place) (directory : Path) (suffix : String)
    (paths : List Path) : Prop :=
  ∃ names : List String, paths = names.map (fun name => below directory [name]) ∧
    names.Pairwise (· < ·) ∧
    ∀ name, name ∈ names ↔ FileIn store base directory name ∧ suffix.toList <:+ name.toList

/-- The paths that finding looks at: the directory, and all that is directly inside it under a name
with the suffix. -/
def Visits (store : FileStore) (base : Place) (directory : Path) (suffix : String)
    (path : Path) : Prop :=
  path = directory ∨ ∃ name, path = below directory [name] ∧ suffix.toList <:+ name.toList ∧
    store.status base directory = .ok .directory ∧
    (store.find? (directory.placeFrom base ++ [name])).isSome = true

section Places

variable {base : Place} {directory : Path} {name : String}

theorem placeFrom_below (down : name ≠ "..") :
    (below directory [name]).placeFrom base = directory.placeFrom base ++ [name] := by
  have start : (below directory [name]).isAbsolute = directory.isAbsolute := rfl
  rw [Path.placeFrom, start]
  simp [below, Path.placeFrom, Path.descend_down down]

theorem ne_up_of_suffix {suffix : String} (ends : suffix.toList <:+ name.toList)
    (long : 2 < suffix.toList.length) : name ≠ ".." := by
  rintro rfl
  have atMost : suffix.toList.length ≤ 2 := ends.length_le
  omega

theorem below_eq_joinText (part : Path.IsPart name) :
    below directory [name] = directory.joinText name :=
  (Path.joinText_of_isPart part directory).symm

end Places

namespace Catalogue

variable {store : FileStore} {base : Place} {directory other : Path} {suffix ending : String}
  {paths more : List Path}

/-- A catalogue names each of its files once. -/
theorem nodup_places (catalogue : Catalogue store base directory suffix paths)
    (long : 2 < suffix.toList.length) : (paths.map (Path.placeFrom base)).Nodup := by
  obtain ⟨names, rfl, ascending, exact'⟩ := catalogue
  rw [List.map_map]
  have distinct : names.Nodup := ascending.imp fun {first second} before same => by
    rw [same] at before
    exact String.lt_irrefl _ before
  refine distinct.map_on fun first one second also same => ?_
  simp only [Function.comp_apply] at same
  rw [placeFrom_below (ne_up_of_suffix ((exact' first).1 one).2 long),
    placeFrom_below (ne_up_of_suffix ((exact' second).1 also).2 long)] at same
  simpa using same

/-- Catalogues of suffixes of which neither ends the other have no file in common, whatever
directories they are of. -/
theorem disjoint_places (catalogue : Catalogue store base directory suffix paths)
    (also : Catalogue store base other ending more) (long : 2 < suffix.toList.length)
    (alsoLong : 2 < ending.toList.length)
    (apart : ¬ suffix.toList <:+ ending.toList ∧ ¬ ending.toList <:+ suffix.toList) :
    (paths.map (Path.placeFrom base)).Disjoint (more.map (Path.placeFrom base)) := by
  obtain ⟨names, rfl, _, exact'⟩ := catalogue
  obtain ⟨others, rfl, _, exactOther⟩ := also
  rw [List.disjoint_left]
  simp only [List.mem_map]
  rintro _ ⟨_, ⟨first, one, rfl⟩, rfl⟩ ⟨_, ⟨second, two, rfl⟩, same⟩
  have ends := ((exact' first).1 one).2
  have endsOther := ((exactOther second).1 two).2
  rw [placeFrom_below (ne_up_of_suffix ends long),
    placeFrom_below (ne_up_of_suffix endsOther alsoLong)] at same
  obtain ⟨_, rfl⟩ : other.placeFrom base = directory.placeFrom base ∧ second = first := by
    simpa using List.append_inj' same rfl
  rcases Nat.le_total suffix.toList.length ending.toList.length with le | le
  · exact apart.1 (List.suffix_of_suffix_length_le ends endsOther le)
  · exact apart.2 (List.suffix_of_suffix_length_le endsOther ends le)

end Catalogue

/-! ## Names in order -/

section Ordering

theorem append_singleton_lt_iff (front : List String) (left right : String) :
    front ++ [left] < front ++ [right] ↔ left < right := by
  induction front with
  | nil => simp [List.cons_lt_cons_iff]
  | cons name rest inductionHypothesis => simp [inductionHypothesis]

/-- Names that are put in order. -/
def orderedNames (names : List String) : List String :=
  names.mergeSort fun left right => !decide (right < left)

theorem mem_orderedNames {names : List String} {name : String} :
    name ∈ orderedNames names ↔ name ∈ names :=
  List.mem_mergeSort

/-- Paths directly inside one directory are put in the order of their names. -/
theorem inOrder_below (directory : Path) (names : List String) :
    inOrder (names.map fun name => below directory [name]) =
      (orderedNames names).map fun name => below directory [name] := by
  refine (List.map_mergeSort fun left _ right _ => ?_).symm
  simp [below, append_singleton_lt_iff]

theorem pairwise_orderedNames {names : List String} (distinct : names.Nodup) :
    (orderedNames names).Pairwise (· < ·) := by
  have sorted : (orderedNames names).Pairwise fun left right => (!decide (right < left)) = true :=
    List.pairwise_mergeSort (fun first second third one two => by
      simp only [Bool.not_eq_true', decide_eq_false_iff_not, String.not_lt] at one two ⊢
      exact String.le_trans one two) (fun first second => by
      simp only [Bool.or_eq_true, Bool.not_eq_true', decide_eq_false_iff_not, String.not_lt]
      exact String.le_total first second) names
  have once : (orderedNames names).Nodup := (List.mergeSort_perm names _).nodup_iff.2 distinct
  refine (sorted.and once).imp fun {first second} ⟨before, different⟩ => ?_
  simp only [Bool.not_eq_true', decide_eq_false_iff_not, String.not_lt] at before
  by_contra later
  exact different (String.le_antisymm before (String.not_lt.1 later))

end Ordering

/-! ## Finding -/

/-- An action that looks at paths, and changes nothing. It is refused for one of them that is too
long; where none is, it gives a good answer. -/
def Gathers {α : Type} (world : World) (looked : Path → Prop) (Good : α → Prop)
    (action : Action α) : Prop :=
  (∃ path, looked path ∧ FileStore.Overlong path ∧
    action.exec world = (.error (.io ⟨.nameTooLong, path.render⟩), world)) ∨
  ((∀ path, looked path → ¬ FileStore.Overlong path) ∧
    ∃ value, action.exec world = (.ok value, world) ∧ Good value)

theorem Gathers.bind {α β : Type} {world : World} {looked other : Path → Prop} {Good : α → Prop}
    {Better : β → Prop} {action : Action α} {next : α → Action β}
    (first : Gathers world looked Good action) (later : Path → Prop)
    (rest : ∀ value, Good value → Gathers world later Better (next value))
    (both : ∀ path, looked path ∨ later path ↔ other path) :
    Gathers world other Better (action >>= next) := by
  obtain rfl : (fun path => looked path ∨ later path) = other :=
    funext fun path => propext (both path)
  rcases first with ⟨path, among, long, refused⟩ | ⟨fits, value, ran, good⟩
  · exact .inl ⟨path, .inl among, long, Action.exec_bind_of_error refused _⟩
  · rcases rest value good with ⟨path, among, long, refused⟩ | ⟨alsoFits, result, onward, better⟩
    · exact .inl ⟨path, .inr among, long, (Action.exec_bind_of_ok ran _).trans refused⟩
    · exact .inr ⟨fun path among => among.elim (fits path) (alsoFits path), result,
        (Action.exec_bind_of_ok ran _).trans onward, better⟩

theorem gathers_pure {α : Type} (world : World) {looked : Path → Prop} {Good : α → Prop} {value : α}
    (nowhere : ∀ path, ¬ looked path) (good : Good value) :
    Gathers world looked Good (pure value) :=
  .inr ⟨fun path among => absurd among (nowhere path), value, rfl, good⟩

section Finding

variable {world : World} {directory : Path} {suffix : String}

/-- What is directly inside a directory is a file or not, unless its path is too long. -/
theorem gathers_isFile {name : String} (lawful : world.files.Lawful)
    (there : world.files.status world.base directory = .ok .directory)
    (member : name ∈ world.files.children (directory.placeFrom world.base)) :
    Gathers world (· = below directory [name])
      (fun isFile => isFile = true ↔ FileIn world.files world.base directory name)
      (Action.isFile (below directory [name])) := by
  have entry := lawful.isEntryName_of_mem_children member
  have reached := FileStore.isDirectory_eq_true_iff.2 there
  have spelled : below directory [name] = directory.joinText name := below_eq_joinText entry.part
  have clean : (below directory [name]).hasNull = false := by
    have start := (FileStore.walk_of_locate (FileStore.locate_of_status there).1).1
    rw [spelled, Path.hasNull_joinText entry.part, start]
    simpa using entry.clean
  have short : ¬ (name ≠ ".." ∧ FileStore.nameLimit < name.utf8ByteSize) := fun long =>
    absurd entry.short (Nat.not_le.2 long.2)
  have located := FileStore.locate_joinText reached entry.part (spelled ▸ clean)
  rw [← spelled, placeFrom_below entry.down] at located
  by_cases wide : FileStore.pathLimit < (below directory [name]).render.utf8ByteSize
  · rw [if_pos (.inl wide)] at located
    have refused : world.files.isFile world.base (below directory [name]) =
        .error (.io ⟨.nameTooLong, (below directory [name]).render⟩) := by
      simp [FileStore.isFile, FileStore.status?, FileStore.status, located, Except.map]
    exact .inl ⟨_, rfl, ⟨clean, wide⟩, Prod.ext refused rfl⟩
  · rw [if_neg (not_or.2 ⟨wide, short⟩)] at located
    refine .inr ⟨fun path same long => wide (same ▸ long.2), ?_⟩
    obtain ⟨node, found⟩ := Option.isSome_iff_exists.1 (FileStore.mem_children_iff.1 member)
    unfold FileIn
    cases node with
    | file file =>
        have answered : world.files.isFile world.base (below directory [name]) = .ok true := by
          unfold FileStore.isFile FileStore.status? FileStore.status
          simp only [located, found]
          rfl
        exact ⟨true, Prod.ext answered rfl, by simp [there, found]⟩
    | directory =>
        have answered : world.files.isFile world.base (below directory [name]) = .ok false := by
          unfold FileStore.isFile FileStore.status? FileStore.status
          simp only [located, found]
          rfl
        exact ⟨false, Prod.ext answered rfl, by simp [found]⟩

/-- Of names in a directory those of files are kept, in their order. -/
theorem gathers_keepFiles {names : List String} (lawful : world.files.Lawful)
    (there : world.files.status world.base directory = .ok .directory)
    (inside : ∀ name ∈ names, name ∈ world.files.children (directory.placeFrom world.base)) :
    Gathers world (fun path => ∃ name ∈ names, path = below directory [name])
      (fun paths => ∃ kept : List String, paths = kept.map (fun name => below directory [name]) ∧
        kept.Sublist names ∧
        ∀ name, name ∈ kept ↔ name ∈ names ∧ FileIn world.files world.base directory name)
      (keepFiles (names.map fun name => below directory [name])) := by
  induction names with
  | nil => exact gathers_pure world (by simp) ⟨[], rfl, .slnil, by simp⟩
  | cons first rest inductionHypothesis =>
      have behind := inductionHypothesis fun name member =>
        inside name (List.mem_cons_of_mem first member)
      refine (gathers_isFile lawful there (inside first List.mem_cons_self)).bind
        (fun path => ∃ name ∈ rest, path = below directory [name]) (fun isFile told => ?_)
        (by simp)
      refine behind.bind (fun _ => False) ?_ (by simp)
      rintro _ ⟨kept, rfl, sublist, exact'⟩
      refine gathers_pure world (fun _ => id) ?_
      cases isFile with
      | true =>
          refine ⟨first :: kept, rfl, sublist.cons_cons first, fun name => ?_⟩
          by_cases same : name = first
          · simp [same, told.1 rfl]
          · simp [same, exact']
      | false =>
          refine ⟨kept, rfl, sublist.cons first, fun name => ?_⟩
          by_cases same : name = first
          · have absent : ¬ FileIn world.files world.base directory first := fun file =>
              Bool.false_ne_true (told.2 file)
            simp [same, exact', absent]
          · simp [same, exact']

/-- A directory whose path is too long is not searched. -/
theorem exec_find_of_overlong (long : FileStore.Overlong directory) :
    (find directory suffix).exec world =
      (.error (.io ⟨.nameTooLong, directory.render⟩), world) := by
  have refused : (Action.isDirectory directory).exec world =
      (.error (.io ⟨.nameTooLong, directory.render⟩), world) :=
    Prod.ext (FileStore.isDirectory_of_overlong long) rfl
  exact Action.exec_bind_of_error refused _

/-- What is found in a directory that is there. -/
theorem exec_find_of_directory (plain : IsPlain suffix)
    (there : world.files.status world.base directory = .ok .directory) :
    (find directory suffix).exec world =
      (keepFiles ((orderedNames ((world.files.children (directory.placeFrom world.base)).filter
        fun name => suffix.toList.isSuffixOf name.toList)).map
          fun name => below directory [name])).exec world := by
  have steps : pathSteps ("*" ++ suffix) = some [.matching (.any :: suffix.toList.map .exact)] :=
    plain
  have asked : (Action.isDirectory directory).exec world = (.ok true, world) :=
    Prod.ext (FileStore.isDirectory_eq_true_iff.2 there) rfl
  have selected : (Action.observe fun world => select world.files world.base
      [.matching (.any :: suffix.toList.map .exact)] directory).exec world =
      (.ok (((world.files.children (directory.placeFrom world.base)).filter fun name =>
        accepts (.any :: suffix.toList.map .exact) name.toList).map
          fun name => below directory [name]), world) :=
    Prod.ext (select_matching (FileStore.locate_of_status there).1) rfl
  have ends : ∀ name : String, accepts (.any :: suffix.toList.map .exact) name.toList =
      suffix.toList.isSuffixOf name.toList := by
    intro name
    rw [Bool.eq_iff_iff, accepts_star_iff, List.isSuffixOf_iff_suffix]
  unfold find
  rw [Action.exec_bind_of_ok asked]
  simp only [if_true, steps]
  rw [Action.exec_bind_of_ok selected]
  simp only [ends, inOrder_below]

/-- Finding gives the catalogue, or is refused for a path that is too long. -/
theorem gathers_find (plain : IsPlain suffix) (lawful : world.files.Lawful)
    (short : ∀ name ∈ directory.parts, name.utf8ByteSize ≤ FileStore.nameLimit) :
    Gathers world (Visits world.files world.base directory suffix)
      (Catalogue world.files world.base directory suffix) (find directory suffix) := by
  by_cases long : FileStore.Overlong directory
  · exact .inl ⟨directory, .inl rfl, long, exec_find_of_overlong long⟩
  obtain ⟨flag, asked⟩ := FileStore.exists_isDirectory_of_short world.files world.base short long
  by_cases there : world.files.status world.base directory = .ok .directory
  swap
  · obtain rfl : flag = false := by
      cases flag with
      | false => rfl
      | true => exact absurd (FileStore.isDirectory_eq_true_iff.1 asked) there
    have nothing : (Action.isDirectory directory).exec world = (.ok false, world) :=
      Prod.ext asked rfl
    refine .inr ⟨?_, [], Action.exec_bind_of_ok nothing _, [], rfl, .nil, fun name => ?_⟩
    · rintro path (rfl | ⟨_, _, _, present, _⟩)
      · exact long
      · exact absurd present there
    · simp [FileIn, there]
  set names := orderedNames ((world.files.children (directory.placeFrom world.base)).filter
    fun name => suffix.toList.isSuffixOf name.toList) with listed
  have mem_names : ∀ name, name ∈ names ↔
      name ∈ world.files.children (directory.placeFrom world.base) ∧
        suffix.toList <:+ name.toList := by
    intro name
    rw [listed, mem_orderedNames, List.mem_filter, List.isSuffixOf_iff_suffix]
  have ordered : names.Pairwise (· < ·) :=
    pairwise_orderedNames (lawful.nodup_children.filter _)
  have ran := exec_find_of_directory plain there
  rcases gathers_keepFiles lawful there fun name member => ((mem_names name).1 member).1
    with ⟨_, ⟨name, member, rfl⟩, overlong, refused⟩ |
      ⟨fits, _, answered, kept, rfl, sublist, exact'⟩
  · obtain ⟨child, ends⟩ := (mem_names name).1 member
    exact .inl ⟨_, .inr ⟨name, rfl, ends, there, FileStore.mem_children_iff.1 child⟩, overlong,
      ran.trans refused⟩
  · refine .inr ⟨?_, _, ran.trans answered, kept, rfl, ordered.sublist sublist, fun name => ?_⟩
    · rintro path (rfl | ⟨name, rfl, ends, _, present⟩)
      · exact long
      · exact fits _ ⟨name, (mem_names name).2 ⟨FileStore.mem_children_iff.2 present, ends⟩, rfl⟩
    · rw [exact', mem_names]
      constructor
      · exact fun ⟨⟨_, ends⟩, file⟩ => ⟨file, ends⟩
      · rintro ⟨⟨also, file, found⟩, ends⟩
        exact ⟨⟨FileStore.mem_children_iff.2 (by simp [found]), ends⟩, also, file, found⟩

end Finding

/-! ## Collecting -/

/-- The paths that collecting looks at. -/
def Surveys (world : World) (latexDirectory graphvizDirectory : Path) (path : Path) : Prop :=
  Visits world.files world.base graphvizDirectory ".dot" path ∨
    Visits world.files world.base graphvizDirectory ".neato" path ∨
    Visits world.files world.base latexDirectory ".tex" path ∨
    Visits world.files world.base latexDirectory ".latex" path

/-- The sources of two directories, all of them, each kind in order and no file twice. -/
structure Complete (world : World) (latexDirectory graphvizDirectory : Path)
    (sources : Collection) : Prop where
  diagrams : ∃ dots neatos, sources.diagrams = dots ++ neatos ∧
    Catalogue world.files world.base graphvizDirectory ".dot" dots ∧
    Catalogue world.files world.base graphvizDirectory ".neato" neatos
  fragments : Catalogue world.files world.base latexDirectory ".tex" sources.fragments
  documents : Catalogue world.files world.base latexDirectory ".latex" sources.documents
  once : ((sources.diagrams ++ sources.fragments ++ sources.documents).map
    (Path.placeFrom world.base)).Nodup

section Collecting

variable {world : World} {latexDirectory graphvizDirectory : Path}

theorem complete_of_catalogues {dots neatos fragments documents : List Path}
    (dot : Catalogue world.files world.base graphvizDirectory ".dot" dots)
    (neato : Catalogue world.files world.base graphvizDirectory ".neato" neatos)
    (tex : Catalogue world.files world.base latexDirectory ".tex" fragments)
    (latex : Catalogue world.files world.base latexDirectory ".latex" documents) :
    Complete world latexDirectory graphvizDirectory ⟨dots ++ neatos, fragments, documents⟩ where
  diagrams := ⟨dots, neatos, rfl, dot, neato⟩
  fragments := tex
  documents := latex
  once := by
    have each := And.intro (dot.nodup_places (by decide)) <|
      And.intro (neato.nodup_places (by decide)) <|
      And.intro (tex.nodup_places (by decide)) (latex.nodup_places (by decide))
    have dotNeato := dot.disjoint_places neato (by decide) (by decide) (by decide)
    have dotTex := dot.disjoint_places tex (by decide) (by decide) (by decide)
    have dotLatex := dot.disjoint_places latex (by decide) (by decide) (by decide)
    have neatoTex := neato.disjoint_places tex (by decide) (by decide) (by decide)
    have neatoLatex := neato.disjoint_places latex (by decide) (by decide) (by decide)
    have texLatex := tex.disjoint_places latex (by decide) (by decide) (by decide)
    simp only [List.map_append, List.nodup_append', List.disjoint_append_left]
    exact ⟨⟨⟨each.1, each.2.1, dotNeato⟩, each.2.2.1, dotTex, neatoTex⟩, each.2.2.2,
      ⟨dotLatex, neatoLatex⟩, texLatex⟩

theorem gathers_collect (lawful : world.files.Lawful)
    (latexShort : ∀ name ∈ latexDirectory.parts, name.utf8ByteSize ≤ FileStore.nameLimit)
    (graphvizShort : ∀ name ∈ graphvizDirectory.parts, name.utf8ByteSize ≤ FileStore.nameLimit) :
    Gathers world (Surveys world latexDirectory graphvizDirectory)
      (Complete world latexDirectory graphvizDirectory)
      (collect latexDirectory graphvizDirectory) := by
  have diagrams : Gathers world
      (fun path => Visits world.files world.base graphvizDirectory ".dot" path ∨
        Visits world.files world.base graphvizDirectory ".neato" path)
      (fun paths => ∃ dots neatos, paths = dots ++ neatos ∧
        Catalogue world.files world.base graphvizDirectory ".dot" dots ∧
        Catalogue world.files world.base graphvizDirectory ".neato" neatos)
      (findDiagrams graphvizDirectory renderers) := by
    refine (gathers_find (show IsPlain ".dot" by decide) lawful graphvizShort).bind
      (Visits world.files world.base graphvizDirectory ".neato") (fun dots dot => ?_)
      fun path => Iff.rfl
    have neato : Gathers world (Visits world.files world.base graphvizDirectory ".neato")
        (Catalogue world.files world.base graphvizDirectory ".neato")
        (findDiagrams graphvizDirectory ["neato"]) := by
      refine (gathers_find (show IsPlain ".neato" by decide) lawful graphvizShort).bind
        (fun _ => False) (fun neatos neato => ?_) (by simp)
      have nothing : Gathers world (fun _ => False) (· = []) (findDiagrams graphvizDirectory []) :=
        gathers_pure world (fun _ => id) rfl
      refine nothing.bind (fun _ => False) ?_ (by simp)
      rintro _ rfl
      rw [List.append_nil]
      exact gathers_pure world (fun _ => id) neato
    exact neato.bind (fun _ => False)
      (fun neatos neato => gathers_pure world (fun _ => id) ⟨dots, neatos, rfl, dot, neato⟩)
      (by simp)
  refine diagrams.bind
    (fun path => Visits world.files world.base latexDirectory ".tex" path ∨
      Visits world.files world.base latexDirectory ".latex" path) ?_ (by simp [Surveys, or_assoc])
  rintro _ ⟨dots, neatos, rfl, dot, neato⟩
  refine (gathers_find (show IsPlain ".tex" by decide) lawful latexShort).bind
    (Visits world.files world.base latexDirectory ".latex") (fun fragments tex => ?_)
    fun path => Iff.rfl
  refine (gathers_find (show IsPlain ".latex" by decide) lawful latexShort).bind
    (fun _ => False) (fun documents latex => ?_) (by simp)
  exact gathers_pure world (fun _ => id) (complete_of_catalogues dot neato tex latex)

/-- Collecting finds exactly the sources that are there. Where no path that it looks at is too long,
it answers the regular files directly inside the two directories by their suffixes, each kind in the
order of the names and no file twice; and where one is, it is refused for such a path. In both cases
nothing is changed. -/
theorem collect_complete (lawful : world.files.Lawful)
    (latexShort : ∀ name ∈ latexDirectory.parts, name.utf8ByteSize ≤ FileStore.nameLimit)
    (graphvizShort : ∀ name ∈ graphvizDirectory.parts, name.utf8ByteSize ≤ FileStore.nameLimit) :
    ((∀ path, Surveys world latexDirectory graphvizDirectory path → ¬ FileStore.Overlong path) →
      ∃ sources, (collect latexDirectory graphvizDirectory).exec world = (.ok sources, world) ∧
        Complete world latexDirectory graphvizDirectory sources) ∧
    ((∃ path, Surveys world latexDirectory graphvizDirectory path ∧ FileStore.Overlong path) →
      ∃ path, Surveys world latexDirectory graphvizDirectory path ∧ FileStore.Overlong path ∧
        (collect latexDirectory graphvizDirectory).exec world =
          (.error (.io ⟨.nameTooLong, path.render⟩), world)) := by
  rcases gathers_collect lawful latexShort graphvizShort with
    ⟨path, among, long, refused⟩ | ⟨fits, sources, ran, complete⟩
  · exact ⟨fun all => absurd long (all path among), fun _ => ⟨path, among, long, refused⟩⟩
  · exact ⟨fun _ => ⟨sources, ran, complete⟩,
      fun ⟨path, among, long⟩ => absurd long (fits path among)⟩

end Collecting

/-- One directory for both kinds of sources: with a hidden file, names with several dots, and a
directory that is named as a diagram. -/
def mixedWorld : World where
  files := ⟨[
    (["book"], .directory), (["book", "plan.v2.dot"], .file ⟨[], 0, false⟩),
    (["book", ".dot"], .file ⟨[], 0, false⟩), (["book", "old.dot"], .directory),
    (["book", "old.dot", "inner.dot"], .file ⟨[], 0, false⟩),
    (["book", "net.neato"], .file ⟨[], 0, false⟩), (["book", "part.tex"], .file ⟨[], 0, false⟩),
    (["book", "part.tex.latex"], .file ⟨[], 0, false⟩)]⟩
  now := 0
  base := []
  environment := []
  runner := .scripted fun _ => false
  commands := []
  requests := []
  missing := []
  events := []
  recording := .start false fun _ => 0

def mixedDirectory : Path :=
  .ofPlace ["book"]

theorem fits_of_surveys_mixed {path : Path}
    (looked : Surveys mixedWorld mixedDirectory mixedDirectory path) :
    ¬ FileStore.Overlong path := by
  have children : ∀ name ∈ mixedWorld.files.children ["book"],
      ¬ FileStore.Overlong (below mixedDirectory [name]) := by decide +kernel
  have each : ∀ suffix, Visits mixedWorld.files mixedWorld.base mixedDirectory suffix path →
      ¬ FileStore.Overlong path := by
    rintro suffix (rfl | ⟨name, rfl, _, _, present⟩)
    · decide +kernel
    · exact children name (FileStore.mem_children_iff.2 present)
  rcases looked with visited | visited | visited | visited
  all_goals exact each _ visited

theorem collect_complete_mixed :
    mixedWorld.files.Lawful ∧
      (∀ name ∈ mixedDirectory.parts, name.utf8ByteSize ≤ FileStore.nameLimit) ∧
      (∀ path, Surveys mixedWorld mixedDirectory mixedDirectory path →
        ¬ FileStore.Overlong path) ∧
      ∃ sources, (collect mixedDirectory mixedDirectory).exec mixedWorld =
          (.ok sources, mixedWorld) ∧
        Complete mixedWorld mixedDirectory mixedDirectory sources := by
  have lawful : mixedWorld.files.Lawful := by decide +kernel
  have short : ∀ name ∈ mixedDirectory.parts, name.utf8ByteSize ≤ FileStore.nameLimit := by
    decide +kernel
  exact ⟨lawful, short, fun _ => fits_of_surveys_mixed,
    (collect_complete lawful short short).1 fun _ => fits_of_surveys_mixed⟩

/-- A directory with short names only, below as many others. -/
def deepDirectory (depth : Nat) : Path :=
  .ofPlace ("book" :: List.replicate depth "d")

theorem eq_of_mem_deepDirectory {depth : Nat} {name : String}
    (member : name ∈ (deepDirectory depth).parts) : name = "book" ∨ name = "d" :=
  (List.mem_cons.1 member).imp id List.eq_of_mem_replicate

theorem length_le_utf8ByteSize_intercalate {parts : List String}
    (some : ∀ part ∈ parts, 1 ≤ part.utf8ByteSize) :
    2 * parts.length ≤ ("/".intercalate parts).utf8ByteSize + 1 := by
  induction parts with
  | nil => simp
  | cons first rest inductionHypothesis =>
      have here := some first List.mem_cons_self
      cases rest with
      | nil => simpa using here
      | cons next more =>
          have slash : "/".utf8ByteSize = 1 := by decide
          have behind := inductionHypothesis fun part member =>
            some part (List.mem_cons_of_mem first member)
          rw [String.intercalate_cons_cons, String.utf8ByteSize_append, String.utf8ByteSize_append,
            slash, List.length_cons]
          omega

theorem overlong_deepDirectory {depth : Nat} (deep : 2048 < depth) :
    FileStore.Overlong (deepDirectory depth) := by
  have many : (deepDirectory depth).parts.length = depth + 1 := by
    simp [deepDirectory, Path.ofPlace]
  have sized : ∀ part ∈ (deepDirectory depth).parts, 1 ≤ part.utf8ByteSize := by
    intro part member
    rcases eq_of_mem_deepDirectory member with rfl | rfl
    · decide
    · decide
  have long := length_le_utf8ByteSize_intercalate sized
  have written : (deepDirectory depth).render =
      "/" ++ "/".intercalate (deepDirectory depth).parts := rfl
  refine ⟨?_, ?_⟩
  · rw [Path.hasNull, List.any_eq_false]
    intro part member
    rcases eq_of_mem_deepDirectory member with rfl | rfl
    · decide
    · decide
  · rw [written, String.utf8ByteSize_append, FileStore.pathLimit]
    omega

/-- Below a path that is too long nothing is missing: it is refused. -/
theorem collect_deep :
    mixedWorld.files.Lawful ∧
      (∀ name ∈ (deepDirectory 2100).parts, name.utf8ByteSize ≤ FileStore.nameLimit) ∧
      (∀ name ∈ (Path.ofPlace ["book", "none"]).parts,
        name.utf8ByteSize ≤ FileStore.nameLimit) ∧
      (collect (deepDirectory 2100) (.ofPlace ["book", "none"])).exec mixedWorld =
        (.error (.io ⟨.nameTooLong, (deepDirectory 2100).render⟩), mixedWorld) := by
  have diagrams : (findDiagrams (.ofPlace ["book", "none"]) renderers).exec mixedWorld =
      (.ok [], mixedWorld) := rfl
  have fragments : (find (deepDirectory 2100) fragmentSuffix).exec mixedWorld =
      (.error (.io ⟨.nameTooLong, (deepDirectory 2100).render⟩), mixedWorld) :=
    exec_find_of_overlong (overlong_deepDirectory (by decide))
  refine ⟨by decide +kernel, fun name member => ?_, by decide +kernel,
    (Action.exec_bind_of_ok diagrams _).trans (Action.exec_bind_of_error fragments _)⟩
  rcases eq_of_mem_deepDirectory member with rfl | rfl
  · decide
  · decide

end Source

end Bindery
