import Bindery.Proofs.Path.Place
import Bindery.Proofs.Source.Finding

/-!
Contract: which sources are found.

Owns:
- what a pattern for names that is a star and a plain suffix stands for;
- `Listed`, a file directly inside a directory, whose name ends in a suffix, and that all that is
  found is listed;
- what this says of the sources of a book: they are files under proper paths, and their names end
  as their kinds want it.

Does not own: in which order sources are found, and that none is missed.
-/

namespace Bindery

/-- The names in a store hold no slash. -/
def FileStore.Slashless (store : FileStore) : Prop :=
  ∀ entry ∈ store.entries, ∀ name ∈ entry.1, '/' ∉ name.toList

instance (store : FileStore) : Decidable store.Slashless :=
  inferInstanceAs (Decidable (∀ entry ∈ store.entries, ∀ name ∈ entry.1, '/' ∉ name.toList))

namespace Source

/-! ## Names that end in a suffix -/

theorem someTail_eq_true_iff {test : List Char → Bool} {name : List Char} :
    someTail test name = true ↔ ∃ tail, tail <:+ name ∧ test tail = true := by
  induction name with
  | nil => simp [someTail]
  | cons c rest inductionHypothesis =>
      rw [someTail, Bool.or_eq_true, inductionHypothesis]
      constructor
      · rintro (whole | ⟨tail, behind, passes⟩)
        · exact ⟨c :: rest, List.suffix_rfl, whole⟩
        · exact ⟨tail, behind.trans (List.suffix_cons c rest), passes⟩
      · rintro ⟨tail, behind, passes⟩
        rcases List.suffix_cons_iff.1 behind with rfl | inside
        · exact .inl passes
        · exact .inr ⟨tail, inside, passes⟩

theorem accepts_exact_iff {text name : List Char} :
    accepts (text.map Element.exact) name = true ↔ name = text := by
  induction text generalizing name with
  | nil => simp [accepts]
  | cons c rest inductionHypothesis =>
      cases name with
      | nil => simp [accepts]
      | cons d more => simp [accepts, Element.accepts, inductionHypothesis]

/-- A star and a plain text stand for the names that end in the text. -/
theorem accepts_star_iff {suffix name : List Char} :
    accepts (.any :: suffix.map Element.exact) name = true ↔ suffix <:+ name := by
  rw [accepts, someTail_eq_true_iff]
  constructor
  · rintro ⟨tail, behind, passes⟩
    rwa [← accepts_exact_iff.1 passes]
  · intro ends
    exact ⟨suffix, ends, accepts_exact_iff.2 rfl⟩

/-- A suffix that is no pattern itself and does not lead further down. -/
def IsPlain (suffix : String) : Prop :=
  pathSteps ("*" ++ suffix) = some [.matching (.any :: suffix.toList.map .exact)]

instance (suffix : String) : Decidable (IsPlain suffix) :=
  inferInstanceAs (Decidable (pathSteps ("*" ++ suffix) =
    some [.matching (.any :: suffix.toList.map .exact)]))

/-! ## What is found -/

/-- A file directly inside a directory, whose name ends in a suffix and is a name of the store. -/
structure Listed (store : FileStore) (base : Place) (directory : Path) (suffix : String)
    (path : Path) : Prop where
  inside : ∃ name, path = below directory [name] ∧ suffix.toList <:+ name.toList ∧
    ∃ entry ∈ store.entries, name ∈ entry.1
  file : ∃ file, store.find? (path.placeFrom base) = some (.file file)

section Found

variable {store : FileStore} {base : Place}

theorem mem_of_mem_children {place : Place} {name : String} (member : name ∈ store.children place) :
    ∃ entry ∈ store.entries, name ∈ entry.1 := by
  obtain ⟨⟨key, node⟩, among, told⟩ := List.mem_filterMap.1 member
  refine ⟨(key, node), among, ?_⟩
  simp only at told
  split at told
  · rename_i last found
    split at told
    · obtain rfl := Option.some.inj told
      exact List.mem_of_getLast? found
    · contradiction
  · contradiction

theorem find?_of_isFile {path : Path} (there : store.isFile base path = .ok true) :
    ∃ file, store.find? (path.placeFrom base) = some (.file file) := by
  unfold FileStore.isFile FileStore.status? at there
  cases answered : store.status base path with
  | error fault =>
      rw [answered] at there
      cases fault with
      | io refusal => by_cases absent : refusal.cause = .notFound ∨ refusal.cause = .notDirectory <;>
          simp [absent, Except.map] at there
      | _ => simp [Except.map] at there
  | ok node =>
      cases node with
      | directory => simp [answered, Except.map] at there
      | file file => exact ⟨file, (FileStore.locate_of_status answered).2⟩

theorem mapM_select_nil (paths : List Path) :
    paths.mapM (fun path => select store base [] path) = .ok (paths.map fun path => [path]) := by
  induction paths with
  | nil => rfl
  | cons path rest inductionHypothesis =>
      rw [List.mapM_cons, inductionHypothesis]
      rfl

theorem reached_matching {elements : List Element} {directory : Path} {place : Place}
    (located : store.locate base directory = .ok place) :
    reached store base (.matching elements) false directory =
      .ok (((store.children place).filter fun name => accepts elements name.toList).map
        fun name => below directory [name]) := by
  simp [reached, located, bind, Except.bind, pure, Except.pure]

/-- The paths of a pattern for names are the names of the directory that it accepts. -/
theorem select_matching {elements : List Element} {directory : Path} {place : Place}
    (located : store.locate base directory = .ok place) :
    select store base [.matching elements] directory =
      .ok (((store.children place).filter fun name => accepts elements name.toList).map
        fun name => below directory [name]) := by
  have last : (!([] : List PathStep).isEmpty) = false := rfl
  unfold select
  rw [last, reached_matching located]
  simp only [bind, Except.bind]
  rw [mapM_select_nil]
  simp only [pure, Except.pure, ← List.flatMap_def, List.flatMap_singleton', reduceCtorEq, if_false]

theorem mem_of_mem_select {elements : List Element} {directory path : Path} {paths : List Path}
    (selected : select store base [.matching elements] directory = .ok paths)
    (member : path ∈ paths) :
    ∃ name, path = below directory [name] ∧ accepts elements name.toList = true ∧
      ∃ entry ∈ store.entries, name ∈ entry.1 := by
  cases located : store.locate base directory with
  | error fault =>
      have stuck : select store base [.matching elements] directory = .error fault := by
        simp [select, reached, located, bind, Except.bind]
      rw [stuck] at selected
      contradiction
  | ok place =>
      rw [select_matching located] at selected
      obtain rfl := Except.ok.inj selected
      obtain ⟨name, chosen, rfl⟩ := List.mem_map.1 member
      obtain ⟨child, accepted⟩ := List.mem_filter.1 chosen
      exact ⟨name, rfl, accepted, mem_of_mem_children child⟩

theorem mem_of_mem_keepFiles {world : World} {paths kept : List Path} {path : Path}
    (ran : ((keepFiles paths).exec world).1 = .ok kept) (member : path ∈ kept) :
    path ∈ paths ∧ world.files.isFile world.base path = .ok true := by
  induction paths generalizing kept with
  | nil =>
      obtain rfl := Except.ok.inj ran
      contradiction
  | cons first rest inductionHypothesis =>
      obtain ⟨isFile, looked, onward⟩ := (looks_isFile first).bind_eq_ok ran
      obtain ⟨others, keeping, done⟩ := (looks_keepFiles rest).bind_eq_ok onward
      obtain rfl := Except.ok.inj done
      have behind : path ∈ others →
          path ∈ first :: rest ∧ world.files.isFile world.base path = .ok true :=
        fun later => (inductionHypothesis keeping later).imp_left (List.mem_cons_of_mem _)
      cases isFile with
      | false => exact behind member
      | true =>
          rcases List.mem_cons.1 member with rfl | later
          · exact ⟨List.mem_cons_self, looked⟩
          · exact behind later

/-- All that is found for a plain suffix is listed. -/
theorem listed_of_find {world : World} {directory path : Path} {suffix : String}
    {paths : List Path} (plain : IsPlain suffix)
    (ran : ((find directory suffix).exec world).1 = .ok paths) (member : path ∈ paths) :
    Listed world.files world.base directory suffix path := by
  have steps : pathSteps ("*" ++ suffix) = some [.matching (.any :: suffix.toList.map .exact)] :=
    plain
  obtain ⟨there, _, onward⟩ := (looks_isDirectory directory).bind_eq_ok ran
  cases there with
  | false =>
      obtain rfl := Except.ok.inj onward
      contradiction
  | true =>
      simp only [if_true, steps] at onward
      obtain ⟨names, selected, keeping⟩ := (looks_select _ directory).bind_eq_ok onward
      obtain ⟨ordered, file⟩ := mem_of_mem_keepFiles keeping member
      obtain ⟨name, below, accepted, stored⟩ :=
        mem_of_mem_select selected (List.mem_mergeSort.1 ordered)
      exact ⟨⟨name, below, accepts_star_iff.1 accepted, stored⟩, find?_of_isFile file⟩

/-- The diagrams of plain renderers are listed. -/
theorem listed_of_findDiagrams {world : World} {directory path : Path} {names : List String}
    {paths : List Path} (plain : ∀ renderer ∈ names, IsPlain ("." ++ renderer))
    (ran : ((findDiagrams directory names).exec world).1 = .ok paths) (member : path ∈ paths) :
    ∃ renderer ∈ names, Listed world.files world.base directory ("." ++ renderer) path := by
  induction names generalizing paths with
  | nil =>
      obtain rfl := Except.ok.inj ran
      contradiction
  | cons renderer rest inductionHypothesis =>
      obtain ⟨first, finding, onward⟩ := (looks_find directory _).bind_eq_ok ran
      obtain ⟨others, later, done⟩ := (looks_findDiagrams directory rest).bind_eq_ok onward
      obtain rfl := Except.ok.inj done
      rcases List.mem_append.1 member with now | behind
      · exact ⟨renderer, List.mem_cons_self,
          listed_of_find (plain renderer List.mem_cons_self) finding now⟩
      · obtain ⟨other, among, listed⟩ := inductionHypothesis
          (fun name also => plain name (List.mem_cons_of_mem _ also)) later behind
        exact ⟨other, List.mem_cons_of_mem _ among, listed⟩

/-- What is collected is listed: diagrams under a renderer's name, fragments and documents under
their suffixes. -/
theorem listed_of_collect {world : World} {latexDirectory graphvizDirectory : Path}
    {sources : Collection}
    (ran : ((collect latexDirectory graphvizDirectory).exec world).1 = .ok sources) :
    (∀ path ∈ sources.diagrams, ∃ renderer ∈ renderers,
        Listed world.files world.base graphvizDirectory ("." ++ renderer) path) ∧
      (∀ path ∈ sources.fragments,
        Listed world.files world.base latexDirectory fragmentSuffix path) ∧
      ∀ path ∈ sources.documents,
        Listed world.files world.base latexDirectory documentSuffix path := by
  obtain ⟨diagrams, drawing, onward⟩ :=
    (looks_findDiagrams graphvizDirectory renderers).bind_eq_ok ran
  obtain ⟨fragments, including, last⟩ :=
    (looks_find latexDirectory fragmentSuffix).bind_eq_ok onward
  obtain ⟨documents, typesetting, done⟩ :=
    (looks_find latexDirectory documentSuffix).bind_eq_ok last
  obtain rfl := Except.ok.inj done
  refine ⟨fun path => ?_, fun path => ?_, fun path => ?_⟩
  · exact listed_of_findDiagrams (by decide) drawing
  · exact listed_of_find (by decide) including
  · exact listed_of_find (by decide) typesetting

end Found

/-! ## Listed paths name files -/

theorem name_below (directory : Path) (name : String) : (below directory [name]).name = name := by
  simp [below, Path.name]

namespace Listed

variable {store : FileStore} {base : Place} {directory path : Path} {suffix : String}

theorem suffix_name (listed : Listed store base directory suffix path) :
    suffix.toList <:+ path.name.toList := by
  obtain ⟨name, rfl, ends, _⟩ := listed.inside
  rwa [name_below]

/-- A listed path is as paths are read, if its directory is. -/
theorem namesFile (listed : Listed store base directory suffix path)
    (proper : directory.IsProper) (slashless : store.Slashless)
    (long : 2 < suffix.toList.length) : path.NamesFile := by
  have ends := listed.suffix_name.length_le
  obtain ⟨name, rfl, _, entry, among, stored⟩ := listed.inside
  rw [name_below] at ends
  have differs : ∀ text : String, text.toList.length ≤ 2 → name ≠ text := by
    rintro text short rfl
    omega
  refine ⟨fun part member => ?_, by simp [below], ?_⟩
  · rcases List.mem_append.1 member with above | last
    · exact proper part above
    · obtain rfl := List.mem_singleton.1 last
      exact ⟨differs "" (by decide), differs "." (by decide), slashless entry among _ stored⟩
  · rw [name_below]
    exact differs ".." (by decide)

end Listed

end Source

end Bindery
