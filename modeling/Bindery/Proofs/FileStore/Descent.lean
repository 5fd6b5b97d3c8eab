import Bindery.Proofs.FileStore.Lawful
import Mathlib.Algebra.BigOperators.Group.List.Basic
import Mathlib.Algebra.GroupWithZero.Nat

/-!
Contract: paths that go down from the root to a place, name by name.

Owns:
- how long such a path is, and that a place further down has a longer one;
- that it leads to what is at its place exactly if every place above is a directory;
- `IsStart`, paths that lead somewhere by names that a file system takes, and the place that such a
  path is resolved to.

Does **not** own: paths that go up again on their way (`Bindery.Proofs.Path.Ascent`).
-/

namespace Bindery.FileStore

variable {store : FileStore} {base place : Place} {name : String} {node : Node}

/-! ## Lengths -/

theorem utf8ByteSize_intercalate_slash {names : List String} (some : names ≠ []) :
    ("/".intercalate names).utf8ByteSize + 1 = (names.map (·.utf8ByteSize + 1)).sum := by
  have slash : "/".utf8ByteSize = 1 := by decide
  induction names with
  | nil => contradiction
  | cons first rest inductionHypothesis =>
      cases rest with
      | nil => simp
      | cons next more =>
          have behind := inductionHypothesis (by simp)
          rw [String.intercalate_cons_cons, List.map_cons, List.sum_cons, ← behind]
          simp only [String.utf8ByteSize_append, slash]
          omega

/-- Every name of the path has a slash in front of it. -/
theorem utf8ByteSize_render_ofPlace (some : place ≠ []) :
    (Path.ofPlace place).render.utf8ByteSize = (place.map (·.utf8ByteSize + 1)).sum := by
  have slash : "/".utf8ByteSize = 1 := by decide
  have written : (Path.ofPlace place).render = "/" ++ "/".intercalate place :=
    Path.render_of_ne_nil some
  rw [written, String.utf8ByteSize_append, slash, ← utf8ByteSize_intercalate_slash some]
  omega

theorem hasNull_ofPlace (named : ∀ name ∈ place, IsEntryName name) :
    (Path.ofPlace place).hasNull = false := by
  rw [Path.hasNull, List.any_eq_false]
  intro name among
  simpa using (named name among).clean

/-- A file of a directory further up is not too long when the one of the same name further down is
not. -/
theorem not_overlong_above {lower : String} (named : ∀ name ∈ place, IsEntryName name)
    (down : IsEntryName lower) (last : IsEntryName name)
    (fits : ¬ Overlong (.ofPlace (place ++ [lower] ++ [name]))) :
    ¬ Overlong (.ofPlace (place ++ [name])) := by
  rintro ⟨_, long⟩
  refine fits ⟨hasNull_ofPlace ?_, ?_⟩
  · simpa [or_imp, forall_and] using ⟨named, down, last⟩
  · rw [utf8ByteSize_render_ofPlace (by simp)] at long ⊢
    simp only [List.map_append, List.map_cons, List.map_nil, List.sum_append, List.sum_cons,
      List.sum_nil] at long ⊢
    omega

/-! ## Going down -/

theorem walk_snoc_eq_ok_iff {names : List String} (named : ∀ name ∈ names, IsEntryName name)
    (last : IsEntryName name) {reached : Place} :
    store.walk place (names ++ [name]) = .ok reached ↔
      (∀ above, above <+: names → store.find? (place ++ above) = some .directory) ∧
        reached = place ++ names ++ [name] := by
  induction names generalizing place with
  | nil =>
      rw [List.nil_append, walk_cons_eq_ok_iff, Path.descend_down last.down]
      simp [walk, last.short, eq_comm]
  | cons first rest inductionHypothesis =>
      obtain ⟨here, others⟩ := List.forall_mem_cons.1 named
      rw [List.cons_append, walk_cons_eq_ok_iff, Path.descend_down here.down,
        inductionHypothesis others]
      constructor
      · rintro ⟨there, _, onward, rfl⟩
        refine ⟨fun above front => ?_, by simp⟩
        rcases List.prefix_cons_iff.1 front with rfl | ⟨further, rfl, below⟩
        · simpa using there
        · simpa using onward further below
      · rintro ⟨every, rfl⟩
        refine ⟨by simpa using every [] List.nil_prefix, .inr here.short, fun above front => ?_,
          by simp⟩
        simpa using every (first :: above) (List.cons_prefix_cons.2 ⟨rfl, front⟩)

/-- A path down from the root leads to a node exactly if all that it passes are directories. -/
theorem status_ofPlace_eq_ok_iff (named : ∀ name ∈ place, IsEntryName name)
    (last : IsEntryName name) (fits : ¬ Overlong (.ofPlace (place ++ [name]))) :
    store.status base (.ofPlace (place ++ [name])) = .ok node ↔
      (∀ above, above <+: place → store.find? above = some .directory) ∧
        store.find? (place ++ [name]) = some node := by
  have every : ∀ part ∈ place ++ [name], IsEntryName part := by
    simpa [or_imp, forall_and] using ⟨named, last⟩
  have clean := hasNull_ofPlace every
  have start : ∀ reached, store.walk [] (place ++ [name]) = .ok reached ↔
      (∀ above, above <+: place → store.find? above = some .directory) ∧
        reached = place ++ [name] := fun reached => walk_snoc_eq_ok_iff named last
  have short : ¬ pathLimit < (Path.ofPlace (place ++ [name])).render.utf8ByteSize :=
    fun long => fits ⟨clean, long⟩
  have located : ∀ reached, store.locate base (.ofPlace (place ++ [name])) = .ok reached ↔
      store.walk [] (place ++ [name]) = .ok reached := by
    intro reached
    have absolute : (Path.ofPlace (place ++ [name])).isAbsolute = true := rfl
    have parts : (Path.ofPlace (place ++ [name])).parts = place ++ [name] := rfl
    unfold locate
    rw [if_neg (by simp [clean]), if_neg short, if_pos absolute, parts]
    cases store.walk [] (place ++ [name]) <;> simp
  constructor
  · intro answered
    obtain ⟨there, found⟩ := locate_of_status answered
    obtain ⟨directories, same⟩ := (start _).1 ((located _).1 there)
    rw [same] at found
    exact ⟨directories, found⟩
  · rintro ⟨directories, found⟩
    exact status_of_locate ((located _).2 ((start _).2 ⟨directories, rfl⟩)) found

/-! ## Asking for a file -/

/-- With names that are short enough, a path is refused for its length only. -/
theorem exists_isFile_of_short (store : FileStore) (base : Place) {path : Path}
    (short : ∀ name ∈ path.parts, name.utf8ByteSize ≤ nameLimit) (fits : ¬ Overlong path) :
    ∃ flag, store.isFile base path = .ok flag := by
  obtain ⟨flag, answered⟩ := exists_isDirectory_of_short store base short fits
  unfold isDirectory at answered
  unfold isFile
  cases asked : store.status? base path with
  | ok node => exact ⟨_, rfl⟩
  | error fault =>
      rw [asked] at answered
      contradiction

theorem isFile_of_overlong {path : Path} (long : Overlong path) :
    store.isFile base path = .error (.io ⟨.nameTooLong, path.render⟩) := by
  simp [isFile, status?, status, locate_of_overlong long, Except.map]

/-- What stops the walk along a path makes the path one of nothing, or refuses it. -/
theorem isFile_of_walk {path : Path} {cause : IoCause} (clean : path.hasNull = false)
    (fits : ¬ Overlong path)
    (stuck : store.walk (if path.isAbsolute then [] else base) path.parts = .error cause) :
    store.isFile base path =
      if cause.isAbsence then .ok false else .error (.io ⟨cause, path.render⟩) := by
  have located : store.locate base path = .error (.io ⟨cause, path.render⟩) := by
    unfold locate
    rw [if_neg (by simp [clean]), if_neg fun long => fits ⟨clean, long⟩, stuck]
  unfold isFile status? status IoCause.isAbsence
  rw [located]
  by_cases absent : (cause = .notFound || cause = .notDirectory) = true
  · simp only [absent, if_true]
    rfl
  · simp only [absent]
    rfl

/-- A path that is not refused is one of a regular file or not. -/
theorem isFile_eq_of_short (store : FileStore) (base : Place) {path : Path}
    (short : ∀ name ∈ path.parts, name.utf8ByteSize ≤ nameLimit) (fits : ¬ Overlong path) :
    (∃ file, store.status base path = .ok (.file file)) ∧ store.isFile base path = .ok true ∨
      (∀ file, store.status base path ≠ .ok (.file file)) ∧ store.isFile base path = .ok false := by
  obtain ⟨flag, answered⟩ := exists_isFile_of_short store base short fits
  rcases store.isFile_eq base path with refused | ⟨file, found, isFile⟩ | absent
  · rw [refused] at answered
    contradiction
  · exact .inl ⟨⟨file, found⟩, isFile⟩
  · exact .inr absent

/-! ## Where a path starts to go down -/

/-- Entry names lead down, one after the other. -/
theorem foldl_descend_eq_append {names : List String} (named : ∀ name ∈ names, IsEntryName name)
    (place : Place) : names.foldl Path.descend place = place ++ names := by
  induction names generalizing place with
  | nil => simp
  | cons first rest inductionHypothesis =>
      obtain ⟨here, others⟩ := List.forall_mem_cons.1 named
      rw [List.foldl_cons, Path.descend_down here.down, inductionHypothesis others,
        List.append_assoc, List.singleton_append]

/-- Double dots leave no name behind them in a place. -/
theorem isEntryName_of_mem_foldl_descend {names : List String}
    (named : ∀ name ∈ names, name ≠ ".." → IsEntryName name)
    (start : ∀ name ∈ place, IsEntryName name) :
    ∀ name ∈ names.foldl Path.descend place, IsEntryName name := by
  induction names generalizing place with
  | nil => exact start
  | cons first rest inductionHypothesis =>
      obtain ⟨here, others⟩ := List.forall_mem_cons.1 named
      apply inductionHypothesis others
      by_cases up : first = ".."
      · rw [up, Path.descend_up]
        exact fun name among => start name (List.dropLast_subset place among)
      · rw [Path.descend_down up]
        exact List.forall_mem_append.2 ⟨start, by simpa using here up⟩

/-- A path that is seen from a place in a store, and has names that a file system takes. -/
structure IsStart (base : Place) (path : Path) : Prop where
  based : ∀ name ∈ base, IsEntryName name
  proper : path.IsProper
  clean : path.hasNull = false
  short : ∀ name ∈ path.parts, name.utf8ByteSize ≤ nameLimit

namespace IsStart

variable {path : Path} (start : IsStart base path)

include start

theorem isEntryName_of_mem_placeFrom : ∀ name ∈ path.placeFrom base, IsEntryName name := by
  have clean : ∀ name ∈ path.parts, '\x00' ∉ name.toList := by
    simpa [Path.hasNull] using start.clean
  apply isEntryName_of_mem_foldl_descend
  · intro name among down
    exact ⟨start.proper name among, down, clean name among, start.short name among⟩
  · split
    · exact fun name among => absurd among List.not_mem_nil
    · exact start.based

/-- A start is resolved to the path of its place. -/
theorem resolve_eq : resolve base path = .ok (.ofPlace (path.placeFrom base)) := by
  have collapsed : ∀ names, Path.collapse names = names.foldl Path.descend [] := fun _ => rfl
  unfold resolve Path.placeFrom
  rw [if_neg (by simp [start.clean]), collapsed]
  split
  · rfl
  · rw [List.foldl_append, foldl_descend_eq_append start.based, List.nil_append]

end IsStart

end Bindery.FileStore
