import Bindery.Proofs.FileStore.Access
import Mathlib.Data.List.Nodup

/-!
Contract: stores as a file system keeps them, and paths that are too long for it.

Owns:
- `Lawful`, a store with one entry for a place, under names that an entry can have, and what is in
  its directories;
- `Overlong`, the paths that are refused for their length alone. With names that are short enough,
  no other path is refused when it is asked for a directory.

Does not own: the accesses to a store (`Bindery.Proofs.FileStore.Access`).
-/

namespace Bindery

namespace FileStore

/-- A name that an entry of a directory can have. -/
structure IsEntryName (name : String) : Prop where
  part : Path.IsPart name
  down : name ≠ ".."
  clean : '\x00' ∉ name.toList
  short : name.utf8ByteSize ≤ nameLimit

/-- A store as a file system keeps it: every place has one entry, under names that entries can
have. -/
structure Lawful (store : FileStore) : Prop where
  distinct : (store.entries.map Prod.fst).Nodup
  named : ∀ entry ∈ store.entries, ∀ name ∈ entry.1, IsEntryName name

instance (name : String) : Decidable (IsEntryName name) :=
  decidable_of_iff
    (Path.IsPart name ∧ name ≠ ".." ∧ '\x00' ∉ name.toList ∧ name.utf8ByteSize ≤ nameLimit)
    ⟨fun ⟨part, down, clean, short⟩ => ⟨part, down, clean, short⟩,
      fun entry => ⟨entry.part, entry.down, entry.clean, entry.short⟩⟩

instance (store : FileStore) : Decidable store.Lawful :=
  decidable_of_iff
    ((store.entries.map Prod.fst).Nodup ∧
      ∀ entry ∈ store.entries, ∀ name ∈ entry.1, IsEntryName name)
    ⟨fun ⟨distinct, named⟩ => ⟨distinct, named⟩, fun lawful => ⟨lawful.distinct, lawful.named⟩⟩

section Children

variable {store : FileStore} {place : Place} {name : String}

theorem isSome_lookup_iff {entries : List (Place × Node)} :
    (lookup place entries).isSome = true ↔ place ∈ entries.map Prod.fst := by
  induction entries with
  | nil => simp [lookup]
  | cons entry rest inductionHypothesis =>
      obtain ⟨key, node⟩ := entry
      by_cases same : key = place
      · simp [lookup, same]
      · simp [lookup, same, inductionHypothesis, Ne.symm same]

/-- The name of a place directly inside another one. -/
def nameInside? (place key : Place) : Option String :=
  match key.getLast? with
  | some name => if key.dropLast = place then some name else none
  | none => none

theorem nameInside?_eq_some_iff {key : Place} :
    nameInside? place key = some name ↔ key = place ++ [name] := by
  rcases List.eq_nil_or_concat key with rfl | ⟨front, last, rfl⟩
  · simp [nameInside?]
  · by_cases inside : front = place
    · subst inside
      simp [nameInside?]
    · have apart : front ++ [last] ≠ place ++ [name] := fun same =>
        inside (List.append_inj' same rfl).1
      simp [nameInside?, inside, apart]

theorem children_eq (store : FileStore) (place : Place) :
    store.children place = (store.entries.map Prod.fst).filterMap (nameInside? place) := by
  rw [List.filterMap_map]
  rfl

/-- The names in a directory are those of the nodes directly inside it. -/
theorem mem_children_iff :
    name ∈ store.children place ↔ (store.find? (place ++ [name])).isSome = true := by
  rw [children_eq, List.mem_filterMap, find?, if_neg (by simp), isSome_lookup_iff]
  constructor
  · rintro ⟨key, among, inside⟩
    rwa [nameInside?_eq_some_iff.1 inside] at among
  · exact fun among => ⟨_, among, nameInside?_eq_some_iff.2 rfl⟩

namespace Lawful

variable (lawful : store.Lawful)

include lawful

theorem nodup_children : (store.children place).Nodup := by
  rw [children_eq]
  refine lawful.distinct.filterMap fun first second name one other => ?_
  rw [nameInside?_eq_some_iff.1 one, nameInside?_eq_some_iff.1 other]

theorem isEntryName_of_mem_children (member : name ∈ store.children place) : IsEntryName name := by
  rw [children_eq, List.mem_filterMap] at member
  obtain ⟨key, among, inside⟩ := member
  obtain ⟨entry, stored, rfl⟩ := List.mem_map.1 among
  exact lawful.named entry stored name (by simp [nameInside?_eq_some_iff.1 inside])

end Lawful

end Children

/-! ## Paths that are too long -/

/-- A path that the file system refuses for its length, before it looks at any of its names. -/
def Overlong (path : Path) : Prop :=
  path.hasNull = false ∧ pathLimit < path.render.utf8ByteSize

instance (path : Path) : Decidable (Overlong path) :=
  inferInstanceAs (Decidable (_ ∧ _))

section Overlong

variable {store : FileStore} {base : Place} {path : Path}

/-- A walk along names that are short enough stops only where something is missing. -/
theorem isAbsence_of_walk {place : Place} {names : List String} {cause : IoCause}
    (short : ∀ name ∈ names, name.utf8ByteSize ≤ nameLimit)
    (stuck : store.walk place names = .error cause) : cause.isAbsence = true := by
  induction names generalizing place with
  | nil => contradiction
  | cons name rest inductionHypothesis =>
      have onward := fun other member => short other (List.mem_cons_of_mem name member)
      have fits : ¬ nameLimit < name.utf8ByteSize := Nat.not_lt.2 (short name List.mem_cons_self)
      unfold walk at stuck
      split at stuck
      · obtain rfl := Except.error.inj stuck
        rfl
      · obtain rfl := Except.error.inj stuck
        rfl
      · rw [if_neg fits] at stuck
        split at stuck
        · exact inductionHypothesis onward stuck
        · exact inductionHypothesis onward stuck

theorem locate_of_overlong (long : Overlong path) :
    store.locate base path = .error (.io ⟨.nameTooLong, path.render⟩) := by
  simp [locate, long.1, long.2]

theorem isDirectory_of_overlong (long : Overlong path) :
    store.isDirectory base path = .error (.io ⟨.nameTooLong, path.render⟩) := by
  simp [isDirectory, status?, status, locate_of_overlong long, Except.map]

/-- With names that are short enough, a path is refused for its length only. -/
theorem exists_isDirectory_of_short (store : FileStore) (base : Place)
    (short : ∀ name ∈ path.parts, name.utf8ByteSize ≤ nameLimit) (fits : ¬ Overlong path) :
    ∃ flag, store.isDirectory base path = .ok flag := by
  have absent : ∀ cause : IoCause, store.status base path = .error (.io ⟨cause, path.render⟩) →
      cause.isAbsence = true := by
    intro cause failed
    unfold status locate at failed
    split at failed
    · rename_i fault located
      obtain rfl := Except.error.inj failed
      split at located
      · simp at located
      · rename_i clean
        rw [if_neg fun long => fits ⟨by simpa using clean, long⟩] at located
        split at located
        · contradiction
        · rename_i other stuck
          obtain rfl : other = cause := by simpa using located
          exact isAbsence_of_walk short stuck
    · split at failed
      · contradiction
      · obtain rfl : IoCause.notFound = cause := by simpa using failed
        rfl
  unfold isDirectory status?
  cases answered : store.status base path with
  | ok node => exact ⟨_, rfl⟩
  | error fault =>
      rcases cause_of_status answered with rfl | ⟨cause, rfl, _⟩
      · exact ⟨_, rfl⟩
      · have missing := absent cause answered
        unfold IoCause.isAbsence at missing
        simp only [missing, if_true]
        exact ⟨_, rfl⟩

end Overlong

end FileStore

end Bindery
