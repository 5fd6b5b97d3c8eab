import Bindery.Proofs.Path.Place

/-!
Contract: what an access to a file store depends on, and what it leaves alone.

Owns:
- `AgreesOn`, two stores with the same directories that hold the same nodes at chosen places: the
  one notion behind "nothing else is changed" and behind "nothing else is looked at";
- `Alike`, two answers that differ at most in how they say that something is missing;
- one lemma for each access, saying that stores which agree at the place of its path answer alike,
  and one for writing, saying what it changes;
- paths below a directory that is there;
- with which cause an access is refused, and that asking for a file is refused only for a name that
  is too long.

Does not own: making directories (`Bindery.Proofs.FileStore.Directories`).
-/

namespace Bindery

/-- The second of the last change of a node. -/
def Node.modified : Node → Int
  | .file entry => entry.modified
  | .directory => FileStore.directoryTime

/-- Whether a refusal says that something on the way is missing. -/
def IoCause.isAbsence (cause : IoCause) : Bool :=
  cause = .notFound || cause = .notDirectory

/-- Two answers that are equal, or refuse the same file for being missing. -/
inductive Alike {α : Type} : Except Fault α → Except Fault α → Prop where
  | same (answer : Except Fault α) : Alike answer answer
  | absent {left right : IoCause} (file : String) (leftAbsent : left.isAbsence = true)
      (rightAbsent : right.isAbsence = true) :
      Alike (.error (.io ⟨left, file⟩)) (.error (.io ⟨right, file⟩))

namespace Alike

variable {α β : Type} {left right : Except Fault α}

theorem eq_or_absent (alike : Alike left right) :
    left = right ∨ ∃ leftCause rightCause file,
      left = .error (.io ⟨leftCause, file⟩) ∧ right = .error (.io ⟨rightCause, file⟩) ∧
        leftCause.isAbsence = true ∧ rightCause.isAbsence = true := by
  cases alike with
  | same => exact .inl rfl
  | absent file leftAbsent rightAbsent =>
      exact .inr ⟨_, _, file, rfl, rfl, leftAbsent, rightAbsent⟩

theorem symm (alike : Alike left right) : Alike right left := by
  cases alike with
  | same => exact .same _
  | absent file leftAbsent rightAbsent => exact .absent file rightAbsent leftAbsent

theorem ok {value : α} (alike : Alike left right) (answered : left = .ok value) :
    right = .ok value := by
  cases alike with
  | same => exact answered
  | absent file leftAbsent rightAbsent => contradiction

theorem bind {next other : α → Except Fault β} (alike : Alike left right)
    (steps : ∀ value, Alike (next value) (other value)) :
    Alike (left >>= next) (right >>= other) := by
  cases alike with
  | same =>
      cases left with
      | ok value => exact steps value
      | error fault => exact .same _
  | absent file leftAbsent rightAbsent => exact .absent file leftAbsent rightAbsent

theorem map (change : α → β) (alike : Alike left right) :
    Alike (left.map change) (right.map change) := by
  cases alike with
  | same answer => exact .same _
  | absent file leftAbsent rightAbsent => exact .absent file leftAbsent rightAbsent

end Alike

namespace FileStore

/-! ## Agreement of stores -/

/-- Two stores with the same directories that hold the same nodes at the chosen places. -/
structure AgreesOn (chosen : Place → Prop) (left right : FileStore) : Prop where
  directories : ∀ place, left.find? place = some .directory ↔ right.find? place = some .directory
  nodes : ∀ place, chosen place → left.find? place = right.find? place

namespace AgreesOn

variable {chosen narrower : Place → Prop} {left middle right : FileStore}

theorem refl (chosen : Place → Prop) (store : FileStore) : AgreesOn chosen store store :=
  ⟨fun _ => Iff.rfl, fun _ _ => rfl⟩

theorem symm (agrees : AgreesOn chosen left right) : AgreesOn chosen right left :=
  ⟨fun place => (agrees.directories place).symm, fun place among =>
    (agrees.nodes place among).symm⟩

theorem trans (first : AgreesOn chosen left middle) (second : AgreesOn chosen middle right) :
    AgreesOn chosen left right :=
  ⟨fun place => (first.directories place).trans (second.directories place), fun place among =>
    (first.nodes place among).trans (second.nodes place among)⟩

theorem mono (agrees : AgreesOn chosen left right) (fewer : ∀ place, narrower place → chosen place) :
    AgreesOn narrower left right :=
  ⟨agrees.directories, fun place among => agrees.nodes place (fewer place among)⟩

end AgreesOn

/-! ## Walking -/

theorem walk_cons_of_directory {store : FileStore} {place : Place} {name : String}
    (there : store.find? place = some .directory)
    (fits : name = ".." ∨ name.utf8ByteSize ≤ nameLimit) (rest : List String) :
    store.walk place (name :: rest) = store.walk (Path.descend place name) rest := by
  by_cases up : name = ".."
  · simp [walk, there, up]
  · have short : ¬ nameLimit < name.utf8ByteSize := by
      rcases fits with same | short
      · exact absurd same up
      · omega
    simp [walk, there, up, short, Path.descend_down up]

theorem walk_cons_eq_ok_iff {store : FileStore} {place reached : Place} {name : String}
    {rest : List String} :
    store.walk place (name :: rest) = .ok reached ↔
      store.find? place = some .directory ∧ (name = ".." ∨ name.utf8ByteSize ≤ nameLimit) ∧
        store.walk (Path.descend place name) rest = .ok reached := by
  constructor
  · intro walked
    have there : store.find? place = some .directory := by
      simp only [walk] at walked
      split at walked
      · contradiction
      · contradiction
      · assumption
    have fits : name = ".." ∨ name.utf8ByteSize ≤ nameLimit := by
      by_cases up : name = ".."
      · exact .inl up
      · refine .inr (Nat.le_of_not_lt fun long => ?_)
        simp [walk, there, up, long] at walked
    exact ⟨there, fits, (walk_cons_of_directory there fits rest).symm.trans walked⟩
  · rintro ⟨there, fits, walked⟩
    exact (walk_cons_of_directory there fits rest).trans walked

/-- A walk that gets through leads to the place that the names spell. -/
theorem eq_foldl_of_walk {store : FileStore} {place reached : Place} {names : List String}
    (walked : store.walk place names = .ok reached) : reached = names.foldl Path.descend place := by
  induction names generalizing place with
  | nil => simpa [walk] using walked.symm
  | cons name rest inductionHypothesis =>
      exact inductionHypothesis (walk_cons_eq_ok_iff.1 walked).2.2

theorem walk_append {store : FileStore} {place reached : Place} {front : List String}
    (walked : store.walk place front = .ok reached) (rest : List String) :
    store.walk place (front ++ rest) = store.walk reached rest := by
  induction front generalizing place with
  | nil =>
      obtain rfl : place = reached := by simpa [walk] using walked
      rfl
  | cons name more inductionHypothesis =>
      obtain ⟨there, fits, onward⟩ := walk_cons_eq_ok_iff.1 walked
      rw [List.cons_append, walk_cons_of_directory there fits, inductionHypothesis onward]

/-- A walk that gets through has got through its beginning. -/
theorem walk_of_append {store : FileStore} {place reached : Place} {front rest : List String}
    (walked : store.walk place (front ++ rest) = .ok reached) :
    ∃ middle, store.walk place front = .ok middle ∧ store.walk middle rest = .ok reached := by
  induction front generalizing place with
  | nil => exact ⟨place, rfl, walked⟩
  | cons name more inductionHypothesis =>
      obtain ⟨there, fits, onward⟩ := walk_cons_eq_ok_iff.1 walked
      obtain ⟨middle, start, last⟩ := inductionHypothesis onward
      exact ⟨middle, walk_cons_eq_ok_iff.2 ⟨there, fits, start⟩, last⟩

/-- How the causes of two walks compare. -/
inductive WalkAlike : Except IoCause Place → Except IoCause Place → Prop where
  | same (answer : Except IoCause Place) : WalkAlike answer answer
  | absent {left right : IoCause} (leftAbsent : left.isAbsence = true)
      (rightAbsent : right.isAbsence = true) : WalkAlike (.error left) (.error right)

theorem WalkAlike.eq_or_absent {left right : Except IoCause Place} (alike : WalkAlike left right) :
    left = right ∨ ∃ leftCause rightCause, left = .error leftCause ∧ right = .error rightCause ∧
      leftCause.isAbsence = true ∧ rightCause.isAbsence = true := by
  cases alike with
  | same => exact .inl rfl
  | absent leftAbsent rightAbsent => exact .inr ⟨_, _, rfl, rfl, leftAbsent, rightAbsent⟩

/-- A walk looks at nothing but which places are directories. -/
theorem walk_alike {chosen : Place → Prop} {left right : FileStore}
    (agrees : AgreesOn chosen left right) (place : Place) (names : List String) :
    WalkAlike (left.walk place names) (right.walk place names) := by
  induction names generalizing place with
  | nil => exact .same _
  | cons name rest inductionHypothesis =>
      by_cases there : left.find? place = some .directory
      · have also := (agrees.directories place).1 there
        simp only [walk, there, also]
        split
        · exact inductionHypothesis _
        · split
          · exact .same _
          · exact inductionHypothesis _
      · have neither : right.find? place ≠ some .directory :=
          fun found => there ((agrees.directories place).2 found)
        have stuck : ∀ store : FileStore, store.find? place ≠ some .directory →
            ∃ cause : IoCause, store.walk place (name :: rest) = .error cause ∧
              cause.isAbsence = true := by
          intro store missing
          cases found : store.find? place with
          | none => exact ⟨.notFound, by simp [walk, found], rfl⟩
          | some node =>
              cases node with
              | file file => exact ⟨.notDirectory, by simp [walk, found], rfl⟩
              | directory => exact absurd found missing
        obtain ⟨leftCause, leftStuck, leftAbsent⟩ := stuck left there
        obtain ⟨rightCause, rightStuck, rightAbsent⟩ := stuck right neither
        rw [leftStuck, rightStuck]
        exact .absent leftAbsent rightAbsent

/-! ## Accesses that change nothing -/

section Reading

variable {chosen : Place → Prop} {left right : FileStore} {base : Place} {path : Path}

theorem eq_placeFrom_of_locate {store : FileStore} {place : Place}
    (located : store.locate base path = .ok place) : place = path.placeFrom base := by
  unfold locate at located
  split at located
  · contradiction
  · split at located
    · contradiction
    · split at located
      · rename_i reached walked
        obtain rfl : reached = place := by simpa using located
        exact eq_foldl_of_walk walked
      · contradiction

theorem locate_alike (agrees : AgreesOn chosen left right) (base : Place) (path : Path) :
    Alike (left.locate base path) (right.locate base path) := by
  unfold locate
  split
  · exact .same _
  · split
    · exact .same _
    · rcases (walk_alike agrees (if path.isAbsolute then [] else base) path.parts).eq_or_absent
        with same | ⟨_, _, leftStuck, rightStuck, leftAbsent, rightAbsent⟩
      · rw [same]
        exact .same _
      · rw [leftStuck, rightStuck]
        exact .absent _ leftAbsent rightAbsent

theorem status_alike (agrees : AgreesOn chosen left right) (among : chosen (path.placeFrom base)) :
    Alike (left.status base path) (right.status base path) := by
  unfold status
  rcases (locate_alike agrees base path).eq_or_absent
    with same | ⟨_, _, file, leftStuck, rightStuck, leftAbsent, rightAbsent⟩
  · rw [same]
    cases located : right.locate base path with
    | error fault => exact .same _
    | ok place =>
        obtain rfl := eq_placeFrom_of_locate located
        simp only [agrees.nodes _ among]
        exact .same _
  · rw [leftStuck, rightStuck]
    exact .absent file leftAbsent rightAbsent

theorem status?_eq (agrees : AgreesOn chosen left right) (among : chosen (path.placeFrom base)) :
    left.status? base path = right.status? base path := by
  unfold status?
  rcases (status_alike agrees among).eq_or_absent
    with same | ⟨_, _, file, leftStuck, rightStuck, leftAbsent, rightAbsent⟩
  · rw [same]
  · simp only [IoCause.isAbsence] at leftAbsent rightAbsent
    simp [leftStuck, rightStuck, leftAbsent, rightAbsent]

theorem exists?_eq (agrees : AgreesOn chosen left right) (among : chosen (path.placeFrom base)) :
    left.exists? base path = right.exists? base path := by
  simp only [exists?, status?_eq agrees among]

theorem modified_alike (agrees : AgreesOn chosen left right)
    (among : chosen (path.placeFrom base)) :
    Alike (left.modified base path) (right.modified base path) :=
  (status_alike agrees among).map _

theorem read_alike (agrees : AgreesOn chosen left right) (among : chosen (path.placeFrom base)) :
    Alike (left.read base path) (right.read base path) := by
  unfold read
  rcases (status_alike agrees among).eq_or_absent
    with same | ⟨_, _, file, leftStuck, rightStuck, leftAbsent, rightAbsent⟩
  · rw [same]
    exact .same _
  · rw [leftStuck, rightStuck]
    exact .absent file leftAbsent rightAbsent

/-- What a path is found to be when it leads somewhere. -/
theorem status_of_locate {store : FileStore} {place : Place} {node : Node}
    (located : store.locate base path = .ok place) (found : store.find? place = some node) :
    store.status base path = .ok node := by
  simp [status, located, found]

theorem locate_of_status {store : FileStore} {node : Node}
    (answered : store.status base path = .ok node) :
    store.locate base path = .ok (path.placeFrom base) ∧
      store.find? (path.placeFrom base) = some node := by
  unfold status at answered
  split at answered
  · contradiction
  · rename_i place located
    obtain rfl := eq_placeFrom_of_locate located
    split at answered
    · rename_i other found
      obtain rfl : other = node := by simpa using answered
      exact ⟨located, found⟩
    · contradiction

theorem modified_eq_ok_iff {store : FileStore} {time : Int} :
    store.modified base path = .ok time ↔
      ∃ node, store.status base path = .ok node ∧ node.modified = time := by
  unfold modified
  cases store.status base path with
  | error fault => simp [Except.map]
  | ok node => cases node <;> simp [Except.map, Node.modified]

theorem isDirectory_eq_true_iff {store : FileStore} :
    store.isDirectory base path = .ok true ↔ store.status base path = .ok .directory := by
  unfold isDirectory status?
  cases store.status base path with
  | ok node => cases node <;> simp [Except.map]
  | error fault =>
      cases fault with
      | io fault => by_cases absent : fault.cause = .notFound ∨ fault.cause = .notDirectory <;>
          simp [Except.map, absent]
      | _ => simp [Except.map]

/-- Whether a directory is there depends on nothing but the directories. -/
theorem isDirectory_of_agreesOn (agrees : AgreesOn chosen left right)
    (there : left.isDirectory base path = .ok true) : right.isDirectory base path = .ok true := by
  obtain ⟨located, found⟩ := locate_of_status (isDirectory_eq_true_iff.1 there)
  exact isDirectory_eq_true_iff.2 (status_of_locate ((locate_alike agrees base path).ok located)
    ((agrees.directories _).1 found))

end Reading

/-! ## Below a directory -/

section Below

variable {store : FileStore} {base : Place} {directory : Path} {name : String}

theorem walk_of_locate {path : Path} {place : Place} (located : store.locate base path = .ok place) :
    path.hasNull = false ∧ store.walk (if path.isAbsolute then [] else base) path.parts = .ok place := by
  unfold locate at located
  split at located
  · contradiction
  · rename_i clean
    split at located
    · contradiction
    · split at located
      · rename_i reached walked
        obtain rfl : reached = place := by simpa using located
        exact ⟨by simpa using clean, walked⟩
      · contradiction

/-- A name directly below a directory can be too long, but it cannot be out of reach. -/
theorem locate_joinText (there : store.isDirectory base directory = .ok true)
    (part : Path.IsPart name) (clean : (directory.joinText name).hasNull = false) :
    store.locate base (directory.joinText name) =
      if pathLimit < (directory.joinText name).render.utf8ByteSize ∨
          (name ≠ ".." ∧ nameLimit < name.utf8ByteSize) then
        .error (.io ⟨.nameTooLong, (directory.joinText name).render⟩)
      else .ok ((directory.joinText name).placeFrom base) := by
  obtain ⟨located, found⟩ := locate_of_status (isDirectory_eq_true_iff.1 there)
  have walked := (walk_of_locate located).2
  have start : (directory.joinText name).isAbsolute = directory.isAbsolute := by
    simp [Path.joinText_of_isPart part, Path.isAbsolute]
  have last : store.walk (directory.placeFrom base) [name] =
      if name ≠ ".." ∧ nameLimit < name.utf8ByteSize then .error .nameTooLong
      else .ok (Path.descend (directory.placeFrom base) name) := by
    by_cases up : name = ".."
    · simp [walk, found, up]
    · by_cases long : nameLimit < name.utf8ByteSize <;>
        simp [walk, found, up, long, Path.descend_down up]
  unfold locate
  rw [clean, start, Path.parts_joinText part, walk_append walked, last,
    Path.placeFrom_joinText part]
  by_cases wide : pathLimit < (directory.joinText name).render.utf8ByteSize
  · simp [wide]
  · by_cases long : name ≠ ".." ∧ nameLimit < name.utf8ByteSize
    · simp [wide, long]
    · simp [wide, long]

/-- Below a directory, what is not found is not there. -/
theorem exists?_joinText {answer : Bool} (there : store.isDirectory base directory = .ok true)
    (part : Path.IsPart name) (clean : (directory.joinText name).hasNull = false)
    (answered : store.exists? base (directory.joinText name) = .ok answer) :
    store.locate base (directory.joinText name) =
        .ok ((directory.joinText name).placeFrom base) ∧
      answer = (store.find? ((directory.joinText name).placeFrom base)).isSome := by
  have located := locate_joinText there part clean
  split at located
  · simp [exists?, status?, status, located, Except.map] at answered
  · refine ⟨located, ?_⟩
    cases found : store.find? ((directory.joinText name).placeFrom base) <;>
      simpa [exists?, status?, status, located, found, Except.map, eq_comm] using answered

/-- A shorter name is in reach where a longer one is. -/
theorem locate_joinText_of_le {longer : String}
    (there : store.isDirectory base directory = .ok true)
    (part : Path.IsPart name) (longerPart : Path.IsPart longer)
    (clean : (directory.joinText name).hasNull = false) (ordinary : longer ≠ "..")
    (shorter : name.utf8ByteSize ≤ longer.utf8ByteSize)
    (located : store.locate base (directory.joinText longer) =
      .ok ((directory.joinText longer).placeFrom base)) :
    store.locate base (directory.joinText name) =
      .ok ((directory.joinText name).placeFrom base) := by
  obtain ⟨front, text⟩ := Path.render_snoc directory.anchor directory.parts
  have bounds := locate_joinText there longerPart (walk_of_locate located).1
  rw [located] at bounds
  split at bounds
  · contradiction
  · rename_i fits
    rw [locate_joinText there part clean, if_neg]
    simp only [Path.joinText_of_isPart part, Path.joinText_of_isPart longerPart, text,
      String.utf8ByteSize_append] at fits ⊢
    rintro (wide | ⟨_, long⟩)
    · exact fits (.inl (by omega))
    · exact fits (.inr ⟨ordinary, by omega⟩)

end Below

/-! ## What a refusal says -/

section Refused

variable {store : FileStore} {base : Place} {path : Path}

theorem mem_of_lookup {place : Place} {node : Node} {entries : List (Place × Node)}
    (found : lookup place entries = some node) : (place, node) ∈ entries := by
  induction entries with
  | nil => contradiction
  | cons entry rest inductionHypothesis =>
      obtain ⟨key, first⟩ := entry
      unfold lookup at found
      split at found
      · rename_i same
        obtain rfl := same
        obtain rfl := Option.some.inj found
        exact List.mem_cons_self
      · exact List.mem_cons_of_mem _ (inductionHypothesis found)

/-- The regular files of a store are among its entries. -/
theorem mem_of_find?_file {place : Place} {file : File} (found : store.find? place = some (.file file)) :
    (place, .file file) ∈ store.entries := by
  unfold find? at found
  split at found
  · simp at found
  · exact mem_of_lookup found

/-- A walk that does not get through misses a directory, or meets a name that is too long. -/
theorem walk_eq_error {place : Place} {names : List String} {cause : IoCause}
    (stuck : store.walk place names = .error cause) :
    cause.isAbsence = true ∨ cause = .nameTooLong := by
  induction names generalizing place with
  | nil => contradiction
  | cons name rest inductionHypothesis =>
      unfold walk at stuck
      split at stuck
      · obtain rfl := Except.error.inj stuck
        exact .inl rfl
      · obtain rfl := Except.error.inj stuck
        exact .inl rfl
      · split at stuck
        · exact inductionHypothesis stuck
        · split at stuck
          · exact .inr (Except.error.inj stuck).symm
          · exact inductionHypothesis stuck

theorem cause_of_status {fault : Fault} (failed : store.status base path = .error fault) :
    fault = .nullInPath ∨ ∃ cause : IoCause, fault = .io ⟨cause, path.render⟩ ∧
      (cause.isAbsence = true ∨ cause = .nameTooLong) := by
  unfold status locate at failed
  split at failed
  · rename_i other located
    obtain rfl := Except.error.inj failed
    split at located
    · exact .inl (Except.error.inj located).symm
    · split at located
      · exact .inr ⟨_, (Except.error.inj located).symm, .inr rfl⟩
      · split at located
        · contradiction
        · rename_i cause stuck
          exact .inr ⟨cause, (Except.error.inj located).symm, walk_eq_error stuck⟩
  · split at failed
    · contradiction
    · exact .inr ⟨_, (Except.error.inj failed).symm, .inl rfl⟩

/-- What is behind a path: it is refused only for a name that is too long. -/
theorem isFile_eq (store : FileStore) (base : Place) (path : Path) :
    store.isFile base path = .error (.io ⟨.nameTooLong, path.render⟩) ∨
      (∃ file, store.status base path = .ok (.file file) ∧ store.isFile base path = .ok true) ∨
      (∀ file, store.status base path ≠ .ok (.file file)) ∧ store.isFile base path = .ok false := by
  unfold isFile status?
  cases answered : store.status base path with
  | ok node =>
      cases node with
      | file file => exact .inr (.inl ⟨file, rfl, rfl⟩)
      | directory => exact .inr (.inr ⟨by simp, rfl⟩)
  | error fault =>
      rcases cause_of_status answered with rfl | ⟨cause, rfl, absent | rfl⟩
      · exact .inr (.inr ⟨by simp, rfl⟩)
      · unfold IoCause.isAbsence at absent
        simp only [absent, if_true]
        exact .inr (.inr ⟨by simp, rfl⟩)
      · exact .inl rfl

end Refused

/-! ## Writing -/

section Writing

variable {base : Place} {path : Path} {now : Int} {content : List UInt8}

/-- What writing a file changes. -/
theorem write_eq_ok {store written : FileStore}
    (wrote : store.write base now path content = .ok written) :
    AgreesOn (· ≠ path.placeFrom base) store written ∧
      ∃ file : File, written.find? (path.placeFrom base) = some (.file file) ∧
        file.content = content ∧ file.modified = now := by
  unfold write at wrote
  split at wrote
  · contradiction
  · rename_i place located
    obtain rfl := eq_placeFrom_of_locate located
    have put : ∀ file : File, store.find? (path.placeFrom base) ≠ some .directory →
        AgreesOn (· ≠ path.placeFrom base) store
            (store.put (path.placeFrom base) (.file file)) ∧
          (store.put (path.placeFrom base) (.file file)).find? (path.placeFrom base) =
            some (.file file) := by
      intro file free
      have below : path.placeFrom base ≠ [] := by
        intro top
        simp [top] at free
      refine ⟨⟨fun place => ?_, fun place different => (find?_put_of_ne different).symm⟩,
        find?_put_self below⟩
      by_cases same : place = path.placeFrom base
      · subst same
        simp [find?_put_self below, free]
      · rw [find?_put_of_ne same]
    split at wrote
    · contradiction
    · rename_i old found
      obtain rfl := Except.ok.inj wrote
      obtain ⟨agrees, there⟩ := put ⟨content, now, old.executable⟩ (by simp [found])
      exact ⟨agrees, _, there, rfl, rfl⟩
    · rename_i free
      obtain rfl := Except.ok.inj wrote
      obtain ⟨agrees, there⟩ := put ⟨content, now, false⟩ (by simp [free])
      exact ⟨agrees, _, there, rfl, rfl⟩

theorem exists_write_of_locate {store : FileStore} {place : Place} (now : Int)
    (content : List UInt8) (located : store.locate base path = .ok place)
    (free : store.find? place ≠ some .directory) :
    ∃ written, store.write base now path content = .ok written := by
  cases found : store.find? place with
  | none => exact ⟨_, by simp only [write, located, found]; rfl⟩
  | some node =>
      cases node with
      | file old => exact ⟨_, by simp only [write, located, found]; rfl⟩
      | directory => exact absurd found free

/-- Whether a file can be written depends on nothing but the directories. -/
theorem write_alike {chosen : Place → Prop} {left right : FileStore}
    (agrees : AgreesOn chosen left right) (base : Place) (now later : Int) (path : Path)
    (content other : List UInt8) :
    Alike ((left.write base now path content).map fun _ => ())
      ((right.write base later path other).map fun _ => ()) := by
  rcases (locate_alike agrees base path).eq_or_absent
    with same | ⟨_, _, file, leftStuck, rightStuck, leftAbsent, rightAbsent⟩
  · cases located : right.locate base path with
    | error fault =>
        simp only [write, same, located]
        exact .same _
    | ok place =>
        by_cases there : left.find? place = some .directory
        · simp only [write, same, located, there, (agrees.directories place).1 there]
          exact .same _
        · have neither : right.find? place ≠ some .directory :=
            fun found => there ((agrees.directories place).2 found)
          obtain ⟨first, wroteFirst⟩ :=
            exists_write_of_locate now content (same.trans located) there
          obtain ⟨second, wroteSecond⟩ := exists_write_of_locate later other located neither
          rw [wroteFirst, wroteSecond]
          exact .same _
  · simp only [write, leftStuck, rightStuck]
    exact .absent file leftAbsent rightAbsent

/-- Stores that agree still do when both get the same node. -/
theorem AgreesOn.put {chosen : Place → Prop} {left right : FileStore}
    (agrees : AgreesOn chosen left right) (place : Place) (node : Node) :
    AgreesOn chosen (left.put place node) (right.put place node) := by
  have alike : ∀ other, (left.put place node).find? other = left.find? other ∧
        (right.put place node).find? other = right.find? other ∨
      (left.put place node).find? other = (right.put place node).find? other := by
    intro other
    by_cases same : other = place
    · subst same
      right
      by_cases top : other = []
      · rw [top, find?_nil, find?_nil]
      · rw [find?_put_self top, find?_put_self top]
    · exact .inl ⟨find?_put_of_ne same, find?_put_of_ne same⟩
  refine ⟨fun other => ?_, fun other among => ?_⟩
  · rcases alike other with ⟨onLeft, onRight⟩ | same
    · rw [onLeft, onRight]
      exact agrees.directories other
    · rw [same]
  · rcases alike other with ⟨onLeft, onRight⟩ | same
    · rw [onLeft, onRight]
      exact agrees.nodes other among
    · exact same

/-- What can be written into a store can be written into one that agrees with it there, and they
agree afterwards. -/
theorem exists_write_of_agreesOn {chosen : Place → Prop} {left right written : FileStore}
    (agrees : AgreesOn chosen left right) (among : chosen (path.placeFrom base))
    (wrote : left.write base now path content = .ok written) :
    ∃ other, right.write base now path content = .ok other ∧ AgreesOn chosen written other := by
  unfold write at wrote
  split at wrote
  · contradiction
  · rename_i place located
    obtain rfl := eq_placeFrom_of_locate located
    have there := (locate_alike agrees base path).ok located
    have same := agrees.nodes _ among
    split at wrote
    · contradiction
    · rename_i old found
      obtain rfl := Except.ok.inj wrote
      rw [same] at found
      exact ⟨_, by simp only [write, there, found], agrees.put _ _⟩
    · rename_i free
      obtain rfl := Except.ok.inj wrote
      rw [same] at free
      exact ⟨_, by simp only [write, there, free], agrees.put _ _⟩

end Writing

end FileStore

end Bindery
