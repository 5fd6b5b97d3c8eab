import Bindery.Proofs.FileStore.Access

/-!
Contract: making a directory and its parents.

Owns:
- `Grown`, a store that has got directories where nothing was, and nothing else;
- `fileAt`, the file at a place, which growing leaves alone;
- what making directories achieves: the directory is there and the store has grown; where it is
  there already, nothing happens, and where it is refused, the store has grown by its parents;
- that a refusal is lasting: making the same directory again is refused again, although the first
  attempt may have made some of its parents.
-/

namespace Bindery.FileStore

/-! ## Growing by directories -/

/-- A store that differs by new directories in empty places. -/
def Grown (before after : FileStore) : Prop :=
  ∀ place, after.find? place = before.find? place ∨
    (before.find? place = none ∧ after.find? place = some .directory)

namespace Grown

variable {before middle after : FileStore}

theorem refl (store : FileStore) : Grown store store :=
  fun _ => .inl rfl

theorem trans (first : Grown before middle) (second : Grown middle after) : Grown before after := by
  intro place
  rcases second place with same | ⟨empty, made⟩
  · rcases first place with also | ⟨empty, made⟩
    · exact .inl (same.trans also)
    · exact .inr ⟨empty, same.trans made⟩
  · rcases first place with also | ⟨_, madeBefore⟩
    · exact .inr ⟨also.symm.trans empty, made⟩
    · rw [madeBefore] at empty
      contradiction

theorem directory (grown : Grown before after) {place : Place}
    (there : before.find? place = some .directory) : after.find? place = some .directory := by
  rcases grown place with same | ⟨_, made⟩
  · exact same.trans there
  · exact made

/-- What is no directory afterwards was there before in the same form. -/
theorem unchanged (grown : Grown before after) {place : Place}
    (file : after.find? place ≠ some .directory) : after.find? place = before.find? place := by
  rcases grown place with same | ⟨_, made⟩
  · exact same
  · exact absurd made file

theorem walk (grown : Grown before after) {place reached : Place} {names : List String}
    (walked : before.walk place names = .ok reached) : after.walk place names = .ok reached := by
  induction names generalizing place with
  | nil => exact walked
  | cons name rest inductionHypothesis =>
      obtain ⟨there, fits, onward⟩ := walk_cons_eq_ok_iff.1 walked
      exact walk_cons_eq_ok_iff.2 ⟨grown.directory there, fits, inductionHypothesis onward⟩

theorem locate (grown : Grown before after) {base place : Place} {path : Path}
    (located : before.locate base path = .ok place) : after.locate base path = .ok place := by
  have walked := grown.walk (walk_of_locate located).2
  unfold FileStore.locate at located ⊢
  split at located
  · contradiction
  · rw [if_neg (by assumption)]
    split at located
    · contradiction
    · rw [if_neg (by assumption), walked]

end Grown

theorem grown_put {store : FileStore} {place : Place} (empty : store.find? place = none) :
    Grown store (store.put place .directory) := by
  intro other
  by_cases same : other = place
  · subst same
    refine .inr ⟨empty, find?_put_self ?_⟩
    rintro rfl
    simp at empty
  · exact .inl (find?_put_of_ne same)

/-! ## Files -/

/-- The file at a place, if there is one. -/
def fileAt (store : FileStore) (place : Place) : Option File :=
  match store.find? place with
  | some (.file file) => some file
  | _ => none

theorem fileAt_of_find? {store : FileStore} {place : Place} {file : File}
    (found : store.find? place = some (.file file)) : store.fileAt place = some file := by
  simp [fileAt, found]

theorem fileAt_congr {left right : FileStore} {place : Place}
    (same : left.find? place = right.find? place) : left.fileAt place = right.fileAt place := by
  rw [fileAt, fileAt, same]

/-- New directories change no file. -/
theorem Grown.fileAt_eq {before after : FileStore} (grown : Grown before after) (place : Place) :
    after.fileAt place = before.fileAt place := by
  rcases grown place with same | ⟨empty, made⟩
  · exact fileAt_congr same
  · simp [fileAt, empty, made]

/-! ## The directory above -/

theorem utf8ByteSize_render_above (anchor : Anchor) (parts : List String) (name : String) :
    (Path.render ⟨anchor, parts⟩).utf8ByteSize ≤
      max 2 (Path.render ⟨anchor, parts ++ [name]⟩).utf8ByteSize := by
  cases parts with
  | nil =>
      have small : (Path.render ⟨anchor, []⟩).utf8ByteSize ≤ 2 := by cases anchor <;> decide
      omega
  | cons first rest =>
      rw [Path.render_of_ne_nil (by simp), Path.render_of_ne_nil (by simp),
        String.intercalate_append_of_ne_nil (by simp) (by simp)]
      simp only [String.utf8ByteSize_append]
      omega

/-- Whatever a path leads to, the path above it leads to a directory. -/
theorem isDirectory_above {store : FileStore} {base place : Place} {anchor : Anchor}
    {parts : List String} {name : String}
    (located : store.locate base ⟨anchor, parts ++ [name]⟩ = .ok place) :
    store.isDirectory base ⟨anchor, parts⟩ = .ok true := by
  obtain ⟨clean, walked⟩ := walk_of_locate located
  obtain ⟨middle, front, last⟩ := walk_of_append walked
  have found : store.find? middle = some .directory := (walk_cons_eq_ok_iff.1 last).1
  have shorter := utf8ByteSize_render_above anchor parts name
  have fits : ¬ pathLimit < (Path.render ⟨anchor, parts ++ [name]⟩).utf8ByteSize := by
    intro wide
    simp [locate, clean, wide] at located
  have cleanAbove : Path.hasNull ⟨anchor, parts⟩ = false := by
    simp only [Path.hasNull, List.any_append, Bool.or_eq_false_iff] at clean ⊢
    exact clean.1
  have fitsAbove : ¬ pathLimit < (Path.render ⟨anchor, parts⟩).utf8ByteSize := by
    have limit : pathLimit = 4095 := rfl
    omega
  have start : Path.isAbsolute ⟨anchor, parts⟩ = Path.isAbsolute ⟨anchor, parts ++ [name]⟩ := rfl
  have reached : store.locate base ⟨anchor, parts⟩ = .ok middle := by
    simp only [locate, cleanAbove, fitsAbove, start, front]
    rfl
  exact isDirectory_eq_true_iff.2 (status_of_locate reached found)

/-! ## Making directories -/

section Making

variable {store made : FileStore} {base : Place} {path : Path}

theorem makeDirectory_eq_ok (answered : store.makeDirectory base path = .ok made) :
    Grown store made ∧ made.isDirectory base path = .ok true := by
  unfold makeDirectory at answered
  split at answered
  · contradiction
  · rename_i place located
    split at answered
    · contradiction
    · rename_i empty
      obtain rfl := Except.ok.inj answered
      have grown := grown_put empty
      have below : place ≠ [] := by
        rintro rfl
        simp at empty
      exact ⟨grown, isDirectory_eq_true_iff.2
        (status_of_locate (grown.locate located) (find?_put_self below))⟩

theorem settleRefusal_eq_ok {fault : IoFault}
    (settled : store.settleRefusal base path fault = .ok ()) :
    store.isDirectory base path = .ok true := by
  unfold settleRefusal at settled
  split at settled
  · contradiction
  · assumption
  · contradiction

theorem ensureDirectory_eq_ok (answered : store.ensureDirectory base path = (.ok (), made)) :
    Grown store made ∧ made.isDirectory base path = .ok true := by
  unfold ensureDirectory at answered
  split at answered
  · rename_i grown making
    obtain rfl : grown = made := by simpa using answered
    exact makeDirectory_eq_ok making
  · split at answered
    · simp at answered
    · obtain ⟨settled, rfl⟩ := Prod.mk.inj answered
      exact ⟨.refl _, settleRefusal_eq_ok settled⟩
  · simp at answered

theorem ensureDirectory_eq_error {fault : Fault}
    (answered : store.ensureDirectory base path = (.error fault, made)) : made = store := by
  unfold ensureDirectory at answered
  split at answered
  · simp at answered
  · split at answered
    · exact (Prod.mk.inj answered).2.symm
    · exact (Prod.mk.inj answered).2.symm
  · exact (Prod.mk.inj answered).2.symm

theorem makeTree_eq_ok {anchor : Anchor} {reversed : List String}
    (answered : store.makeTree base anchor reversed = (.ok (), made)) :
    Grown store made ∧ made.isDirectory base ⟨anchor, reversed.reverse⟩ = .ok true := by
  induction reversed generalizing made with
  | nil => exact ensureDirectory_eq_ok answered
  | cons name above inductionHypothesis =>
      simp only [makeTree] at answered
      split at answered
      · rename_i grown making
        obtain rfl : grown = made := by simpa using answered
        exact makeDirectory_eq_ok making
      · split at answered
        · split at answered
          · simp at answered
          · rename_i parents makingAbove
            obtain ⟨grown, there⟩ := ensureDirectory_eq_ok answered
            exact ⟨(inductionHypothesis makingAbove).1.trans grown, there⟩
        · obtain ⟨settled, rfl⟩ := Prod.mk.inj answered
          exact ⟨.refl _, settleRefusal_eq_ok settled⟩
      · simp at answered

/-- After making directories the directory is there, and nothing else has changed. -/
theorem makeDirectories_eq_ok (answered : store.makeDirectories base path = (.ok (), made)) :
    Grown store made ∧ made.isDirectory base path = .ok true := by
  simpa using makeTree_eq_ok answered

/-- Whether or not a directory can be made, only directories have been made. -/
theorem grown_ensureDirectory (store : FileStore) (base : Place) (path : Path) :
    Grown store (store.ensureDirectory base path).2 := by
  rcases ensured : store.ensureDirectory base path with ⟨fault | _, made⟩
  · rw [ensureDirectory_eq_error ensured]
    exact .refl store
  · exact (ensureDirectory_eq_ok ensured).1

theorem grown_makeTree (store : FileStore) (base : Place) (anchor : Anchor)
    (reversed : List String) : Grown store (store.makeTree base anchor reversed).2 := by
  induction reversed with
  | nil => exact grown_ensureDirectory store base _
  | cons name above inductionHypothesis =>
      rw [makeTree]
      split
      · rename_i grown making
        exact (makeDirectory_eq_ok making).1
      · split
        · split
          · rename_i other parents making
            rwa [making] at inductionHypothesis
          · rename_i parents making
            rw [making] at inductionHypothesis
            exact inductionHypothesis.trans (grown_ensureDirectory parents base _)
        · exact .refl store
      · exact .refl store

theorem grown_makeDirectories (store : FileStore) (base : Place) (path : Path) :
    Grown store (store.makeDirectories base path).2 :=
  grown_makeTree store base path.anchor path.parts.reverse

theorem makeDirectory_of_isDirectory (there : store.isDirectory base path = .ok true) :
    store.makeDirectory base path = .error (.io ⟨.alreadyThere, path.render⟩) := by
  obtain ⟨located, found⟩ := locate_of_status (isDirectory_eq_true_iff.1 there)
  simp [makeDirectory, located, found]

theorem makeTree_of_isDirectory {anchor : Anchor} {reversed : List String}
    (there : store.isDirectory base ⟨anchor, reversed.reverse⟩ = .ok true) :
    store.makeTree base anchor reversed = (.ok (), store) := by
  cases reversed with
  | nil =>
      have refused := makeDirectory_of_isDirectory there
      simp only [List.reverse_nil] at refused there
      simp [makeTree, ensureDirectory, refused, settleRefusal, there]
  | cons name above =>
      simp only [makeTree, makeDirectory_of_isDirectory there, settleRefusal, there]
      rfl

theorem makeDirectories_of_isDirectory (there : store.isDirectory base path = .ok true) :
    store.makeDirectories base path = (.ok (), store) :=
  makeTree_of_isDirectory (by simpa using there)

end Making

/-! ## A refusal is lasting -/

section Refusal

variable {store made : FileStore} {base : Place}

theorem locate_eq_error {path : Path} {fault : Fault}
    (answered : store.locate base path = .error fault) :
    fault = .nullInPath ∧ path.hasNull = true ∨ ∃ refusal, fault = .io refusal := by
  unfold locate at answered
  split at answered
  · rename_i null
    exact .inl ⟨(Except.error.inj answered).symm, null⟩
  · split at answered
    · exact .inr ⟨_, (Except.error.inj answered).symm⟩
    · split at answered
      · contradiction
      · exact .inr ⟨_, (Except.error.inj answered).symm⟩

theorem status_eq_error {path : Path} {fault : Fault}
    (answered : store.status base path = .error fault) :
    fault = .nullInPath ∨ ∃ refusal, fault = .io refusal :=
  (cause_of_status answered).imp_right fun ⟨_, same, _⟩ => ⟨_, same⟩

theorem makeDirectory_eq_error {path : Path} {fault : Fault}
    (answered : store.makeDirectory base path = .error fault) :
    fault = .nullInPath ∧ path.hasNull = true ∨ ∃ refusal, fault = .io refusal := by
  unfold makeDirectory at answered
  split at answered
  · rename_i other located
    obtain rfl := Except.error.inj answered
    exact locate_eq_error located
  · split at answered
    · exact .inr ⟨_, (Except.error.inj answered).symm⟩
    · contradiction

theorem locate_of_makeDirectory {path : Path}
    (answered : store.makeDirectory base path = .ok made) :
    ∃ place, store.locate base path = .ok place := by
  unfold makeDirectory at answered
  split at answered
  · contradiction
  · exact ⟨_, by assumption⟩

theorem makeDirectory_of_hasNull {path : Path} (null : path.hasNull = true) :
    store.makeDirectory base path = .error .nullInPath := by
  simp [makeDirectory, locate, null]

theorem settleRefusal_eq_error {path : Path} {refusal : IoFault} {fault : Fault}
    (answered : store.settleRefusal base path refusal = .error fault) :
    ∃ other, fault = .io other := by
  unfold settleRefusal at answered
  split at answered
  · rename_i other asked
    obtain rfl := Except.error.inj answered
    unfold isDirectory status? at asked
    cases found : store.status base path with
    | ok node => simp [found, Except.map] at asked
    | error cause =>
        rcases status_eq_error found with rfl | ⟨refused, rfl⟩
        · simp [found, Except.map] at asked
        · simp only [found] at asked
          split at asked
          · simp [Except.map] at asked
          · exact ⟨refused, (Except.error.inj asked).symm⟩
  · contradiction
  · exact ⟨_, (Except.error.inj answered).symm⟩

theorem ensureDirectory_refusal {path : Path} {fault : Fault}
    (answered : store.ensureDirectory base path = (.error fault, made)) :
    fault = .nullInPath ∨ ∃ refusal, fault = .io refusal := by
  unfold ensureDirectory at answered
  split at answered
  · simp at answered
  · rename_i refusal making
    split at answered
    · obtain ⟨same, _⟩ := Prod.mk.inj answered
      exact .inr ⟨refusal, (Except.error.inj same).symm⟩
    · exact .inr (settleRefusal_eq_error (Prod.mk.inj answered).1)
  · rename_i other _ making
    obtain ⟨same, _⟩ := Prod.mk.inj answered
    obtain rfl := Except.error.inj same
    exact (makeDirectory_eq_error making).imp_left And.left

theorem makeTree_refusal {anchor : Anchor} {reversed : List String} {fault : Fault}
    (answered : store.makeTree base anchor reversed = (.error fault, made)) :
    fault = .nullInPath ∨ ∃ refusal, fault = .io refusal := by
  induction reversed generalizing made with
  | nil => exact ensureDirectory_refusal answered
  | cons name above inductionHypothesis =>
      simp only [makeTree] at answered
      split at answered
      · simp at answered
      · rename_i refusal making
        split at answered
        · split at answered
          · rename_i other parents makingAbove
            obtain ⟨same, rfl⟩ := Prod.mk.inj answered
            obtain rfl := Except.error.inj same
            exact inductionHypothesis makingAbove
          · exact ensureDirectory_refusal answered
        · exact .inr (settleRefusal_eq_error (Prod.mk.inj answered).1)
      · rename_i other _ making
        obtain ⟨same, _⟩ := Prod.mk.inj answered
        obtain rfl := Except.error.inj same
        exact (makeDirectory_eq_error making).imp_left And.left

/-- A directory is refused for its name or by the file system. -/
theorem makeDirectories_refusal {path : Path} {fault : Fault}
    (answered : store.makeDirectories base path = (.error fault, made)) :
    fault = .nullInPath ∨ ∃ refusal, fault = .io refusal :=
  makeTree_refusal answered

/-- What a path leads to lies in a directory, so a tree above it is made without a refusal. -/
theorem makeTree_above {anchor : Anchor} {name : String} {above : List String} {place : Place}
    (located : store.locate base ⟨anchor, (name :: above).reverse⟩ = .ok place) :
    store.makeTree base anchor above = (.ok (), store) := by
  apply makeTree_of_isDirectory
  rw [List.reverse_cons] at located
  exact isDirectory_above located

/-- Where the tree above a path is refused, the path leads nowhere and is refused as well. -/
theorem makeTree_cons_refused {anchor : Anchor} {name : String} {above : List String}
    {refusal : IoFault} {later : FileStore}
    (clean : Path.hasNull ⟨anchor, (name :: above).reverse⟩ = false)
    (refused : store.makeTree base anchor above = (.error (.io refusal), later)) :
    ∃ other after, store.makeTree base anchor (name :: above) = (.error (.io other), after) := by
  have nowhere : ∀ place, store.locate base ⟨anchor, (name :: above).reverse⟩ ≠ .ok place := by
    intro place located
    rw [makeTree_above located] at refused
    simp at refused
  cases making : store.makeDirectory base ⟨anchor, (name :: above).reverse⟩ with
  | ok grown =>
      obtain ⟨place, located⟩ := locate_of_makeDirectory making
      exact absurd located (nowhere place)
  | error fault =>
      rcases makeDirectory_eq_error making with ⟨_, null⟩ | ⟨cause, rfl⟩
      · rw [clean] at null
        contradiction
      · by_cases missing : cause.cause = .notFound
        · refine ⟨refusal, later, ?_⟩
          simp only [makeTree, making, if_pos missing, refused]
        · cases settled : store.settleRefusal base ⟨anchor, (name :: above).reverse⟩ cause with
          | ok =>
              obtain ⟨located, _⟩ :=
                locate_of_status (isDirectory_eq_true_iff.1 (settleRefusal_eq_ok settled))
              exact absurd located (nowhere _)
          | error other =>
              obtain ⟨left, rfl⟩ := settleRefusal_eq_error settled
              refine ⟨left, store, ?_⟩
              simp only [makeTree, making, if_neg missing, settled]

/-- A tree that was refused once is refused again in what the first attempt left behind. -/
theorem makeTree_refused_again {anchor : Anchor} {reversed : List String} {refusal : IoFault}
    (refused : store.makeTree base anchor reversed = (.error (.io refusal), made)) :
    ∃ other after, made.makeTree base anchor reversed = (.error (.io other), after) := by
  induction reversed generalizing made refusal with
  | nil =>
      -- One directory is made or refused as a whole, so the store is the one before.
      obtain rfl := ensureDirectory_eq_error refused
      exact ⟨refusal, made, refused⟩
  | cons name above inductionHypothesis =>
      have clean : Path.hasNull ⟨anchor, (name :: above).reverse⟩ = false := by
        cases null : Path.hasNull ⟨anchor, (name :: above).reverse⟩ with
        | false => rfl
        | true =>
            simp only [makeTree, makeDirectory_of_hasNull null] at refused
            simp at refused
      have attempt := refused
      simp only [makeTree] at attempt
      split at attempt
      · simp at attempt
      · rename_i cause making
        split at attempt
        · rename_i missing
          split at attempt
          · -- The parents were refused, and they are refused again.
            rename_i other parents makingAbove
            obtain ⟨same, rfl⟩ := Prod.mk.inj attempt
            obtain rfl := Except.error.inj same
            obtain ⟨later, after, again⟩ := inductionHypothesis makingAbove
            exact makeTree_cons_refused clean again
          · -- The parents are there now, and the last name is refused as before.
            rename_i parents makingAbove
            obtain rfl := ensureDirectory_eq_error attempt
            have there := (makeTree_eq_ok makingAbove).2
            refine ⟨refusal, made, ?_⟩
            have ensured := attempt
            simp only [ensureDirectory] at ensured
            split at ensured
            · simp at ensured
            · rename_i last makingLast
              split at ensured
              · rename_i stillMissing
                simp only [makeTree, makingLast, if_pos stillMissing,
                  makeTree_of_isDirectory there, attempt]
              · rename_i refusedLast
                simp only [makeTree, makingLast, if_neg refusedLast, ensured]
            · rename_i fault notIo makingLast
              simp only [makeTree, makingLast, ensured]
        · obtain ⟨settled, rfl⟩ := Prod.mk.inj attempt
          exact ⟨refusal, store, refused⟩
      · obtain ⟨settled, rfl⟩ := Prod.mk.inj attempt
        exact ⟨refusal, store, refused⟩

/-- Making a directory that was refused is refused again. -/
theorem makeDirectories_refused_again {path : Path} {refusal : IoFault}
    (refused : store.makeDirectories base path = (.error (.io refusal), made)) :
    ∃ other after, made.makeDirectories base path = (.error (.io other), after) :=
  makeTree_refused_again refused

end Refusal

end Bindery.FileStore
