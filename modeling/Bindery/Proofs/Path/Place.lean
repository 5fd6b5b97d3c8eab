import Bindery.FileStore
import Bindery.Proofs.Text.LineEnd

/-!
Contract: where a path leads, and how a written path is read back.

Owns:
- `descend` and `placeFrom`, the place of a path whose every step goes through a directory;
- `IsPart` and `IsProper`, the names and paths that reading yields, and the round trip from a
  proper path to its text and back;
- a name put behind a path, among them the names that artifacts take from the stem of their source.

Does not own: whether anything is there (`Bindery.Proofs.FileStore.Access`).
-/

namespace Bindery.Path

/-! ## Places -/

/-- One step of a walk: a double dot goes up, any other name goes down. -/
def descend (place : Place) (name : String) : Place :=
  if name = ".." then place.dropLast else place ++ [name]

/-- Where a path leads, `base` being the working directory, if all that it passes is there. -/
def placeFrom (base : Place) (path : Path) : Place :=
  path.parts.foldl descend (if path.isAbsolute then [] else base)

@[simp]
theorem descend_up (place : Place) : descend place ".." = place.dropLast := rfl

theorem descend_down {name : String} (different : name ≠ "..") (place : Place) :
    descend place name = place ++ [name] := by
  simp [descend, different]

/-! ## Names between slashes -/

/-- What can stand between two slashes of a path that has been read. -/
def IsPart (name : String) : Prop :=
  name ≠ "" ∧ name ≠ "." ∧ '/' ∉ name.toList

/-- A path as reading yields it. -/
def IsProper (path : Path) : Prop :=
  ∀ part ∈ path.parts, IsPart part

/-- A path as reading yields it that can lead to a file: it has a last name, which goes down. -/
structure NamesFile (path : Path) : Prop where
  proper : path.IsProper
  named : path.parts ≠ []
  down : path.name ≠ ".."

instance (name : String) : Decidable (IsPart name) :=
  inferInstanceAs (Decidable (name ≠ "" ∧ name ≠ "." ∧ '/' ∉ name.toList))

instance (path : Path) : Decidable path.IsProper :=
  inferInstanceAs (Decidable (∀ part ∈ path.parts, IsPart part))

instance (path : Path) : Decidable path.NamesFile :=
  decidable_of_iff (path.IsProper ∧ path.parts ≠ [] ∧ path.name ≠ "..")
    ⟨fun ⟨proper, named, down⟩ => ⟨proper, named, down⟩,
      fun file => ⟨file.proper, file.named, file.down⟩⟩

theorem isName_toList_iff (name : String) : isName name.toList = true ↔ name ≠ "" ∧ name ≠ "." := by
  have dot : name.toList = ['.'] ↔ name = "." := by
    constructor
    · intro same
      exact String.toList_inj.1 (same.trans rfl)
    · rintro rfl
      rfl
  simp [isName, dot]

theorem takeWhile_slash_of_notMem {text : List Char} (absent : '/' ∉ text) :
    text.takeWhile (· = '/') = [] := by
  cases text with
  | nil => rfl
  | cons c rest =>
      simp only [List.mem_cons, not_or] at absent
      simp [Ne.symm absent.1]

theorem ofString_of_isPart {name : String} (part : IsPart name) :
    ofString name = ⟨.here, [name]⟩ := by
  have counts : isName name.toList = true := (isName_toList_iff name).2 ⟨part.1, part.2.1⟩
  simp only [ofString, takeWhile_slash_of_notMem part.2.2,
    Text.splitAt_of_notMem part.2.2]
  simp [anchorOf, counts]

theorem joinText_of_isPart {name : String} (part : IsPart name) (path : Path) :
    path.joinText name = ⟨path.anchor, path.parts ++ [name]⟩ := by
  simp [joinText, join, ofString_of_isPart part, isAbsolute]

@[simp]
theorem parts_joinText {name : String} (part : IsPart name) (path : Path) :
    (path.joinText name).parts = path.parts ++ [name] := by
  rw [joinText_of_isPart part]

theorem IsProper.joinText {name : String} {path : Path} (proper : path.IsProper)
    (part : IsPart name) : (path.joinText name).IsProper := by
  intro other member
  rw [parts_joinText part] at member
  rcases List.mem_append.1 member with above | last
  · exact proper other above
  · obtain rfl := List.mem_singleton.1 last
    exact part

theorem IsProper.join {base path : Path} (properBase : base.IsProper) (proper : path.IsProper) :
    (base.join path).IsProper := by
  unfold Path.join
  split
  · exact proper
  · intro part member
    rcases List.mem_append.1 member with above | below
    · exact properBase part above
    · exact proper part below

theorem parent_joinText {name : String} (part : IsPart name) (path : Path) :
    (path.joinText name).parent = path := by
  simp [joinText_of_isPart part, parent]

theorem placeFrom_joinText {name : String} (part : IsPart name) (base : Place) (path : Path) :
    (path.joinText name).placeFrom base = descend (path.placeFrom base) name := by
  simp [joinText_of_isPart part, placeFrom, isAbsolute]

theorem name_mem_parts {path : Path} (named : path.parts ≠ []) : path.name ∈ path.parts := by
  simp only [name, List.getLast?_eq_some_getLast named, Option.getD_some]
  exact List.getLast_mem named

theorem NamesFile.isPart_name {path : Path} (file : path.NamesFile) : IsPart path.name :=
  file.proper _ (name_mem_parts file.named)

/-- A path keeps its last name when it is seen from another one. -/
theorem name_join {path : Path} (named : path.parts ≠ []) (base : Path) :
    (base.join path).name = path.name := by
  unfold join
  split
  · rfl
  · simp [name, List.getLast?_append, List.getLast?_eq_some_getLast named]

theorem stem_join {path : Path} (named : path.parts ≠ []) (base : Path) :
    (base.join path).stem = path.stem := by
  simp [stem, name_join named base]

/-! ## Reading a written path -/

theorem isProper_ofString (text : String) : (ofString text).IsProper := by
  intro part member
  simp only [ofString, List.mem_map, List.mem_filter] at member
  obtain ⟨chars, ⟨cut, counts⟩, rfl⟩ := member
  have between : '/' ∉ chars := Text.mark_notMem_of_mem_splitAt '/' _ chars cut
  have rest := (isName_toList_iff (String.ofList chars)).1 (by simpa using counts)
  exact ⟨rest.1, rest.2, by simpa using between⟩

/-- A text that was put together with slashes is cut into the names again. -/
theorem splitAt_intercalate {parts : List String} (proper : ∀ part ∈ parts, '/' ∉ part.toList)
    (some : parts ≠ []) :
    Text.splitAt '/' ("/".intercalate parts).toList = parts.map String.toList := by
  have slash : "/".toList = ['/'] := rfl
  rw [String.toList_intercalate, slash]
  refine Text.splitAt_intercalate ?_ (by simpa using some)
  simpa using proper

theorem anchorOf_slashes (anchor : Anchor) : anchorOf (Anchor.slashes anchor).length = anchor := by
  cases anchor <;> decide

/-- Leading slashes give empty names, which do not count. -/
theorem parts_of_slashes (anchor : Anchor) (text : List Char) :
    (Text.splitAt '/' ((Anchor.slashes anchor).toList ++ text)).filter isName =
      (Text.splitAt '/' text).filter isName := by
  cases anchor <;> simp [Anchor.slashes, Text.splitAt, isName]

theorem length_takeWhile_slashes (anchor : Anchor) {text : List Char}
    (start : text.takeWhile (· = '/') = []) :
    (((Anchor.slashes anchor).toList ++ text).takeWhile (· = '/')).length =
      (Anchor.slashes anchor).length := by
  have none : "".length = 0 := by decide
  have one : "/".length = 1 := by decide
  have two : "//".length = 2 := by decide
  cases anchor <;> simp [Anchor.slashes, start, none, one, two]

theorem takeWhile_slash_intercalate {first : String} (part : IsPart first) (rest : List String) :
    ("/".intercalate (first :: rest)).toList.takeWhile (· = '/') = [] := by
  obtain ⟨c, others, shape⟩ : ∃ c others, first.toList = c :: others :=
    List.exists_cons_of_ne_nil (by simpa using part.1)
  have different : c ≠ '/' := by
    rintro rfl
    exact part.2.2 (by simp [shape])
  cases rest with
  | nil => simp [shape, different]
  | cons next more => simp [String.intercalate_cons_cons, shape, different]

theorem render_of_ne_nil {path : Path} (some : path.parts ≠ []) :
    path.render = Anchor.slashes path.anchor ++ "/".intercalate path.parts := by
  obtain ⟨anchor, parts⟩ := path
  cases parts with
  | nil => exact absurd rfl some
  | cons first rest => cases anchor <;> rfl

/-- A name put behind a path is the end of its text. -/
theorem render_snoc (anchor : Anchor) (parts : List String) :
    ∃ front : String, ∀ name, render ⟨anchor, parts ++ [name]⟩ = front ++ name := by
  cases parts with
  | nil =>
      refine ⟨Anchor.slashes anchor, fun name => ?_⟩
      rw [render_of_ne_nil (by simp)]
      simp
  | cons first rest =>
      refine ⟨Anchor.slashes anchor ++ ("/".intercalate (first :: rest) ++ "/"), fun name => ?_⟩
      rw [render_of_ne_nil (by simp), String.intercalate_append_of_ne_nil (by simp) (by simp)]
      simp [String.append_assoc]

/-- A proper path is read back from its text. -/
theorem ofString_render {path : Path} (proper : path.IsProper) : ofString path.render = path := by
  obtain ⟨anchor, parts⟩ := path
  cases parts with
  | nil => cases anchor <;> decide
  | cons first rest =>
      have part : IsPart first := proper first List.mem_cons_self
      have start := takeWhile_slash_intercalate part rest
      have clean : ∀ name ∈ first :: rest, '/' ∉ name.toList := fun name member =>
        (proper name member).2.2
      have counting : ((first :: rest).map String.toList).filter isName =
          (first :: rest).map String.toList := by
        apply List.filter_eq_self.2
        intro chars member
        obtain ⟨name, among, rfl⟩ := List.mem_map.1 member
        exact (isName_toList_iff name).2 ⟨(proper name among).1, (proper name among).2.1⟩
      rw [render_of_ne_nil (by simp)]
      simp only [ofString, String.toList_append, length_takeWhile_slashes anchor start,
        anchorOf_slashes, parts_of_slashes, splitAt_intercalate clean (by simp), counting]
      simp

/-! ## The stem of a name -/

theorem append_of_cutSuffix {text before after : List Char}
    (cut : cutSuffix text = some (before, after)) : text = before ++ '.' :: after := by
  induction text generalizing before with
  | nil => simp [cutSuffix] at cut
  | cons c rest inductionHypothesis =>
      simp only [cutSuffix] at cut
      split at cut
      · rename_i stem extension deeper
        obtain ⟨rfl, rfl⟩ : c :: stem = before ∧ extension = after := by simpa using cut
        simp [inductionHypothesis deeper]
      · split at cut
        · split at cut
          · contradiction
          · obtain ⟨rfl, rfl⟩ : [c] = before ∧ _ = after := by simpa using cut
            rfl
        · contradiction

theorem prefix_stem_toList (path : Path) : path.stem.toList <+: path.name.toList := by
  unfold stem
  split
  · rename_i before after cut
    rw [append_of_cutSuffix cut]
    simp
  · exact List.prefix_rfl

theorem append_ne_of_length_lt {front suffix text : String}
    (long : text.toList.length < suffix.toList.length) : front ++ suffix ≠ text := by
  rintro rfl
  simp only [String.toList_append, List.length_append] at long
  omega

/-- The names of artifacts: a stem with a suffix behind it. -/
theorem IsProper.isPart_stem_append {path : Path} (proper : path.IsProper) {suffix : String}
    (clean : '/' ∉ suffix.toList) (long : 1 < suffix.toList.length) :
    IsPart (path.stem ++ suffix) := by
  have nameless : '/' ∉ path.name.toList := by
    by_cases named : path.parts = []
    · simp [name, named]
    · exact (proper _ (name_mem_parts named)).2.2
  have absent : '/' ∉ path.stem.toList := fun member =>
    nameless ((prefix_stem_toList path).subset member)
  have some : "".toList.length < suffix.toList.length := Nat.lt_trans (by decide) long
  exact ⟨append_ne_of_length_lt some, append_ne_of_length_lt long, by simp [absent, clean]⟩

theorem stem_append_ne_up (path : Path) {suffix : String} (long : 2 < suffix.toList.length) :
    path.stem ++ suffix ≠ ".." :=
  append_ne_of_length_lt long

theorem hasNull_joinText {name : String} (part : IsPart name) (path : Path) :
    (path.joinText name).hasNull = (path.hasNull || name.toList.contains '\x00') := by
  simp [hasNull, parts_joinText part]

theorem contains_null_name {path : Path} (named : path.parts ≠ []) (clean : path.hasNull = false) :
    path.name.toList.contains '\x00' = false := by
  simp only [hasNull, List.any_eq_false] at clean
  simpa using clean _ (name_mem_parts named)

theorem contains_null_stem {path : Path} (named : path.parts ≠ []) (clean : path.hasNull = false) :
    path.stem.toList.contains '\x00' = false := by
  have absent := contains_null_name named clean
  simp only [List.contains_eq_mem, decide_eq_false_iff_not] at absent ⊢
  exact fun member => absent ((prefix_stem_toList path).subset member)

end Bindery.Path
