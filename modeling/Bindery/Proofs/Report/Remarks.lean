import Bindery.Phase
import Bindery.Proofs.Display.Tags
import Bindery.Proofs.Json.Scalar
import Bindery.Report.Timings

/-!
Contract: the timings of a run can be shown.

Owns:
- that a stretch of text between the tags of a style is read, if there are no brackets around it
  and none in it;
- `Phase.Plain`, trees of phases without brackets and joiners in their names and notes, and that
  the block of remarks shows them.

Does **not** own: the durations of phases, and remarks other than timings.
-/

namespace Bindery.Display.Markup

/-- Nothing but a bracket, or a backslash in front of one, can be taken for a tag. -/
theorem recognise_of_unmarked {c : Char} {rest : List Char} (bracket : c ≠ '[')
    (backslash : c ≠ '\\') : recognise (c :: rest) = none := by
  unfold recognise
  simp only [List.takeWhile_cons, backslash, decide_false, Bool.false_eq_true, if_false,
    List.length_nil, List.drop_zero]
  split
  · rename_i same
    exact absurd (List.cons.inj same).1 bracket
  · rfl

section Unmarked

variable {text : List Char}

theorem scan_append_of_unmarked (bracket : '[' ∉ text) (backslash : '\\' ∉ text)
    (rest : List Char) :
    Text.scan recognise (text ++ rest) = text.map .plain ++ Text.scan recognise rest := by
  refine Text.scan_append_of_none fun place behind nonempty => ?_
  cases place with
  | nil => contradiction
  | cons c others =>
      have inside : c ∈ text := behind.subset List.mem_cons_self
      exact recognise_of_unmarked (fun same => bracket (same ▸ inside)) fun same =>
        backslash (same ▸ inside)

theorem readFrom_append_of_unmarked (backslash : '\\' ∉ text) (draft : Draft)
    (pieces : List (Text.Piece Tag)) :
    readFrom draft (text.map .plain ++ pieces) = readFrom (draft.add text) pieces := by
  induction text generalizing draft with
  | nil => rfl
  | cons c rest inductionHypothesis =>
      rw [List.mem_cons, not_or] at backslash
      have behind := inductionHypothesis backslash.2 (draft.add [c])
      rw [← Draft.add_append, List.singleton_append] at behind
      rw [List.map_cons, List.cons_append, readFrom_cons fun _ _ same => backslash.1 same.symm,
        behind]

end Unmarked

/-! ## A stretch with a style -/

/-- The styles of durations. -/
def durationStyles : List String := ["dim", "yellow", "bold red"]

section Styled

variable {style : String}

/-- The tag that opens a style. -/
def opening (style : String) : Tag :=
  ⟨0, style.toList⟩

/-- The tag that closes a style. -/
def closing (style : String) : Tag :=
  ⟨0, '/' :: style.toList⟩

theorem recognise_opening (known : style ∈ durationStyles) (rest : List Char) :
    recognise ((opening style).bare ++ rest) =
      some (opening style, (opening style).bare.length) := by
  simp only [durationStyles, List.mem_cons, List.not_mem_nil, or_false] at known
  rcases known with rfl | rfl | rfl <;> rfl

theorem recognise_closing (known : style ∈ durationStyles) (rest : List Char) :
    recognise ((closing style).bare ++ rest) =
      some (closing style, (closing style).bare.length) := by
  simp only [durationStyles, List.mem_cons, List.not_mem_nil, or_false] at known
  rcases known with rfl | rfl | rfl <;> rfl

theorem normalise_of_known :
    ∀ style ∈ durationStyles, StyleName.normalise style.toList = .ok style := by
  decide +kernel

theorem exists_read_of_known (style : String) (known : style ∈ durationStyles) :
    ∃ meant, StyleName.read style.toList = .ok meant := by
  have normal := normalise_of_known style known
  unfold StyleName.normalise at normal
  cases read : StyleName.read style.toList with
  | ok meant => exact ⟨meant, rfl⟩
  | error fault =>
      rw [read] at normal
      contradiction

/-- The name of a tag for a known style is all of it. -/
theorem name_of_known : ∀ style ∈ durationStyles,
    (opening style).name = style.toList ∧
      (closing style).name = '/' :: Text.trim style.toList ∧
      Text.trim style.toList = style.toList ∧ style.toList.head? ≠ some '/' ∧
      style.toList.isEmpty = false ∧ style.startsWith "@" = false ∧
      (opening style).parameters = none := by
  decide +kernel

theorem step_opening (known : style ∈ durationStyles) (draft : Draft) :
    draft.step (opening style) =
      .ok { draft with opened := ⟨draft.length, style, none⟩ :: draft.opened } := by
  obtain ⟨named, _, _, opens, _, _, alone⟩ := name_of_known style known
  unfold Draft.step
  rw [named]
  split
  · rename_i same
    rw [same] at opens
    contradiction
  · rw [normalise_of_known style known, alone]
    rfl

theorem step_closing (known : style ∈ durationStyles) (draft : Draft) (start : Nat)
    (others : List OpenTag) (opened : draft.opened = ⟨start, style, none⟩ :: others) :
    draft.step (closing style) =
      .ok { draft with
        spans := ⟨start, draft.length, some style⟩ :: draft.spans
        opened := others } := by
  obtain ⟨_, closes, trimmed, _, nonempty, plain, _⟩ := name_of_known style known
  have taken : draft.taken style.toList = .ok (⟨start, style, none⟩, others) := by
    unfold Draft.taken
    rw [nonempty, normalise_of_known style known, opened]
    simp [bind, Except.bind, pure, Except.pure, Draft.takeNamed]
  unfold Draft.step
  rw [closes, trimmed]
  show draft.close (Text.trim style.toList) = _
  rw [trimmed]
  unfold Draft.close
  rw [taken]
  show (if style.startsWith "@" then _ else _) = _
  rw [plain]
  rfl

theorem readFrom_found {draft stepped : Draft} {tag : Tag} (unescaped : tag.escapes = 0)
    (steps : draft.step tag = .ok stepped) (rest : List (Text.Piece Tag)) :
    readFrom draft (.found tag :: rest) = readFrom stepped rest := by
  have unchanged : draft.add (List.replicate (0 / 2) '\\') = draft := rfl
  rw [readFrom]
  simp only [unescaped, unchanged, steps, Nat.zero_mod, Nat.zero_ne_one, if_false]

/-- A text without brackets can be read with a stretch of it between the tags of a style. -/
theorem readable_of_styled (known : style ∈ durationStyles) {before inner after : List Char}
    (brackets : '[' ∉ before ++ inner ++ after) (backslashes : '\\' ∉ before ++ inner) :
    Readable (before ++ ((opening style).bare ++ (inner ++ ((closing style).bare ++ after)))) := by
  simp only [List.mem_append, not_or] at brackets backslashes
  obtain ⟨⟨beforeFree, innerFree⟩, afterFree⟩ := brackets
  have bareNonempty (tag : Tag) : tag.bare ≠ [] := by simp [Tag.bare]
  have inert := inert_of_notMem afterFree
  have scanned := scan_append_of_unmarked beforeFree backslashes.1
    ((opening style).bare ++ (inner ++ ((closing style).bare ++ after)))
  rw [Text.scan_append_of_some (recognise_opening known _) (bareNonempty _),
    scan_append_of_unmarked innerFree backslashes.2,
    Text.scan_append_of_some (recognise_closing known _) (bareNonempty _),
    Text.scan_of_not_occurs inert.1] at scanned
  generalize whole :
    before ++ ((opening style).bare ++ (inner ++ ((closing style).bare ++ after))) = text
    at scanned ⊢
  have tagged : text.contains '[' = true := by
    rw [← whole]
    simp [Tag.bare]
  let started : Draft := (⟨[], 0, [], []⟩ : Draft).add before
  let opened : Draft := { started with opened := [⟨started.length, style, none⟩] }
  let reached : Draft := opened.add inner
  let closed : Draft :=
    { reached with spans := [⟨started.length, reached.length, some style⟩], opened := [] }
  have drafted : readFrom ⟨[], 0, [], []⟩ (Text.scan recognise text) = .ok (closed.add after) := by
    rw [scanned, readFrom_append_of_unmarked backslashes.1,
      readFrom_found rfl (step_opening known started),
      readFrom_append_of_unmarked backslashes.2]
    show readFrom reached (.found (closing style) :: after.map .plain) = _
    rw [readFrom_found rfl (step_closing known reached started.length [] rfl),
      readFrom_plain _ inert.2]
    rfl
  refine ⟨(closed.add after).finish, ?_, ?_⟩
  · unfold read
    rw [if_pos tagged, drafted]
    rfl
  · refine StyledText.checkStyles_eq_ok_iff.2 fun span among name named => ?_
    have own : span = ⟨started.length, reached.length, some style⟩ :=
      List.mem_singleton.1 (List.mem_mergeSort.1 among)
    rw [own] at named
    obtain rfl := Option.some.inj named
    exact exists_read_of_known _ known

end Styled

end Bindery.Display.Markup

namespace Bindery

open Display

/-! ## Numbers with a fixed number of places -/

namespace Number

/-- The characters of numbers. -/
def isNumeral (c : Char) : Bool :=
  c.isAlphanum || c = '.' || c = '-'

/-- The characters of numbers are printable ASCII. -/
theorem printable_of_isNumeral {c : Char} (numeral : isNumeral c = true) :
    0x20 ≤ c.toNat ∧ c.toNat < 0x7f := by
  have between (least most : UInt32) (inside : c.val ≥ least ∧ c.val ≤ most) :
      least.toNat ≤ c.toNat ∧ c.toNat ≤ most.toNat :=
    ⟨UInt32.le_iff_toNat_le.1 inside.1, UInt32.le_iff_toNat_le.1 inside.2⟩
  have both {least most : UInt32}
      (inside : (decide (c.val ≥ least) && decide (c.val ≤ most)) = true) :
      c.val ≥ least ∧ c.val ≤ most := by
    simpa only [Bool.and_eq_true, decide_eq_true_eq] using inside
  have shape : ((((c.isUpper || c.isLower) || c.isDigit) || decide (c = '.')) ||
      decide (c = '-')) = true := numeral
  simp only [Bool.or_eq_true, decide_eq_true_eq] at shape
  rcases shape with (((upper | lower) | digit) | rfl) | rfl
  · have bounds : 65 ≤ c.toNat ∧ c.toNat ≤ 90 := between 'A'.val 'Z'.val (of_decide_eq_true upper)
    omega
  · have bounds : 97 ≤ c.toNat ∧ c.toNat ≤ 122 := between 'a'.val 'z'.val (both lower)
    omega
  · have bounds : 48 ≤ c.toNat ∧ c.toNat ≤ 57 := between '0'.val '9'.val (both digit)
    omega
  · decide
  · decide

theorem isNumeral_of_mem_toString {number : Nat} {c : Char}
    (member : c ∈ (toString number).toList) : isNumeral c = true := by
  have digit : c.isDigit = true := by
    rw [show (toString number).toList = Nat.toDigits 10 number from Nat.toList_repr] at member
    exact Nat.isDigit_of_mem_toDigits (by decide) (by decide) member
  simp [isNumeral, Char.isAlphanum, digit]

theorem isNumeral_of_mem_placed {places value : Nat} {c : Char}
    (member : c ∈ (placed places value).toList) : isNumeral c = true := by
  unfold placed at member
  simp only [] at member
  split at member
  · exact isNumeral_of_mem_toString member
  · simp only [String.toList_append, List.mem_append, String.toList_ofList] at member
    rcases member with ((whole | point) | zero) | digits
    · exact isNumeral_of_mem_toString whole
    · rw [show c = '.' by simpa using point]
      decide
    · rw [List.eq_of_mem_replicate zero]
      decide
    · exact isNumeral_of_mem_toString digits

theorem isNumeral_of_mem_fixed {places : Nat} {number : Binary64} {c : Char}
    (member : c ∈ (number.fixed places).toList) : isNumeral c = true := by
  have undefinedText : "nan".toList.all isNumeral = true := by decide
  have infiniteText : "inf".toList.all isNumeral = true := by decide
  have negativeText : "-inf".toList.all isNumeral = true := by decide
  cases number with
  | undefined => exact List.all_eq_true.1 undefinedText c member
  | infinite negative =>
      cases negative with
      | true => exact List.all_eq_true.1 negativeText c member
      | false => exact List.all_eq_true.1 infiniteText c member
  | finite negative significand exponent =>
      rw [Binary64.fixed, String.toList_append, List.mem_append] at member
      rcases member with sign | digits
      · cases negative with
        | true =>
            rw [show c = '-' by simpa using sign]
            decide
        | false => simp at sign
      · exact isNumeral_of_mem_placed digits

end Number

/-! ## Phases -/

/-- A text without brackets and joiners. -/
def Report.Unmarked (text : String) : Prop :=
  '[' ∉ text.toList ∧ joiner ∉ text.toList

instance (text : String) : Decidable (Report.Unmarked text) :=
  inferInstanceAs (Decidable (_ ∧ _))

/-- Phases whose names and notes hold neither brackets nor joiners. -/
inductive Phase.Plain : Phase → Prop
  | mk {name : String} {started : Int} {finished : Option Int} {notes : Entries}
      {children : List Phase} (named : Report.Unmarked name)
      (noted : ∀ note ∈ notes,
        Report.Unmarked note.1 ∧ Report.Unmarked note.2.display)
      (inside : ∀ child ∈ children, Phase.Plain child) :
      Phase.Plain (Phase.mk name started finished notes children)

namespace Report

theorem exists_say {parts : List Part}
    (readable : ∀ part ∈ parts, ∃ text, part.read = .ok text ∧ text.Showable) :
    ∃ text, say parts = .ok text := by
  obtain ⟨text, prints⟩ := exists_print reportWidth readable
  refine ⟨text, ?_⟩
  unfold say ofDisplay
  rw [prints]
  rfl

theorem exists_say_markup {text : String} (readable : Markup.Readable text.toList)
    (free : joiner ∉ text.toList) : ∃ shown, say [.markup text] = .ok shown := by
  apply exists_say
  rintro _ (_ | ⟨_, nothing⟩)
  · exact readable.exists_showable free
  · contradiction

theorem durationStyle_mem (duration : Number.Binary64) :
    durationStyle duration ∈ Markup.durationStyles := by
  unfold durationStyle
  split
  · decide
  · split <;> decide

/-- The characters of a line for a phase, the tags of its style around its duration. -/
theorem toList_phaseLine (indent : Nat) (style duration name notes : String) :
    (String.ofList (List.replicate indent ' ') ++ "[" ++ style ++ "]" ++ duration ++ "ms[/" ++
      style ++ "]  " ++ name ++ notes).toList =
      List.replicate indent ' ' ++ ((Markup.opening style).bare ++
        ((duration ++ "ms").toList ++ ((Markup.closing style).bare ++
          ("  " ++ name ++ notes).toList))) := by
  simp [Markup.Tag.bare, Markup.opening, Markup.closing, String.toList_append]

theorem notMem_durationText {c : Char} (blank : c ≠ ' ') (numeral : Number.isNumeral c = false)
    (duration : Number.Binary64) : c ∉ (alignRight 10 (duration.fixed 2) ++ "ms").toList := by
  intro member
  have unit : "ms".toList.all Number.isNumeral = true := by decide
  rw [String.toList_append, List.mem_append] at member
  rcases member with aligned | behind
  · unfold alignRight at aligned
    rw [String.toList_append, String.toList_ofList, List.mem_append] at aligned
    rcases aligned with filled | digits
    · exact blank (List.eq_of_mem_replicate filled)
    · rw [Number.isNumeral_of_mem_fixed digits] at numeral
      contradiction
  · rw [List.all_eq_true.1 unit c behind] at numeral
    contradiction

/-- The entries that stand for a phase. -/
def phaseEntries (name : String) (started : Int) (finished : Option Int) (notes : Entries)
    (children : List Phase) : Entries :=
  [("name", .str name), ("duration_ms", .float (Phase.mk name started finished [] []).duration)] ++
    (if notes.isEmpty then [] else [("annotations", .map notes)]) ++
    (if children.isEmpty then [] else [("children", .list (Phase.toValues children))])

theorem toValue_phase (name : String) (started : Int) (finished : Option Int) (notes : Entries)
    (children : List Phase) :
    (Phase.mk name started finished notes children).toValue =
      .map (phaseEntries name started finished notes children) := by
  rw [Phase.toValue]
  rfl

section Line

variable {name : String} {started : Int} {finished : Option Int} {notes : Entries}
  {children : List Phase}

theorem Unmarked.append {left right : String} (front : Unmarked left) (back : Unmarked right) :
    Unmarked (left ++ right) := by
  unfold Unmarked at *
  simp only [String.toList_append, List.mem_append, not_or]
  exact ⟨⟨front.1, back.1⟩, front.2, back.2⟩

theorem unmarked_intercalate {texts : List String} (each : ∀ text ∈ texts, Unmarked text) :
    Unmarked (", ".intercalate texts) := by
  have inside (c : Char) (member : c ∈ (", ".intercalate texts).toList) :
      c ∈ ", ".toList ∨ ∃ text ∈ texts, c ∈ text.toList := by
    rw [String.toList_intercalate] at member
    obtain ⟨part, among, own⟩ := List.mem_flatten.1 member
    rcases mem_of_mem_intersperse among with rfl | mapped
    · exact .inl own
    · obtain ⟨text, listed, rfl⟩ := List.mem_map.1 mapped
      exact .inr ⟨text, listed, own⟩
  constructor
  · intro member
    rcases inside '[' member with between | ⟨text, listed, own⟩
    · exact absurd between (by decide)
    · exact (each text listed).1 own
  · intro member
    rcases inside joiner member with between | ⟨text, listed, own⟩
    · exact absurd between (by decide)
    · exact (each text listed).2 own

/-- A note of a phase. -/
def noteText (note : String × Value) : String :=
  note.1 ++ "=" ++ note.2.display

theorem exists_notesText (noted : ∀ note ∈ notes, Unmarked note.1 ∧ Unmarked note.2.display) :
    ∃ text, notesText (phaseEntries name started finished notes children) = .ok text ∧
      Unmarked text := by
  cases notes with
  | nil =>
      refine ⟨"", ?_, by decide, by decide⟩
      cases children <;> simp [notesText, phaseEntries, valueOr, Entries.find?, Value.isTruthy]
  | cons note others =>
      have each : ∀ text ∈ (note :: others).map noteText, Unmarked text := by
        intro text among
        obtain ⟨own, listed, rfl⟩ := List.mem_map.1 among
        obtain ⟨keyUnmarked, valueUnmarked⟩ := noted own listed
        exact (keyUnmarked.append (by decide)).append valueUnmarked
      have opened : Unmarked "  (" := by decide
      exact ⟨_, rfl, (opened.append (unmarked_intercalate each)).append (by decide)⟩

theorem exists_phaseLine (indent : Nat) (named : Unmarked name)
    (noted : ∀ note ∈ notes, Unmarked note.1 ∧ Unmarked note.2.display) :
    ∃ text, phaseLine indent (phaseEntries name started finished notes children) = .ok text := by
  obtain ⟨text, shows, unmarked⟩ : ∃ text,
      notesText (phaseEntries name started finished notes children) = .ok text ∧ Unmarked text :=
    exists_notesText noted
  let duration := (Phase.mk name started finished [] []).duration
  have timed : valueOr (phaseEntries name started finished notes children) "duration_ms"
      (.float (.ofInt 0)) = .float duration := rfl
  have called : valueOr (phaseEntries name started finished notes children) "name" (.str "?") =
      .str name := rfl
  unfold phaseLine
  simp only [timed, called, numberOf, shows]
  have shown : Unmarked ("  " ++ name ++ text) :=
    ((by decide : Unmarked "  ").append named).append unmarked
  have indented {c : Char} (blank : c ≠ ' ') : c ∉ List.replicate indent ' ' := fun member =>
    blank (List.eq_of_mem_replicate member)
  apply exists_say_markup
  · rw [toList_phaseLine]
    apply Markup.readable_of_styled (durationStyle_mem duration)
    · simp only [List.mem_append, not_or]
      exact ⟨⟨indented (by decide), notMem_durationText (by decide) (by decide) duration⟩, shown.1⟩
    · simp only [List.mem_append, not_or]
      exact ⟨indented (by decide), notMem_durationText (by decide) (by decide) duration⟩
  · rw [toList_phaseLine]
    simp only [List.mem_append, not_or]
    have tagged : ∀ style ∈ Markup.durationStyles,
        joiner ∉ (Markup.opening style).bare ∧ joiner ∉ (Markup.closing style).bare := by
      decide
    obtain ⟨opens, closes⟩ := tagged _ (durationStyle_mem duration)
    exact ⟨indented (by decide), opens, notMem_durationText (by decide) (by decide) duration,
      closes, shown.2⟩

end Line

theorem exists_phaseList {phases : List Phase} {indent : Nat}
    (each : ∀ phase ∈ phases, ∃ text, phaseTree indent phase.toValue = .ok text) :
    ∃ text, phaseList indent (Phase.toValues phases) = .ok text := by
  induction phases with
  | nil =>
      rw [Phase.toValues, phaseList]
      exact ⟨"", rfl⟩
  | cons phase rest inductionHypothesis =>
      obtain ⟨first, shows⟩ := each phase List.mem_cons_self
      obtain ⟨others, behind⟩ := inductionHypothesis fun other member =>
        each other (List.mem_cons_of_mem phase member)
      rw [Phase.toValues, phaseList, shows, behind]
      exact ⟨_, rfl⟩

/-- The tree of a plain phase can be shown at any depth. -/
theorem exists_phaseTree {phase : Phase} (plain : phase.Plain) (indent : Nat) :
    ∃ text, phaseTree indent phase.toValue = .ok text := by
  induction plain generalizing indent with
  | @mk name started finished notes children named noted _ inductionHypothesis =>
      obtain ⟨line, shows⟩ : ∃ text,
          phaseLine indent (phaseEntries name started finished notes children) = .ok text :=
        exists_phaseLine indent named noted
      obtain ⟨below, others⟩ : ∃ text,
          childrenOf (indent + 4) (phaseEntries name started finished notes children) =
            .ok text := by
        have inside := exists_phaseList fun child member =>
          inductionHypothesis child member (indent + 4)
        unfold phaseEntries
        cases notes <;> cases children <;>
          simp only [List.isEmpty_nil, List.isEmpty_cons, if_true, Bool.false_eq_true, if_false,
            List.cons_append, List.nil_append, childrenOf, String.reduceEq, phaseForest] <;>
          first | exact ⟨"", rfl⟩ | exact inside
      rw [toValue_phase, phaseTree, shows, others]
      exact ⟨_, rfl⟩

/-- The remarks of a run whose timings are a plain phase can be shown. -/
theorem exists_remarkBlock {phase : Phase} (plain : phase.Plain) :
    ∃ text, remarkBlock (some [("telemetry", phase.toValue)]) = .ok text := by
  obtain ⟨tree, shows⟩ := exists_phaseTree plain 4
  obtain ⟨head, printed⟩ : ∃ text, say [.plain "  meta:" (some "dim")] = .ok text := by
    refine exists_say (List.forall_mem_singleton.2 (exists_read_plain (by decide) ?_))
    rintro _ ⟨⟩
    exact Markup.exists_read_of_known "dim" (by decide)
  unfold remarkBlock
  simp only [printed, remarkLines, if_true, shows]
  exact ⟨_, rfl⟩

end Report

end Bindery
