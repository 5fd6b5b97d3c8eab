import Bindery.Display.Page
import Bindery.Proofs.Display.Cutting

/-!
Contract: a text without a joiner, all of whose styles can be read, can be set in lines of any
width and printed.

Owns:
- steps of which none fails, taken for each of many values;
- `StyledText.Showable`, which every step of setting a text keeps;
- that a showable text is set in lines without a joiner, and that such lines are shaped, cropped
  and shown.

Does **not** own: what the lines are (`Bindery.Proofs.Display.Straight`).
-/

namespace Bindery.Display

/-! ## Steps of which none fails -/

section Steps

variable {ε α β : Type} {step : α → Except ε β} {values : List α}

theorem exists_mapM {holds : β → Prop}
    (each : ∀ value ∈ values, ∃ result, step value = .ok result ∧ holds result) :
    ∃ results, values.mapM step = .ok results ∧ ∀ result ∈ results, holds result := by
  induction values with
  | nil => exact ⟨[], rfl, nofun⟩
  | cons value rest inductionHypothesis =>
      obtain ⟨result, stepped, here⟩ := each value List.mem_cons_self
      obtain ⟨results, others, behind⟩ := inductionHypothesis fun other member =>
        each other (List.mem_cons_of_mem value member)
      refine ⟨result :: results, ?_, List.forall_mem_cons.2 ⟨here, behind⟩⟩
      rw [List.mapM_cons, stepped, others]
      rfl

theorem mapM_eq_map {result : α → β} (each : ∀ value ∈ values, step value = .ok (result value)) :
    values.mapM step = .ok (values.map result) := by
  induction values with
  | nil => rfl
  | cons value rest inductionHypothesis =>
      have others := inductionHypothesis fun other member =>
        each other (List.mem_cons_of_mem value member)
      rw [List.mapM_cons, each value List.mem_cons_self, others]
      rfl

theorem exists_of_bind {answer : Except ε α} {next : α → Except ε β} {result : β}
    (taken : answer >>= next = .ok result) :
    ∃ value, answer = .ok value ∧ next value = .ok result := by
  cases answer with
  | error fault => contradiction
  | ok value => exact ⟨value, rfl, taken⟩

theorem exists_of_mapM {results : List β} (taken : values.mapM step = .ok results) :
    ∀ value ∈ values, ∃ result, step value = .ok result := by
  induction values generalizing results with
  | nil => exact nofun
  | cons value rest inductionHypothesis =>
      rw [List.mapM_cons] at taken
      obtain ⟨result, first, behind⟩ := exists_of_bind taken
      obtain ⟨_, others, _⟩ := exists_of_bind behind
      exact List.forall_mem_cons.2 ⟨⟨result, first⟩, inductionHypothesis others⟩

theorem forM_eq_ok_iff {check : α → Except ε Unit} :
    values.forM check = .ok () ↔ ∀ value ∈ values, check value = .ok () := by
  induction values with
  | nil => exact ⟨fun _ => nofun, fun _ => rfl⟩
  | cons value rest inductionHypothesis =>
      rw [List.forall_mem_cons, ← inductionHypothesis]
      show (check value >>= fun _ => rest.forM check) = .ok () ↔ _
      cases check value with
      | error fault => exact ⟨nofun, fun both => nomatch both.1⟩
      | ok _ => exact ⟨fun behind => ⟨rfl, behind⟩, And.right⟩

theorem mem_of_mem_intersperse {separator value : α}
    (member : value ∈ values.intersperse separator) : value = separator ∨ value ∈ values := by
  induction values with
  | nil => exact .inr member
  | cons first rest inductionHypothesis =>
      cases rest with
      | nil => exact .inr member
      | cons second others =>
          rcases List.mem_cons.1 member with rfl | behind
          · exact .inr List.mem_cons_self
          · rcases List.mem_cons.1 behind with same | later
            · exact .inl same
            · exact (inductionHypothesis later).imp_right (List.mem_cons_of_mem first)

end Steps

/-! ## Showable texts -/

/-- A span whose style can be read, if it has one by name. -/
def Span.Readable (span : Span) : Prop :=
  ∀ name, span.style = some name → ∃ style, StyleName.read name.toList = .ok style

namespace StyledText

/-- A text that can be cut anywhere and whose styles can be read. -/
structure Showable (styled : StyledText) : Prop where
  free : joiner ∉ styled.text
  styles : ∀ span ∈ styled.spans, span.Readable

theorem checkStyles_eq_ok_iff {styled : StyledText} :
    styled.checkStyles = .ok () ↔ ∀ span ∈ styled.spans, span.Readable := by
  unfold checkStyles
  rw [forM_eq_ok_iff]
  refine forall₂_congr fun span _ => ?_
  unfold Span.Readable
  cases span.style with
  | none => simp
  | some name => cases read : StyleName.read name.toList <;> simp [read, Except.map]

theorem showable_plain {text : List Char} (free : joiner ∉ text) : (plain text).Showable :=
  ⟨free, nofun⟩

variable {styled : StyledText}

theorem Showable.replaced (showable : styled.Showable) {text : List Char} {spans : List Span}
    (free : joiner ∉ text)
    (kept : ∀ span ∈ spans, ∃ own ∈ styled.spans, own.style = span.style) :
    Showable ⟨text, spans⟩ where
  free := free
  styles span among := by
    obtain ⟨own, inside, same⟩ := kept span among
    intro name named
    exact showable.styles own inside name (same.trans named)

theorem style_of_filterMap {change : Span → Option Span}
    (keeps : ∀ span changed, change span = some changed → changed.style = span.style) :
    ∀ span ∈ styled.spans.filterMap change, ∃ own ∈ styled.spans, own.style = span.style := by
  intro span among
  obtain ⟨own, inside, changed⟩ := List.mem_filterMap.1 among
  exact ⟨own, inside, (keeps own span changed).symm⟩

theorem style_between {start stop : Nat} {span part : Span}
    (cut : Span.between start stop span = some part) : part.style = span.style := by
  unfold Span.between at cut
  simp only [Option.ite_none_right_eq_some, Option.some.injEq] at cut
  rw [← cut.2]

theorem style_clip {length : Nat} {span part : Span} (cut : Span.clip length span = some part) :
    part.style = span.style := by
  unfold Span.clip at cut
  simp only [Option.ite_none_right_eq_some, Option.some.injEq] at cut
  rw [← cut.2]

theorem Showable.divide (showable : styled.Showable) (positions : List Nat) :
    ∀ part ∈ styled.divide positions, part.Showable := by
  unfold StyledText.divide
  split
  · exact List.forall_mem_singleton.2 showable
  · intro part among
    obtain ⟨⟨start, stop⟩, _, rfl⟩ := List.mem_map.1 among
    refine showable.replaced (fun member => ?_) (style_of_filterMap fun _ _ => style_between)
    exact showable.free (List.mem_of_mem_drop (List.mem_of_mem_take member))

theorem Showable.keep (showable : styled.Showable) (length : Nat) : (styled.keep length).Showable :=
  showable.replaced (fun member => showable.free (List.mem_of_mem_take member))
    (style_of_filterMap fun _ _ => style_clip)

theorem Showable.replace (showable : styled.Showable) {text : List Char} (free : joiner ∉ text) :
    (styled.replace text).Showable := by
  unfold StyledText.replace
  split
  · exact showable.replaced free (style_of_filterMap fun _ _ => style_clip)
  · exact ⟨free, showable.styles⟩

theorem joiner_notMem_append_blanks {text : List Char} (free : joiner ∉ text) (count : Nat) :
    joiner ∉ text ++ blanks count := by
  intro member
  rcases List.mem_append.1 member with own | filled
  · exact free own
  · exact absurd (List.eq_of_mem_replicate filled) (by decide)

theorem Showable.extend (showable : styled.Showable) (count : Nat) :
    (styled.extend count).Showable := by
  refine showable.replaced (joiner_notMem_append_blanks showable.free count) fun span among => ?_
  obtain ⟨own, inside, rfl⟩ := List.mem_map.1 among
  refine ⟨own, inside, ?_⟩
  split <;> rfl

theorem showable_joinFrom {texts : List StyledText} (length : Nat)
    (each : ∀ text ∈ texts, text.Showable) : (joinFrom length texts).Showable := by
  induction texts generalizing length with
  | nil => exact ⟨nofun, nofun⟩
  | cons first rest inductionHypothesis =>
      have here := each first List.mem_cons_self
      have behind := inductionHypothesis (length + first.text.length) fun text member =>
        each text (List.mem_cons_of_mem first member)
      constructor
      · intro member
        rcases List.mem_append.1 member with own | later
        · exact here.free own
        · exact behind.free later
      · intro span among
        rcases List.mem_append.1 among with own | later
        · obtain ⟨whole, inside, rfl⟩ := List.mem_map.1 own
          exact here.styles whole inside
        · exact behind.styles span later

theorem showable_join {texts : List StyledText} (each : ∀ text ∈ texts, text.Showable) :
    (join texts).Showable :=
  showable_joinFrom 0 each

end StyledText

/-! ## Setting -/

open StyledText

theorem showable_expandParts {parts : List StyledText} (column : Nat)
    (each : ∀ part ∈ parts, part.Showable) :
    ∀ part ∈ expandParts column parts, part.Showable := by
  induction parts generalizing column with
  | nil => exact nofun
  | cons part rest inductionHypothesis =>
      have here := each part List.mem_cons_self
      have others : ∀ other ∈ rest, other.Showable := fun other member =>
        each other (List.mem_cons_of_mem part member)
      have blanked : joiner ∉ part.text.dropLast ++ [' '] := by
        intro member
        rcases List.mem_append.1 member with own | blank
        · exact here.free ((List.dropLast_sublist part.text).subset own)
        · exact absurd (List.mem_singleton.1 blank) (by decide)
      rw [expandParts]
      split
      · have filled : Showable { part with text := part.text.dropLast ++ [' '] } :=
          ⟨blanked, here.styles⟩
        exact List.forall_mem_cons.2 ⟨filled.extend _, inductionHypothesis _ others⟩
      · exact List.forall_mem_cons.2 ⟨here, inductionHypothesis _ others⟩

variable {styled : StyledText}

theorem showable_expandTabs (showable : styled.Showable) : (expandTabs styled).Showable := by
  unfold expandTabs
  split
  · exact showable_join (showable_expandParts 0 (showable.divide _))
  · exact showable

theorem showable_dropEndBeyond (showable : styled.Showable) (size : Nat) :
    (dropEndBeyond size styled).Showable := by
  unfold dropEndBeyond
  simp only []
  split
  · exact showable
  · exact showable.keep _

theorem exists_truncate (showable : styled.Showable) (setting : Setting) (width : Nat) :
    ∃ line, truncate setting width styled = .ok line ∧ line.Showable := by
  unfold truncate
  simp only []
  split
  · cases setting.overflow with
    | fold =>
        obtain ⟨fitted, fits, free⟩ := exists_fitTo width showable.free
        exact ⟨styled.replace fitted, by simp only [fits, Except.map], showable.replace free⟩
    | ellipsis =>
        obtain ⟨fitted, fits, free⟩ := exists_fitTo (width - 1) showable.free
        have dotted : joiner ∉ fitted ++ ['…'] := by
          intro member
          rcases List.mem_append.1 member with own | dots
          · exact free own
          · exact absurd (List.mem_singleton.1 dots) (by decide)
        exact ⟨styled.replace (fitted ++ ['…']), by simp only [fits, Except.map],
          showable.replace dotted⟩
  · split
    · exact ⟨_, rfl, joiner_notMem_append_blanks showable.free _, showable.styles⟩
    · exact ⟨styled, rfl, showable⟩

theorem exists_layOutLine (showable : styled.Showable) (setting : Setting) (width : Nat) :
    ∃ lines, layOutLine setting width styled = .ok lines ∧ ∀ line ∈ lines, line.Showable := by
  have expanded := showable_expandTabs showable
  refine exists_mapM fun piece among => ?_
  have shown : piece.Showable := by
    split at among
    · exact expanded.divide _ piece among
    · rw [List.mem_singleton.1 among]
      exact expanded
  exact exists_truncate (showable_dropEndBeyond shown width) setting width

/-- A line without a joiner. -/
def Free (line : List Segment) : Prop :=
  ∀ segment ∈ line, joiner ∉ segment

/-- A showable text can be set in lines. -/
theorem exists_layOut (showable : styled.Showable) (setting : Setting) (width : Nat) :
    ∃ lines, layOut setting width styled = .ok lines ∧ ∀ line ∈ lines, Free line := by
  have divided : ∀ line ∈ linesOf styled, line.Showable := fun line among =>
    showable.divide _ line (List.mem_filter.1 among).1
  obtain ⟨parts, laid, each⟩ := exists_mapM fun line among =>
    exists_layOutLine (divided line among) setting width
  have shown : ∀ line ∈ parts.flatten, line.Showable := by
    intro line among
    obtain ⟨lines, inside, member⟩ := List.mem_flatten.1 among
    exact each lines inside line member
  have checked : parts.flatten.forM checkStyles = .ok () :=
    forM_eq_ok_iff.2 fun line among => checkStyles_eq_ok_iff.2 (shown line among).styles
  refine ⟨parts.flatten.map segments, ?_, ?_⟩
  · unfold layOut
    rw [laid]
    show (parts.flatten.forM checkStyles >>= fun _ => pure (parts.flatten.map segments)) = _
    rw [checked]
    rfl
  · intro line among segment inside member
    obtain ⟨text, origin, rfl⟩ := List.mem_map.1 among
    apply (shown text origin).free
    rw [← flatten_segments text]
    exact List.mem_flatten_of_mem inside member

/-! ## Shaping and showing -/

theorem exists_cropFrom {width : Nat} {line : List Segment} (used : Nat) (free : Free line) :
    ∃ cropped, cropFrom width used line = .ok cropped ∧ Free cropped := by
  induction line generalizing used with
  | nil => exact ⟨[], rfl, nofun⟩
  | cons segment rest inductionHypothesis =>
      have here := free segment List.mem_cons_self
      rw [cropFrom]
      split
      · obtain ⟨cropped, crops, others⟩ := inductionHypothesis (used + cellCount segment)
          fun other member => free other (List.mem_cons_of_mem segment member)
        refine ⟨segment :: cropped, by simp only [crops, Except.map], ?_⟩
        exact List.forall_mem_cons.2 ⟨here, others⟩
      · obtain ⟨fitted, fits, clean⟩ := exists_fitTo (width - used) here
        exact ⟨[fitted], by simp only [fits, Except.map], List.forall_mem_singleton.2 clean⟩

theorem exists_cropTo {line : List Segment} (width : Nat) (free : Free line) :
    ∃ cropped, cropTo width line = .ok cropped ∧ Free cropped := by
  unfold cropTo
  split
  · exact exists_cropFrom 0 free
  · exact ⟨line, rfl, free⟩

theorem free_blanks (count : Nat) : Free [blanks count] :=
  List.forall_mem_singleton.2 (joiner_notMem_append_blanks List.not_mem_nil count)

theorem Free.append {left right : List Segment} (front : Free left) (back : Free right) :
    Free (left ++ right) :=
  fun segment among => (List.mem_append.1 among).elim (front segment) (back segment)

theorem exists_shapeTo {line : List Segment} (width : Nat) (free : Free line) :
    ∃ shaped, shapeTo width line = .ok shaped ∧ Free shaped := by
  unfold shapeTo
  simp only []
  split
  · exact ⟨_, rfl, free.append (free_blanks _)⟩
  · exact exists_cropTo width free

theorem exists_showLines {lines : List (List Segment)} (width : Nat)
    (free : ∀ line ∈ lines, Free line) : ∃ text, showLines width lines = .ok text := by
  obtain ⟨cropped, crops, _⟩ := exists_mapM fun line among => exists_cropTo width (free line among)
  unfold showLines
  rw [crops]
  exact ⟨_, rfl⟩

/-- A plain part is showable if its style can be read. -/
theorem exists_read_plain {text : String} {style : Option String} (free : joiner ∉ text.toList)
    (known : ∀ name, style = some name → ∃ meant, StyleName.read name.toList = .ok meant) :
    ∃ shown, (Part.plain text style).read = .ok shown ∧ shown.Showable := by
  refine ⟨_, rfl, fun member => free (List.mem_of_mem_filter member), fun span among => ?_⟩
  cases style with
  | none => exact absurd among List.not_mem_nil
  | some name =>
      intro own named
      rw [List.mem_singleton.1 among] at named
      obtain rfl := Option.some.inj named
      exact known name rfl

/-- Parts that can be read as showable texts can be printed on a page of any width. -/
theorem exists_print {parts : List Part} (width : Int)
    (readable : ∀ part ∈ parts, ∃ text, part.read = .ok text ∧ text.Showable) :
    ∃ text, print width parts = .ok text := by
  obtain ⟨texts, reads, each⟩ := exists_mapM readable
  have blank : (StyledText.plain [' ']).Showable := showable_plain (by decide)
  have joined : (StyledText.joinWith (.plain [' ']) texts).Showable := by
    refine showable_join fun text among => ?_
    rcases mem_of_mem_intersperse among with rfl | own
    · exact blank
    · exact each text own
  unfold print joinParts
  rw [reads]
  show ∃ text, printLine width (StyledText.joinWith (.plain [' ']) texts) = .ok text
  unfold printLine
  split
  · exact ⟨"", rfl⟩
  · obtain ⟨lines, laid, free⟩ := exists_layOut joined .running width.toNat
    rw [laid]
    exact exists_showLines width.toNat free

end Bindery.Display
