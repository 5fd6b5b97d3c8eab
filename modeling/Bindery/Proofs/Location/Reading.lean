import Bindery.Excerpt
import Bindery.Proofs.Text.Mark
import Bindery.Proofs.World.Effect

/-!
Contract: which texts are read as locations, and which locations can be written and read back.

Owns:
- texts without blanks at their ends, which are the ones that trimming leaves alone;
- `Located`, the form of a text that is a location, said by its first colon, and `atFirstColon`, the
  location that such a text is;
- `Writable`, the locations that are read back from what is written of them;
- that reading accepts exactly the located texts and refuses each other one by its own payload.

Does **not** own: what the repository has at a location (`Bindery.Excerpt`).

## Where the two directions meet

Whatever is read is written as the text it was read from, blanks at the ends apart. So a text with a
colon has one meaning, and a location is read back as soon as trimming leaves its written form alone.
-/

namespace Bindery

/-! ## Texts without blanks at their ends -/

namespace Text

variable {text : List Char}

theorem trimStart_eq_self_iff :
    trimStart text = text ↔ ∀ c, text.head? = some c → isBlank c = false := by
  cases text with
  | nil => simp [trimStart]
  | cons first rest =>
      constructor
      · intro trimmed c begins
        obtain rfl := Option.some.inj begins
        exact isBlank_eq_false_of_trimStart trimmed
      · intro begins
        exact trimStart_eq_self (begins first rfl)

theorem trimEnd_eq_self_iff :
    trimEnd text = text ↔ ∀ c, text.getLast? = some c → isBlank c = false := by
  have turned : trimEnd text = text ↔ trimStart text.reverse = text.reverse := by
    rw [← List.reverse_inj, trimEnd, List.reverse_reverse]
    rfl
  rw [turned, trimStart_eq_self_iff, List.head?_reverse]

/-- Trimming leaves a text alone if neither of its ends is blank. -/
theorem trim_eq_self_iff :
    trim text = text ↔ (∀ c, text.head? = some c → isBlank c = false) ∧
      ∀ c, text.getLast? = some c → isBlank c = false := by
  rw [← trimStart_eq_self_iff, ← trimEnd_eq_self_iff]
  constructor
  · intro trimmed
    rw [← trimmed]
    exact ⟨trimStart_trim text, trimEnd_trimEnd (trimStart text)⟩
  · rintro ⟨start, finish⟩
    unfold trim
    rw [start, finish]

end Text

namespace Location

open Bindery.Text

variable {text before after : List Char} {payload : String} {location : Location}

/-! ## The first colon -/

/-- The form of a text that is a location: it has a colon, something stands before the first one, and
what stands behind it is on one line. -/
structure Located (text : List Char) : Prop where
  colon : ':' ∈ text
  named : text.head? ≠ some ':'
  oneLine : '\n' ∉ text.dropWhile (· != ':')

instance (text : List Char) : Decidable (Located text) :=
  decidable_of_iff (':' ∈ text ∧ text.head? ≠ some ':' ∧ '\n' ∉ text.dropWhile (· != ':'))
    ⟨fun ⟨colon, named, oneLine⟩ => ⟨colon, named, oneLine⟩,
      fun located => ⟨located.colon, located.named, located.oneLine⟩⟩

/-- The branch up to the first colon, and the path behind it. -/
def atFirstColon (text : List Char) : Location where
  branch := String.ofList (text.takeWhile (· != ':'))
  path := String.ofList (text.dropWhile (· != ':')).tail

theorem dropWhile_append_colon (clean : ':' ∉ before) (after : List Char) :
    (before ++ ':' :: after).dropWhile (· != ':') = ':' :: after := by
  rw [dropWhile_append_of_notMem clean, List.dropWhile_cons_of_neg (by simp)]

theorem located_append_iff (clean : ':' ∉ before) :
    Located (before ++ ':' :: after) ↔ before ≠ [] ∧ '\n' ∉ after := by
  have oneLine : '\n' ∉ ':' :: after ↔ '\n' ∉ after := by simp
  constructor
  · intro located
    refine ⟨?_, oneLine.1 (dropWhile_append_colon clean after ▸ located.oneLine)⟩
    rintro rfl
    exact located.named rfl
  · rintro ⟨nonempty, single⟩
    refine ⟨by simp, ?_, (dropWhile_append_colon clean after).symm ▸ oneLine.2 single⟩
    obtain ⟨first, rest, rfl⟩ := List.exists_cons_of_ne_nil nonempty
    intro begins
    obtain rfl := Option.some.inj begins
    exact clean List.mem_cons_self

theorem atFirstColon_append (clean : ':' ∉ before) :
    atFirstColon (before ++ ':' :: after) = ⟨String.ofList before, String.ofList after⟩ := by
  unfold atFirstColon
  rw [takeWhile_append_mark clean, dropWhile_append_colon clean, List.tail_cons]

/-- A located text is cut at its first colon. -/
theorem exists_of_located (located : Located text) :
    ∃ before after, text = before ++ ':' :: after ∧ ':' ∉ before ∧ before ≠ [] ∧ '\n' ∉ after := by
  cases cut : cutAtColon text with
  | none => exact absurd located.colon (cutAtColon_eq_none_iff.1 cut)
  | some parts =>
      obtain ⟨before, after⟩ := parts
      obtain ⟨rfl, clean⟩ := eq_append_of_cutAtColon cut
      obtain ⟨nonempty, oneLine⟩ := (located_append_iff clean).1 located
      exact ⟨before, after, rfl, clean, nonempty, oneLine⟩

/-! ## Reading -/

/-- Exactly the located texts are read, each as the location at its first colon. -/
theorem ofTrimmed?_eq (text : List Char) :
    ofTrimmed? text = if Located text then some (atFirstColon text) else none := by
  unfold ofTrimmed?
  cases cut : cutAtColon text with
  | none =>
      have absent := cutAtColon_eq_none_iff.1 cut
      rw [if_neg fun located => absent located.colon]
  | some parts =>
      obtain ⟨before, after⟩ := parts
      obtain ⟨rfl, clean⟩ := eq_append_of_cutAtColon cut
      simp only [located_append_iff clean, atFirstColon_append clean]
      cases before with
      | nil => simp
      | cons first rest =>
          by_cases broken : '\n' ∈ after
          · simp [broken]
          · simp [broken]

theorem parse?_eq (payload : String) :
    parse? payload =
      if Located (trim payload.toList) then some (atFirstColon (trim payload.toList)) else none :=
  ofTrimmed?_eq (trim payload.toList)

/-- A located text is what is written of its location. -/
theorem render_atFirstColon (located : Located text) :
    (atFirstColon text).render = String.ofList text := by
  obtain ⟨before, after, rfl, clean, _, _⟩ := exists_of_located located
  rw [atFirstColon_append clean]
  unfold render
  rw [← String.toList_inj]
  simp

/-- What was read is written without the blanks around it. -/
theorem render_of_parse? (read : parse? payload = some location) :
    location.render = strip payload := by
  rw [parse?_eq] at read
  split at read
  · rename_i located
    obtain rfl := Option.some.inj read
    exact render_atFirstColon located
  · contradiction

/-! ## Locations that are read back -/

/-- A location that can be written and read back: its branch has a name without a colon, its path is
on one line, and neither end of the whole is blank. -/
structure Writable (location : Location) : Prop where
  named : location.branch ≠ ""
  colonFree : ':' ∉ location.branch.toList
  start : ∀ c, location.branch.toList.head? = some c → isBlank c = false
  oneLine : '\n' ∉ location.path.toList
  finish : ∀ c, location.path.toList.getLast? = some c → isBlank c = false

theorem toList_render (location : Location) :
    location.render.toList = location.branch.toList ++ ':' :: location.path.toList := by
  unfold render
  simp

theorem toList_branch_ne_nil (named : location.branch ≠ "") : location.branch.toList ≠ [] := by
  simpa using named

/-- The ends of a written location are the start of its branch, and the end of its path or the
colon. -/
theorem trim_render_iff (named : location.branch ≠ "") :
    trim location.render.toList = location.render.toList ↔
      (∀ c, location.branch.toList.head? = some c → isBlank c = false) ∧
        ∀ c, location.path.toList.getLast? = some c → isBlank c = false := by
  obtain ⟨first, rest, branch⟩ := List.exists_cons_of_ne_nil (toList_branch_ne_nil named)
  have solid : isBlank ':' = false := by decide
  rw [trim_eq_self_iff, toList_render, branch, List.cons_append, List.head?_cons, List.head?_cons]
  refine and_congr_right fun _ => ?_
  rw [← List.cons_append, List.getLast?_append, List.getLast?_cons]
  cases location.path.toList.getLast? with
  | none => simp [solid]
  | some last => simp

/-- Exactly the writable locations are read back from what is written of them. -/
theorem parse?_render_iff : parse? location.render = some location ↔ location.Writable := by
  constructor
  · intro read
    have trimmed : trim location.render.toList = location.render.toList := by
      rw [← String.toList_ofList (l := trim _)]
      exact congrArg String.toList (render_of_parse? read).symm
    rw [parse?_eq, trimmed] at read
    split at read
    · rename_i located
      obtain ⟨before, after, shape, clean, nonempty, oneLine⟩ := exists_of_located located
      rw [shape, atFirstColon_append clean] at read
      obtain rfl := Option.some.inj read
      have named : String.ofList before ≠ "" := by simpa using nonempty
      obtain ⟨start, finish⟩ := (trim_render_iff named).1 trimmed
      exact ⟨named, by simpa using clean, start, by simpa using oneLine, finish⟩
    · contradiction
  · intro writable
    have trimmed := (trim_render_iff writable.named).2 ⟨writable.start, writable.finish⟩
    have located : Located location.render.toList := by
      rw [toList_render, located_append_iff writable.colonFree]
      exact ⟨toList_branch_ne_nil writable.named, writable.oneLine⟩
    rw [parse?_eq, trimmed, if_pos located, toList_render, atFirstColon_append writable.colonFree,
      String.ofList_toList, String.ofList_toList]

/-- Whatever is read is writable. -/
theorem writable_of_parse? (read : parse? payload = some location) : location.Writable := by
  apply parse?_render_iff.1
  rw [render_of_parse? read, parse?_strip]
  exact read

/-! ## The theorem -/

theorem exec_readLocation (payload : String) (world : World) :
    (Excerpt.readLocation payload).exec world =
      (match parse? payload with
        | some location => .ok location
        | none => .error (.build (.invalidLocation payload)), world) := by
  unfold Excerpt.readLocation
  cases parse? payload with
  | some location => rfl
  | none => rfl

/-- A payload is read exactly if its trimmed text has a colon with something before the first one
and one line behind it, and then as the location at this colon; any other payload is refused by its
own text. What is read is written as the trimmed text, which is read as the same location again. And
a location is read back from what is written of it exactly if it is writable. -/
theorem readLocation_by_first_colon (payload : String) :
    (∀ world, (Excerpt.readLocation payload).exec world =
      (if Located (strip payload).toList then .ok (atFirstColon (strip payload).toList)
        else .error (.build (.invalidLocation payload)), world)) ∧
    (∀ location, parse? payload = some location →
      location.render = strip payload ∧ parse? (strip payload) = some location) ∧
    ∀ location, parse? location.render = some location ↔ location.Writable := by
  refine ⟨?_, fun location read => ⟨render_of_parse? read, ?_⟩, fun location => parse?_render_iff⟩
  · intro world
    rw [exec_readLocation, parse?_eq, strip, String.toList_ofList]
    by_cases located : Located (trim payload.toList)
    · rw [if_pos located, if_pos located]
    · rw [if_neg located, if_neg located]
  · rw [parse?_strip, read]

/-- A payload with blanks around it, a branch on two lines and a second colon. -/
theorem readLocation_by_first_colon_several :
    ∃ location, parse? " a\nb:c:d \n" = some location ∧ location = ⟨"a\nb", "c:d"⟩ ∧
      location.render = "a\nb:c:d" ∧ parse? "a\nb:c:d" = some location := by
  have read : parse? " a\nb:c:d \n" = some ⟨"a\nb", "c:d"⟩ := by decide +kernel
  have stripped : strip " a\nb:c:d \n" = "a\nb:c:d" := by decide +kernel
  obtain ⟨_, reads, _⟩ := readLocation_by_first_colon " a\nb:c:d \n"
  obtain ⟨written, again⟩ := reads _ read
  rw [stripped] at written again
  exact ⟨_, read, rfl, written, again⟩

/-- A second line behind the first colon is refused, whatever stands in it. -/
example : parse? "a:b\nc:d" = none := by decide +kernel

end Location

end Bindery
