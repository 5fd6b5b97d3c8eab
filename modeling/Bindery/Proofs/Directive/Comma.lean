import Bindery.Proofs.Directive.Form

/-!
Contract: the two arguments in the payload of a section directive.

Owns:
- `LastComma`, a payload that is cut at the last of its commas that have text on both sides;
- that payloads are cut there and nowhere else, and are refused if they have no such comma;
- the directives for sections that this makes.

Does **not** own: where in a text a payload is looked for (`Bindery.Proofs.Directive.Form`).

A comma at the front of a payload, or at its end, has no text on one side. So the location and the
name may hold commas themselves, the name only as its last character.
-/

namespace Bindery.Directive

open Bindery.Text

variable {payload location name rest : List Char} {c : Char}

/-- Some comma of the payload has text on both sides. -/
def HasComma (payload : List Char) : Prop :=
  ∃ location name, payload = location ++ ',' :: name ∧ location ≠ [] ∧ name ≠ []

theorem HasComma.of_suffix (has : HasComma rest) (behind : rest <:+ payload) :
    HasComma payload := by
  obtain ⟨front, rfl⟩ := behind
  obtain ⟨location, name, rfl, located, named⟩ := has
  exact ⟨front ++ location, name, (List.append_assoc _ _ _).symm,
    List.append_ne_nil_of_right_ne_nil front located, named⟩

/-- The payload is cut into a location and a name by the last comma that has text on both sides. -/
structure LastComma (payload location name : List Char) : Prop where
  cut : payload = location ++ ',' :: name
  located : location ≠ []
  named : name ≠ []
  last : ∀ location' name', payload = location' ++ ',' :: name' → location' ≠ [] → name' ≠ [] →
    location' <+: location

theorem LastComma.unique {location' name' : List Char} (cuts : LastComma payload location name)
    (cuts' : LastComma payload location' name') : location = location' ∧ name = name' := by
  have locations : location = location' :=
    (cuts'.last location name cuts.cut cuts.located cuts.named).eq_of_length_le
      (cuts.last location' name' cuts'.cut cuts'.located cuts'.named).length_le
  subst locations
  have same := List.append_cancel_left (cuts.cut.symm.trans cuts'.cut)
  exact ⟨rfl, (List.cons.inj same).2⟩

/-- A comma with text on both sides is also one of a payload that begins with a further
character. -/
theorem LastComma.cons (c : Char) (cuts : LastComma rest location name) :
    LastComma (c :: rest) (c :: location) name where
  cut := congrArg (c :: ·) cuts.cut
  located := List.cons_ne_nil c location
  named := cuts.named
  last := by
    intro location' name' shape located' named'
    obtain ⟨first, others, rfl⟩ := List.exists_cons_of_ne_nil located'
    obtain ⟨rfl, behind⟩ := List.cons.inj shape
    apply List.cons_prefix_cons.2
    refine ⟨rfl, ?_⟩
    cases others with
    | nil => exact List.nil_prefix
    | cons second more => exact cuts.last _ name' behind (List.cons_ne_nil second more) named'

/-- A payload without such a comma behind its first character has one there at most. -/
theorem cuts_cons_iff (without : ¬ HasComma rest) :
    c :: rest = location ++ ',' :: name ∧ location ≠ [] ∧ name ≠ [] ↔
      location = [c] ∧ rest = ',' :: name ∧ name ≠ [] := by
  constructor
  · rintro ⟨shape, located, named⟩
    obtain ⟨first, others, rfl⟩ := List.exists_cons_of_ne_nil located
    obtain ⟨rfl, behind⟩ := List.cons.inj shape
    cases others with
    | nil => exact ⟨rfl, behind, named⟩
    | cons second more =>
        exact absurd ⟨second :: more, name, behind, List.cons_ne_nil second more, named⟩ without
  · rintro ⟨rfl, rfl, named⟩
    exact ⟨rfl, List.cons_ne_nil c [], named⟩

/-! ## Where a payload is cut -/

theorem cutAtLastComma_cons_of_some (found : cutAtLastComma rest = some (location, name)) :
    cutAtLastComma (c :: rest) = some (c :: location, name) := by
  unfold cutAtLastComma
  rw [found]

theorem cutAtLastComma_cons_comma (missing : cutAtLastComma (',' :: name) = none)
    (named : name ≠ []) : cutAtLastComma (c :: ',' :: name) = some ([c], name) := by
  unfold cutAtLastComma
  rw [missing]
  simp [named]

theorem cutAtLastComma_cons_of_none (missing : cutAtLastComma rest = none)
    (bare : ∀ name, rest = ',' :: name → name = []) : cutAtLastComma (c :: rest) = none := by
  unfold cutAtLastComma
  rw [missing]
  cases rest with
  | nil => rfl
  | cons next after =>
      show (if next = ',' && !after.isEmpty then some ([c], after) else none) = none
      by_cases comma : next = ','
      · subst comma
        simp [bare after rfl]
      · simp [comma]

/-- A payload is cut at the last comma that has text on both sides, if it has one. The induction
goes from the end of the payload to its front, so that the last comma is the first one that is
met. -/
theorem cutAtLastComma_cases (payload : List Char) :
    (∃ location name, cutAtLastComma payload = some (location, name) ∧
      LastComma payload location name) ∨
    (cutAtLastComma payload = none ∧ ¬ HasComma payload) := by
  induction payload with
  | nil =>
      right
      refine ⟨rfl, ?_⟩
      rintro ⟨location, name, shape, _⟩
      exact List.append_ne_nil_of_right_ne_nil location (List.cons_ne_nil ',' name) shape.symm
  | cons c rest inductionHypothesis =>
      rcases inductionHypothesis with ⟨location, name, found, cuts⟩ | ⟨missing, without⟩
      · left
        exact ⟨c :: location, name, cutAtLastComma_cons_of_some found, cuts.cons c⟩
      · by_cases comma : ∃ name, rest = ',' :: name ∧ name ≠ []
        · left
          obtain ⟨name, rfl, named⟩ := comma
          refine ⟨[c], name, cutAtLastComma_cons_comma missing named, rfl, List.cons_ne_nil c [],
            named, ?_⟩
          intro location' name' shape located' named'
          obtain ⟨rfl, _⟩ := (cuts_cons_iff without).1 ⟨shape, located', named'⟩
          exact List.prefix_rfl
        · right
          constructor
          · apply cutAtLastComma_cons_of_none missing
            intro name shape
            apply Classical.byContradiction
            exact fun named => comma ⟨name, shape, named⟩
          · rintro ⟨location, name, cuts⟩
            obtain ⟨_, shape, named⟩ := (cuts_cons_iff without).1 cuts
            exact comma ⟨name, shape, named⟩

theorem cutAtLastComma_eq_some_iff :
    cutAtLastComma payload = some (location, name) ↔ LastComma payload location name := by
  rcases cutAtLastComma_cases payload with ⟨location', name', found, cuts⟩ | ⟨missing, without⟩
  · rw [found]
    constructor
    · intro same
      obtain ⟨rfl, rfl⟩ := Prod.mk.inj (Option.some.inj same)
      exact cuts
    · intro cuts'
      obtain ⟨rfl, rfl⟩ := cuts.unique cuts'
      rfl
  · rw [missing]
    constructor
    · intro impossible
      contradiction
    · intro cuts
      exact absurd ⟨location, name, cuts.cut, cuts.located, cuts.named⟩ without

/-- The last comma but the one at the end. -/
example : cutAtLastComma ",a,b,".toList = some (",a".toList, "b,".toList) := by decide +kernel

theorem HasComma.exists_last (has : HasComma payload) :
    ∃ location name, LastComma payload location name := by
  rcases cutAtLastComma_cases payload with ⟨location, name, _, cuts⟩ | ⟨_, without⟩
  · exact ⟨location, name, cuts⟩
  · exact absurd has without

theorem LastComma.hasComma (cuts : LastComma payload location name) : HasComma payload :=
  ⟨location, name, cuts.cut, cuts.located, cuts.named⟩

instance (payload : List Char) : Decidable (HasComma payload) :=
  decidable_of_iff ((cutAtLastComma payload).isSome = true) (by
    rcases cutAtLastComma_cases payload with ⟨location, name, found, cuts⟩ | ⟨missing, without⟩
    · simp [found, cuts.hasComma]
    · simp [missing, without])

/-- A comma with text on both sides is the last one if there is none in the name. -/
theorem lastComma_of_notMem (located : location ≠ []) (named : name ≠ []) (single : ',' ∉ name) :
    LastComma (location ++ ',' :: name) location name where
  cut := rfl
  located := located
  named := named
  last := by
    intro location' name' shape _ _
    rcases List.append_eq_append_iff.1 shape with ⟨more, rfl, behind⟩ | ⟨more, rfl, _⟩
    · cases more with
      | nil => simp
      | cons first others =>
          obtain ⟨_, rfl⟩ := List.cons.inj behind
          exact absurd (by simp) single
    · exact List.prefix_append location' more

/-! ## The directives for sections -/

/-- What a section directive asks for. -/
theorem sectionForm_admits_iff {asked : List Char × List Char} :
    sectionForm.Admits payload asked ↔ '\x7d' ∉ payload ∧
      ∃ location name, LastComma payload location name ∧ asked = (trim location, trim name) := by
  constructor
  · rintro ⟨_, unclosed, asks⟩
    obtain ⟨⟨location, name⟩, found, rfl⟩ := Option.map_eq_some_iff.1 asks
    exact ⟨unclosed, location, name, cutAtLastComma_eq_some_iff.1 found, rfl⟩
  · rintro ⟨unclosed, location, name, cuts, rfl⟩
    have nonempty : payload ≠ [] := by
      rw [cuts.cut]
      exact List.append_ne_nil_of_left_ne_nil cuts.located _
    have asks : sectionForm.ask payload = some (trim location, trim name) :=
      Option.map_eq_some_iff.2 ⟨_, cutAtLastComma_eq_some_iff.2 cuts, rfl⟩
    exact ⟨nonempty, unclosed, asks⟩

end Bindery.Directive
