import Bindery.Proofs.Text.Replacing
import Bindery.Substitution

/-!
Contract: tables of substitutions whose entries do not meddle with one another.

Owns:
- `together`, the replacement of all keys of a table in a single pass;
- `Spares`, the condition under which an entry may be applied before another one without changing
  what the other one finds;
- that a table whose entries spare one another gives in one pass what its entries give one after
  another, and so gives the same in every order;
- what is not in a text any more when a table has been applied.

Does **not** own: which tables a manuscript goes through (`Bindery.Press`).
-/

namespace Bindery.Substitution

open Bindery.Text

variable {entry first second : String × String} {table order : List (String × String)}
variable {text rest : List Char}

/-! ## One pass for all keys -/

/-- The key of the entry stands at the front of the text. The empty key stands nowhere. -/
def Applies (entry : String × String) (text : List Char) : Prop :=
  entry.1 ≠ "" ∧ entry.1.toList <+: text

instance (entry : String × String) (text : List Char) : Decidable (Applies entry text) :=
  inferInstanceAs (Decidable (_ ∧ _))

/-- Recognises the key of some entry, the first one that applies; answers what is put for it. -/
def anyKey : List (String × String) → Recogniser (List Char)
  | [], _ => none
  | entry :: rest, text =>
      if Applies entry text then some (entry.2.toList, entry.1.toList.length)
      else anyKey rest text

/-- Replaces the keys of all entries at once, in one pass from left to right. What has been put in
is not searched. -/
def together (table : List (String × String)) (text : List Char) : List Char :=
  assemble id (scan (anyKey table) text)

theorem anyKey_cons_of_applies (applies : Applies entry text) :
    anyKey (entry :: table) text = some (entry.2.toList, entry.1.toList.length) :=
  if_pos applies

theorem anyKey_cons_of_not_applies (idle : ¬ Applies entry text) :
    anyKey (entry :: table) text = anyKey table text :=
  if_neg idle

theorem anyKey_eq_none (idle : ∀ entry ∈ table, ¬ Applies entry text) :
    anyKey table text = none := by
  induction table with
  | nil => rfl
  | cons entry others inductionHypothesis =>
      obtain ⟨ofEntry, ofOthers⟩ := List.forall_mem_cons.1 idle
      rw [anyKey_cons_of_not_applies ofEntry]
      exact inductionHypothesis ofOthers

/-- What is recognised is the key of an entry, at the front of the text. -/
theorem exists_of_anyKey {shown : List Char} {taken : Nat}
    (found : anyKey table text = some (shown, taken)) :
    ∃ entry ∈ table, Applies entry text ∧ shown = entry.2.toList ∧
      taken = entry.1.toList.length := by
  induction table with
  | nil => contradiction
  | cons entry others inductionHypothesis =>
      by_cases applies : Applies entry text
      · rw [anyKey_cons_of_applies applies] at found
        obtain ⟨rfl, rfl⟩ := Prod.mk.inj (Option.some.inj found)
        exact ⟨entry, List.mem_cons_self, applies, rfl, rfl⟩
      · rw [anyKey_cons_of_not_applies applies] at found
        obtain ⟨other, among, rest⟩ := inductionHypothesis found
        exact ⟨other, List.mem_cons_of_mem entry among, rest⟩

theorem together_cons {c : Char} (idle : anyKey table (c :: rest) = none) :
    together table (c :: rest) = c :: together table rest := by
  unfold together
  rw [scan_cons_of_none idle]
  rfl

theorem together_append {word shown : List Char} (nonempty : word ≠ [])
    (found : anyKey table (word ++ rest) = some (shown, word.length)) :
    together table (word ++ rest) = shown ++ together table rest := by
  unfold together
  rw [scan_append_of_some found nonempty]
  rfl

/-- A text is passed in which no key has a character. -/
theorem together_append_of_foreign {front : List Char}
    (foreign : ∀ entry ∈ table, front.Disjoint entry.1.toList) (rest : List Char) :
    together table (front ++ rest) = front ++ together table rest := by
  induction front with
  | nil => rfl
  | cons c others inductionHypothesis =>
      have idle : anyKey table (c :: (others ++ rest)) = none := by
        apply anyKey_eq_none
        rintro entry among ⟨keyed, begins⟩
        have empty : entry.1.toList = [] :=
          prefix_of_foreign (List.cons_ne_nil c others) (foreign entry among) begins
        exact keyed (String.toList_eq_nil_iff.1 empty)
      have later := inductionHypothesis fun entry among =>
        List.disjoint_of_disjoint_cons_left (foreign entry among)
      rw [List.cons_append, together_cons idle, later, List.cons_append]

@[simp]
theorem together_empty_table (text : List Char) : together [] text = text := by
  have foreign : ∀ entry ∈ ([] : List (String × String)), text.Disjoint entry.1.toList :=
    fun entry among => absurd among List.not_mem_nil
  have passed := together_append_of_foreign foreign []
  rw [List.append_nil, show together [] [] = [] from rfl, List.append_nil] at passed
  exact passed

/-! ## Entries that spare one another -/

/-- The first entry can be applied before the second one: what it puts in is not empty and has no
character of the other key, and its own key does not begin inside of the other key. -/
structure Spares (first second : String × String) : Prop where
  filled : first.2 ≠ ""
  foreign : first.2.toList.Disjoint second.1.toList
  outside : StartsOutside first.1.toList second.1.toList

theorem Spares.applies_applyOne_iff (spares : Spares first second) :
    Applies second (applyOne text first) ↔ Applies second text := by
  have filled : first.2.toList ≠ [] := mt String.toList_eq_nil_iff.1 spares.filled
  exact and_congr_right fun _ => prefix_replaceAll_iff spares.outside filled spares.foreign

/-- Two keys are not at the front of the same text. -/
theorem Spares.exclusive (spares : Spares first second) (text : List Char) :
    ¬ (Applies first text ∧ Applies second text) := by
  rintro ⟨⟨_, begins⟩, keyed, rest, rfl⟩
  have nonempty : second.1.toList ≠ [] := mt String.toList_eq_nil_iff.1 keyed
  exact spares.outside.not_prefix List.suffix_rfl nonempty rest begins

theorem anyKey_applyOne (spares : ∀ other ∈ table, Spares entry other) :
    anyKey table (applyOne text entry) = anyKey table text := by
  induction table with
  | nil => rfl
  | cons other others inductionHypothesis =>
      obtain ⟨ofOther, ofOthers⟩ := List.forall_mem_cons.1 spares
      by_cases applies : Applies other text
      · rw [anyKey_cons_of_applies applies,
          anyKey_cons_of_applies (ofOther.applies_applyOne_iff.2 applies)]
      · rw [anyKey_cons_of_not_applies applies,
          anyKey_cons_of_not_applies fun also => applies (ofOther.applies_applyOne_iff.1 also),
          inductionHypothesis ofOthers]

theorem applyOne_cons {c : Char} (idle : ¬ Applies entry (c :: rest)) :
    applyOne (c :: rest) entry = c :: applyOne rest entry := by
  by_cases keyed : entry.1 = ""
  · rw [applyOne_of_empty_key keyed, applyOne_of_empty_key keyed]
  · exact replaceAll_cons (fun begins => idle ⟨keyed, begins⟩) entry.2.toList

/-- The first entry of a table can be applied on its own before the others are replaced at once. The
induction is on the length of the text: the pass takes a whole key, of this entry or of another one,
or else a character, and goes on behind it. -/
theorem together_cons_entry (spares : ∀ other ∈ table, Spares entry other) (text : List Char) :
    together (entry :: table) text = together table (applyOne text entry) := by
  by_cases applies : Applies entry text
  · have found : anyKey (entry :: table) text = some (entry.2.toList, entry.1.toList.length) :=
      anyKey_cons_of_applies applies
    obtain ⟨keyed, rest, rfl⟩ := applies
    have nonempty : entry.1.toList ≠ [] := mt String.toList_eq_nil_iff.1 keyed
    have shorter : rest.length < (entry.1.toList ++ rest).length := length_lt_append nonempty rest
    have replaced : applyOne (entry.1.toList ++ rest) entry =
        entry.2.toList ++ applyOne rest entry := replaceAll_append nonempty _ rest
    rw [together_append nonempty found, replaced,
      together_append_of_foreign fun other among => (spares other among).foreign,
      together_cons_entry spares rest]
  · have whole : anyKey (entry :: table) text = anyKey table text :=
      anyKey_cons_of_not_applies applies
    have applied : anyKey table (applyOne text entry) = anyKey table text := anyKey_applyOne spares
    cases found : anyKey table text with
    | some answer =>
        obtain ⟨shown, taken⟩ := answer
        rw [found] at whole applied
        obtain ⟨other, among, ⟨keyed, rest, rfl⟩, rfl, rfl⟩ := exists_of_anyKey found
        have nonempty : other.1.toList ≠ [] := mt String.toList_eq_nil_iff.1 keyed
        have shorter : rest.length < (other.1.toList ++ rest).length :=
          length_lt_append nonempty rest
        have passed : applyOne (other.1.toList ++ rest) entry =
            other.1.toList ++ applyOne rest entry :=
          (spares other among).outside.replaceAll_append _ rest
        rw [passed] at applied ⊢
        rw [together_append nonempty whole, together_append nonempty applied,
          together_cons_entry spares rest]
    | none =>
        rw [found] at whole applied
        cases text with
        | nil => rw [show applyOne [] entry = [] from replaceAll_nil _ _]; rfl
        | cons c rest =>
            rw [applyOne_cons applies] at applied ⊢
            rw [together_cons whole, together_cons applied, together_cons_entry spares rest]
termination_by text.length

/-- A table whose entries spare those behind them is applied in a single pass. -/
theorem apply_eq_together (spares : table.Pairwise Spares) (text : List Char) :
    apply table text = together table text := by
  induction table generalizing text with
  | nil => rw [apply_nil, together_empty_table]
  | cons entry others inductionHypothesis =>
      obtain ⟨ofEntry, ofOthers⟩ := List.pairwise_cons.1 spares
      rw [apply_cons, together_cons_entry ofEntry, inductionHypothesis ofOthers]

/-! ## The order of the entries -/

/-- Entries of which at most one applies may be tried in any order. -/
theorem anyKey_eq_of_perm (permuted : table.Perm order)
    (exclusive : table.Pairwise fun first second => ¬ (Applies first text ∧ Applies second text)) :
    anyKey table text = anyKey order text := by
  induction permuted with
  | nil => rfl
  | cons entry _ inductionHypothesis =>
      by_cases applies : Applies entry text
      · rw [anyKey_cons_of_applies applies, anyKey_cons_of_applies applies]
      · rw [anyKey_cons_of_not_applies applies, anyKey_cons_of_not_applies applies]
        exact inductionHypothesis (List.pairwise_cons.1 exclusive).2
  | swap first second others =>
      have apart : ¬ (Applies second text ∧ Applies first text) :=
        (List.pairwise_cons.1 exclusive).1 first List.mem_cons_self
      by_cases applies : Applies first text
      · have idle : ¬ Applies second text := fun also => apart ⟨also, applies⟩
        rw [anyKey_cons_of_not_applies idle, anyKey_cons_of_applies applies,
          anyKey_cons_of_applies applies]
      · have passed : anyKey (first :: second :: others) text = anyKey (second :: others) text :=
          anyKey_cons_of_not_applies applies
        rw [passed]
        by_cases also : Applies second text
        · rw [anyKey_cons_of_applies also, anyKey_cons_of_applies also]
        · rw [anyKey_cons_of_not_applies also, anyKey_cons_of_not_applies also,
            anyKey_cons_of_not_applies applies]
  | trans permuted _ earlier later =>
      have exclusiveToo := permuted.pairwise exclusive fun apart ⟨first, second⟩ =>
        apart ⟨second, first⟩
      exact (earlier exclusive).trans (later exclusiveToo)

/-- The two entries spare one another, in whichever order they are applied. -/
def Independent (first second : String × String) : Prop :=
  Spares first second ∧ Spares second first

/-- Independent entries may be applied in any order. -/
theorem apply_eq_of_perm (permuted : table.Perm order) (independent : table.Pairwise Independent)
    (text : List Char) : apply table text = apply order text := by
  have independentToo : order.Pairwise Independent :=
    permuted.pairwise independent fun ⟨spares, spared⟩ => ⟨spared, spares⟩
  have recognisers : anyKey table = anyKey order := funext fun place =>
    anyKey_eq_of_perm permuted (independent.imp fun both => both.1.exclusive place)
  rw [apply_eq_together (independent.imp And.left), apply_eq_together (independentToo.imp And.left)]
  unfold together
  rw [recognisers]

/-! ## What is gone -/

/-- A table puts no word into a text that is foreign to all that it puts in. -/
theorem infix_of_infix_apply {word : List Char} (nonempty : word ≠ [])
    (foreign : ∀ entry ∈ table, entry.2 ≠ "" ∧ entry.2.toList.Disjoint word)
    (among : word <:+: apply table text) : word <:+: text := by
  induction table generalizing text with
  | nil => exact among
  | cons entry others inductionHypothesis =>
      obtain ⟨⟨filled, ofEntry⟩, ofOthers⟩ := List.forall_mem_cons.1 foreign
      rw [apply_cons] at among
      have before : word <:+: applyOne text entry := inductionHypothesis ofOthers among
      have filling : entry.2.toList ≠ [] := mt String.toList_eq_nil_iff.1 filled
      exact infix_of_infix_replaceAll nonempty filling ofEntry before

/-- A key that is foreign to all that a table puts in is gone from the text. -/
theorem not_infix_apply (keyed : entry.1 ≠ "") (member : entry ∈ table)
    (foreign : ∀ other ∈ table, other.2 ≠ "" ∧ other.2.toList.Disjoint entry.1.toList)
    (text : List Char) : ¬ entry.1.toList <:+: apply table text := by
  have nonempty : entry.1.toList ≠ [] := mt String.toList_eq_nil_iff.1 keyed
  induction table generalizing text with
  | nil => exact absurd member List.not_mem_nil
  | cons first others inductionHypothesis =>
      obtain ⟨⟨filled, ofFirst⟩, ofOthers⟩ := List.forall_mem_cons.1 foreign
      rw [apply_cons]
      rcases List.mem_cons.1 member with rfl | later
      · intro among
        have filling : entry.2.toList ≠ [] := mt String.toList_eq_nil_iff.1 filled
        have before := infix_of_infix_apply nonempty ofOthers among
        exact not_infix_replaceAll nonempty filling ofFirst text before
      · exact inductionHypothesis later ofOthers (applyOne text first)

end Bindery.Substitution
