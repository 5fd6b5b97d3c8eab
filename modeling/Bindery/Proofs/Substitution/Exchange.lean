import Bindery.Proofs.Substitution.Together

/-!
Contract: which entries of a table of substitutions may change places, and which may be left out.

Owns: that two neighbours in a table may be exchanged whose keys have no character in common with
each other or with what is put in for the other one, and that an entry which finds nothing may go.

Does **not** own: independent entries in general (`Bindery.Proofs.Substitution.Together`).
-/

namespace Bindery.Substitution

open Bindery.Text

variable {entry first second : String × String} {text : List Char}

theorem apply_append (earlier later : List (String × String)) (text : List Char) :
    apply (earlier ++ later) text = apply later (apply earlier text) :=
  List.foldl_append

/-- An entry that finds nothing does nothing. -/
theorem applyOne_of_not_infix (absent : entry.1 = "" ∨ ¬ entry.1.toList <:+: text) :
    applyOne text entry = text := by
  by_cases keyed : entry.1 = ""
  · exact applyOne_of_empty_key keyed text
  · have free : occurs (literal entry.1.toList) text = false := by
      rw [← Bool.not_eq_true, occurs_literal_iff (mt String.toList_eq_nil_iff.1 keyed)]
      exact absent.resolve_left keyed
    exact replaceAll_of_not_occurs free

theorem spares_of_disjoint (keyed : first.1 ≠ "") (filled : first.2 ≠ "")
    (keys : second.1.toList.Disjoint first.1.toList)
    (foreign : second.1.toList.Disjoint first.2.toList) : Spares first second where
  filled := filled
  foreign := List.disjoint_symm foreign
  outside := startsOutside_of_disjoint (mt String.toList_eq_nil_iff.1 keyed) keys

/-- Two neighbours in a table may change places if neither key has a character in common with the
other key or with what is put in for it, and nothing of the four is empty. An entry may be left out
if its key is empty or does not occur in the text that it is applied to. -/
theorem apply_rearranged (earlier later : List (String × String)) (text : List Char) :
    (∀ first second : String × String,
      first.1 ≠ "" → first.2 ≠ "" → second.1 ≠ "" → second.2 ≠ "" →
      (∀ c ∈ first.1.toList, c ∉ second.1.toList ∧ c ∉ second.2.toList) →
      (∀ c ∈ second.1.toList, c ∉ first.1.toList ∧ c ∉ first.2.toList) →
      apply (earlier ++ first :: second :: later) text =
        apply (earlier ++ second :: first :: later) text) ∧
    ∀ entry : String × String,
      entry.1 = "" ∨ ¬ entry.1.toList <:+: apply earlier text →
      apply (earlier ++ entry :: later) text = apply (earlier ++ later) text := by
  constructor
  · intro first second keyed filled keyed' filled' apart apart'
    have keys : second.1.toList.Disjoint first.1.toList := fun _ mine theirs =>
      (apart' _ mine).1 theirs
    have independent : Independent first second := by
      constructor
      · exact spares_of_disjoint keyed filled keys fun _ mine theirs => (apart' _ mine).2 theirs
      · exact spares_of_disjoint keyed' filled' (List.disjoint_symm keys) fun _ mine theirs =>
          (apart _ mine).2 theirs
    have exchanged : apply [first, second] (apply earlier text) =
        apply [second, first] (apply earlier text) :=
      apply_eq_of_perm (.swap second first []) (List.pairwise_pair.2 independent) _
    calc apply (earlier ++ first :: second :: later) text
        = apply later (apply [first, second] (apply earlier text)) :=
          apply_append earlier (first :: second :: later) text
      _ = apply later (apply [second, first] (apply earlier text)) := by rw [exchanged]
      _ = apply (earlier ++ second :: first :: later) text :=
          (apply_append earlier (second :: first :: later) text).symm
  · intro entry absent
    rw [apply_append, apply_cons, applyOne_of_not_infix absent, apply_append]

/-- Both entries put in a part of their own keys, and one character that they have in common. -/
theorem apply_rearranged_overlapping :
    apply ([("c", "aa")] ++ ("aa", "ax") :: ("bb", "xb") :: [("x", "c")]) "caabbb".toList =
        apply ([("c", "aa")] ++ ("bb", "xb") :: ("aa", "ax") :: [("x", "c")]) "caabbb".toList ∧
      apply ([("c", "aa")] ++ ("bb", "xb") :: ("aa", "ax") :: [("x", "c")]) "caabbb".toList =
        "acaccbb".toList ∧
      apply ([("c", "aa")] ++ ("cb", "d") :: [("x", "c")]) "cbb".toList =
        apply ([("c", "aa")] ++ [("x", "c")]) "cbb".toList := by
  have rearranged := apply_rearranged [("c", "aa")] [("x", "c")]
  refine ⟨?_, by decide +kernel, ?_⟩
  · exact (rearranged "caabbb".toList).1 ("aa", "ax") ("bb", "xb") (by decide) (by decide)
      (by decide) (by decide) (by simp) (by simp)
  · exact (rearranged "cbb".toList).2 ("cb", "d") (.inr (by decide +kernel))

end Bindery.Substitution
