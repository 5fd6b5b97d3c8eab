import Bindery.Manuscript
import Bindery.Proofs.Substitution.Together

/-!
Contract: the directories that are put in place of path tokens.

Owns: that the three tokens never overlap in a text, so that for directories without capitals and
underscores the pass is a single one, in which the order of the tokens does not matter, and leaves
no token.

Does **not** own: the passes that come after it.

## Why the directories count

Tokens are made of capitals and underscores. A directory that has one may be a part of a token, and
another part may be next to it in the manuscript.
-/

namespace Bindery.Press

open Bindery.Text Bindery.Substitution

/-- The words that stand for directories. -/
def tokens : List String := ["GRAPHICS_OUTPUT_DIR", "TEX_PREPROCESS_DIR", "IMAGES_DIR"]

/-- A directory that is not empty and has none of the characters that tokens are made of. -/
structure Tokenless (directory : String) : Prop where
  nonempty : directory ≠ ""
  plain : ∀ c ∈ directory.toList, c.isUpper = false ∧ c ≠ '_'

variable {target images directory token : String} {entry : String × String}

theorem keys_pathTokens (target images : String) :
    (pathTokens target images).map Prod.fst = tokens := rfl

theorem capital_of_mem_token (among : token ∈ tokens) :
    ∀ c ∈ token.toList, c.isUpper = true ∨ c = '_' := by
  have capitals : ∀ token ∈ tokens, ∀ c ∈ token.toList, c.isUpper = true ∨ c = '_' := by
    simp [tokens]
  exact capitals token among

/-- The tokens have the same end, but none of them begins with an end of another one. -/
theorem tokens_apart : tokens.Pairwise fun token other =>
    StartsOutside token.toList other.toList ∧ StartsOutside other.toList token.toList := by
  decide +kernel

theorem Tokenless.disjoint (tokenless : Tokenless directory) (among : token ∈ tokens) :
    directory.toList.Disjoint token.toList := by
  intro c inDirectory inToken
  obtain ⟨small, other⟩ := tokenless.plain c inDirectory
  rcases capital_of_mem_token among c inToken with capital | underscore
  · rw [small] at capital
    contradiction
  · exact other underscore

/-- What is put in place of a token. -/
theorem tokenless_of_mem (ofTarget : Tokenless target) (ofImages : Tokenless images)
    (member : entry ∈ pathTokens target images) : Tokenless entry.2 := by
  have directories : ∀ entry ∈ pathTokens target images, Tokenless entry.2 := by
    simp [pathTokens, ofTarget, ofImages]
  exact directories entry member

theorem mem_tokens_of_mem (member : entry ∈ pathTokens target images) : entry.1 ∈ tokens := by
  rw [← keys_pathTokens target images]
  exact List.mem_map_of_mem member

theorem independent_pathTokens (ofTarget : Tokenless target) (ofImages : Tokenless images) :
    (pathTokens target images).Pairwise Independent := by
  have keys := tokens_apart
  rw [← keys_pathTokens target images, List.pairwise_map] at keys
  refine keys.imp_of_mem fun {first second} inTable inTable' apart => ?_
  have filled := tokenless_of_mem ofTarget ofImages inTable
  have filled' := tokenless_of_mem ofTarget ofImages inTable'
  constructor
  · exact ⟨filled.nonempty, filled.disjoint (mem_tokens_of_mem inTable'), apart.1⟩
  · exact ⟨filled'.nonempty, filled'.disjoint (mem_tokens_of_mem inTable), apart.2⟩

/-- The pass that puts directories in place of path tokens, one token after another, does the same
as a single pass for all of them, and as the passes in any other order; and no token is left. -/
theorem pathTokens_at_once (text : List Char) (ofTarget : Tokenless target)
    (ofImages : Tokenless images) :
    apply (pathTokens target images) text = together (pathTokens target images) text ∧
      (∀ token ∈ tokens, ¬ token.toList <:+: apply (pathTokens target images) text) ∧
      ∀ order, order.Perm (pathTokens target images) →
        apply order text = apply (pathTokens target images) text := by
  have independent := independent_pathTokens ofTarget ofImages
  refine ⟨?_, ?_, ?_⟩
  · exact apply_eq_together (independent.imp And.left) text
  · intro token among
    rw [← keys_pathTokens target images] at among
    obtain ⟨entry, member, rfl⟩ := List.mem_map.1 among
    have keyed : ∀ token ∈ tokens, token ≠ "" := by decide
    refine not_infix_apply (keyed entry.1 (mem_tokens_of_mem member)) member ?_ text
    intro other member'
    have filled := tokenless_of_mem ofTarget ofImages member'
    exact ⟨filled.nonempty, filled.disjoint (mem_tokens_of_mem member)⟩
  · intro order permuted
    exact (apply_eq_of_perm permuted.symm independent text).symm

/-- Tokens that run into one another, and pieces of tokens around one. -/
theorem pathTokens_at_once_adjoining :
    Tokenless "/book/target" ∧ Tokenless "img" ∧
      apply (pathTokens "/book/target" "img") "IMAGES_IMAGES_DIRIMAGES_DIR_DIR".toList =
        together (pathTokens "/book/target" "img") "IMAGES_IMAGES_DIRIMAGES_DIR_DIR".toList ∧
      together (pathTokens "/book/target" "img") "IMAGES_IMAGES_DIRIMAGES_DIR_DIR".toList =
        "IMAGES_imgimg_DIR".toList ∧
      apply (pathTokens "/book/target" "img").reverse "TEX_PREPROCESS_DIR/IMAGES_DIR".toList =
        apply (pathTokens "/book/target" "img") "TEX_PREPROCESS_DIR/IMAGES_DIR".toList := by
  have ofTarget : Tokenless "/book/target" := ⟨by decide, by simp⟩
  have ofImages : Tokenless "img" := ⟨by decide, by simp⟩
  refine ⟨ofTarget, ofImages, ?_, by decide +kernel, ?_⟩
  · exact (pathTokens_at_once "IMAGES_IMAGES_DIRIMAGES_DIR_DIR".toList ofTarget ofImages).1
  · exact (pathTokens_at_once "TEX_PREPROCESS_DIR/IMAGES_DIR".toList ofTarget ofImages).2.2 _
      (List.reverse_perm _)

end Bindery.Press
