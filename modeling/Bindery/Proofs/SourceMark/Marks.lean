import Bindery.Proofs.SourceMark.Reader

/-!
Contract: the three marks of `Bindery.SourceMark`, as readers.

Owns:
- the part of each mark that decides whether it applies, and that this part is taken off every
  text that begins with it: a fold mark, the comment of an editor line, and the comment of a section
  line up to the brace that closes the name;
- `IsMark`, which the three have in common: they take something, and begin with a comment;
- `isClean`, the lines in which no comment begins, and which the three leave alone.

Does **not** own: what happens to lines that stand beside a mark.
-/

namespace Bindery.SourceMark

open Bindery.Text

/-! ## Parts of marks -/

/-- Takes a word. -/
def afterWord (word : List Char) : Reader := fun text =>
  if word.isPrefixOf text then some (text.drop word.length) else none

def afterFoldMark : Reader := fun text =>
  match text with
  | '/' :: '/' :: brace :: digit :: rest =>
      if (brace = '\x7b' || brace = '\x7d') && isDecimalDigit digit then some rest else none
  | _ => none

/-- Takes the comment that makes the rest of a line an editor line. -/
def afterEditorMark : Reader := fun text =>
  match text with
  | '/' :: '/' :: c :: rest =>
      if isPadding c then afterWord "vim:".toList (rest.dropWhile isPadding) else none
  | _ => none

/-- Takes the comment of a section line, to the brace that opens the name. -/
def afterOpening : Reader := fun text =>
  (afterCommentMark (text.dropWhile (· = ' '))).bind fun comment =>
    afterSectionKeyword (comment.dropWhile isPadding)

/-- Takes a name and the brace that closes it. -/
def afterBrace : Reader := fun text =>
  match text.dropWhile (· != '\x7d') with
  | [] => none
  | _ :: rest => some rest

/-- Takes the comment of a section line, to the brace that closes the name. -/
def afterSectionMark : Reader := fun text =>
  (afterOpening text).bind afterBrace

theorem takes_afterWord (word : List Char) : Takes (afterWord word) (· = word) := by
  intro text left found
  unfold afterWord at found
  split at found
  · rename_i front
    obtain ⟨rest, rfl⟩ := List.isPrefixOf_iff_prefix.1 front
    rw [List.drop_left] at found
    obtain rfl := Option.some.inj found
    refine ⟨word, rfl, rfl, fun other => ?_⟩
    unfold afterWord
    rw [if_pos (List.isPrefixOf_iff_prefix.2 (List.prefix_append word other)), List.drop_left]
  · contradiction

theorem takes_afterCommentMark :
    Takes afterCommentMark fun taken => taken = ['/', '/'] ∨ taken = ['#'] := by
  intro text left found
  unfold afterCommentMark at found
  split at found
  · obtain rfl := Option.some.inj found
    exact ⟨['/', '/'], .inl rfl, rfl, fun _ => rfl⟩
  · obtain rfl := Option.some.inj found
    exact ⟨['#'], .inr rfl, rfl, fun _ => rfl⟩
  · contradiction

/-- The keyword for the begin of a section and the one for its end. -/
def sectionKeywords : List (List Char) :=
  ["FILE_SECTION_BEGIN\x7b".toList, "FILE_SECTION_END\x7b".toList]

theorem takes_afterSectionKeyword : Takes afterSectionKeyword (· ∈ sectionKeywords) := by
  intro text left found
  simp only [afterSectionKeyword] at found
  split at found
  · rename_i front
    obtain ⟨rest, rfl⟩ := List.isPrefixOf_iff_prefix.1 front
    rw [List.drop_left] at found
    obtain rfl := Option.some.inj found
    exact ⟨_, List.mem_cons_self, rfl, fun _ => rfl⟩
  · split at found
    · rename_i front
      obtain ⟨rest, rfl⟩ := List.isPrefixOf_iff_prefix.1 front
      rw [List.drop_left] at found
      obtain rfl := Option.some.inj found
      exact ⟨_, List.mem_cons_of_mem _ List.mem_cons_self, rfl, fun _ => rfl⟩
    · contradiction

theorem takes_afterFoldMark : Takes afterFoldMark InLine := by
  intro text left found
  unfold afterFoldMark at found
  split at found
  · rename_i brace digit rest
    split at found
    · rename_i accepted
      obtain rfl := Option.some.inj found
      refine ⟨['/', '/', brace, digit], ⟨by simp, ?_⟩, rfl, fun other => if_pos accepted⟩
      obtain ⟨isBrace, isDigit⟩ := Bool.and_eq_true_iff.1 accepted
      have notBrace : '\n' ≠ brace := by
        rintro rfl
        contradiction
      have notDigit : '\n' ≠ digit := by
        rintro rfl
        exact absurd isDigit (by decide)
      simp [notBrace, notDigit]
    · contradiction
  · contradiction

theorem lineFeed_notMem_of_padding {padding : List Char}
    (padded : ∀ c ∈ padding, isPadding c = true) : '\n' ∉ padding :=
  fun among => absurd (padded '\n' among) (by decide)

theorem takes_afterEditorMark : Takes afterEditorMark InLine := by
  intro text left found
  unfold afterEditorMark at found
  split at found
  · rename_i c rest
    split at found
    · rename_i padding
      have keyword : Takes (fun text => afterWord "vim:".toList (text.dropWhile isPadding))
          InLine := by
        apply (takes_afterWord "vim:".toList).afterPadding
        · intro c rest blank
          apply if_neg
          rintro front
          obtain ⟨_, shape⟩ := List.isPrefixOf_iff_prefix.1 front
          obtain rfl := (List.cons.inj shape).1
          contradiction
        · rintro front taken padded rfl
          exact .behind (lineFeed_notMem_of_padding padded) ⟨by decide, by decide⟩
      obtain ⟨taken, inLine, rfl, always⟩ := keyword rest left found
      have notPadding : '\n' ≠ c := by
        rintro rfl
        contradiction
      have opening : '\n' ∉ ['/', '/', c] := by
        simp [notPadding]
      exact ⟨['/', '/', c] ++ taken, .behind opening inLine, rfl, fun other =>
        (if_pos padding).trans (always other)⟩
    · contradiction
  · contradiction

theorem takes_spacedComment :
    Takes (fun text => afterCommentMark (text.dropWhile (· = ' '))) InLine := by
  apply takes_afterCommentMark.afterPadding
  · intro c rest blank
    obtain rfl := of_decide_eq_true blank
    rfl
  · intro front taken padded mark
    have spaces : '\n' ∉ front := fun among => absurd (padded '\n' among) (by decide)
    rcases mark with rfl | rfl
    · exact .behind spaces ⟨by decide, by decide⟩
    · exact .behind spaces ⟨by decide, by decide⟩

theorem takes_paddedKeyword :
    Takes (fun text => afterSectionKeyword (text.dropWhile isPadding)) InLine := by
  apply takes_afterSectionKeyword.afterPadding
  · intro c rest blank
    have either : c = ' ' ∨ c = '\t' := by
      simpa [isPadding] using blank
    rcases either with rfl | rfl
    · rfl
    · rfl
  · intro front taken padded among
    have inLine : ∀ word ∈ sectionKeywords, word ≠ [] ∧ '\n' ∉ word := by
      decide
    exact .behind (lineFeed_notMem_of_padding padded) (inLine taken among)

theorem takes_afterOpening : Takes afterOpening InLine :=
  takes_spacedComment.bind takes_paddedKeyword fun _ _ comment keyword =>
    .behind comment.2 keyword

theorem afterBrace_append_of_notMem {text : List Char} (unclosed : '\x7d' ∉ text)
    (right : List Char) : afterBrace (text ++ right) = afterBrace right := by
  unfold afterBrace
  rw [dropWhile_append_of_notMem unclosed]

theorem afterBrace_eq_none_iff {text : List Char} : afterBrace text = none ↔ '\x7d' ∉ text := by
  constructor
  · intro nothing among
    obtain ⟨name, rest, rfl, unclosed⟩ := List.eq_append_cons_of_mem among
    rw [afterBrace_append_of_notMem unclosed] at nothing
    contradiction
  · intro unclosed
    have skipped := afterBrace_append_of_notMem unclosed []
    rw [List.append_nil] at skipped
    exact skipped

/-- What ends with the brace that closes a name. -/
def Closed (taken : List Char) : Prop :=
  ['\x7d'] <:+ taken

theorem takes_afterBrace : Takes afterBrace Closed := by
  intro text left found
  have closed : '\x7d' ∈ text := by
    apply Decidable.byContradiction
    intro unclosed
    rw [afterBrace_eq_none_iff.2 unclosed] at found
    contradiction
  obtain ⟨name, rest, rfl, unclosed⟩ := List.eq_append_cons_of_mem closed
  have always (other : List Char) : afterBrace (name ++ '\x7d' :: other) = some other :=
    afterBrace_append_of_notMem unclosed ('\x7d' :: other)
  obtain rfl := Option.some.inj ((always rest).symm.trans found)
  refine ⟨name ++ ['\x7d'], List.suffix_append name _, by rw [List.append_assoc]; rfl, ?_⟩
  intro other
  rw [List.append_assoc]
  exact always other

theorem takes_afterSectionMark : Takes afterSectionMark Closed :=
  takes_afterOpening.bind takes_afterBrace fun front _ _ closed =>
    closed.trans (List.suffix_append front _)

/-! ## The deletions as deletions by these readers -/

theorem foldMark_eq (text : List Char) : foldMark text = takenFrom text (afterFoldMark text) := by
  fun_cases afterFoldMark text with
  | case1 brace digit rest accepted =>
      show (if _ then some ((), 4) else none) = some ((), rest.length + 4 - rest.length)
      rw [if_pos accepted, Nat.add_sub_cancel_left]
  | case2 brace digit rest refused => exact if_neg refused
  | case3 =>
      unfold foldMark
      split
      · rename_i refused
        exact absurd rfl (refused _ _ _)
      · rfl

theorem eraseFoldMarks_eq : eraseFoldMarks = eraseBy afterFoldMark := by
  have same : foldMark = fun text => takenFrom text (afterFoldMark text) := funext foldMark_eq
  funext text
  unfold eraseFoldMarks eraseBy
  rw [same]

theorem afterEditorLine_eq : afterEditorLine = toLineEnd afterEditorMark := by
  funext text
  show _ = (afterEditorMark text).map afterLine
  fun_cases afterEditorMark text with
  | case1 c rest padding =>
      simp only [afterEditorLine, if_pos padding, afterWord]
      split
      · rfl
      · rfl
  | case2 c rest other => exact if_neg other
  | case3 =>
      unfold afterEditorLine
      split
      · rename_i refused
        exact absurd rfl (refused _ _)
      · rfl

theorem eraseEditorLines_eq : eraseEditorLines = eraseBy (toLineEnd afterEditorMark) := by
  rw [← afterEditorLine_eq]
  rfl

theorem afterSectionLine_eq : afterSectionLine = toLineEnd afterSectionMark := by
  funext text
  unfold afterSectionLine toLineEnd afterSectionMark afterOpening
  rw [Option.bind_assoc, Option.map_bind]
  refine congrArg _ (funext fun comment => ?_)
  show _ = Option.map afterLine ((afterSectionKeyword _).bind afterBrace)
  rw [Option.map_bind]
  refine congrArg _ (funext fun name => ?_)
  show _ = (afterBrace name).map afterLine
  unfold afterBrace
  cases name.dropWhile (· != '\x7d') with
  | nil => rfl
  | cons brace rest => rfl

theorem eraseSectionLines_eq : eraseSectionLines = eraseBy (toLineEnd afterSectionMark) := by
  rw [← afterSectionLine_eq]
  rfl

/-! ## What the marks have in common -/

/-- A reader that takes something, and only where a comment begins, maybe behind spaces. -/
structure IsMark (read : Reader) : Prop where
  consumes : Consumes read
  commented : ∀ text, afterCommentMark (text.dropWhile (· = ' ')) = none → read text = none

theorem IsMark.toLineEnd {read : Reader} (mark : IsMark read) : IsMark (toLineEnd read) where
  consumes := mark.consumes.toLineEnd
  commented text noComment := by
    show (read text).map afterLine = none
    rw [mark.commented text noComment]
    rfl

theorem isMark_afterFoldMark : IsMark afterFoldMark where
  consumes := takes_afterFoldMark.consumes fun _ inLine => inLine.1
  commented text noComment := by
    unfold afterFoldMark
    split
    · contradiction
    · rfl

theorem isMark_afterEditorMark : IsMark afterEditorMark where
  consumes := takes_afterEditorMark.consumes fun _ inLine => inLine.1
  commented text noComment := by
    unfold afterEditorMark
    split
    · contradiction
    · rfl

theorem isMark_afterSectionMark : IsMark afterSectionMark where
  consumes := takes_afterSectionMark.consumes fun taken closed => by
    rintro rfl
    exact absurd (List.suffix_nil.1 closed) (by decide)
  commented text noComment := by
    unfold afterSectionMark afterOpening
    rw [noComment]
    rfl

/-! ## Lines without comments -/

/-- A line in which no comment begins, neither with two slashes nor with a number sign. -/
def isClean (line : List Char) : Bool :=
  !(occurs (literal ['/', '/']) line || line.contains '#')

variable {line after place : List Char}

theorem slashes_notInfix_of_isClean (clean : isClean line = true) {rest : List Char} :
    ¬ '/' :: '/' :: rest <:+ line := by
  intro behind
  have free : occurs (literal ['/', '/']) line = false := by
    simp only [isClean, Bool.not_eq_true', Bool.or_eq_false_iff] at clean
    exact clean.1
  have found : occurs (literal ['/', '/']) line = true :=
    occurs_iff.2 ⟨_, behind, by simp, rfl⟩
  rw [free] at found
  contradiction

theorem numberSign_notMem_of_isClean (clean : isClean line = true) : '#' ∉ line := by
  simp only [isClean, Bool.not_eq_true', Bool.or_eq_false_iff] at clean
  simpa using clean.2

/-- No comment begins in a clean line, nor at its end. -/
theorem afterCommentMark_of_isClean (clean : isClean line = true) (begun : Begun after)
    (behind : place <:+ line) : afterCommentMark (place ++ after) = none := by
  cases place with
  | nil =>
      rcases begun with rfl | ⟨rest, rfl⟩
      · rfl
      · rfl
  | cons c rest =>
      have notSign : c ≠ '#' := by
        rintro rfl
        exact numberSign_notMem_of_isClean clean (behind.subset List.mem_cons_self)
      have notSlashes : ∀ more, c :: (rest ++ after) ≠ '/' :: '/' :: more := by
        intro more same
        obtain ⟨rfl, second⟩ := List.cons.inj same
        rcases List.cons_eq_append_iff.1 second.symm with ⟨rfl, follows⟩ | ⟨others, rfl, _⟩
        · rcases begun with rfl | ⟨_, rfl⟩
          · contradiction
          · exact absurd (List.cons.inj follows).1 (by decide)
        · exact slashes_notInfix_of_isClean clean behind
      show afterCommentMark (c :: (rest ++ after)) = none
      unfold afterCommentMark
      split
      · rename_i more same
        exact absurd same (notSlashes more)
      · rename_i more same
        exact absurd (List.cons.inj same).1 notSign
      · rfl

/-- Nor does one begin behind spaces in a clean line. -/
theorem afterCommentMark_dropWhile_of_isClean (clean : isClean line = true) (begun : Begun after)
    (behind : place <:+ line) :
    afterCommentMark ((place ++ after).dropWhile (· = ' ')) = none := by
  by_cases blank : place.dropWhile (· = ' ') = []
  · have stopped : (place ++ after).dropWhile (· = ' ') = after := by
      rw [List.dropWhile_append, if_pos (List.isEmpty_iff.2 blank)]
      rcases begun with rfl | ⟨rest, rfl⟩
      · rfl
      · rfl
    rw [stopped]
    exact afterCommentMark_of_isClean clean begun List.nil_suffix
  · have stopped : (place ++ after).dropWhile (· = ' ') = place.dropWhile (· = ' ') ++ after := by
      rw [List.dropWhile_append, if_neg (fun empty => blank (List.isEmpty_iff.1 empty))]
    rw [stopped]
    exact afterCommentMark_of_isClean clean begun ((List.dropWhile_suffix _).trans behind)

/-- A clean line stays as it is, and what follows it is treated apart from it. -/
theorem IsMark.eraseBy_clean {read : Reader} (mark : IsMark read) (clean : isClean line = true)
    (begun : Begun after) : eraseBy read (line ++ after) = line ++ eraseBy read after :=
  eraseBy_append_of_none fun _ behind _ =>
    mark.commented _ (afterCommentMark_dropWhile_of_isClean clean begun behind)

/-- The end of a line is no part of a mark that begins there. -/
theorem IsMark.eraseBy_lineFeed {read : Reader} (mark : IsMark read) (rest : List Char) :
    eraseBy read ('\n' :: rest) = '\n' :: eraseBy read rest :=
  eraseBy_cons_of_none (mark.commented _ rfl)

theorem IsMark.begun {read : Reader} (mark : IsMark read) (begun : Begun after) :
    Begun (eraseBy read after) := by
  rcases begun with rfl | ⟨rest, rfl⟩
  · exact .inl rfl
  · show Begun (eraseBy read ('\n' :: rest))
    rw [mark.eraseBy_lineFeed]
    exact begun_cons _

end Bindery.SourceMark
