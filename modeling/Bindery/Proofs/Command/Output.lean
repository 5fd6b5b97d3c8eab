import Bindery.Command
import Bindery.Proofs.Text.Breaking

/-!
Contract: the output of a command, line by line, and the end of it that reports quote.

Owns:
- `streamLines`, the lines of the two streams, each trimmed and cut by itself, and that joining the
  streams and cutting them together gives the same lines;
- which lines the last output has: as many of the last lines as are asked for, and all of them when
  none is asked for.

Does **not** own: the reports that quote an output (`Bindery.Document`, `Bindery.Diagram`).
-/

namespace Bindery.Completion

open Text

/-- The lines of both streams. -/
def streamLines (result : Completion) : List String :=
  linesOf (strip result.stdout) ++ linesOf (strip result.stderr)

theorem stopsInside_strip (text : String) : StopsInside (strip text).toList := by
  rw [strip, String.toList_ofList]
  exact stopsInside_trim text.toList

/-- The streams, put together with a line feed between them, have no other lines than each alone. -/
theorem outputLines_eq_streamLines (result : Completion) :
    result.outputLines = result.streamLines := by
  have nothing : linesOf "" = [] := rfl
  unfold outputLines streamLines
  by_cases quiet : strip result.stdout = ""
  · by_cases calm : strip result.stderr = ""
    · simp [quiet, calm, joinLines, nothing]
    · simp [quiet, calm, joinLines, nothing]
  · by_cases calm : strip result.stderr = ""
    · simp [quiet, calm, joinLines, nothing]
    · have cut := breakLines_append_lineFeed (stopsInside_strip result.stdout) (by simpa using quiet)
        (strip result.stderr).toList
      simp [quiet, calm, linesOf, joinLines, cut]

/-- The last line of an output, if it has one, can be seen. -/
theorem getLast?_outputLines_ne (result : Completion) :
    result.outputLines.getLast? ≠ some "" := by
  have visible : ∀ text, (linesOf (strip text)).getLast? ≠ some "" := by
    intro text
    have cut := getLast?_breakLines_ne (stopsInside_strip text)
    unfold linesOf
    rw [List.getLast?_map]
    simpa using cut
  rw [outputLines_eq_streamLines, streamLines, List.getLast?_append]
  intro last
  rcases Option.or_eq_some_iff.1 last with second | ⟨_, first⟩
  · exact visible _ second
  · exact visible _ first

/-- The last output is read as the lines that it was made of. -/
theorem linesOf_lastOutput (result : Completion) (count : Int) :
    linesOf (result.lastOutput count) = lastLines count result.outputLines := by
  have behind : ∃ skipped, lastLines count result.outputLines = result.outputLines.drop skipped := by
    unfold lastLines
    split
    · exact ⟨_, rfl⟩
    · exact ⟨_, rfl⟩
  obtain ⟨skipped, dropped⟩ := behind
  unfold lastOutput
  -- What is kept ends as the whole does, so joining it hides no empty line at the end.
  rw [dropped]
  apply linesOf_joinLines
  · exact fun line among => unbroken_of_mem_linesOf (List.mem_of_mem_drop among)
  · rw [List.getLast?_drop]
    split
    · exact nofun
    · exact result.getLast?_outputLines_ne

theorem lastLines_zero (lines : List String) : lastLines 0 lines = lines := by
  simp [lastLines]

theorem lastLines_of_pos {count : Nat} (some : 0 < count) (lines : List String) :
    lastLines count lines = lines.drop (lines.length - count) := by
  simp [lastLines, some]

/-- The last output has as many of the last lines of both streams as are asked for, or all of them if
there are fewer: unless none is asked for, which gives all of them. -/
theorem lastOutput_ends_iff (result : Completion) (count : Nat) :
    (linesOf (result.lastOutput count) <:+ result.streamLines ∧
        (linesOf (result.lastOutput count)).length = min count result.streamLines.length ↔
      count ≠ 0 ∨ result.streamLines = []) ∧
    (count = 0 → linesOf (result.lastOutput count) = result.streamLines) := by
  rw [linesOf_lastOutput, outputLines_eq_streamLines]
  by_cases asked : count = 0
  · subst asked
    rw [Int.natCast_zero, lastLines_zero, Nat.zero_min, List.length_eq_zero_iff]
    simp
  · rw [lastLines_of_pos (Nat.pos_of_ne_zero asked)]
    refine ⟨⟨fun _ => .inl asked, fun _ => ⟨List.drop_suffix _ _, ?_⟩⟩, fun none => absurd none asked⟩
    rw [List.length_drop]
    omega

/-- When no line is asked for, there are still two. -/
theorem lastOutput_of_none :
    linesOf (lastOutput ⟨["pdflatex"], 1, "a\nb", ""⟩ 0) = ["a", "b"] ∧
      ¬ (linesOf (lastOutput ⟨["pdflatex"], 1, "a\nb", ""⟩ 0)).length ≤ 0 := by
  have all : linesOf (lastOutput ⟨["pdflatex"], 1, "a\nb", ""⟩ 0) = ["a", "b"] := by
    decide +kernel
  exact ⟨all, by simp [all]⟩

end Bindery.Completion
