import RegionToggle.Proofs.ForeignLines
import RegionToggle.Proofs.SettingChecks

/-!
# Endings under rewriting

A rewrite writes every line with its ending. Read as a text again, the lines have these endings,
unless a comment holds nothing: with its token gone a last line without indentation is no line any
more, and where the indentation ends in a carriage return, this joins the line feed behind it.
-/

namespace RegionToggle

theorem Row.map_ending_again?_iff (row : Row) :
    row.again?.map Row.ending = some row.ending ↔
      ¬ (row.ending = .open ∧ row.text = [] ∨
        row.ending = .lf ∧ row.text.getLast? = some '\r') := by
  obtain ⟨text, ending⟩ := row
  cases ending with
  | «open» => by_cases ht : text = [] <;> simp [again?, ht]
  | lf => by_cases hr : text.getLast? = some '\r' <;> simp [again?, hr]
  | crlf => simp [again?]

namespace RewriteOptions

variable {options : RewriteOptions} {style : CommentStyle} {zone : Zone} {line : Line}
  {content : Text}

/-- Whether a line that is left with its indentation alone loses its ending by that: it is the last
line and has no indentation, or the indentation ends in what its line feed takes for its own. -/
def SpoilsEnding (options : RewriteOptions) (style : CommentStyle) (zone : Zone) (line : Line) :
    Prop :=
  options.Empties style zone line ∧
    (line.ending = .open ∧ line.text.indent = [] ∨
      line.ending = .lf ∧ line.text.indent.getLast? = some '\r')

/-- A line of a content comes back with its ending unless it spoils it. -/
theorem map_ending_again?_textFor_iff (style : CommentStyle) (zone : Zone)
    (hl : line ∈ options.dialect.lines content) :
    (Row.mk (options.textFor style zone line) line.ending).again?.map Row.ending =
        some line.ending ↔ ¬ options.SpoilsEnding style zone line := by
  by_cases he : options.Empties style zone line
  · have hrow := Row.map_ending_again?_iff ⟨options.textFor style zone line, line.ending⟩
    rw [hrow, textFor_of_empties he, SpoilsEnding, and_iff_right he]
  · rw [again?_textFor hl he]
    exact iff_of_true rfl fun h => he h.1

theorem map_ending_rows_rewrite_iff (ht : '\n' ∉ options.dialect.token) (content : Text) :
    (options.rewrite content).text.rows.map Row.ending = content.rows.map Row.ending ↔
      ∀ i line, (options.dialect.lines content)[i]? = some line →
        ¬ options.SpoilsEnding (.detect options.dialect.token (options.dialect.lines content))
          (.behind ((options.dialect.lines content).take i)) line := by
  rw [text_rewrite, ← Dialect.map_row_lines (d := options.dialect) content, List.ext_getElem?_iff]
  apply forall_congr'
  intro i
  rw [List.getElem?_map, Text.getElem?_rows_join (joinable_written ht), getElem?_written,
    List.getElem?_map, List.getElem?_map]
  cases hi : (options.dialect.lines content)[i]? with
  | none => simp
  | some line =>
    have hiff := map_ending_again?_textFor_iff
      (.detect options.dialect.token (options.dialect.lines content))
      (.behind ((options.dialect.lines content).take i)) (List.mem_of_getElem? hi)
    simpa [Line.row] using hiff

/-- Whatever the settings, a rewritten text has the lines of the content with their endings exactly
if no line spoils its ending. -/
theorem endings_rewrite_iff (draft : SettingsDraft) (p : Platform) (outside : OutsidePolicy)
    (content : Text) :
    let options : RewriteOptions := ⟨p, draft.settle.settings.dialect, outside⟩
    let lines := options.dialect.lines content
    let style := CommentStyle.detect options.dialect.token lines
    (options.rewrite content).text.rows.map Row.ending = content.rows.map Row.ending ↔
      ∀ i line, lines[i]? = some line →
        ¬ options.SpoilsEnding style (.behind (lines.take i)) line :=
  map_ending_rows_rewrite_iff (SettingsDraft.lf_not_mem_token_settle draft) content

/-- A comment with nothing in it at the end of a text is lost; behind a carriage return it leaves
another ending. -/
theorem endings_rewrite_emptied :
    let options : RewriteOptions :=
      ⟨.windows, ({} : SettingsDraft).settle.settings.dialect, .preserve⟩
    let run (content : Text) : Text := (options.rewrite content).text
    let endings (t : Text) : List Ending := t.rows.map Row.ending
    let start : Text := "// PLATFORM_SWITCH_START\n// Windows Configuration\n".toList
    run (start ++ "//".toList) = start ∧
      endings (start ++ "//".toList) = [.lf, .lf, .open] ∧ endings start = [.lf, .lf] ∧
      run (start ++ "\r//\n".toList) = start ++ "\r\n".toList ∧
      endings (start ++ "\r//\n".toList) = [.lf, .lf, .lf] ∧
      endings (start ++ "\r\n".toList) = [.lf, .lf, .crlf] ∧
      ¬ ∀ content, endings (run content) = endings content := by
  intro options run endings start
  have hlost : run (start ++ "//".toList) = start := by decide +kernel
  have hbefore : endings (start ++ "//".toList) = [.lf, .lf, .open] := by decide +kernel
  have hafter : endings start = [.lf, .lf] := by decide +kernel
  refine ⟨hlost, hbefore, hafter, by decide +kernel, by decide +kernel, by decide +kernel,
    fun h => ?_⟩
  have hsame := h (start ++ "//".toList)
  rw [hlost, hbefore, hafter] at hsame
  exact absurd hsame (by decide)

end RewriteOptions

end RegionToggle
