import RegionToggle.Proofs.Written

/-!
# The lines of a rewritten text

With a token that holds no line feed, the rows that a rewrite writes can be told apart again in the
rewritten text. Each comes back at its place and as it was, unless it is blank.
-/

namespace RegionToggle.RewriteOptions

variable {options : RewriteOptions} {style : CommentStyle} {zone : Zone} {line : Line}

/-- A line is written as it is, with the mark of the style, or without its comment tokens. -/
theorem textFor_cases (options : RewriteOptions) (style : CommentStyle) (zone : Zone)
    (line : Line) :
    options.textFor style zone line = line.text ∨
      (line.text.isAllBlank = false ∧ ¬ style.token <+: line.text.body ∧
        options.textFor style zone line = line.text.withMark style.mark) ∨
      ∃ r, r <:+ line.text.body ∧ options.aim zone line = .uncomment ∧
        style.uncomment? line.text = some (line.text.indent ++ r) ∧
        options.textFor style zone line = line.text.indent ++ r := by
  rw [textFor, edit]
  cases options.aim zone line with
  | keep => exact .inl rfl
  | comment =>
    rw [Edit.apply_ofAim_comment, CommentStyle.comment?_eq]
    split
    · exact .inl rfl
    · next h =>
      rw [not_or, Bool.not_eq_true] at h
      exact .inr (.inl ⟨h.1, h.2, rfl⟩)
  | uncomment =>
    rw [Edit.apply_ofAim_uncomment]
    cases hu : style.uncomment? line.text with
    | none => exact .inl rfl
    | some u =>
      obtain ⟨r, rfl, hr⟩ := CommentStyle.uncomment?_eq_some hu
      exact .inr (.inr ⟨r, hr, rfl, rfl, rfl⟩)

/-- What is written holds a line feed only if the line or the token does. -/
theorem lf_not_mem_textFor (ht : '\n' ∉ style.token) (hl : '\n' ∉ line.text) :
    '\n' ∉ options.textFor style zone line := by
  rcases textFor_cases options style zone line with h | ⟨-, -, h⟩ | ⟨r, hr, -, -, h⟩
  · rwa [h]
  · rw [h]
    exact CommentStyle.lf_not_mem_withMark ht hl
  · have hi : '\n' ∉ line.text.indent := fun h => hl (Text.mem_of_mem_indent h)
    have hb : '\n' ∉ line.text.body := fun h => hl (Text.mem_of_mem_body h)
    have hr' : '\n' ∉ r := fun h => hb (hr.subset h)
    simp [h, hi, hr']

/-- Whether a line is to lose its comment tokens and has nothing behind its indentation then. -/
def Empties (options : RewriteOptions) (style : CommentStyle) (zone : Zone) (line : Line) : Prop :=
  options.aim zone line = .uncomment ∧ style.uncomment? line.text = some line.text.indent

theorem textFor_of_empties (h : options.Empties style zone line) :
    options.textFor style zone line = line.text.indent := by
  rw [textFor, edit, h.1, Edit.apply_ofAim_uncomment, h.2, Option.getD_some]

/-- What is written ends as the line does, unless nothing is left of its body. -/
theorem getLast?_textFor (h : ¬ options.Empties style zone line) :
    (options.textFor style zone line).getLast? = line.text.getLast? := by
  rcases textFor_cases options style zone line with he | ⟨hb, -, he⟩ | ⟨r, hr, ha, hu, he⟩
  · rw [he]
  · rw [he, Text.withMark, ← List.append_assoc, Text.getLast?_append_body _ hb]
  · cases r with
    | nil =>
      rw [List.append_nil] at hu
      exact absurd ⟨ha, hu⟩ h
    | cons c r =>
      obtain ⟨front, hf⟩ := hr
      have hne : c :: r ≠ [] := List.cons_ne_nil c r
      calc (options.textFor style zone line).getLast?
          = (c :: r).getLast? := by rw [he, List.getLast?_append_of_ne_nil _ hne]
        _ = (line.text.indent ++ front ++ (c :: r)).getLast? :=
            (List.getLast?_append_of_ne_nil _ hne).symm
        _ = line.text.getLast? := by rw [List.append_assoc, hf, Text.indent_append_body]

/-- The row that is written for a line of a content comes back as it is, unless nothing is left of
the body of the line. -/
theorem again?_textFor {content : Text} (hl : line ∈ options.dialect.lines content)
    (h : ¬ options.Empties style zone line) :
    (Row.mk (options.textFor style zone line) line.ending).again? =
      some ⟨options.textFor style zone line, line.ending⟩ := by
  have hr := Text.again?_of_mem_rows (Dialect.row_mem_rows hl)
  exact Row.again?_of_getLast? hr (getLast?_textFor h)

theorem not_empties_of_not_isAllBlank
    (h : (options.textFor style zone line).isAllBlank = false) :
    ¬ options.Empties style zone line := by
  intro he
  rw [textFor_of_empties he, ← Bool.not_eq_true, Text.isAllBlank] at h
  exact h (List.all_eq_true.mpr fun c hc => Text.isBlank_of_mem_indent hc)

theorem isAllBlank_or_again?_textFor {content : Text}
    (hl : line ∈ options.dialect.lines content) :
    (options.textFor style zone line).isAllBlank = true ∨
      (Row.mk (options.textFor style zone line) line.ending).again? =
        some ⟨options.textFor style zone line, line.ending⟩ := by
  cases hb : (options.textFor style zone line).isAllBlank with
  | true => exact .inl rfl
  | false => exact .inr (again?_textFor hl (not_empties_of_not_isAllBlank hb))

theorem exists_of_mem_written {lines : List Line} {row : Row} (h : row ∈ options.written lines) :
    ∃ zone line, line ∈ lines ∧
      row = ⟨options.textFor (.detect options.dialect.token lines) zone line, line.ending⟩ := by
  rw [written_eq] at h
  obtain ⟨x, hx, rfl⟩ := List.mem_map.mp h
  exact ⟨x.1, x.2, Zone.mem_lines_of_mem_place hx, rfl⟩

variable {content : Text}

theorem joinable_written (ht : '\n' ∉ options.dialect.token) :
    Text.Joinable (options.written (options.dialect.lines content)) := by
  apply Text.joinable_of_endings (Text.joinable_rows content)
  · rw [map_ending_written, ← Dialect.map_row_lines (d := options.dialect), List.map_map]
    rfl
  · intro row hrow
    obtain ⟨zone, line, hl, rfl⟩ := exists_of_mem_written hrow
    exact lf_not_mem_textFor ht (Dialect.lf_not_mem_of_mem_lines hl)

/-- A row that is written comes back from the rewritten text as it is, unless it is blank. -/
theorem again?_of_mem_written {row : Row}
    (h : row ∈ options.written (options.dialect.lines content))
    (hb : row.text.isAllBlank = false) : row.again? = some row := by
  obtain ⟨zone, line, hl, rfl⟩ := exists_of_mem_written h
  exact again?_textFor hl (not_empties_of_not_isAllBlank hb)

/-- What comes back of a row that is written has the body of the row. -/
theorem body_of_again? {row row' : Row}
    (h : row.text.isAllBlank = true ∨ row.again? = some row) (hr : row.again? = some row') :
    row'.text.body = row.text.body := by
  rcases h with hblank | hself
  · rcases Row.eq_or_dropLast_of_again? hr with rfl | rfl
    · rfl
    · rw [Text.isAllBlank_iff.mp hblank, ← Text.isAllBlank_iff]
      exact List.all_eq_true.mpr fun c hc =>
        List.all_eq_true.mp hblank c (List.dropLast_subset _ hc)
  · rw [Option.some.inj (hself.symm.trans hr)]

theorem getElem?_rows_rewrite (ht : '\n' ∉ options.dialect.token) {row : Row} {i : Nat}
    (h : (options.written (options.dialect.lines content))[i]? = some row)
    (hb : row.text.isAllBlank = false) : (options.rewrite content).text.rows[i]? = some row := by
  rw [text_rewrite, Text.getElem?_rows_join (joinable_written ht), h, Option.bind_some,
    again?_of_mem_written (List.mem_of_getElem? h) hb]

/-- The lines of a rewritten text are those of the rows written, as they come back. -/
theorem lines_rewrite (ht : '\n' ∉ options.dialect.token) :
    options.dialect.lines (options.rewrite content).text =
      options.dialect.linesFrom 1
        ((options.written (options.dialect.lines content)).filterMap Row.again?) := by
  rw [text_rewrite, Dialect.lines, Text.rows_join (joinable_written ht)]

/-- A rewritten text has no more lines than the content. -/
theorem length_lines_rewrite_le (ht : '\n' ∉ options.dialect.token) :
    (options.dialect.lines (options.rewrite content).text).length ≤
      (options.dialect.lines content).length := by
  rw [lines_rewrite ht, Dialect.length_linesFrom]
  calc ((options.written (options.dialect.lines content)).filterMap Row.again?).length
      ≤ (options.written (options.dialect.lines content)).length := List.length_filterMap_le _ _
    _ = (options.dialect.lines content).length := by
        rw [written_eq, List.length_map, Zone.length_place]

/-- The line that a line is in the rewritten text, unless it is lost. -/
def lineAfter? (options : RewriteOptions) (style : CommentStyle) (zone : Zone) (line : Line) :
    Option Line :=
  (Row.mk (options.textFor style zone line) line.ending).again?.map fun row =>
    ⟨line.number, row.text, row.ending, options.dialect.kindOf row.text⟩

/-- Each line of a rewritten text is what one line of the content, at the same place, has become. -/
theorem getElem?_lines_rewrite (ht : '\n' ∉ options.dialect.token) (content : Text) (i : Nat) :
    (options.dialect.lines (options.rewrite content).text)[i]? =
      (options.dialect.lines content)[i]?.bind fun line =>
        options.lineAfter? (.detect options.dialect.token (options.dialect.lines content))
          (.behind ((options.dialect.lines content).take i)) line := by
  rw [Dialect.lines, Dialect.getElem?_linesFrom, text_rewrite,
    Text.getElem?_rows_join (joinable_written ht), getElem?_written]
  cases h : (options.dialect.lines content)[i]? with
  | none => rfl
  | some line =>
    rw [Option.map_some, Option.bind_some, Option.bind_some, lineAfter?,
      Dialect.number_of_getElem?_lines h]

end RegionToggle.RewriteOptions
