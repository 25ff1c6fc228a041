import RegionToggle.Rewrite.Basic
import RegionToggle.Proofs.CommentForm
import RegionToggle.Proofs.LookBack
import RegionToggle.Proofs.Recut

/-!
# The rows that a rewrite writes

A rewrite writes one row for each line, with the ending of the line, and its text is these rows
joined. What is written depends on the line, the zone it stands in and the style of the file. Lines
whose texts are exchanged for others of the same kinds keep their zones, and are the lines of what
they are joined to.
-/

namespace RegionToggle

def Line.row (line : Line) : Row := ⟨line.text, line.ending⟩

namespace Dialect

variable {d : Dialect}

@[simp] theorem map_row_linesFrom (first : Nat) (rows : List Row) :
    (d.linesFrom first rows).map Line.row = rows := by
  induction rows generalizing first with
  | nil => rfl
  | cons row more ih => simp [linesFrom, Line.row, ih]

@[simp] theorem map_row_lines (content : Text) : (d.lines content).map Line.row = content.rows :=
  map_row_linesFrom 1 _

@[simp] theorem length_linesFrom (first : Nat) (rows : List Row) :
    (d.linesFrom first rows).length = rows.length := by
  induction rows generalizing first with
  | nil => rfl
  | cons row more ih => simp [linesFrom, ih]

theorem getElem?_linesFrom (first : Nat) (rows : List Row) (i : Nat) :
    (d.linesFrom first rows)[i]? =
      rows[i]?.map fun row => ⟨first + i, row.text, row.ending, d.kindOf row.text⟩ := by
  induction rows generalizing first i with
  | nil => rfl
  | cons row more ih =>
    cases i with
    | zero => rfl
    | succ i =>
      rw [linesFrom, List.getElem?_cons_succ, List.getElem?_cons_succ, ih, Nat.add_assoc,
        Nat.add_comm 1]

theorem number_of_getElem?_lines {content : Text} {i : Nat} {line : Line}
    (h : (d.lines content)[i]? = some line) : line.number = 1 + i := by
  rw [lines, getElem?_linesFrom, Option.map_eq_some_iff] at h
  obtain ⟨row, -, rfl⟩ := h
  rfl

theorem kind_of_mem_linesFrom {first : Nat} {rows : List Row} {line : Line}
    (h : line ∈ d.linesFrom first rows) : line.kind = d.kindOf line.text := by
  obtain ⟨i, hi⟩ := List.mem_iff_getElem?.mp h
  rw [getElem?_linesFrom, Option.map_eq_some_iff] at hi
  obtain ⟨row, -, rfl⟩ := hi
  rfl

variable {content : Text} {line : Line}

theorem row_mem_rows (h : line ∈ d.lines content) : line.row ∈ content.rows := by
  rw [← map_row_lines (d := d)]
  exact List.mem_map_of_mem h

theorem lf_not_mem_of_mem_lines (h : line ∈ d.lines content) : '\n' ∉ line.text :=
  Text.lf_not_mem_of_joinable (Text.joinable_rows content) (row_mem_rows h)

end Dialect

namespace Edit

@[simp] theorem apply_ofAim_keep (style : CommentStyle) (t : Text) :
    (ofAim style t .keep).apply t = t := rfl

@[simp] theorem apply_ofAim_comment (style : CommentStyle) (t : Text) :
    (ofAim style t .comment).apply t = (style.comment? t).getD t := by
  rw [ofAim]
  cases style.comment? t <;> rfl

@[simp] theorem apply_ofAim_uncomment (style : CommentStyle) (t : Text) :
    (ofAim style t .uncomment).apply t = (style.uncomment? t).getD t := by
  rw [ofAim]
  cases style.uncomment? t <;> rfl

end Edit

namespace RewriteOptions

def sectionAim (options : RewriteOptions) : Option Text → Aim
  | none => .keep
  | some label => if options.platform.isNamedBy label then .uncomment else .comment

/-- Markers stay; outside the policy decides; inside body lines are edited, by their section. -/
theorem aim_eq (options : RewriteOptions) (zone : Zone) (line : Line) :
    options.aim zone line =
      if line.isMarker then .keep
      else if !zone.isInside then options.outsideAim line.text
      else if line.kind = .body then options.sectionAim zone.label?
      else .keep := by
  obtain ⟨number, text, ending, kind⟩ := line
  cases kind with
  | opening => simp [aim, Line.isMarker]
  | closing => simp [aim, Line.isMarker]
  | header label => cases zone <;> simp [aim, Line.isMarker, Zone.isInside]
  | body =>
    cases zone with
    | outside => simp [aim, Line.isMarker, Zone.isInside]
    | inside openedAt label? =>
      cases label? <;> simp [aim, Line.isMarker, Zone.isInside, Zone.label?, sectionAim]

/-- The text that is written for a line in a zone. -/
def textFor (options : RewriteOptions) (style : CommentStyle) (zone : Zone) (line : Line) : Text :=
  (options.edit style zone line).apply line.text

variable {options : RewriteOptions} {style : CommentStyle} {zone : Zone} {line : Line}
  {label : Text}

theorem aim_of_label (hk : line.kind = .body) (hl : zone.label? = some label) :
    options.aim zone line = if options.platform.isNamedBy label then .uncomment else .comment := by
  cases zone with
  | outside => simp [Zone.label?] at hl
  | inside openedAt label? => simp [aim_eq, Line.isMarker, Zone.isInside, hk, hl, sectionAim]

/-- Body lines in sections of the platform lose their comment tokens. -/
theorem textFor_of_isNamedBy (hk : line.kind = .body) (hl : zone.label? = some label)
    (hp : options.platform.isNamedBy label = true) :
    options.textFor style zone line = (style.uncomment? line.text).getD line.text := by
  rw [textFor, edit, aim_of_label hk hl, if_pos hp, Edit.apply_ofAim_uncomment]

/-- Body lines in sections of other labels are commented out. -/
theorem textFor_of_not_isNamedBy (hk : line.kind = .body) (hl : zone.label? = some label)
    (hp : options.platform.isNamedBy label = false) :
    options.textFor style zone line = (style.comment? line.text).getD line.text := by
  rw [textFor, edit, aim_of_label hk hl, hp, if_neg Bool.false_ne_true, Edit.apply_ofAim_comment]

def written (options : RewriteOptions) (lines : List Line) : List Row :=
  (options.edits lines).map fun (line, edit) => ⟨edit.apply line.text, line.ending⟩

/-- The rewritten text is what the rows come to. -/
theorem text_render (options : RewriteOptions) (lines : List Line) :
    (options.render lines).text = Text.join (options.written lines) := by
  rw [render, written, Text.join, List.flatMap_map]

theorem text_rewrite (options : RewriteOptions) (content : Text) :
    (options.rewrite content).text = Text.join (options.written (options.dialect.lines content)) :=
  options.text_render _

theorem written_eq (options : RewriteOptions) (lines : List Line) :
    options.written lines = (Zone.place .outside lines).map fun (zone, line) =>
      ⟨options.textFor (.detect options.dialect.token lines) zone line, line.ending⟩ := by
  rw [written, edits, List.map_map]
  rfl

theorem getElem?_written (options : RewriteOptions) (lines : List Line) (i : Nat) :
    (options.written lines)[i]? = lines[i]?.map fun line =>
      ⟨options.textFor (.detect options.dialect.token lines) (Zone.behind (lines.take i)) line,
        line.ending⟩ := by
  rw [written_eq, List.getElem?_map, Zone.getElem?_place, Option.map_map]
  rfl

theorem map_ending_written (options : RewriteOptions) (lines : List Line) :
    (options.written lines).map Row.ending = lines.map Line.ending := by
  rw [written_eq, List.map_map]
  conv => rhs; rw [← Zone.map_snd_place .outside lines, List.map_map]
  rfl

end RewriteOptions

namespace Zone

/-- Lines with other texts, where the text may depend on the zone. -/
def retext (f : Zone → Line → Text) (zone : Zone) (lines : List Line) : List Line :=
  (place zone lines).map fun (zone, line) => { line with text := f zone line }

theorem retext_cons (f : Zone → Line → Text) (zone : Zone) (line : Line) (more : List Line) :
    retext f zone (line :: more) =
      { line with text := f zone line } :: retext f (zone.next line) more := rfl

/-- Lines with other texts stand in the zones they stood in. -/
theorem place_retext (f : Zone → Line → Text) (zone : Zone) (lines : List Line) :
    place zone (retext f zone lines) =
      (place zone lines).map fun (zone, line) => (zone, { line with text := f zone line }) := by
  induction lines generalizing zone with
  | nil => rfl
  | cons line more ih =>
    rw [retext_cons, place, place, List.map_cons, ← ih]
    rfl

theorem linesFrom_retext {d : Dialect} {f : Zone → Line → Text} {zone : Zone} {first : Nat}
    {rows : List Row} (h : ∀ x ∈ place zone (d.linesFrom first rows),
      d.kindOf (f x.1 x.2) = x.2.kind) :
    d.linesFrom first ((retext f zone (d.linesFrom first rows)).map Line.row) =
      retext f zone (d.linesFrom first rows) := by
  induction rows generalizing zone first with
  | nil => rfl
  | cons row more ih =>
    rw [Dialect.linesFrom, retext_cons, List.map_cons, Dialect.linesFrom]
    rw [Dialect.linesFrom, place] at h
    rw [ih fun x hx => h x (List.mem_cons_of_mem _ hx)]
    congr 1
    simp [Line.row, h _ List.mem_cons_self]

theorem mem_lines_of_mem_place {zone : Zone} {lines : List Line} {x : Zone × Line}
    (h : x ∈ place zone lines) : x.2 ∈ lines := by
  rw [← map_snd_place zone lines]
  exact List.mem_map_of_mem h

theorem map_ending_retext (f : Zone → Line → Text) (zone : Zone) (lines : List Line) :
    ((retext f zone lines).map Line.row).map Row.ending = lines.map Line.ending := by
  conv => rhs; rw [← map_snd_place zone lines, List.map_map]
  rw [retext, List.map_map, List.map_map]
  rfl

/-- Texts that keep the kind and the end of each line give the lines of what they are joined to. -/
theorem lines_join_retext {d : Dialect} {f : Zone → Line → Text} {content : Text}
    (hk : ∀ x ∈ place .outside (d.lines content), d.kindOf (f x.1 x.2) = x.2.kind)
    (hn : ∀ x ∈ place .outside (d.lines content), '\n' ∉ f x.1 x.2)
    (hl : ∀ x ∈ place .outside (d.lines content), (f x.1 x.2).getLast? = x.2.text.getLast?) :
    d.lines (Text.join ((retext f .outside (d.lines content)).map Line.row)) =
      retext f .outside (d.lines content) := by
  have hj : Text.Joinable ((retext f .outside (d.lines content)).map Line.row) := by
    apply Text.joinable_of_endings (Text.joinable_rows content)
    · rw [map_ending_retext, ← Dialect.map_row_lines (d := d), List.map_map]
      rfl
    · intro row hrow
      rw [retext, List.map_map] at hrow
      obtain ⟨x, hx, rfl⟩ := List.mem_map.mp hrow
      exact hn x hx
  have hs : ∀ row ∈ (retext f .outside (d.lines content)).map Line.row,
      row.again? = some row := by
    intro row hrow
    rw [retext, List.map_map] at hrow
    obtain ⟨x, hx, rfl⟩ := List.mem_map.mp hrow
    have hr := Dialect.row_mem_rows (mem_lines_of_mem_place hx)
    exact Row.again?_of_getLast? (Text.again?_of_mem_rows hr) (hl x hx)
  rw [Dialect.lines, Text.rows_join_of_settled hj hs]
  exact linesFrom_retext hk

end Zone

end RegionToggle
