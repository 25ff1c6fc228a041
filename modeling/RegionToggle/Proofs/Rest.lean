import RegionToggle.Proofs.Rewritten

/-!
# Texts at rest

A text is at rest under a rewrite if there is nothing to do about any of its lines. That does not
depend on the style of the file, and it is the same for the rows that a rewrite writes as for the
lines of the rewritten text: a row that is lost or loses a carriage return there is blank.
-/

namespace RegionToggle

/-- Whether there is nothing to do about a line in a zone. -/
def RewriteOptions.Rests (options : RewriteOptions) (zone : Zone) (line : Line) : Prop :=
  match options.aim zone line with
  | .keep => True
  | .comment => line.text.isAllBlank = true ∨ options.dialect.token <+: line.text.body
  | .uncomment => CommentStyle.isComment options.dialect.token line.text = false

namespace RewriteOptions

variable {options : RewriteOptions}

theorem edit_eq_kept_iff {style : CommentStyle} {zone : Zone} {line : Line}
    (hs : style.token = options.dialect.token) :
    options.edit style zone line = .kept ↔ options.Rests zone line := by
  rw [edit, Rests]
  cases options.aim zone line with
  | keep => exact iff_of_true rfl trivial
  | comment =>
    simp only
    rw [← hs, ← CommentStyle.comment?_eq_none_iff, Edit.ofAim]
    cases style.comment? line.text <;> simp
  | uncomment =>
    simp only
    rw [← hs, ← CommentStyle.uncomment?_eq_none_iff, Edit.ofAim]
    cases style.uncomment? line.text <;> simp

theorem edits_kept_iff (lines : List Line) :
    (∀ x ∈ options.edits lines, x.2 = .kept) ↔
      ∀ x ∈ Zone.place .outside lines, options.Rests x.1 x.2 := by
  have hs : (CommentStyle.detect options.dialect.token lines).token = options.dialect.token := rfl
  constructor
  · intro h x hx
    exact (edit_eq_kept_iff hs).mp (h _ (List.mem_map_of_mem hx))
  · intro h x hx
    obtain ⟨y, hy, rfl⟩ := List.mem_map.mp hx
    exact (edit_eq_kept_iff hs).mpr (h y hy)

/-- No edit is counted exactly if every line is kept. -/
theorem counts_eq_zero_iff (options : RewriteOptions) (lines : List Line) :
    ((options.render lines).stats.commented = 0 ∧ (options.render lines).stats.uncommented = 0) ↔
      ∀ x ∈ options.edits lines, x.2 = .kept := by
  simp only [render, List.countP_eq_zero, ← forall_and]
  refine forall₂_congr fun x _ => ?_
  cases x.2 <;> simp [Edit.isCommented, Edit.isUncommented]

/-- A text comes back unchanged and without a counted edit exactly if it is at rest. -/
theorem rewrite_rests_iff (content : Text) :
    ((options.rewrite content).text = content ∧ (options.rewrite content).stats.commented = 0 ∧
        (options.rewrite content).stats.uncommented = 0) ↔
      ∀ x ∈ Zone.place .outside (options.dialect.lines content), options.Rests x.1 x.2 := by
  rw [← edits_kept_iff, rewrite, counts_eq_zero_iff, and_iff_right_iff_imp]
  intro h
  have hw : options.written (options.dialect.lines content) =
      (options.dialect.lines content).map Line.row := by
    conv => rhs; rw [← Zone.map_snd_place .outside (options.dialect.lines content)]
    rw [written_eq, List.map_map]
    apply List.map_congr_left
    intro x hx
    have hk : options.edit (.detect options.dialect.token (options.dialect.lines content))
        x.1 x.2 = .kept := h _ (List.mem_map_of_mem hx)
    simp [textFor, hk, Edit.apply, Line.row]
  rw [text_render, hw, Dialect.map_row_lines, Text.join_rows]

/-- With outside lines preserved, what is to be done depends on the kind of the line alone. -/
theorem aim_of_preserve {zone : Zone} {line : Line} (hp : options.outside = .preserve) :
    options.aim zone line =
      if line.kind = .body then options.sectionAim zone.label? else .keep := by
  rw [aim_eq]
  cases zone with
  | outside => cases hk : line.kind <;> simp [Line.isMarker, hk, outsideAim, hp, Zone.isInside,
      Zone.label?, sectionAim]
  | inside openedAt label? => cases hk : line.kind <;> simp [Line.isMarker, hk, Zone.isInside]

/-- With outside lines preserved, a line is at rest if it is a comment exactly where its section
belongs to another platform. -/
theorem rests_iff {zone : Zone} {line : Line} (hp : options.outside = .preserve)
    (ht : options.dialect.token ≠ []) :
    options.Rests zone line ↔
      (line.kind = .body → line.text.isAllBlank = false → ∀ label, zone.label? = some label →
        (CommentStyle.isComment options.dialect.token line.text = true ↔
          options.platform.isNamedBy label = false)) := by
  rw [Rests, aim_of_preserve hp]
  by_cases hk : line.kind = .body
  · rw [if_pos hk]
    cases hl : zone.label? with
    | none => simp [sectionAim]
    | some label =>
      cases hn : options.platform.isNamedBy label with
      | true =>
        have hc : CommentStyle.isComment options.dialect.token line.text = true →
            line.text.isAllBlank = false := CommentStyle.not_isAllBlank_of_isComment
        cases hb : CommentStyle.isComment options.dialect.token line.text <;>
          simp_all [sectionAim]
      | false =>
        cases hb : line.text.isAllBlank <;>
          simp [sectionAim, hn, hk, CommentStyle.isComment_iff, ht]
  · rw [if_neg hk]
    exact iff_of_true trivial fun h => absurd h hk

theorem rests_of_isAllBlank {zone : Zone} {line : Line} (h : line.text.isAllBlank = true) :
    options.Rests zone line := by
  rw [Rests]
  cases options.aim zone line with
  | keep => trivial
  | comment => exact .inl h
  | uncomment =>
    simp only
    rw [← Bool.not_eq_true]
    intro hc
    rw [CommentStyle.not_isAllBlank_of_isComment hc] at h
    exact absurd h (by decide)

theorem rests_congr {zone : Zone} {line line' : Line} (hp : options.outside = .preserve)
    (hk : line.kind = line'.kind) (hb : line.text.body = line'.text.body) :
    options.Rests zone line ↔ options.Rests zone line' := by
  have ha : options.aim zone line = options.aim zone line' := by
    rw [aim_of_preserve hp, aim_of_preserve hp, hk]
  have hblank : line.text.isAllBlank = line'.text.isAllBlank := by
    rw [Bool.eq_iff_iff, Text.isAllBlank_iff, Text.isAllBlank_iff, hb]
  rw [Rests, Rests, ha, hblank, hb, CommentStyle.isComment_congr hb]

/-- Rows whose texts are blank where they do not come back are at rest if what comes back is. -/
theorem rests_recut_iff (hp : options.outside = .preserve) (ha : options.dialect.Apart)
    {rs : List Row} (h : ∀ row ∈ rs, row.text.isAllBlank = true ∨ row.again? = some row)
    (hj : Text.Joinable rs) (zone : Zone) (first : Nat) :
    (∀ x ∈ Zone.place zone (options.dialect.linesFrom first (rs.filterMap Row.again?)),
        options.Rests x.1 x.2) ↔
      ∀ x ∈ Zone.place zone (options.dialect.linesFrom first rs), options.Rests x.1 x.2 := by
  induction rs generalizing zone first with
  | nil => rfl
  | cons row more ih =>
    have hm := fun r hr => h r (List.mem_cons_of_mem _ hr)
    cases hr : row.again? with
    | none =>
      -- only the last row can be lost, and it is empty then
      obtain rfl := Row.again?_eq_none_iff.mp hr
      obtain rfl : more = [] := hj.2.1 rfl
      rw [List.filterMap_cons_none hr]
      refine iff_of_true (by simp [Dialect.linesFrom, Zone.place]) fun x hx => ?_
      obtain rfl := List.mem_singleton.mp hx
      exact rests_of_isAllBlank rfl
    | some row' =>
      have hb := body_of_again? (h row List.mem_cons_self) hr
      have hk : options.dialect.kindOf row'.text = options.dialect.kindOf row.text := by
        rw [← Dialect.kindOf_body ha, hb, Dialect.kindOf_body ha]
      have hn : zone.next ⟨first, row'.text, row'.ending, options.dialect.kindOf row'.text⟩ =
          zone.next ⟨first, row.text, row.ending, options.dialect.kindOf row.text⟩ :=
        Zone.next_congr zone rfl hk
      rw [List.filterMap_cons_some hr, Dialect.linesFrom, Dialect.linesFrom, Zone.place,
        Zone.place, List.forall_mem_cons, List.forall_mem_cons, hn, ih hm hj.2.2]
      exact and_congr_left' (rests_congr hp hk hb)

end RewriteOptions

end RegionToggle
