import RegionToggle.Proofs.Rewritten

/-!
# Foreign lines

A line of a section whose label does not name the platform is foreign. However regions and sections
are arranged, a rewrite leaves no foreign line live: each is blank or written as a comment. So a
line is live for one platform at most.
-/

namespace RegionToggle.RewriteOptions

variable {options : RewriteOptions}

/-- Whether the row written for the line at a place starts with the comment token behind its
indentation. -/
def Silences (options : RewriteOptions) (lines : List Line) (i : Nat) : Prop :=
  ∃ row, (options.written lines)[i]? = some row ∧ options.dialect.token <+: row.text.body

theorem silences_of_foreign {lines : List Line} {i : Nat} {line : Line} {label : Text}
    (hs : options.dialect.token.startsSolid = true) (hi : lines[i]? = some line)
    (hk : line.kind = .body) (hb : line.text.isAllBlank = false)
    (hl : LookBack.sectionLabel? (lines.take i) = some label)
    (hp : options.platform.isNamedBy label = false) : options.Silences lines i := by
  have hl' : (Zone.behind (lines.take i)).label? = some label := by rw [Zone.label?_behind, hl]
  have hs' : (CommentStyle.detect options.dialect.token lines).token.startsSolid = true := hs
  refine ⟨_, by rw [getElem?_written, hi, Option.map_some], ?_⟩
  rw [textFor_of_not_isNamedBy hk hl' hp]
  exact CommentStyle.token_prefix_comment hs' hb

/-- The row of a silenced line is a row of the rewritten text, at the place of the line. -/
theorem Silences.exists_row {content : Text} {i : Nat}
    (h : options.Silences (options.dialect.lines content) i)
    (hs : options.dialect.token.startsSolid = true) (ht : '\n' ∉ options.dialect.token) :
    ∃ row, (options.rewrite content).text.rows[i]? = some row ∧
      options.dialect.token <+: row.text.body := by
  obtain ⟨row, hi, hp⟩ := h
  obtain ⟨rest, hr⟩ := hp
  have hb : row.text.isAllBlank = false := by
    rw [← Text.startsSolid_body_iff, ← hr]
    exact Text.startsSolid_append hs rest
  exact ⟨row, getElem?_rows_rewrite ht hi hb, rest, hr⟩

/-- No foreign line is left live, whatever the arrangement of markers and headers, the policy and
the style of the file; and a line is left live for one platform at most. -/
theorem foreign_line_silenced (d : Dialect) (outside : OutsidePolicy) (content : Text)
    (hd : d.token.startsSolid = true) :
    let lines := d.lines content
    (∀ p, ((RewriteOptions.mk p d outside).rewrite content).text =
        Text.join ((RewriteOptions.mk p d outside).written lines) ∧
      ((RewriteOptions.mk p d outside).written lines).map Row.ending = lines.map Line.ending) ∧
    ∀ i line label, lines[i]? = some line → line.kind = .body → line.text.isAllBlank = false →
      LookBack.sectionLabel? (lines.take i) = some label →
      (∀ p, Platform.ofLabel? label ≠ some p →
        (RewriteOptions.mk p d outside).Silences lines i ∧
        ('\n' ∉ d.token → ∃ row,
          ((RewriteOptions.mk p d outside).rewrite content).text.rows[i]? = some row ∧
            d.token <+: row.text.body)) ∧
      ∀ p q, ¬ (RewriteOptions.mk p d outside).Silences lines i →
        ¬ (RewriteOptions.mk q d outside).Silences lines i → p = q := by
  intro lines
  refine ⟨fun p => ⟨text_rewrite _ content, map_ending_written _ lines⟩, ?_⟩
  intro i line label hi hk hb hl
  have hforeign : ∀ p, Platform.ofLabel? label ≠ some p →
      (RewriteOptions.mk p d outside).Silences lines i := by
    intro p hp
    have hn : p.isNamedBy label = false := by
      rw [← Bool.not_eq_true, Platform.isNamedBy_iff]
      exact hp
    exact silences_of_foreign hd hi hk hb hl hn
  refine ⟨fun p hp => ⟨hforeign p hp, fun ht => ?_⟩, fun p q hp hq => ?_⟩
  · have h : (RewriteOptions.mk p d outside).Silences
        ((RewriteOptions.mk p d outside).dialect.lines content) i := hforeign p hp
    exact h.exists_row hd ht
  · have hlp : Platform.ofLabel? label = some p := by
      by_contra h
      exact hp (hforeign p h)
    have hlq : Platform.ofLabel? label = some q := by
      by_contra h
      exact hq (hforeign q h)
    exact Option.some.inj (hlp.symm.trans hlq)

/-- A region that opens within another one, with a section of no known platform. -/
theorem foreign_line_silenced_solaris :
    let content := ("// PLATFORM_SWITCH_END\n// PLATFORM_SWITCH_START\n// Linux Configuration\n" ++
      "PLATFORM_SWITCH_START\n// Solaris Configuration\n\t/x\n").toList
    Dialect.standard.token.startsSolid = true ∧
      (RewriteOptions.mk .linux .standard .labelMatch).Silences
        (Dialect.standard.lines content) 5 := by
  intro content
  refine ⟨by decide, ?_⟩
  have h := (foreign_line_silenced .standard .labelMatch content (by decide)).2 5
    ⟨6, "\t/x".toList, .lf, .body⟩ "Solaris".toList (by decide +kernel) rfl (by decide)
    (by decide +kernel)
  exact (h.1 .linux (by decide)).1

end RegionToggle.RewriteOptions
