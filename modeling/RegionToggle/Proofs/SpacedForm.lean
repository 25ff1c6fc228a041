import RegionToggle.Proofs.CanonicalForm

/-!
# Spaced forms

The spaced form of a plain content has a space behind each token. A rewrite for another platform
finds the space by the comments that it meets, but if it leaves no line off, it leaves none of them,
and the way back has to be compact. These are the only contents that do not come back.
-/

namespace RegionToggle

/-- Whether no line of a content is off for a platform. -/
def Platform.AllOn (p : Platform) (outside : OutsidePolicy) (content : Text) : Prop :=
  ∀ i line, (Dialect.standard.lines content)[i]? = some line →
    p.isOff outside (.behind ((Dialect.standard.lines content).take i)) line = false

namespace Platform

variable {p : Platform} {outside : OutsidePolicy} {plain : Text} {style : CommentStyle}

theorem allOn_iff :
    p.AllOn outside plain ↔
      ∀ x ∈ Zone.place .outside (Dialect.standard.lines plain), p.isOff outside x.1 x.2 = false :=
  (Zone.forall_mem_place_iff (P := fun zone line => p.isOff outside zone line = false)).symm

instance decidableAllOn (p : Platform) (outside : OutsidePolicy) (content : Text) :
    Decidable (p.AllOn outside content) :=
  decidable_of_iff _ allOn_iff.symm

/-- Where no line is off, the form is the content itself, whatever the style. -/
theorem form_of_allOn (h : p.AllOn outside plain) : p.form outside style plain = plain := by
  have hput : Zone.retext (style.put (p.isOff outside)) .outside (Dialect.standard.lines plain) =
      Zone.retext (style.put fun _ _ => false) .outside (Dialect.standard.lines plain) := by
    apply List.map_congr_left
    intro x hx
    simp [CommentStyle.put, allOn_iff.mp h x hx]
  rw [form, CommentStyle.markUp_eq_join, hput, ← CommentStyle.markUp_eq_join,
    CommentStyle.markUp_never]

/-- Where some line is off, the space makes a difference. -/
theorem form_compact_ne_airy (hp : outside.IsPlain plain) (h : ¬ p.AllOn outside plain) :
    p.form outside .compact plain ≠ p.form outside .airy plain := by
  intro he
  apply h
  rw [allOn_iff]
  intro x hx
  have hlines := congrArg Dialect.standard.lines he
  rw [form, form, CommentStyle.lines_markUp rfl hp (OutsidePolicy.offers_isOff p),
    CommentStyle.lines_markUp rfl hp (OutsidePolicy.offers_isOff p)] at hlines
  have hx' := congrArg Line.text (List.map_inj_left.mp hlines x hx)
  have hlen := congrArg List.length hx'
  rw [← Bool.not_eq_true]
  intro hoff
  simp [CommentStyle.put, hoff, Text.withMark, CommentStyle.mark, CommentStyle.compact,
    CommentStyle.airy, CommentStyle.gap] at hlen

/-- With outside lines preserved, lines that are off stand inside regions. -/
theorem isInside_of_isOff {zone : Zone} {line : Line} (h : p.isOff .preserve zone line = true) :
    zone.isInside = true := by
  cases hz : zone.isInside with
  | true => rfl
  | false => simp [isOff, hz] at h

/-- A spaced form shows its style where some line is off. -/
theorem detect_form_airy (hp : OutsidePolicy.preserve.IsPlain plain)
    (h : ¬ p.AllOn .preserve plain) :
    CommentStyle.detect Dialect.standardToken
      (Dialect.standard.lines (p.form .preserve .airy plain)) = .airy := by
  rw [form, CommentStyle.detect_markUp rfl hp (OutsidePolicy.offers_isOff p), CommentStyle.airy,
    CommentStyle.mk.injEq]
  refine ⟨rfl, ?_⟩
  rw [allOn_iff, not_forall] at h
  obtain ⟨x, hx⟩ := h
  rw [Classical.not_imp, Bool.not_eq_false] at hx
  rw [Bool.true_and, List.any_eq_true]
  exact ⟨x, hx.1, by rw [hx.2, isInside_of_isOff hx.2]; rfl⟩

/-- Where some line is off, a rewrite of the spaced form leads to that of its platform. -/
theorem rewrite_form_airy (hp : OutsidePolicy.preserve.IsPlain plain)
    (h : ¬ p.AllOn .preserve plain) (q : Platform) :
    ((RewriteOptions.mk q .standard .preserve).rewrite (p.form .preserve .airy plain)).text =
      q.form .preserve .airy plain :=
  CommentStyle.rewrite_markUp rfl hp (OutsidePolicy.offers_isOff p) q (detect_form_airy hp h)

/-- A spaced form comes back from another platform, byte by byte, unless all lines are on for the
other platform and not for its own. -/
theorem rewrite_back_iff (plain : Text) (hp : OutsidePolicy.preserve.IsPlain plain)
    (p q : Platform) :
    let run (p : Platform) (content : Text) : Text :=
      ((RewriteOptions.mk p .standard .preserve).rewrite content).text
    let spaced : Text := p.form .preserve .airy plain
    run p (run q spaced) = spaced ↔ (q.AllOn .preserve plain → p.AllOn .preserve plain) := by
  intro run spaced
  by_cases hpon : p.AllOn .preserve plain
  · have hplain : spaced = plain := form_of_allOn hpon
    have hback : run p (run q plain) = plain := by
      calc run p (run q plain)
          = run p (q.form .preserve .compact plain) :=
            congrArg (run p) (OutsidePolicy.rewrite_plain hp q)
        _ = p.form .preserve .compact plain := OutsidePolicy.rewrite_form hp q p
        _ = plain := form_of_allOn hpon
    exact iff_of_true (by rw [hplain, hback]) fun _ => hpon
  · have hthere : run q spaced = q.form .preserve .airy plain := rewrite_form_airy hp hpon q
    by_cases hqon : q.AllOn .preserve plain
    -- on the way there the last mark went, and with it the style
    · have hback : run p (run q spaced) = p.form .preserve .compact plain := by
        rw [hthere, form_of_allOn hqon]
        exact OutsidePolicy.rewrite_plain hp p
      rw [hback]
      exact iff_of_false (form_compact_ne_airy hp hpon) fun h => hpon (h hqon)
    · have hback : run p (run q spaced) = spaced := by
        rw [hthere]
        exact rewrite_form_airy hp hqon p
      exact iff_of_true hback fun h => absurd h hqon

/-- Two sections, of which each platform has one off. -/
theorem rewrite_back_iff_two_sections :
    let plain := ("// PLATFORM_SWITCH_START\n// Windows Configuration\n\ta\n" ++
      "// Linux Configuration\n\tb\n// PLATFORM_SWITCH_END\n").toList
    let spaced := ("// PLATFORM_SWITCH_START\n// Windows Configuration\n\ta\n" ++
      "// Linux Configuration\n\t// b\n// PLATFORM_SWITCH_END\n").toList
    OutsidePolicy.preserve.IsPlain plain ∧
      ((RewriteOptions.mk .windows .standard .preserve).rewrite
        ((RewriteOptions.mk .linux .standard .preserve).rewrite spaced).text).text = spaced := by
  intro plain spaced
  have hp : OutsidePolicy.preserve.IsPlain plain := by decide +kernel
  have hspaced : Platform.windows.form .preserve .airy plain = spaced := by decide +kernel
  have hlinux : ¬ Platform.linux.AllOn .preserve plain := by decide +kernel
  have h := (rewrite_back_iff plain hp .windows .linux).mpr fun hon => absurd hon hlinux
  rw [hspaced] at h
  exact ⟨hp, h⟩

/-- One section that is off, put on: nothing is left to show that there was a space. -/
theorem rewrite_back_lone_section :
    let plain := ("// PLATFORM_SWITCH_START\n// MacOS Configuration\nx\n" ++
      "// PLATFORM_SWITCH_END\n").toList
    let run (p : Platform) (content : Text) : Text :=
      ((RewriteOptions.mk p .standard .preserve).rewrite content).text
    OutsidePolicy.preserve.IsPlain plain ∧
      Platform.windows.form .preserve .airy plain =
        ("// PLATFORM_SWITCH_START\n// MacOS Configuration\n// x\n" ++
          "// PLATFORM_SWITCH_END\n").toList ∧
      run .windows (run .macOS (Platform.windows.form .preserve .airy plain)) =
        ("// PLATFORM_SWITCH_START\n// MacOS Configuration\n//x\n" ++
          "// PLATFORM_SWITCH_END\n").toList ∧
      run .windows (run .macOS (Platform.windows.form .preserve .airy plain)) ≠
        Platform.windows.form .preserve .airy plain := by
  decide +kernel

end Platform

end RegionToggle
