import RegionToggle.Proofs.StyleVote

/-!
# Canonical forms

A plain content, marked on the lines that are off for a platform, is the canonical form of that
content for the platform. In the compact style rewrites lead from the plain content and from any
canonical form to the canonical form for the platform they are for, byte by byte, so that only the
last of several rewrites counts.
-/

namespace RegionToggle

namespace CommentStyle

variable {style : CommentStyle} {choice : Zone → Line → Bool} {outside : OutsidePolicy}
  {content : Text}

theorem markUp_eq_join (style : CommentStyle) (choice : Zone → Line → Bool) (content : Text) :
    style.markUp choice content =
      Text.join ((Zone.retext (style.put choice) .outside (Dialect.standard.lines content)).map
        Line.row) := by
  rw [markUp]
  apply congrArg Text.join
  apply List.ext_getElem?
  intro i
  rw [Zone.retext, List.getElem?_mapIdx, List.getElem?_map, List.getElem?_map, Zone.getElem?_place,
    Option.map_map, Option.map_map]
  rfl

/-- Nothing chosen, nothing marked. -/
theorem markUp_never (style : CommentStyle) (content : Text) :
    style.markUp (fun _ _ => false) content = content := by
  have h : Zone.retext (style.put fun _ _ => false) .outside (Dialect.standard.lines content) =
      Dialect.standard.lines content := by
    conv => rhs; rw [← Zone.map_snd_place .outside (Dialect.standard.lines content)]
    rfl
  rw [markUp_eq_join, h, Dialect.map_row_lines, Text.join_rows]

/-- A marked content has the lines of the content, with the marks. -/
theorem lines_markUp (hs : style.token = Dialect.standardToken) (hp : outside.IsPlain content)
    (hc : outside.Offers choice) :
    Dialect.standard.lines (style.markUp choice content) =
      Zone.retext (style.put choice) .outside (Dialect.standard.lines content) := by
  rw [markUp_eq_join]
  apply Zone.lines_join_retext
  · intro x hx
    rw [Dialect.kind_of_mem_linesFrom (Zone.mem_lines_of_mem_place hx), put]
    split
    · next h =>
      have hhead := OutsidePolicy.isPlain_iff.mp hp x hx (hc.mayEdit h)
      exact kindOf_withMark Dialect.standard_apart hs (not_token_prefix_body hhead)
    · rfl
  · intro x hx
    have hlf := Dialect.lf_not_mem_of_mem_lines (Zone.mem_lines_of_mem_place hx)
    rw [put]
    split
    · exact lf_not_mem_withMark (by rw [hs]; decide) hlf
    · exact hlf
  · intro x hx
    rw [put]
    split
    · next h =>
      rw [Text.withMark, ← List.append_assoc, Text.getLast?_append_body _ (hc.not_isAllBlank h)]
    · rfl

/-- The marks inside regions alone decide on the style of a marked content. -/
theorem detect_markUp (hs : style.token = Dialect.standardToken) (hp : outside.IsPlain content)
    (hc : outside.Offers choice) :
    detect Dialect.standardToken (Dialect.standard.lines (style.markUp choice content)) =
      ⟨Dialect.standardToken, style.spaced &&
        (Zone.place .outside (Dialect.standard.lines content)).any fun x =>
          x.1.isInside && choice x.1 x.2⟩ := by
  rw [lines_markUp hs hp hc, ← hs]
  exact detect_retext fun _ _ hx => voteIn?_put hs (OutsidePolicy.isPlain_iff.mp hp _ hx) hc

/-- Under its style, a rewrite takes a marked content to the form that the platform has it in. -/
theorem rewrite_markUp (hs : style.token = Dialect.standardToken) (hp : outside.IsPlain content)
    (hc : outside.Offers choice) (q : Platform)
    (hd : detect Dialect.standardToken (Dialect.standard.lines (style.markUp choice content)) =
      style) :
    ((RewriteOptions.mk q .standard outside).rewrite (style.markUp choice content)).text =
      style.markUp (q.isOff outside) content := by
  have hw : (RewriteOptions.mk q .standard outside).written
      (Dialect.standard.lines (style.markUp choice content)) =
      (Zone.retext (style.put (q.isOff outside)) .outside (Dialect.standard.lines content)).map
        Line.row := by
    have hd' : detect (RewriteOptions.mk q .standard outside).dialect.token
        (Dialect.standard.lines (style.markUp choice content)) = style := hd
    rw [RewriteOptions.written_eq, hd', lines_markUp hs hp hc, Zone.place_retext, Zone.retext,
      List.map_map, List.map_map]
    apply List.map_congr_left
    intro x hx
    have hline : (RewriteOptions.mk q .standard outside).textFor style x.1
        { x.2 with text := style.put choice x.1 x.2 } = style.put (q.isOff outside) x.1 x.2 :=
      RewriteOptions.textFor_put hs (OutsidePolicy.isPlain_iff.mp hp x hx) hc
    simp only [Function.comp_apply, hline, Line.row]
  rw [RewriteOptions.text_rewrite, markUp_eq_join style (q.isOff outside), ← hw]

end CommentStyle

/-- The form of a content for a platform: the lines that are off for it carry the mark. -/
def Platform.form (p : Platform) (outside : OutsidePolicy) (style : CommentStyle) (content : Text) :
    Text :=
  style.markUp (p.isOff outside) content

namespace OutsidePolicy

/-- A content after rewrites for some platforms, one after the other. -/
def rewriteAll (outside : OutsidePolicy) (content : Text) (ps : List Platform) : Text :=
  ps.foldl (fun content p => ((RewriteOptions.mk p .standard outside).rewrite content).text) content

variable {outside : OutsidePolicy} {plain : Text}

theorem rewriteAll_concat (content : Text) (ps : List Platform) (q : Platform) :
    outside.rewriteAll content (ps ++ [q]) =
      ((RewriteOptions.mk q .standard outside).rewrite (outside.rewriteAll content ps)).text := by
  rw [rewriteAll, List.foldl_concat]
  rfl

/-- One rewrite leads from any compact marks to the form for its platform. -/
theorem rewrite_compact (hp : outside.IsPlain plain) {choice : Zone → Line → Bool}
    (hc : outside.Offers choice) (q : Platform) :
    ((RewriteOptions.mk q .standard outside).rewrite
      (CommentStyle.compact.markUp choice plain)).text = q.form outside .compact plain := by
  apply CommentStyle.rewrite_markUp rfl hp hc q
  rw [CommentStyle.detect_markUp rfl hp hc]
  rfl

theorem rewrite_form (hp : outside.IsPlain plain) (p q : Platform) :
    ((RewriteOptions.mk q .standard outside).rewrite (p.form outside .compact plain)).text =
      q.form outside .compact plain :=
  rewrite_compact hp (offers_isOff p) q

theorem rewrite_plain (hp : outside.IsPlain plain) (q : Platform) :
    ((RewriteOptions.mk q .standard outside).rewrite plain).text =
      q.form outside .compact plain := by
  have h := rewrite_compact hp offers_never q
  rwa [CommentStyle.markUp_never] at h

/-- However many rewrites there are, they do not leave the plain content and its forms. -/
theorem exists_rewriteAll_eq_form (hp : outside.IsPlain plain) {start : Text}
    (hs : start = plain ∨ ∃ p : Platform, start = p.form outside .compact plain)
    (ps : List Platform) :
    outside.rewriteAll start ps = plain ∨
      ∃ p : Platform, outside.rewriteAll start ps = p.form outside .compact plain := by
  induction ps generalizing start with
  | nil => exact hs
  | cons q ps ih =>
    apply ih
    right
    rcases hs with rfl | ⟨p, rfl⟩
    · exact ⟨q, rewrite_plain hp q⟩
    · exact ⟨q, rewrite_form hp p q⟩

/-- There is nothing to do about the form for the platform itself. -/
theorem rests_form (hp : outside.IsPlain plain) (p : Platform) :
    ∀ x ∈ Zone.place .outside (Dialect.standard.lines (p.form outside .compact plain)),
      (RewriteOptions.mk p .standard outside).Rests x.1 x.2 := by
  intro x hx
  rw [Platform.form, CommentStyle.lines_markUp rfl hp (offers_isOff p), Zone.place_retext] at hx
  obtain ⟨y, hy, rfl⟩ := List.mem_map.mp hx
  exact RewriteOptions.rests_put rfl (OutsidePolicy.isPlain_iff.mp hp y hy)

/-- On the compact forms of a plain content, and on the content itself, rewrites lead to the form
for their platform, byte by byte: only the last of several counts, and repeating it does nothing. -/
theorem rewriteAll_concat_eq_form (outside : OutsidePolicy) (plain : Text)
    (hp : outside.IsPlain plain) :
    let form (p : Platform) : Text := p.form outside .compact plain
    let run (p : Platform) (content : Text) : Rewritten :=
      (RewriteOptions.mk p .standard outside).rewrite content
    (∀ p q, (run q (form p)).text = form q) ∧ (∀ q, (run q plain).text = form q) ∧
      (∀ p, (run p (form p)).stats.commented = 0 ∧ (run p (form p)).stats.uncommented = 0) ∧
      ∀ start, (start = plain ∨ ∃ p, start = form p) →
        ∀ ps q, outside.rewriteAll start (ps ++ [q]) = form q := by
  intro form run
  refine ⟨rewrite_form hp, rewrite_plain hp, fun p => ?_, fun start hs ps q => ?_⟩
  · exact ((RewriteOptions.rewrite_rests_iff (form p)).mpr (rests_form hp p)).2
  · rw [rewriteAll_concat]
    rcases exists_rewriteAll_eq_form hp hs ps with h | ⟨p, h⟩
    · rw [h, rewrite_plain hp]
    · rw [h, rewrite_form hp]

/-- A file with lines outside its region, rewritten for two platforms in turn. -/
theorem rewriteAll_concat_eq_form_labelMatch :
    let plain := ("for Linux: a\n\tb\n" ++
      "// PLATFORM_SWITCH_START\nc\n// Linux Configuration\n d\n\n" ++
      "// MacOS Configuration\ne // f\r\n// PLATFORM_SWITCH_END").toList
    OutsidePolicy.labelMatch.IsPlain plain ∧
      OutsidePolicy.labelMatch.rewriteAll plain [.macOS, .windows, .linux] =
        ("for Linux: a\n\t//b\n" ++
          "// PLATFORM_SWITCH_START\nc\n// Linux Configuration\n d\n\n" ++
          "// MacOS Configuration\n//e // f\r\n// PLATFORM_SWITCH_END").toList := by
  intro plain
  have hp : OutsidePolicy.labelMatch.IsPlain plain := by decide +kernel
  have h := (rewriteAll_concat_eq_form .labelMatch plain hp).2.2.2 plain (.inl rfl)
    [.macOS, .windows] .linux
  exact ⟨hp, h.trans (by decide +kernel)⟩

end OutsidePolicy

end RegionToggle
