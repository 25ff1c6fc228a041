import RegionToggle.Proofs.CommentAgain

/-!
# Comments written again

A comment that is taken off and written again is the comment it was exactly if it is one that the
style writes: one token behind the indentation, the gap, and a body that taking the comment off
neither shortens nor moves. A blank that is left in front of the body goes to the indentation, and
then the token is written behind it.
-/

namespace RegionToggle.CommentStyle

variable {style : CommentStyle} {t u x : Text}

/-- Where a token of one repeated character is taken off, no stray copy of it is left. -/
theorem head?_ne_of_strip? {token rest : Text} {c : Char} (h : strip? token x = some rest)
    (hc : ∀ y ∈ token, y = c) : rest.head? ≠ some c := by
  cases token with
  | nil => simp [strip?] at h
  | cons d ds =>
    obtain rfl : d = c := hc d List.mem_cons_self
    rw [strip?_of_repeated fun y hy => hc y (List.mem_cons_of_mem _ hy)] at h
    split at h
    · obtain rfl := Option.some.inj h
      intro hhead
      have hnot := List.head?_dropWhile_not (· == d) x
      rw [hhead] at hnot
      simp at hnot
    · exact absurd h (by simp)

/-- A comment is known by a token that starts with no blank. -/
theorem startsSolid_token_of_uncomment? (h : style.uncomment? t = some u) :
    style.token.startsSolid = true := by
  have hknown : isComment style.token t = true := by
    rw [← Bool.not_eq_false, ← uncomment?_eq_none_iff, h]
    simp
  obtain ⟨hne, hp⟩ := isComment_iff.mp hknown
  by_contra hblank
  exact not_token_prefix_of_blank hne (by simpa using hblank) hp

/-- What can stand behind the token and the gap of a comment that comes back: a text that starts
with no blank and no token, nor in a compact style with the character that the token repeats. -/
structure Stands (style : CommentStyle) (x : Text) : Prop where
  solid : x.startsSolid = true
  live : ¬ style.token <+: x
  no_stray : style.spaced = false → ∀ c, (∀ y ∈ style.token, y = c) → x.head? ≠ some c

theorem stands_of_comment? (hu : style.uncomment? t = some u) (hc : style.comment? u = some t) :
    style.Stands u.body ∧ t = t.indent ++ style.token ++ style.gap ++ u.body := by
  obtain ⟨hsolid, hlive, hmark⟩ := comment?_eq_some_iff.mp hc
  have htoken := startsSolid_token_of_uncomment? hu
  -- the mark is put behind the indentation of what is left, so that is the old one
  have hindent : u.indent = t.indent := by
    rw [← hmark, Text.indent_withMark u (startsSolid_mark htoken)]
  refine ⟨⟨Text.startsSolid_body_iff.mpr hsolid, hlive, fun hsp c hrep => ?_⟩, ?_⟩
  · rw [uncomment?_eq, Option.map_eq_some_iff] at hu
    obtain ⟨rest, hrest, rfl⟩ := hu
    have hline := Text.indent_append_body (t.indent ++ style.withoutGap rest)
    rw [hindent, List.append_cancel_left_eq] at hline
    rw [hline, withoutGap, hsp, if_neg Bool.false_ne_true]
    exact head?_ne_of_strip? hrest hrep
  · calc t
      _ = u.withMark style.mark := hmark.symm
      _ = t.indent ++ style.token ++ style.gap ++ u.body := by simp [Text.withMark, mark, hindent]

/-- A comment that is taken off and written again in the same style is the line it was exactly if it
reads its indentation, the token, the gap of the style, and a text that can stand there. -/
theorem comment?_of_uncomment?_iff (hu : style.uncomment? t = some u) :
    style.comment? u = some t ↔
      ∃ x, t = t.indent ++ style.token ++ style.gap ++ x ∧ style.Stands x := by
  constructor
  · intro hc
    obtain ⟨hstands, ht⟩ := stands_of_comment? hu hc
    exact ⟨u.body, ht, hstands⟩
  · rintro ⟨x, ht, hstands⟩
    have htoken := startsSolid_token_of_uncomment? hu
    have hbody : t.body = style.mark ++ x := by
      rw [ht, List.append_assoc, List.append_assoc, Text.body_indent_append, mark,
        List.append_assoc, Text.body_of_startsSolid (Text.startsSolid_append htoken _)]
    have hleft : u = t.indent ++ x := by
      rw [uncomment?_eq, hbody, strip?_mark_append htoken hstands.live hstands.no_stray,
        Option.map_some, withoutGap_gap_append, Option.some.injEq] at hu
      exact hu.symm
    have hrest : u.body = x := by
      rw [hleft, Text.body_indent_append, Text.body_of_startsSolid hstands.solid]
    have hindent : u.indent = t.indent := by
      rw [hleft, Text.indent_indent_append t hstands.solid]
    refine comment?_eq_some_iff.mpr
      ⟨Text.startsSolid_body_iff.mp (hrest ▸ hstands.solid), hrest ▸ hstands.live, ?_⟩
    calc u.withMark style.mark
      _ = t.indent ++ style.token ++ style.gap ++ x := by
        simp [Text.withMark, mark, hindent, hrest]
      _ = t := ht.symm

/-- With a gap a stray slash comes back behind it, but no second blank does. -/
theorem comment?_of_uncomment?_iff_spaced :
    let style : CommentStyle := ⟨"//".toList, true⟩
    style.uncomment? " // /x".toList = some " /x".toList ∧
      style.comment? " /x".toList = some " // /x".toList ∧
      style.uncomment? "//  x".toList = some " x".toList ∧
      ¬ ∃ x, "//  x".toList = Text.indent "//  x".toList ++ style.token ++ style.gap ++ x ∧
        style.Stands x := by
  intro style
  have hslash : style.uncomment? " // /x".toList = some " /x".toList := by decide +kernel
  have hblank : style.uncomment? "//  x".toList = some " x".toList := by decide +kernel
  have hstands : style.Stands "/x".toList := ⟨by decide, by decide, by simp [style]⟩
  refine ⟨hslash, (comment?_of_uncomment?_iff hslash).mpr ⟨_, by decide, hstands⟩, hblank,
    fun h => ?_⟩
  have hback := (comment?_of_uncomment?_iff hblank).mpr h
  exact absurd hback (by decide +kernel)

end RegionToggle.CommentStyle
