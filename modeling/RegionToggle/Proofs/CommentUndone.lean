import RegionToggle.Proofs.Growth

/-!
# Comments taken off again

A comment that has just been written comes off with the whole run of slashes at its front. In a
spaced style the gap ends that run, so the line is what it was. In a compact style the run may reach
into the line by one slash, never by two: a body that starts with two slashes is a comment, and no
comment is written on it.
-/

namespace RegionToggle.CommentStyle

open Dialect (standardToken)

variable {style : CommentStyle} {t c : Text}

/-- The run of slashes in front of a body that is no comment is one slash at most. -/
theorem dropWhile_of_not_token_prefix {body : Text} (h : ¬ standardToken <+: body) :
    body.dropWhile (· == '/') = if body.head? = some '/' then body.tail else body := by
  match body with
  | [] => rfl
  | x :: rest =>
    by_cases hx : x = '/'
    · subst hx
      have hrest : rest.head? ≠ some '/' := by
        intro hr
        obtain ⟨more, rfl⟩ := List.head?_eq_some_iff.mp hr
        exact h (List.prefix_append standardToken more)
      have hkeep : rest.dropWhile (· == '/') = rest := by
        cases rest with
        | nil => rfl
        | cons y more => exact List.dropWhile_cons_of_neg (by simpa using hrest)
      rw [List.dropWhile_cons_of_pos (by simp), hkeep, List.head?_cons, if_pos rfl, List.tail_cons]
    · rw [List.dropWhile_cons_of_neg (by simpa using hx), List.head?_cons,
        if_neg (by simpa using hx)]

/-- A line that is commented out and uncommented in the same style is the line it was, but for a
lone slash that its body starts with in a compact style. -/
theorem uncomment?_of_comment? (hs : style.token = standardToken)
    (h : style.comment? t = some c) :
    style.uncomment? c =
      some (if style.spaced = false ∧ t.body.head? = some '/' then t.indent ++ t.body.tail
        else t) := by
  obtain ⟨-, hlive, rfl⟩ := comment?_eq_some_iff.mp h
  have hopen : style.uncomment? (t.withMark style.mark) =
      some (t.indent ++ style.withoutGap ((style.gap ++ t.body).dropWhile (· == '/'))) := by
    rw [uncomment?_eq, hs, strip?_withMark hs, Text.indent_withMark t (startsSolid_mark_of_eq hs)]
    rfl
  rw [hopen]
  cases hsp : style.spaced with
  | true =>
    -- the gap stops the run of slashes
    have hgap : (style.gap ++ t.body).dropWhile (· == '/') = style.gap ++ t.body := by
      simp [gap, hsp]
    rw [hgap, withoutGap_gap_append, Text.indent_append_body, if_neg (by simp)]
  | false =>
    have hgap : style.gap = [] := by simp [gap, hsp]
    have hall : ∀ u, style.withoutGap u = u := fun u => by simp [withoutGap, hsp]
    rw [hgap, List.nil_append, hall, dropWhile_of_not_token_prefix (hs ▸ hlive)]
    split_ifs with hslash hboth
    · rfl
    · exact absurd ⟨rfl, hslash⟩ hboth
    · exact absurd (by assumption : _ ∧ _).2 hslash
    · rw [Text.indent_append_body]

/-- With a gap a slash comes back, and without one every line that starts with something else. -/
theorem uncomment?_of_comment?_indented :
    airy.uncomment? "  // /x".toList = some "  /x".toList ∧
      compact.uncomment? "  //x".toList = some "  x".toList :=
  ⟨(uncomment?_of_comment? rfl (show airy.comment? "  /x".toList = _ by decide +kernel)).trans
      (by decide +kernel),
    (uncomment?_of_comment? rfl (show compact.comment? "  x".toList = _ by decide +kernel)).trans
      (by decide +kernel)⟩

/-- Without a gap a lone slash is lost. -/
theorem uncomment?_comment?_slash :
    compact.comment? "/x".toList = some "///x".toList ∧
      compact.uncomment? "///x".toList = some "x".toList ∧
      ¬ ∀ t c, compact.comment? t = some c → compact.uncomment? c = some t := by
  have hon : compact.comment? "/x".toList = some "///x".toList := by decide +kernel
  have hoff : compact.uncomment? "///x".toList = some "x".toList := by decide +kernel
  refine ⟨hon, hoff, fun h => ?_⟩
  have hback := h _ _ hon
  rw [hoff] at hback
  exact absurd hback (by decide +kernel)

end RegionToggle.CommentStyle
