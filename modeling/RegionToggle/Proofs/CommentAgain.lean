import Mathlib.Logic.Function.Iterate
import RegionToggle.Proofs.CommentForm
import RegionToggle.Settings.Basic

/-!
# Commenting out again

A comment is known by the token in front of its body. When the token itself starts with a blank, the
blanks at its front go to the indentation of the line that was commented out, so the body does not
start with the token and the comment is not known. Then every further run puts one more mark on the
line. A token that starts with a character that is not blank puts one mark on a line and no second.
-/

namespace RegionToggle.CommentStyle

variable {style : CommentStyle} {t c : Text}

/-- No body starts with a token that starts with a blank. -/
theorem not_token_prefix_of_blank {token : Text} (hne : token ≠ [])
    (hs : token.startsSolid = false) : ¬ token <+: t.body := by
  cases token with
  | nil => exact absurd rfl hne
  | cons b r =>
    rintro ⟨rest, hr⟩
    have hb : Text.isBlank b = true := by simpa [Text.startsSolid] using hs
    rw [Text.not_isBlank_of_body hr.symm] at hb
    exact absurd hb (by decide)

theorem not_isAllBlank_withMark (mark : Text) (h : t.isAllBlank = false) :
    (t.withMark mark).isAllBlank = false := by
  rw [← Text.startsSolid_body_iff] at h
  have hbody : (t.withMark mark).body = mark.body ++ t.body := by
    rw [Text.withMark, Text.body_indent_append, Text.body_append_of_startsSolid mark h]
  rw [← Bool.not_eq_true, Text.isAllBlank_iff, hbody]
  exact fun he => Text.ne_nil_of_startsSolid h (List.append_eq_nil_iff.mp he).2

/-- A line with a mark is known as a comment if the token starts with no blank. -/
theorem isComment_withMark (style : CommentStyle) (t : Text) :
    isComment style.token (t.withMark style.mark) = style.token.startsSolid := by
  cases hs : style.token.startsSolid with
  | true =>
    exact isComment_iff.mpr ⟨Text.ne_nil_of_startsSolid hs, token_prefix_body_withMark hs t⟩
  | false =>
    rw [← Bool.not_eq_true, isComment_iff]
    rintro ⟨hne, hp⟩
    exact not_token_prefix_of_blank hne hs hp

/-- Commenting a line out that has just been commented out: nothing is done, or a second mark is put
on it. -/
theorem comment?_of_comment? (h : style.comment? t = some c) :
    style.comment? c =
      if style.token.startsSolid then none else some (c.withMark style.mark) := by
  have hne := token_ne_nil_of_comment? h
  obtain ⟨hblank, -, rfl⟩ := comment?_eq_some_iff.mp h
  have hknown := isComment_withMark style t
  rw [comment?_eq]
  cases hs : style.token.startsSolid with
  | true =>
    rw [hs, isComment_iff] at hknown
    rw [if_pos (.inr hknown.2), if_pos rfl]
  | false =>
    rw [hs, ← Bool.not_eq_true, isComment_iff, not_and] at hknown
    rw [if_neg, if_neg Bool.false_ne_true]
    rintro (hall | hp)
    · rw [not_isAllBlank_withMark _ hblank] at hall
      exact absurd hall (by decide)
    · exact hknown hne hp

theorem isSome_uncomment?_of_comment? (h : style.comment? t = some c) :
    (style.uncomment? c).isSome = style.token.startsSolid := by
  obtain ⟨-, -, rfl⟩ := comment?_eq_some_iff.mp h
  rw [← isComment_withMark style t, Bool.eq_iff_iff, Option.isSome_iff_ne_none, ne_eq,
    uncomment?_eq_none_iff, Bool.not_eq_false]

/-! ### Run after run -/

def commentOut (style : CommentStyle) (t : Text) : Text := (style.comment? t).getD t

/-- What the first run writes is what a later run gives to the next. -/
theorem commentOut_of_comment? (h : style.comment? t = some c) :
    style.commentOut c = if style.token.startsSolid then c else c.withMark style.mark := by
  rw [commentOut, comment?_of_comment? h]
  split <;> rfl

/-- Later runs leave the line alone, or each of them makes it longer by one mark. -/
theorem length_iterate_commentOut (h : style.comment? t = some c) (n : Nat) :
    (style.commentOut^[n] c).length =
      c.length + (if style.token.startsSolid then 0 else n) * style.mark.length := by
  induction n generalizing t c with
  | zero => simp
  | succ n ih =>
    rw [Function.iterate_succ_apply, commentOut_of_comment? h]
    cases hs : style.token.startsSolid with
    | true => simpa [hs] using ih h
    | false =>
      have hagain : style.comment? c = some (c.withMark style.mark) := by
        rw [comment?_of_comment? h, hs, if_neg Bool.false_ne_true]
      have hlen := ih hagain
      rw [hs, if_neg Bool.false_ne_true, Text.length_withMark] at hlen
      rw [if_neg Bool.false_ne_true, if_neg Bool.false_ne_true, hlen, Nat.succ_mul]
      omega

end RegionToggle.CommentStyle

namespace RegionToggle.SettingsDraft

/-- A comment written with a settled token is known as one exactly if the token starts with no
blank. Such a token makes a line longer by one mark, however often it is commented out; with any
other each run adds a mark. -/
theorem comment_known_iff (draft : SettingsDraft) (spaced : Bool) {t c : Text}
    (h : CommentStyle.comment? ⟨draft.settle.settings.dialect.token, spaced⟩ t = some c) :
    let style : CommentStyle := ⟨draft.settle.settings.dialect.token, spaced⟩
    (style.comment? c = none ∧ (style.uncomment? c).isSome = true ↔
        style.token.startsSolid = true) ∧
      ∀ n, (style.commentOut^[n + 1] t).length =
        t.length + (if style.token.startsSolid then 1 else n + 1) * style.mark.length := by
  intro style
  constructor
  · rw [CommentStyle.comment?_of_comment? h, CommentStyle.isSome_uncomment?_of_comment? h]
    cases style.token.startsSolid <;> simp
  · intro n
    have hfirst : style.commentOut t = c := by rw [CommentStyle.commentOut, h, Option.getD_some]
    have hlen : c.length = t.length + style.mark.length := by
      obtain ⟨-, -, rfl⟩ := CommentStyle.comment?_eq_some_iff.mp h
      exact Text.length_withMark t style.mark
    have hlater : (style.commentOut^[n] c).length =
        c.length + (if style.token.startsSolid then 0 else n) * style.mark.length :=
      CommentStyle.length_iterate_commentOut h n
    rw [Function.iterate_succ_apply, hfirst, hlater, hlen]
    cases style.token.startsSolid with
    | true => simp
    | false =>
      rw [if_neg Bool.false_ne_true, if_neg Bool.false_ne_true, Nat.succ_mul]
      omega

/-- Four runs with a token that starts with no blank, and four with one that does. -/
theorem comment_known_iff_two_tokens :
    let solid : CommentStyle :=
      ⟨({ token? := some "--".toList } : SettingsDraft).settle.settings.dialect.token, true⟩
    let indented : CommentStyle :=
      ⟨({ token? := some "\t#".toList } : SettingsDraft).settle.settings.dialect.token, true⟩
    solid.comment? "  x".toList = some "  -- x".toList ∧
      (solid.comment? "  -- x".toList = none ∧
        (solid.uncomment? "  -- x".toList).isSome = true) ∧
      (solid.commentOut^[4] "  x".toList).length = 6 ∧
      indented.comment? "  x".toList = some "  \t# x".toList ∧
      ¬ (indented.comment? "  \t# x".toList = none ∧
        (indented.uncomment? "  \t# x".toList).isSome = true) ∧
      (indented.commentOut^[4] "  x".toList).length = 15 := by
  intro solid indented
  have hsolid : solid.comment? "  x".toList = some "  -- x".toList := by decide +kernel
  have hindented : indented.comment? "  x".toList = some "  \t# x".toList := by decide +kernel
  have hknown := comment_known_iff { token? := some "--".toList } true hsolid
  have hunknown := comment_known_iff { token? := some "\t#".toList } true hindented
  exact ⟨hsolid, hknown.1.mpr (by decide +kernel), (hknown.2 3).trans (by decide +kernel),
    hindented, fun h => absurd (hunknown.1.mp h) (by decide +kernel),
    (hunknown.2 3).trans (by decide +kernel)⟩

/-- The check lets a token pass that starts with a blank. The comment it makes is not known, and is
commented out again. -/
theorem comment_unknown_indented :
    let draft : SettingsDraft := { token? := some " //".toList }
    let style : CommentStyle := ⟨draft.settle.settings.dialect.token, false⟩
    draft.settle.warnings = [] ∧ style.token = " //".toList ∧
      style.comment? "x".toList = some " //x".toList ∧
      style.comment? " //x".toList = some "  ////x".toList ∧
      style.uncomment? " //x".toList = none ∧
      ¬ ∀ (draft : SettingsDraft) (spaced : Bool) (t c : Text),
        CommentStyle.comment? ⟨draft.settle.settings.dialect.token, spaced⟩ t = some c →
          CommentStyle.comment? ⟨draft.settle.settings.dialect.token, spaced⟩ c = none ∧
            (CommentStyle.uncomment? ⟨draft.settle.settings.dialect.token, spaced⟩ c).isSome =
              true := by
  intro draft style
  have hfirst : style.comment? "x".toList = some " //x".toList := by decide +kernel
  have hagain : style.comment? " //x".toList = some "  ////x".toList := by decide +kernel
  refine ⟨by decide +kernel, by decide +kernel, hfirst, hagain, by decide +kernel, fun h => ?_⟩
  have hnone := (h draft false _ _ hfirst).1
  rw [show CommentStyle.comment? ⟨draft.settle.settings.dialect.token, false⟩ " //x".toList =
    some "  ////x".toList from hagain] at hnone
  exact absurd hnone (by simp)

end RegionToggle.SettingsDraft
