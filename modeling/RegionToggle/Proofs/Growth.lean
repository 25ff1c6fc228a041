import Mathlib.Algebra.BigOperators.Group.List.Lemmas
import Mathlib.Algebra.Ring.Nat
import RegionToggle.Proofs.CanonicalForm
import RegionToggle.Proofs.Regions

/-!
# How far a text can grow

A comment that is written with a space and taken off without one leaves the space behind, so lines
can grow from run to run. But this happens only to a comment on the losing side of the vote for a
style, and it loses its vote with that. The bulk of a line is its length without the mark that it
may carry. The reach of a text is the bulk of its lines and one for each vote on the losing side. No
rewrite adds to the reach, and a text is longer than its reach by three characters a line at most.
-/

namespace RegionToggle

/-- The length of a line without its mark, a space behind the token included; the mark counts with
what it has in excess of three characters. -/
def Text.bulk (t : Text) : Nat :=
  max ((CommentStyle.airy.uncomment? t).getD t).length (t.length - 3)

namespace Text

theorem length_le_bulk_add (t : Text) : t.length ≤ t.bulk + 3 := by
  rw [bulk]
  omega

end Text

/-! ### The load of a line -/

namespace CommentStyle

open Dialect (standardToken)

/-- The bulk of a line, and one more if the line gives an answer in the vote for a style. -/
def load (answer : Bool) (t : Text) : Nat :=
  t.bulk + if vote? standardToken t = some answer then 1 else 0

variable {style : CommentStyle} {answer : Bool} {t rest : Text}

theorem strip?_standardToken (t : Text) :
    strip? standardToken t =
      if standardToken <+: t then some (t.dropWhile (· == '/')) else none := by
  have hrep : ∀ c ∈ ['/'], c = '/' := by simp
  exact strip?_of_repeated hrep

/-- The vote of a comment is its first character behind the slashes. -/
theorem vote?_of_strip? {token : Text} (h : strip? token t.body = some rest) :
    vote? token t = rest.head?.map (· == ' ') := by
  rw [vote?, h]
  cases rest <;> rfl

theorem length_withoutGap_airy (t : Text) :
    (airy.withoutGap t).length + (if t.head?.map (· == ' ') = some true then 1 else 0) =
      t.length := by
  cases t with
  | nil => rfl
  | cons c r =>
    by_cases hc : ' ' = c
    · simp [withoutGap, airy, Text.stripFront?, ← hc]
    · have hne : c ≠ ' ' := Ne.symm hc
      simp [withoutGap, airy, Text.stripFront?, hc, hne]

/-- A comment is as long without its mark as its indentation and what follows the slashes, less the
space that it votes with. -/
theorem length_uncomment?_airy (h : strip? standardToken t.body = some rest) :
    ((airy.uncomment? t).getD t).length +
        (if vote? standardToken t = some true then 1 else 0) =
      t.indent.length + rest.length := by
  have hu : airy.uncomment? t = some (t.indent ++ airy.withoutGap rest) := by
    rw [uncomment?_eq]
    exact congrArg _ h
  rw [hu, Option.getD_some, List.length_append, vote?_of_strip? h, Nat.add_assoc,
    length_withoutGap_airy]

theorem isComment_iff_exists_strip? {token : Text} :
    isComment token t = true ↔ ∃ rest, strip? token t.body = some rest := by
  rw [isComment, strip?]
  split <;> simp_all

/-- A line that is no comment has neither a mark nor a vote. -/
theorem load_of_not_isComment (h : isComment standardToken t = false) :
    load answer t = t.length := by
  have hu : airy.uncomment? t = none := uncomment?_eq_none_iff.mpr h
  have hv : vote? standardToken t = none := by
    rw [isComment] at h
    simp [vote?, strip?, h]
  simp [load, Text.bulk, hu, hv]

theorem load_le_length (answer : Bool) (t : Text) : load answer t ≤ t.length := by
  cases hc : isComment standardToken t with
  | false => exact (load_of_not_isComment hc).le
  | true =>
    obtain ⟨rest, hr⟩ := isComment_iff_exists_strip?.mp hc
    have hcore := length_uncomment?_airy hr
    have hrest : rest.length + 2 ≤ t.body.length := by
      obtain ⟨u, hu⟩ := (isComment_iff.mp hc).2
      rw [strip?_standardToken, ← hu, if_pos (List.prefix_append _ _), Option.some.injEq] at hr
      have hle := (List.dropWhile_suffix (l := u) (· == '/')).length_le
      have hdrop : (standardToken ++ u).dropWhile (· == '/') = u.dropWhile (· == '/') :=
        List.dropWhile_append_of_pos (by simp [standardToken])
      rw [← hu, ← hr, hdrop, List.length_append]
      exact (Nat.add_le_add_right hle 2).trans_eq (Nat.add_comm _ 2)
    have ht := Text.length_eq_indent_add_body t
    rw [load, Text.bulk]
    split <;> omega

/-- Taking a comment off costs no more than the vote of the comment for the other style. -/
theorem load_getD_uncomment?_le (hs : style.token = standardToken) (t : Text) :
    load (!style.spaced) ((style.uncomment? t).getD t) ≤ load (!style.spaced) t := by
  cases hu : style.uncomment? t with
  | none => exact le_rfl
  | some u =>
    refine (load_le_length _ u).trans ?_
    rw [uncomment?_eq, hs, Option.map_eq_some_iff] at hu
    obtain ⟨rest, hr, rfl⟩ := hu
    have hcore := length_uncomment?_airy hr
    have hgap := length_withoutGap_airy rest
    rw [vote?_of_strip? hr] at hcore
    rw [load, Text.bulk, vote?_of_strip? hr, List.length_append]
    cases hsp : style.spaced with
    | true =>
      have hsame : style.withoutGap rest = airy.withoutGap rest := by
        rw [withoutGap, withoutGap, hsp]
        rfl
      rw [hsame]
      omega
    | false =>
      have hall : style.withoutGap rest = rest := by simp [withoutGap, hsp]
      rw [hall, Bool.not_false]
      omega

theorem length_mark (hs : style.token = standardToken) :
    style.mark.length = style.gap.length + 2 := by
  rw [mark, hs, List.length_append, Nat.add_comm]
  rfl

/-- Behind the mark of a line there is its body, without slashes if no gap keeps them apart. -/
theorem strip?_withMark (hs : style.token = standardToken) (t : Text) :
    strip? standardToken (t.withMark style.mark).body =
      some ((style.gap ++ t.body).dropWhile (· == '/')) := by
  have hbody : (t.withMark style.mark).body = standardToken ++ (style.gap ++ t.body) := by
    rw [Text.body_withMark t (startsSolid_mark_of_eq hs), mark, hs, List.append_assoc]
  rw [hbody, strip?_standardToken, if_pos (List.prefix_append _ _),
    List.dropWhile_append_of_pos (by simp [standardToken])]

/-- A mark adds nothing to a line, and no vote for the other style that is not paid for. -/
theorem load_withMark_le (hs : style.token = standardToken) (hpos : 0 < t.length) :
    load (!style.spaced) (t.withMark style.mark) ≤ t.length := by
  have ht := Text.length_eq_indent_add_body t
  have hstrip := strip?_withMark hs t
  have hlength : (t.withMark style.mark).length = t.length + style.gap.length + 2 := by
    rw [Text.length_withMark, length_mark hs, Nat.add_assoc]
  have hcore := length_uncomment?_airy hstrip
  rw [Text.indent_withMark t (startsSolid_mark_of_eq hs), vote?_of_strip? hstrip] at hcore
  rw [load, Text.bulk, hlength, vote?_of_strip? hstrip]
  cases hsp : style.spaced with
  | true =>
    -- the gap is the vote of the marked line, and it is for the style itself
    have hgap : style.gap = [' '] := by simp [gap, hsp]
    have hrest : (style.gap ++ t.body).dropWhile (· == '/') = ' ' :: t.body := by
      rw [hgap]
      rfl
    have hvote : (' ' :: t.body).head?.map (· == ' ') = some true := rfl
    rw [hrest, hvote, if_pos rfl, List.length_cons] at hcore
    rw [hrest, hvote, Bool.not_true, if_neg (by decide), hgap, List.length_singleton]
    omega
  | false =>
    -- slashes of a body that starts with one are lost with the mark, and so may show a space
    have hgap : style.gap = [] := by simp [gap, hsp]
    rw [hgap, List.nil_append] at hcore ⊢
    have hle := (List.dropWhile_suffix (l := t.body) (· == '/')).length_le
    have hone := Nat.sub_add_cancel hpos
    rw [Bool.not_false, List.length_nil]
    split_ifs at hcore ⊢ <;> omega

/-- Commenting a line out makes it no heavier. -/
theorem load_getD_comment?_le (hs : style.token = standardToken) (t : Text) :
    load (!style.spaced) ((style.comment? t).getD t) ≤ load (!style.spaced) t := by
  rw [comment?_eq]
  split
  · exact le_rfl
  · next h =>
    rw [not_or] at h
    have hlive : isComment standardToken t = false := by
      rw [← Bool.not_eq_true, isComment_iff, ← hs]
      exact fun hc => h.2 hc.2
    have hpos : 0 < t.length := by
      rw [List.length_pos_iff]
      rintro rfl
      exact h.1 rfl
    rw [Option.getD_some, load_of_not_isComment hlive]
    exact load_withMark_le hs hpos

/-- Cutting a written row again makes it no heavier. -/
theorem load_again?_le (answer : Bool) {row row' : Row}
    (h : row.text.isAllBlank = true ∨ row.again? = some row) (hr : row.again? = some row') :
    load answer row'.text + row'.ending.text.length ≤
      load answer row.text + row.ending.text.length := by
  rcases h with hblank | hself
  · have hbody := RewriteOptions.body_of_again? (.inl hblank) hr
    have hnone : ∀ u : Text, u.body = [] → isComment standardToken u = false := by
      intro u hu
      rw [← Bool.not_eq_true, isComment_iff, hu]
      exact fun hc => hc.1 (List.prefix_nil.mp hc.2)
    rw [Text.isAllBlank_iff.mp hblank] at hbody
    rw [load_of_not_isComment (hnone _ hbody),
      load_of_not_isComment (hnone _ (Text.isAllBlank_iff.mp hblank)), Row.length_of_again? hr]
  · rw [Option.some.inj (hself.symm.trans hr)]

end CommentStyle

/-! ### Lines where they stand -/

def Line.load (answer : Bool) (zone : Zone) (line : Line) : Nat :=
  line.text.bulk + line.ending.text.length +
    if CommentStyle.voteIn? Dialect.standardToken zone line = some answer then 1 else 0

theorem Line.load_le (answer : Bool) (zone : Zone) (line : Line) :
    line.load answer zone ≤
      CommentStyle.load answer line.text + line.ending.text.length := by
  have hvote : CommentStyle.voteIn? Dialect.standardToken zone line = some answer →
      CommentStyle.vote? Dialect.standardToken line.text = some answer := by
    rw [CommentStyle.voteIn?]
    split
    · exact id
    · exact fun h => absurd h (by simp)
  rw [load, CommentStyle.load]
  split_ifs with h h'
  · omega
  · exact absurd (hvote h) h'
  · omega
  · omega

namespace RewriteOptions

variable {p : Platform} {style : CommentStyle} {zone zone' : Zone} {line line' : Line}
  {content : Text}

/-- Only body lines in regions are edited if outside lines are preserved. -/
theorem body_in_region_of_aim_ne_keep {options : RewriteOptions} (hp : options.outside = .preserve)
    (ha : options.aim zone line ≠ .keep) : zone.isInside = true ∧ line.kind = .body := by
  rw [aim_of_preserve hp] at ha
  refine ⟨?_, by_contra fun hk => ha (if_neg hk)⟩
  cases zone with
  | outside => exact absurd (ite_self _) ha
  | inside openedAt label? => rfl

/-- The text written for a line is no heavier than the line, with the vote for the other style. -/
theorem load_textFor_le (options : RewriteOptions) (zone : Zone) (line : Line)
    (hs : style.token = Dialect.standardToken) :
    CommentStyle.load (!style.spaced) (options.textFor style zone line) ≤
      CommentStyle.load (!style.spaced) line.text := by
  rw [textFor, edit]
  cases options.aim zone line with
  | keep => exact le_rfl
  | comment =>
    rw [Edit.apply_ofAim_comment]
    exact CommentStyle.load_getD_comment?_le hs line.text
  | uncomment =>
    rw [Edit.apply_ofAim_uncomment]
    exact CommentStyle.load_getD_uncomment?_le hs line.text

/-- What a rewrite makes of a line weighs no more than the line, the vote for the other style
included. -/
theorem load_lineAfter?_le {options : RewriteOptions} (hp : options.outside = .preserve)
    (hs : style.token = Dialect.standardToken) (hl : line ∈ options.dialect.lines content)
    (h : options.lineAfter? style zone line = some line')
    (hz : zone'.isInside = zone.isInside) :
    line'.load (!style.spaced) zone' ≤ line.load (!style.spaced) zone := by
  by_cases ha : options.aim zone line = .keep
  · obtain rfl : line = line' := by simpa [lineAfter?_of_keep hl ha] using h
    rw [Line.load, Line.load, CommentStyle.voteIn?, CommentStyle.voteIn?, hz]
  · have hvote : CommentStyle.voteIn? Dialect.standardToken zone line =
        CommentStyle.vote? Dialect.standardToken line.text :=
      if_pos (body_in_region_of_aim_ne_keep hp ha)
    have hbefore : line.load (!style.spaced) zone =
        CommentStyle.load (!style.spaced) line.text + line.ending.text.length := by
      rw [Line.load, hvote, CommentStyle.load]
      omega
    rw [lineAfter?, Option.map_eq_some_iff] at h
    obtain ⟨row, hr, rfl⟩ := h
    have hcut := CommentStyle.load_again?_le (!style.spaced) (isAllBlank_or_again?_textFor hl) hr
    refine (Line.load_le _ _ _).trans ?_
    calc CommentStyle.load (!style.spaced) row.text + row.ending.text.length
        ≤ CommentStyle.load (!style.spaced) (options.textFor style zone line) +
            line.ending.text.length := hcut
      _ ≤ CommentStyle.load (!style.spaced) line.text + line.ending.text.length :=
          Nat.add_le_add_right (load_textFor_le options zone line hs) _
      _ = line.load (!style.spaced) zone := hbefore.symm

end RewriteOptions

/-! ### Sums -/

/-- Sums compared place by place. -/
theorem sum_map_le_of_getElem? {α β : Type} {f : α → Nat} {g : β → Nat} {xs : List α}
    {ys : List β}
    (h : ∀ (i : Nat) (y : β), ys[i]? = some y → ∃ x, xs[i]? = some x ∧ g y ≤ f x) :
    (ys.map g).sum ≤ (xs.map f).sum := by
  induction ys generalizing xs with
  | nil => exact Nat.zero_le _
  | cons y ys ih =>
    obtain ⟨x, hx, hle⟩ := h 0 y rfl
    cases xs with
    | nil => exact absurd hx (by simp)
    | cons x' xs =>
      obtain rfl : x' = x := Option.some.inj hx
      exact Nat.add_le_add hle (ih fun i y hy => h (i + 1) y hy)

theorem sum_map_ite_eq_count {α : Type} (f : α → Option Bool) (answer : Bool) (xs : List α) :
    (xs.map fun x => if f x = some answer then 1 else 0).sum = (xs.filterMap f).count answer := by
  induction xs with
  | nil => rfl
  | cons x xs ih =>
    rw [List.map_cons, List.sum_cons, ih]
    cases hx : f x with
    | none => simp [hx]
    | some b => by_cases hb : b = answer <;> simp [hx, hb, Nat.add_comm]

/-! ### The reach of a text -/

namespace Text

open Dialect (standardToken)

def votes (t : Text) : List Bool :=
  CommentStyle.votes standardToken false (Dialect.standard.lines t)

/-- The bulk of all lines with their endings, and one for each vote on the losing side. -/
def reach (t : Text) : Nat :=
  ((Dialect.standard.lines t).map fun line => line.text.bulk + line.ending.text.length).sum +
    min (t.votes.count true) (t.votes.count false)

/-- The loads of all lines of a text, one with the other. -/
def load (answer : Bool) (t : Text) : Nat :=
  ((Zone.place .outside (Dialect.standard.lines t)).map fun x => x.2.load answer x.1).sum

theorem load_eq (answer : Bool) (t : Text) :
    t.load answer =
      ((Dialect.standard.lines t).map fun line =>
        line.text.bulk + line.ending.text.length).sum + t.votes.count answer := by
  have hvotes : t.votes = (Zone.place .outside (Dialect.standard.lines t)).filterMap fun x =>
      CommentStyle.voteIn? standardToken x.1 x.2 :=
    CommentStyle.votes_eq_filterMap standardToken .outside _
  have hlines : (Dialect.standard.lines t).map (fun line =>
      line.text.bulk + line.ending.text.length) =
        (Zone.place .outside (Dialect.standard.lines t)).map fun x =>
          x.2.text.bulk + x.2.ending.text.length := by
    conv => lhs; rw [← Zone.map_snd_place .outside (Dialect.standard.lines t), List.map_map]
    rfl
  rw [hvotes, hlines, ← sum_map_ite_eq_count, ← List.sum_map_add]
  rfl

theorem reach_le_load (answer : Bool) (t : Text) : t.reach ≤ t.load answer := by
  rw [load_eq, reach]
  cases answer with
  | true => exact Nat.add_le_add_left (Nat.min_le_left _ _) _
  | false => exact Nat.add_le_add_left (Nat.min_le_right _ _) _

/-- The votes against the style of a text are those on the losing side. -/
theorem load_detect (t : Text) :
    t.load (!(CommentStyle.detect standardToken (Dialect.standard.lines t)).spaced) = t.reach := by
  have hspaced : (CommentStyle.detect standardToken (Dialect.standard.lines t)).spaced =
      decide (t.votes.count false < t.votes.count true) := rfl
  rw [load_eq, reach, hspaced]
  by_cases h : t.votes.count false < t.votes.count true
  · rw [decide_eq_true h, Bool.not_true, Nat.min_eq_right h.le]
  · rw [decide_eq_false h, Bool.not_false, Nat.min_eq_left (Nat.not_lt.mp h)]

/-- No rewrite adds to the load of a text with the votes against its style. -/
theorem load_rewrite_le (p : Platform) (content : Text) :
    let style := CommentStyle.detect standardToken (Dialect.standard.lines content)
    ((RewriteOptions.mk p .standard .preserve).rewrite content).text.load (!style.spaced) ≤
      content.load (!style.spaced) := by
  intro style
  let options : RewriteOptions := ⟨p, .standard, .preserve⟩
  let lines := Dialect.standard.lines content
  have hsteady : options.dialect.Steady := Dialect.standard_steady
  have hafter : ∀ i, (Dialect.standard.lines (options.rewrite content).text)[i]? =
      lines[i]?.bind fun line => options.lineAfter? style (.behind (lines.take i)) line :=
    RewriteOptions.getElem?_lines_rewrite hsteady.lf_not_mem_token content
  apply sum_map_le_of_getElem?
  intro i y hy
  rw [Zone.getElem?_place, Option.map_eq_some_iff] at hy
  obtain ⟨line', hi', rfl⟩ := hy
  obtain ⟨line, hi, ha⟩ := Option.bind_eq_some_iff.mp ((hafter i).symm.trans hi')
  refine ⟨(.behind (lines.take i), line), by rw [Zone.getElem?_place, hi]; rfl, ?_⟩
  have hl : line ∈ options.dialect.lines content := List.mem_of_getElem? hi
  have hmarkers := RewriteOptions.markerAt?_rewrite hsteady content
  apply RewriteOptions.load_lineAfter?_le rfl rfl hl ha
  rw [Zone.isInside_behind, Zone.isInside_behind]
  exact LookBack.inRegion_take_congr hmarkers i

/-- No rewrite adds to the reach of a text. -/
theorem reach_rewrite_le (p : Platform) (content : Text) :
    ((RewriteOptions.mk p .standard .preserve).rewrite content).text.reach ≤ content.reach :=
  calc ((RewriteOptions.mk p .standard .preserve).rewrite content).text.reach
      ≤ _ := reach_le_load _ _
    _ ≤ _ := load_rewrite_le p content
    _ = content.reach := load_detect content

theorem length_eq_sum (t : Text) :
    t.length = ((Dialect.standard.lines t).map fun line =>
      line.text.length + line.ending.text.length).sum := by
  conv => lhs; rw [← join_rows t, ← Dialect.map_row_lines (d := .standard) t, join]
  rw [List.length_flatMap, List.map_map]
  simp [Function.comp_def, Line.row]

/-- A text is longer than its reach by three characters a line at most. -/
theorem length_le_reach_add (t : Text) :
    t.length ≤ t.reach + 3 * (Dialect.standard.lines t).length := by
  calc t.length
      ≤ ((Dialect.standard.lines t).map fun line =>
          line.text.bulk + line.ending.text.length + 3).sum := by
        rw [length_eq_sum]
        apply sum_map_le_of_getElem?
        intro i line hi
        have h := length_le_bulk_add line.text
        exact ⟨line, hi, by omega⟩
    _ = ((Dialect.standard.lines t).map fun line =>
          line.text.bulk + line.ending.text.length).sum +
          3 * (Dialect.standard.lines t).length := by
        rw [List.sum_map_add, List.map_const', List.sum_replicate_nat, Nat.mul_comm]
    _ ≤ t.reach + 3 * (Dialect.standard.lines t).length := by
        rw [reach]
        omega

theorem reach_le_length (t : Text) : t.reach ≤ t.length := by
  refine (reach_le_load true t).trans ?_
  rw [length_eq_sum]
  apply sum_map_le_of_getElem?
  intro i x hx
  rw [Zone.getElem?_place, Option.map_eq_some_iff] at hx
  obtain ⟨line, hi, rfl⟩ := hx
  refine ⟨line, hi, (Line.load_le _ _ _).trans ?_⟩
  exact Nat.add_le_add_right (CommentStyle.load_le_length true line.text) _

theorem rewriteAll_eq_rewriteEach (outside : OutsidePolicy) (content : Text)
    (ps : List Platform) :
    outside.rewriteAll content ps =
      content.rewriteEach (ps.map fun p => ⟨p, .standard, outside⟩) := by
  rw [OutsidePolicy.rewriteAll, rewriteEach, List.foldl_map]

theorem reach_rewriteAll_le (content : Text) (ps : List Platform) :
    (OutsidePolicy.preserve.rewriteAll content ps).reach ≤ content.reach := by
  induction ps generalizing content with
  | nil => exact le_rfl
  | cons p ps ih => exact (ih _).trans (reach_rewrite_le p content)

/-- However often a text is switched from platform to platform, and in whichever order, it never
grows by more than three characters a line. -/
theorem length_rewriteAll_le (content : Text) (ps : List Platform) :
    (OutsidePolicy.preserve.rewriteAll content ps).length ≤
      content.length + 3 * (Dialect.standard.lines content).length := by
  have hlines : (Dialect.standard.lines (OutsidePolicy.preserve.rewriteAll content ps)).length ≤
      (Dialect.standard.lines content).length := by
    rw [rewriteAll_eq_rewriteEach]
    exact length_lines_rewriteEach_le Dialect.standard_steady.lf_not_mem_token _ (by simp) content
  have hreach := (reach_rewriteAll_le content ps).trans (reach_le_length content)
  calc (OutsidePolicy.preserve.rewriteAll content ps).length
      ≤ (OutsidePolicy.preserve.rewriteAll content ps).reach +
          3 * (Dialect.standard.lines (OutsidePolicy.preserve.rewriteAll content ps)).length :=
        length_le_reach_add _
    _ ≤ content.length + 3 * (Dialect.standard.lines content).length := by omega

end Text

end RegionToggle
