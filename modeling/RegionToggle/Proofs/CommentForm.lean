import RegionToggle.Proofs.KindOfLine

/-!
# What comments look like

Commenting a line out puts the token, and the gap of the style, between its indentation and its
body, which leaves the kind of the line as it was. Taking the comment off leaves the indentation and
some end of the body: with a token of one repeated character, what follows the run of that
character.
-/

namespace RegionToggle

/-- A line with a mark put between its indentation and its body. -/
def Text.withMark (t mark : Text) : Text := t.indent ++ (mark ++ t.body)

namespace Text

theorem body_withMark {mark : Text} (t : Text) (h : mark.startsSolid = true) :
    (t.withMark mark).body = mark ++ t.body := by
  rw [withMark, body_indent_append, body_of_startsSolid (startsSolid_append h _)]

theorem indent_withMark {mark : Text} (t : Text) (h : mark.startsSolid = true) :
    (t.withMark mark).indent = t.indent := by
  rw [withMark, indent_indent_append t (startsSolid_append h _)]

theorem length_withMark (t mark : Text) : (t.withMark mark).length = t.length + mark.length := by
  rw [withMark, List.length_append, List.length_append, length_eq_indent_add_body t]
  omega

end Text

namespace CommentStyle

/-- Whether a line carries a comment token in front of its body. -/
def isComment (token t : Text) : Bool := !token.isEmpty && token.isPrefixOf t.body

theorem isComment_iff {token t : Text} :
    isComment token t = true ↔ token ≠ [] ∧ token <+: t.body := by
  simp [isComment]

theorem isComment_congr {token t u : Text} (h : t.body = u.body) :
    isComment token t = isComment token u := by
  rw [isComment, isComment, h]

theorem not_isAllBlank_of_isComment {token t : Text} (h : isComment token t = true) :
    t.isAllBlank = false := by
  obtain ⟨hne, hp⟩ := isComment_iff.mp h
  rw [← Bool.not_eq_true, Text.isAllBlank_iff]
  intro hb
  rw [hb] at hp
  exact hne (List.prefix_nil.mp hp)

/-- What a style puts in front of a body. -/
def mark (style : CommentStyle) : Text := style.token ++ style.gap

theorem isBlank_of_mem_gap {style : CommentStyle} {c : Char} (h : c ∈ style.gap) :
    Text.isBlank c = true := by
  rw [gap] at h
  split at h
  · rw [List.mem_singleton.mp h]
    decide
  · simp at h

theorem lf_not_mem_withMark {style : CommentStyle} {t : Text} (hs : '\n' ∉ style.token)
    (ht : '\n' ∉ t) : '\n' ∉ t.withMark style.mark := by
  have hi : '\n' ∉ t.indent := fun h => ht (Text.mem_of_mem_indent h)
  have hb : '\n' ∉ t.body := fun h => ht (Text.mem_of_mem_body h)
  have hg : '\n' ∉ style.gap := by
    rw [gap]
    split <;> simp
  simp [Text.withMark, mark, hi, hb, hs, hg]

theorem length_mark_pos {style : CommentStyle} (h : style.token ≠ []) : 0 < style.mark.length := by
  have htoken := List.length_pos_iff.mpr h
  rw [mark, List.length_append]
  omega

theorem startsSolid_mark {style : CommentStyle} (h : style.token.startsSolid = true) :
    style.mark.startsSolid = true := Text.startsSolid_append h _

theorem token_prefix_body_withMark {style : CommentStyle} (hs : style.token.startsSolid = true)
    (t : Text) : style.token <+: (t.withMark style.mark).body := by
  rw [Text.body_withMark t (startsSolid_mark hs), mark, List.append_assoc]
  exact List.prefix_append _ _

theorem comment?_eq (style : CommentStyle) (t : Text) :
    style.comment? t =
      if t.isAllBlank = true ∨ style.token <+: t.body then none
      else some (t.withMark style.mark) := by
  simp only [comment?, Text.isAllBlank_iff, Text.withMark, mark, Bool.or_eq_true,
    List.isEmpty_iff, List.isPrefixOf_iff_prefix, List.append_assoc]

theorem comment?_eq_none_iff {style : CommentStyle} {t : Text} :
    style.comment? t = none ↔ t.isAllBlank = true ∨ style.token <+: t.body := by
  rw [comment?_eq]
  split <;> simp_all

theorem comment?_eq_some_iff {style : CommentStyle} {t c : Text} :
    style.comment? t = some c ↔
      t.isAllBlank = false ∧ ¬ style.token <+: t.body ∧ t.withMark style.mark = c := by
  rw [comment?_eq]
  split
  · next h => exact ⟨nofun, fun ⟨hb, hp, _⟩ => absurd h (by simp [hb, hp])⟩
  · next h =>
    rw [not_or, Bool.not_eq_true] at h
    rw [Option.some.injEq, and_iff_right h.1, and_iff_right h.2]

theorem token_ne_nil_of_comment? {style : CommentStyle} {t c : Text}
    (h : style.comment? t = some c) : style.token ≠ [] := by
  intro he
  obtain ⟨-, hp, -⟩ := comment?_eq_some_iff.mp h
  rw [he] at hp
  exact hp List.nil_prefix

theorem length_of_comment? {style : CommentStyle} {t c : Text} (h : style.comment? t = some c) :
    c.length = t.length + style.mark.length := by
  obtain ⟨-, -, rfl⟩ := comment?_eq_some_iff.mp h
  exact Text.length_withMark t style.mark

/-- Commenting out makes a comment of whatever is not blank. -/
theorem token_prefix_comment {style : CommentStyle} {t : Text}
    (hs : style.token.startsSolid = true) (hb : t.isAllBlank = false) :
    style.token <+: ((style.comment? t).getD t).body := by
  rw [comment?_eq]
  split
  · next h =>
    rcases h with h | h
    · rw [hb] at h
      exact absurd h (by decide)
    · exact h
  · rw [Option.getD_some]
    exact token_prefix_body_withMark hs t

theorem uncomment?_eq_none_iff {style : CommentStyle} {t : Text} :
    style.uncomment? t = none ↔ isComment style.token t = false := by
  rw [uncomment?, strip?, Option.map_eq_none_iff]
  cases h : isComment style.token t <;> rw [isComment] at h <;> simp [h]

/-- Commenting out leaves the kind of a line as it was. -/
theorem kindOf_withMark {d : Dialect} (h : d.Apart) {style : CommentStyle} {t : Text}
    (hs : style.token = d.token) (ht : ¬ d.token <+: t.body) :
    d.kindOf (t.withMark style.mark) = d.kindOf t := by
  rw [Text.withMark, Dialect.kindOf_append h _ fun _ hc => Text.isBlank_of_mem_indent hc, mark,
    hs, List.append_assoc, Dialect.kindOf_comment h (fun _ hc => isBlank_of_mem_gap hc) ht]

/-- What a text is without the single blank that a spaced style puts behind its token. -/
def withoutGap (style : CommentStyle) (t : Text) : Text :=
  if style.spaced then (Text.stripFront? [' '] t).getD t else t

theorem body_withoutGap (style : CommentStyle) (t : Text) : (style.withoutGap t).body = t.body := by
  rw [withoutGap]
  split
  · cases hs : Text.stripFront? [' '] t with
    | none => rfl
    | some r =>
      rw [Text.stripFront?_eq_some_iff.mp hs]
      exact (Text.body_blank_cons r (by decide)).symm
  · rfl

theorem withoutGap_gap_append (style : CommentStyle) (t : Text) :
    style.withoutGap (style.gap ++ t) = t := by
  cases hs : style.spaced with
  | true => simp [withoutGap, gap, hs, Text.stripFront?]
  | false => simp [withoutGap, gap, hs]

theorem uncomment?_eq (style : CommentStyle) (t : Text) :
    style.uncomment? t =
      (strip? style.token t.body).map fun rest => t.indent ++ style.withoutGap rest := rfl

/-- The body that is left of a line when its comment tokens, if any, are taken off. -/
def bare (token t : Text) : Text := ((strip? token t.body).getD t.body).body

theorem body_of_uncomment? {style : CommentStyle} {t u : Text} (h : style.uncomment? t = some u) :
    u.body = bare style.token t := by
  rw [uncomment?_eq, Option.map_eq_some_iff] at h
  obtain ⟨rest, hr, rfl⟩ := h
  rw [Text.body_indent_append, body_withoutGap, bare, hr, Option.getD_some]

theorem bare_of_not_isComment {token t : Text} (h : isComment token t = false) :
    bare token t = t.body := by
  rw [isComment] at h
  simp [bare, strip?, h]

theorem dropCopies_suffix (token t : Text) : dropCopies token t <:+ t := by
  fun_induction dropCopies token t with
  | case1 t => exact List.suffix_rfl
  | case2 t c cs hs => exact List.suffix_rfl
  | case3 t c cs rest hs ih =>
    rw [Text.stripFront?_eq_some_iff.mp hs]
    exact ih.trans (List.suffix_append _ _)

theorem dropCopies_append {token : Text} (h : token ≠ []) (t : Text) :
    dropCopies token (token ++ t) = dropCopies token t := by
  cases token with
  | nil => exact absurd rfl h
  | cons c cs =>
    have hstrip := Text.stripFront?_append (c :: cs) t
    conv => lhs; rw [dropCopies]
    split <;> simp_all

theorem dropStray_suffix (token t : Text) : dropStray token t <:+ t := by
  cases token with
  | nil => exact List.suffix_rfl
  | cons c cs =>
    rw [dropStray]
    split
    · exact List.dropWhile_suffix _
    · exact List.suffix_rfl

theorem strip?_suffix {token t rest : Text} (h : strip? token t = some rest) : rest <:+ t := by
  rw [strip?] at h
  split at h
  · obtain rfl := Option.some.inj h
    exact (dropStray_suffix _ _).trans (dropCopies_suffix _ _)
  · exact absurd h (by simp)

theorem withoutGap_suffix (style : CommentStyle) (t : Text) : style.withoutGap t <:+ t := by
  rw [withoutGap]
  split
  · cases hs : Text.stripFront? [' '] t with
    | none => exact List.suffix_rfl
    | some r =>
      rw [Text.stripFront?_eq_some_iff.mp hs]
      exact List.suffix_append _ _
  · exact List.suffix_rfl

/-- Taking comment tokens off takes off one at least. -/
theorem length_lt_of_strip? {token t rest : Text} (h : strip? token t = some rest) :
    rest.length < t.length := by
  rw [strip?] at h
  split at h
  · next hc =>
    rw [Bool.and_eq_true, Bool.not_eq_true', List.isEmpty_eq_false_iff,
      List.isPrefixOf_iff_prefix] at hc
    obtain ⟨hne, u, rfl⟩ := hc
    have hsuffix : rest <:+ u := by
      rw [← Option.some.inj h, dropCopies_append hne]
      exact (dropStray_suffix _ _).trans (dropCopies_suffix _ _)
    have hle := hsuffix.length_le
    have hpos := List.length_pos_iff.mpr hne
    rw [List.length_append]
    omega
  · exact absurd h (by simp)

theorem length_lt_of_uncomment? {style : CommentStyle} {t u : Text}
    (h : style.uncomment? t = some u) : u.length < t.length := by
  rw [uncomment?_eq, Option.map_eq_some_iff] at h
  obtain ⟨rest, hr, rfl⟩ := h
  have hbody := length_lt_of_strip? hr
  have hgap := (withoutGap_suffix style rest).length_le
  rw [List.length_append, Text.length_eq_indent_add_body t]
  omega

/-- Taking a comment off leaves the indentation and some end of the body. -/
theorem uncomment?_eq_some {style : CommentStyle} {t u : Text} (h : style.uncomment? t = some u) :
    ∃ r, u = t.indent ++ r ∧ r <:+ t.body := by
  rw [uncomment?_eq, Option.map_eq_some_iff] at h
  obtain ⟨rest, hr, rfl⟩ := h
  exact ⟨_, rfl, (withoutGap_suffix style rest).trans (strip?_suffix hr)⟩

theorem bare_suffix (token t : Text) : bare token t <:+ t.body := by
  cases hs : strip? token t.body with
  | none => simp [bare, hs]
  | some rest =>
    rw [bare, hs]
    exact (List.dropWhile_suffix _).trans (strip?_suffix hs)

@[simp] theorem body_bare (token t : Text) : (bare token t).body = bare token t := by
  rw [bare, Text.body_body]

theorem body_getD_uncomment? (style : CommentStyle) (t : Text) :
    ((style.uncomment? t).getD t).body = bare style.token t := by
  cases h : style.uncomment? t with
  | none => rw [Option.getD_none, bare_of_not_isComment (uncomment?_eq_none_iff.mp h)]
  | some u => rw [Option.getD_some, body_of_uncomment? h]

theorem kindOf_getD_comment? {d : Dialect} (h : d.Apart) {style : CommentStyle} (t : Text)
    (hs : style.token = d.token) : d.kindOf ((style.comment? t).getD t) = d.kindOf t := by
  rw [comment?_eq]
  split
  · rfl
  · next hn =>
    rw [not_or, hs] at hn
    rw [Option.getD_some, kindOf_withMark h hs hn.2]

/-- A line that has been commented out is of the kind that it was, with the label that it had. -/
theorem kindOf_of_comment? {d : Dialect} (h : d.Apart) (spaced : Bool) {t c : Text}
    (hc : comment? ⟨d.token, spaced⟩ t = some c) : d.kindOf c = d.kindOf t := by
  obtain ⟨-, hlive, rfl⟩ := comment?_eq_some_iff.mp hc
  exact kindOf_withMark h rfl hlive

/-- A header and a marker behind a token that could be decoration. -/
theorem kindOf_of_comment?_decoration :
    let d : Dialect := ⟨"[[".toList, "]]".toList, "-*".toList⟩
    d.Apart ∧
      comment? ⟨d.token, false⟩ "\t* Linux Configuration".toList =
        some "\t-** Linux Configuration".toList ∧
      d.kindOf "\t-** Linux Configuration".toList = .header "Linux".toList ∧
      comment? ⟨d.token, true⟩ "- ]]".toList = some "-* - ]]".toList ∧
      d.kindOf "-* - ]]".toList = .closing := by
  intro d
  have hapart : d.Apart :=
    ⟨by decide, by simp [Header.Letterless, d], Dialect.marker_apart (by decide),
      Dialect.marker_apart (by decide)⟩
  have hheader : comment? ⟨d.token, false⟩ "\t* Linux Configuration".toList =
      some "\t-** Linux Configuration".toList := by decide +kernel
  have hmarker : comment? ⟨d.token, true⟩ "- ]]".toList = some "-* - ]]".toList := by
    decide +kernel
  exact ⟨hapart, hheader, (kindOf_of_comment? hapart false hheader).trans (by decide +kernel),
    hmarker, (kindOf_of_comment? hapart true hmarker).trans (by decide +kernel)⟩

/-! ### Tokens of one repeated character -/

theorem dropWhile_dropCopies {token : Text} {c : Char} (h : ∀ x ∈ token, x = c) (t : Text) :
    (dropCopies token t).dropWhile (· == c) = t.dropWhile (· == c) := by
  fun_induction dropCopies token t with
  | case1 t => rfl
  | case2 t d ds hs => rfl
  | case3 t d ds rest hs ih =>
    rw [ih h, Text.stripFront?_eq_some_iff.mp hs,
      List.dropWhile_append_of_pos fun x hx => by simp [h x hx]]

/-- Nothing of a token of one repeated character is left in front of what it commented out. -/
theorem strip?_of_repeated {c : Char} {cs t : Text} (h : ∀ x ∈ cs, x = c) :
    strip? (c :: cs) t = if c :: cs <+: t then some (t.dropWhile (· == c)) else none := by
  have ha : cs.all (· == c) = true := by simpa using h
  have hd : dropStray (c :: cs) (dropCopies (c :: cs) t) = t.dropWhile (· == c) := by
    rw [dropStray, if_pos ha, dropWhile_dropCopies (by simpa using h)]
  simp [strip?, hd]

/-! ### Marks taken off -/

theorem dropCopies_of_not_prefix {token x : Text} (h : ¬ token <+: x) : dropCopies token x = x := by
  fun_induction dropCopies token x with
  | case1 x => rfl
  | case2 x c cs hs => rfl
  | case3 x c cs more hs _ =>
    rw [Text.stripFront?_eq_some_iff.mp hs] at h
    exact absurd (List.prefix_append _ _) h

/-- A text that does not go on with the character of the token has no stray copy in front. -/
theorem dropStray_of_head?_ne {token x : Text}
    (h : ∀ c, (∀ y ∈ token, y = c) → x.head? ≠ some c) :
    dropStray token x = x := by
  cases token with
  | nil => rfl
  | cons c cs =>
    rw [dropStray]
    split
    · next hall =>
      have hhead : x.head? ≠ some c := h c (by simpa using hall)
      cases x with
      | nil => rfl
      | cons d more => exact List.dropWhile_cons_of_neg (by simpa using hhead)
    · rfl

/-- Of a token in front of what has none and no stray copy, nothing more is taken off. -/
theorem strip?_append {token x : Text} (hne : token ≠ []) (hlive : ¬ token <+: x)
    (hstray : ∀ c, (∀ y ∈ token, y = c) → x.head? ≠ some c) :
    strip? token (token ++ x) = some x := by
  have hfront : (!token.isEmpty && token.isPrefixOf (token ++ x)) = true := by simp [hne]
  rw [strip?, if_pos hfront, dropCopies_append hne, dropCopies_of_not_prefix hlive,
    dropStray_of_head?_ne hstray]

/-- Behind the mark of a style is what it has been put in front of, if that has no token in front
and, where no gap keeps it from the token, no stray copy. -/
theorem strip?_mark_append {style : CommentStyle} {x : Text} (hs : style.token.startsSolid = true)
    (hlive : ¬ style.token <+: x)
    (hstray : style.spaced = false → ∀ c, (∀ y ∈ style.token, y = c) → x.head? ≠ some c) :
    strip? style.token (style.mark ++ x) = some (style.gap ++ x) := by
  have hne := Text.ne_nil_of_startsSolid hs
  rw [mark, List.append_assoc]
  cases hsp : style.spaced with
  | false =>
    have hgap : style.gap = [] := by simp [gap, hsp]
    rw [hgap, List.nil_append]
    exact strip?_append hne hlive (hstray hsp)
  | true =>
    have hgap : style.gap = [' '] := by simp [gap, hsp]
    obtain ⟨d, ds, hd⟩ := List.exists_cons_of_ne_nil hne
    -- the token does not start as the gap does
    have hspace : d ≠ ' ' := by
      rintro rfl
      simp [hd, Text.startsSolid, show Text.isBlank ' ' = true by decide] at hs
    rw [hgap]
    apply strip?_append hne
    · rw [hd, List.singleton_append, List.cons_prefix_cons]
      exact fun hp => hspace hp.1
    · rintro c hc hhead
      obtain rfl : ' ' = c := by simpa using hhead
      exact hspace (hc d (hd ▸ List.mem_cons_self))

end CommentStyle

end RegionToggle
