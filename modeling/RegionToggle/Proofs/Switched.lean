import RegionToggle.Proofs.Rest

/-!
# Switched lines

In a plain content no line that a rewrite may edit starts with a slash. What is off for a platform
can be told there line by line, and switching a plain content marks the lines that are off. A
rewrite for another platform sees through the marks: it puts every line into the state that the
other platform has it in, whether the line carries a mark of the style or not.
-/

namespace RegionToggle

/-- Whether a line in a zone may be edited: a body line inside, and outside, unless outside lines
are preserved, any line but a marker. -/
def OutsidePolicy.mayEdit (outside : OutsidePolicy) (zone : Zone) (line : Line) : Bool :=
  if zone.isInside then decide (line.kind = .body)
  else decide (outside ≠ .preserve) && !line.isMarker

/-- Whether no line that may be edited starts with a slash behind its indentation. -/
def OutsidePolicy.IsPlain (outside : OutsidePolicy) (content : Text) : Prop :=
  ∀ i line, (Dialect.standard.lines content)[i]? = some line →
    outside.mayEdit (.behind ((Dialect.standard.lines content).take i)) line = true →
    line.text.body.head? ≠ some '/'

theorem OutsidePolicy.isPlain_iff {outside : OutsidePolicy} {content : Text} :
    outside.IsPlain content ↔
      ∀ x ∈ Zone.place .outside (Dialect.standard.lines content),
        outside.mayEdit x.1 x.2 = true → x.2.text.body.head? ≠ some '/' :=
  (Zone.forall_mem_place_iff (P := fun zone line =>
    outside.mayEdit zone line = true → line.text.body.head? ≠ some '/')).symm

instance OutsidePolicy.decidableIsPlain (outside : OutsidePolicy) (content : Text) :
    Decidable (outside.IsPlain content) :=
  decidable_of_iff _ isPlain_iff.symm

/-- Whether a line in a zone is off for a platform: inside the body lines of the sections of others,
and outside, if labels are matched there, the lines that mention neither the platform nor a marker.
Blank lines never are. -/
def Platform.isOff (p : Platform) (outside : OutsidePolicy) (zone : Zone) (line : Line) : Bool :=
  !line.text.isAllBlank &&
    if zone.isInside then
      decide (line.kind = .body) && zone.label?.any fun label => !p.isNamedBy label
    else
      decide (outside = .labelMatch) && !line.isMarker &&
        !(Text.occurs p.label line.text || Text.occurs Dialect.commonMark line.text)

/-- The text of a line, with the mark of a style if the line is chosen. -/
def CommentStyle.put (style : CommentStyle) (choice : Zone → Line → Bool) (zone : Zone)
    (line : Line) : Text :=
  if choice zone line then line.text.withMark style.mark else line.text

/-- The content with the mark of a style behind the indentation of each line that is chosen. -/
def CommentStyle.markUp (style : CommentStyle) (choice : Zone → Line → Bool) (content : Text) :
    Text :=
  let lines := Dialect.standard.lines content
  Text.join (lines.mapIdx fun i line =>
    ⟨style.put choice (.behind (lines.take i)) line, line.ending⟩)

def CommentStyle.compact : CommentStyle := ⟨Dialect.standardToken, false⟩

/-- Comments of the standard token with a space behind it. -/
def CommentStyle.airy : CommentStyle := ⟨Dialect.standardToken, true⟩

namespace Platform

variable {p q : Platform} {outside : OutsidePolicy} {zone : Zone} {line : Line}

/-- The lines that are off are those that are not blank and are to be commented out. -/
theorem isOff_iff :
    p.isOff outside zone line = true ↔
      line.text.isAllBlank = false ∧
        (RewriteOptions.mk p .standard outside).aim zone line = .comment := by
  rw [isOff, RewriteOptions.aim_eq, Bool.and_eq_true, Bool.not_eq_true']
  apply and_congr_right
  intro _
  cases zone with
  | outside =>
    cases line.isMarker <;> cases outside <;> simp [Zone.isInside, RewriteOptions.outsideAim]
  | inside openedAt label? =>
    by_cases hk : line.kind = .body
    · cases label? with
      | none => simp [Zone.isInside, Zone.label?, RewriteOptions.sectionAim, Line.isMarker, hk]
      | some label =>
        cases hn : p.isNamedBy label <;>
          simp [Zone.isInside, Zone.label?, RewriteOptions.sectionAim, Line.isMarker, hk, hn]
    · simp [Zone.isInside, hk]

theorem isOff_eq (p : Platform) (outside : OutsidePolicy) (zone : Zone) (line : Line) :
    p.isOff outside zone line =
      (!line.text.isAllBlank &&
        decide ((RewriteOptions.mk p .standard outside).aim zone line = .comment)) := by
  rw [Bool.eq_iff_iff, isOff_iff, Bool.and_eq_true, Bool.not_eq_true', decide_eq_true_eq]

/-- Which lines are kept whatever they hold does not depend on the platform. -/
theorem aim_eq_keep_iff (p : Platform) (outside : OutsidePolicy) (zone : Zone) (line : Line) :
    (RewriteOptions.mk p .standard outside).aim zone line = .keep ↔
      if zone.isInside then line.kind = .body → zone.label? = none
      else line.isMarker = true ∨ outside = .preserve := by
  rw [RewriteOptions.aim_eq]
  cases zone with
  | outside =>
    cases line.isMarker <;> cases outside <;>
      simp [Zone.isInside, RewriteOptions.outsideAim, ite_eq_iff]
  | inside openedAt label? =>
    by_cases hk : line.kind = .body
    · cases label? with
      | none => simp [Zone.isInside, Zone.label?, RewriteOptions.sectionAim, Line.isMarker, hk]
      | some label =>
        cases hn : p.isNamedBy label <;>
          simp [Zone.isInside, Zone.label?, RewriteOptions.sectionAim, Line.isMarker, hk, hn]
    · simp [Zone.isInside, hk]

/-- A line that is off for some platform is edited for every platform. -/
theorem aim_ne_keep_of_isOff (h : p.isOff outside zone line = true) (q : Platform) :
    (RewriteOptions.mk q .standard outside).aim zone line ≠ .keep := by
  intro hq
  rw [aim_eq_keep_iff, ← aim_eq_keep_iff p, (isOff_iff.mp h).2] at hq
  exact absurd hq (by decide)

theorem mayEdit_of_aim_ne_keep
    (h : (RewriteOptions.mk p .standard outside).aim zone line ≠ .keep) :
    outside.mayEdit zone line = true := by
  rw [Ne, aim_eq_keep_iff] at h
  rw [OutsidePolicy.mayEdit]
  cases hz : zone.isInside with
  | true =>
    rw [hz, if_pos rfl, Classical.not_imp] at h
    exact decide_eq_true h.1
  | false =>
    rw [hz, if_neg Bool.false_ne_true, not_or] at h
    simp [h.1, h.2]

end Platform

/-- Whether only lines are chosen that are off for some platform. -/
def OutsidePolicy.Offers (outside : OutsidePolicy) (choice : Zone → Line → Bool) : Prop :=
  ∀ zone line, choice zone line = true → ∃ p : Platform, p.isOff outside zone line = true

namespace OutsidePolicy

variable {outside : OutsidePolicy} {choice : Zone → Line → Bool} {zone : Zone} {line : Line}

theorem offers_never : outside.Offers fun _ _ => false :=
  fun _ _ h => absurd h Bool.false_ne_true

theorem offers_isOff (p : Platform) : outside.Offers (p.isOff outside) := fun _ _ h => ⟨p, h⟩

theorem Offers.not_isAllBlank (hc : outside.Offers choice) (h : choice zone line = true) :
    line.text.isAllBlank = false := by
  obtain ⟨p, hp⟩ := hc zone line h
  exact (Platform.isOff_iff.mp hp).1

theorem Offers.mayEdit (hc : outside.Offers choice) (h : choice zone line = true) :
    outside.mayEdit zone line = true := by
  obtain ⟨p, hp⟩ := hc zone line h
  exact Platform.mayEdit_of_aim_ne_keep (Platform.aim_ne_keep_of_isOff hp p)

theorem Offers.kind_eq (hc : outside.Offers choice) (h : choice zone line = true)
    (hz : zone.isInside = true) : line.kind = .body := by
  have he := hc.mayEdit h
  rw [OutsidePolicy.mayEdit, if_pos hz] at he
  exact of_decide_eq_true he

end OutsidePolicy

/-! ### Marks on lines that start with no slash -/

namespace CommentStyle

variable {style : CommentStyle} {t : Text}

theorem not_token_prefix_body (ht : t.body.head? ≠ some '/') :
    ¬ Dialect.standardToken <+: t.body := by
  intro h
  obtain ⟨r, hr⟩ := h
  rw [← hr] at ht
  exact ht rfl

theorem isComment_of_head?_ne (ht : t.body.head? ≠ some '/') :
    isComment Dialect.standardToken t = false := by
  rw [← Bool.not_eq_true, isComment_iff]
  exact fun h => not_token_prefix_body ht h.2

theorem startsSolid_mark_of_eq (hs : style.token = Dialect.standardToken) :
    style.mark.startsSolid = true := by
  apply startsSolid_mark
  rw [hs]
  decide

theorem token_prefix_withMark (hs : style.token = Dialect.standardToken) (t : Text) :
    style.token <+: (t.withMark style.mark).body := by
  apply token_prefix_body_withMark
  rw [hs]
  decide

theorem strip?_mark_append_body (hs : style.token = Dialect.standardToken)
    (ht : t.body.head? ≠ some '/') :
    strip? style.token (style.mark ++ t.body) = some (style.gap ++ t.body) := by
  refine strip?_mark_append (by rw [hs]; decide) (by rw [hs]; exact not_token_prefix_body ht) ?_
  intro _ c hc
  obtain rfl : '/' = c := hc '/' (by rw [hs]; decide)
  exact ht

/-- Taking the mark off a line that starts with no slash gives the line back. -/
theorem uncomment?_withMark (hs : style.token = Dialect.standardToken)
    (ht : t.body.head? ≠ some '/') : style.uncomment? (t.withMark style.mark) = some t := by
  have hm := startsSolid_mark_of_eq hs
  rw [uncomment?_eq, Text.body_withMark t hm, Text.indent_withMark t hm,
    strip?_mark_append_body hs ht, Option.map_some, withoutGap_gap_append,
    Text.indent_append_body]

theorem occurs_withMark (hs : style.token = Dialect.standardToken) {needle : Text} (t : Text)
    (hn : ∀ c ∈ needle, Text.isBlank c = false ∧ c ≠ '/') :
    Text.occurs needle (t.withMark style.mark) = Text.occurs needle t := by
  have hblank : ∀ c, Text.isBlank c = true → c ∉ needle := by
    intro c hc hcn
    rw [(hn c hcn).1] at hc
    exact absurd hc (by decide)
  have hindent : ∀ c ∈ t.indent, c ∉ needle := fun c hc =>
    hblank c (Text.isBlank_of_mem_indent hc)
  have hmark : ∀ c ∈ style.mark, c ∉ needle := by
    intro c hc
    rcases List.mem_append.mp hc with hc | hc
    · intro hcn
      rw [hs] at hc
      exact (hn c hcn).2 (by simpa [Dialect.standardToken] using hc)
    · exact hblank c (isBlank_of_mem_gap hc)
  conv => rhs; rw [← Text.indent_append_body t]
  rw [Text.withMark, Text.occurs_append _ hindent, Text.occurs_append _ hmark,
    Text.occurs_append _ hindent]

/-- Commenting a line out does not care whether the line has been marked. -/
theorem getD_comment?_put {choice : Zone → Line → Bool} {zone : Zone} {line : Line}
    (hs : style.token = Dialect.standardToken) (ht : line.text.body.head? ≠ some '/')
    (hc : choice zone line = true → line.text.isAllBlank = false) :
    (style.comment? (style.put choice zone line)).getD (style.put choice zone line) =
      if line.text.isAllBlank then line.text else line.text.withMark style.mark := by
  rw [put]
  cases h : choice zone line with
  | true =>
    have hnone : style.comment? (line.text.withMark style.mark) = none :=
      comment?_eq_none_iff.mpr (.inr (token_prefix_withMark hs _))
    rw [if_pos rfl, hnone, Option.getD_none, hc h, if_neg Bool.false_ne_true]
  | false =>
    have hp := not_token_prefix_body ht
    rw [← hs] at hp
    cases hb : line.text.isAllBlank <;> simp [comment?_eq, hb, hp]

/-- Nor does taking comments off. -/
theorem getD_uncomment?_put {choice : Zone → Line → Bool} {zone : Zone} {line : Line}
    (hs : style.token = Dialect.standardToken) (ht : line.text.body.head? ≠ some '/') :
    (style.uncomment? (style.put choice zone line)).getD (style.put choice zone line) =
      line.text := by
  rw [put]
  split
  · rw [uncomment?_withMark hs ht, Option.getD_some]
  · have hnone : style.uncomment? line.text = none := by
      rw [uncomment?_eq_none_iff, hs, isComment_of_head?_ne ht]
    rw [hnone, Option.getD_none]

end CommentStyle

namespace RewriteOptions

variable {q : Platform} {outside : OutsidePolicy} {style : CommentStyle} {zone : Zone} {line : Line}
  {choice : Zone → Line → Bool}

/-- A mark does not hide what a line mentions. -/
theorem aim_put (hs : style.token = Dialect.standardToken) :
    (RewriteOptions.mk q .standard outside).aim zone
        { line with text := style.put choice zone line } =
      (RewriteOptions.mk q .standard outside).aim zone line := by
  have hlabel : ∀ c ∈ q.label, Text.isBlank c = false ∧ c ≠ '/' := by
    have h : (q.label.all fun c => !Text.isBlank c && c != '/') = true := by cases q <;> decide
    simpa using h
  have hcommon : ∀ c ∈ Dialect.commonMark, Text.isBlank c = false ∧ c ≠ '/' := by
    have h : (Dialect.commonMark.all fun c => !Text.isBlank c && c != '/') = true := by decide
    simpa using h
  rw [CommentStyle.put]
  split
  · rw [aim_eq, aim_eq, outsideAim, outsideAim, CommentStyle.occurs_withMark hs _ hlabel,
      CommentStyle.occurs_withMark hs _ hcommon]
    rfl
  · rfl

/-- Whatever lines off for some platform carry marks, each line is written as the platform of the
rewrite has it. -/
theorem textFor_put (hs : style.token = Dialect.standardToken)
    (ht : outside.mayEdit zone line = true → line.text.body.head? ≠ some '/')
    (hc : outside.Offers choice) :
    (RewriteOptions.mk q .standard outside).textFor style zone
        { line with text := style.put choice zone line } =
      style.put (q.isOff outside) zone line := by
  have hput : style.put (q.isOff outside) zone line =
      if q.isOff outside zone line then line.text.withMark style.mark else line.text := rfl
  rw [textFor, edit, aim_put hs, hput]
  cases ha : (RewriteOptions.mk q .standard outside).aim zone line with
  | keep =>
    have hno : choice zone line = false := by
      rw [← Bool.not_eq_true]
      intro h
      obtain ⟨p, hp⟩ := hc zone line h
      exact Platform.aim_ne_keep_of_isOff hp q ha
    have hoff : q.isOff outside zone line = false := by simp [Platform.isOff_eq, ha]
    rw [Edit.apply_ofAim_keep, CommentStyle.put, hno, hoff]
  | comment =>
    have hhead := ht (Platform.mayEdit_of_aim_ne_keep (p := q) (by rw [ha]; decide))
    have hoff : q.isOff outside zone line = !line.text.isAllBlank := by simp [Platform.isOff_eq, ha]
    rw [Edit.apply_ofAim_comment, CommentStyle.getD_comment?_put hs hhead hc.not_isAllBlank, hoff]
    cases line.text.isAllBlank <;> rfl
  | uncomment =>
    have hhead := ht (Platform.mayEdit_of_aim_ne_keep (p := q) (by rw [ha]; decide))
    have hoff : q.isOff outside zone line = false := by simp [Platform.isOff_eq, ha]
    rw [Edit.apply_ofAim_uncomment, CommentStyle.getD_uncomment?_put hs hhead, hoff]
    rfl

/-- There is nothing to do about a line in the state that the platform has it in. -/
theorem rests_put (hs : style.token = Dialect.standardToken)
    (ht : outside.mayEdit zone line = true → line.text.body.head? ≠ some '/') :
    (RewriteOptions.mk q .standard outside).Rests zone
      { line with text := style.put (q.isOff outside) zone line } := by
  rw [Rests, aim_put hs, CommentStyle.put]
  cases ha : (RewriteOptions.mk q .standard outside).aim zone line with
  | keep => trivial
  | comment =>
    have hp := CommentStyle.token_prefix_withMark hs line.text
    rw [hs] at hp
    rw [Platform.isOff_eq, ha]
    cases hb : line.text.isAllBlank with
    | true => exact .inl hb
    | false => exact .inr hp
  | uncomment =>
    have hhead := ht (Platform.mayEdit_of_aim_ne_keep (p := q) (by rw [ha]; decide))
    have hoff : q.isOff outside zone line = false := by simp [Platform.isOff_eq, ha]
    rw [hoff]
    exact CommentStyle.isComment_of_head?_ne hhead

end RewriteOptions

end RegionToggle
