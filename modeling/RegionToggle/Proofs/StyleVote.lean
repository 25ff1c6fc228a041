import RegionToggle.Proofs.Switched

/-!
# The vote for a style

The style of a file is found by a vote of the comments that stand inside its regions. In a plain
content these are the marks alone, which agree. So the style of a marked file is that of its marks,
except that a file without marks inside its regions counts as compact.
-/

namespace RegionToggle.CommentStyle

/-- The vote of a line in a zone: body lines inside regions vote. -/
def voteIn? (token : Text) (zone : Zone) (line : Line) : Option Bool :=
  if zone.isInside = true ∧ line.kind = .body then vote? token line.text else none

/-- The votes of a file, read off the places of its lines. -/
theorem votes_eq_filterMap (token : Text) (zone : Zone) (lines : List Line) :
    votes token zone.isInside lines =
      (Zone.place zone lines).filterMap fun x => voteIn? token x.1 x.2 := by
  induction lines generalizing zone with
  | nil => rfl
  | cons line more ih =>
    have hnext := ih (zone.next line)
    obtain ⟨number, text, ending, kind⟩ := line
    rw [Zone.place, List.filterMap_cons, ← hnext]
    cases kind with
    | opening => simp [votes, voteIn?, Zone.next, Zone.isInside]
    | closing => simp [votes, voteIn?, Zone.next, Zone.isInside]
    | header label => cases zone <;> simp [votes, voteIn?, Zone.next, Zone.isInside]
    | body =>
      cases zone with
      | outside => simp [votes, voteIn?, Zone.next, Zone.isInside]
      | inside openedAt label? =>
        cases hv : vote? token text <;> simp [votes, voteIn?, Zone.next, Zone.isInside, hv]

/-- Votes that agree decide for what they are for, if there are any and it is not the default. -/
theorem detect_retext {token : Text} {f : Zone → Line → Text} {voter : Zone → Line → Bool}
    {lines : List Line} {b : Bool}
    (h : ∀ zone line, (zone, line) ∈ Zone.place .outside lines →
      voteIn? token zone { line with text := f zone line } =
        if voter zone line then some b else none) :
    detect token (Zone.retext f .outside lines) =
      ⟨token, b && (Zone.place .outside lines).any fun x => voter x.1 x.2⟩ := by
  have hmem : ∀ v, v ∈ votes token false (Zone.retext f .outside lines) ↔
      ∃ x ∈ Zone.place .outside lines, voter x.1 x.2 = true ∧ b = v := by
    intro v
    have hvotes := votes_eq_filterMap token .outside (Zone.retext f .outside lines)
    rw [Zone.isInside] at hvotes
    rw [hvotes, Zone.place_retext, List.filterMap_map, List.mem_filterMap]
    apply exists_congr
    intro x
    apply and_congr_right
    intro hx
    simp [h x.1 x.2 hx]
  have hno : (votes token false (Zone.retext f .outside lines)).count (!b) = 0 := by
    rw [List.count_eq_zero, hmem]
    rintro ⟨x, -, -, hb⟩
    cases b <;> exact absurd hb (by decide)
  rw [detect, CommentStyle.mk.injEq]
  refine ⟨rfl, ?_⟩
  cases b with
  | false =>
    simp only [Bool.not_false] at hno
    simp [hno]
  | true =>
    simp only [Bool.not_true] at hno
    rw [hno, Bool.true_and, Bool.eq_iff_iff, decide_eq_true_eq, List.count_pos_iff, hmem,
      List.any_eq_true]
    simp only [and_true]

variable {style : CommentStyle} {t : Text}

theorem vote?_of_head?_ne (hs : style.token = Dialect.standardToken)
    (ht : t.body.head? ≠ some '/') : vote? style.token t = none := by
  have hc := isComment_of_head?_ne ht
  rw [isComment, ← hs] at hc
  simp [vote?, strip?, hc]

theorem vote?_withMark (hs : style.token = Dialect.standardToken)
    (ht : t.body.head? ≠ some '/') (hb : t.isAllBlank = false) :
    vote? style.token (t.withMark style.mark) = some style.spaced := by
  rw [vote?, Text.body_withMark t (startsSolid_mark_of_eq hs), strip?_mark_append_body hs ht, gap]
  cases hsp : style.spaced with
  | true => rfl
  | false =>
    cases h : t.body with
    | nil =>
      rw [Text.isAllBlank_iff.mpr h] at hb
      exact absurd hb (by decide)
    | cons c r =>
      have hc := Text.not_isBlank_of_body h
      have hne : c ≠ ' ' := by
        rintro rfl
        exact absurd hc (by decide)
      simp [hne]

/-- A line that starts with no slash casts no vote, and its mark votes for its style. -/
theorem voteIn?_put {choice : Zone → Line → Bool} {outside : OutsidePolicy} {zone : Zone}
    {line : Line} (hs : style.token = Dialect.standardToken)
    (ht : outside.mayEdit zone line = true → line.text.body.head? ≠ some '/')
    (hc : outside.Offers choice) :
    voteIn? style.token zone { line with text := style.put choice zone line } =
      if zone.isInside && choice zone line then some style.spaced else none := by
  rw [voteIn?, put]
  cases hz : zone.isInside with
  | false => simp
  | true =>
    cases h : choice zone line with
    | true => simp [hc.kind_eq h hz, vote?_withMark hs (ht (hc.mayEdit h)) (hc.not_isAllBlank h)]
    | false =>
      by_cases hk : line.kind = .body
      · have he : outside.mayEdit zone line = true := by simp [OutsidePolicy.mayEdit, hz, hk]
        simp [vote?_of_head?_ne hs (ht he)]
      · simp [hk]

end RegionToggle.CommentStyle
