import RegionToggle.Comment
import RegionToggle.Proofs.HeaderGrammar
import RegionToggle.Proofs.Indentation

/-!
# The kind of a line and its comment

In a dialect whose token neither starts with a blank nor holds a letter, and whose markers share
nothing with the token and hold no blank, the kind of a line is that of its body, and commenting a
line out leaves its kind, and the label of a header, as they were. The standard dialect is of this
sort.
-/

namespace RegionToggle

/-- Dialects in which a token in front of a body is never taken for part of it. -/
structure Dialect.Apart (d : Dialect) : Prop where
  token_startsSolid : d.token.startsSolid = true
  token_letterless : Header.Letterless d.token
  opening_apart : ∀ c ∈ d.opening, Text.isBlank c = false ∧ c ∉ d.token
  closing_apart : ∀ c ∈ d.closing, Text.isBlank c = false ∧ c ∉ d.token

/-- A marker is tested character by character. -/
theorem Dialect.marker_apart {token marker : Text}
    (h : (marker.all fun c => !Text.isBlank c && !token.contains c) = true) :
    ∀ c ∈ marker, Text.isBlank c = false ∧ c ∉ token := by
  simpa using h

theorem Dialect.standard_apart : Dialect.standard.Apart where
  token_startsSolid := by decide
  token_letterless := by simp [Header.Letterless, Dialect.standard, Dialect.standardToken]
  opening_apart := marker_apart (by decide)
  closing_apart := marker_apart (by decide)

namespace Header

theorem Names.startsSolid {label t : Text} (h : Names label t) : t.startsSolid = true := by
  obtain ⟨c, r, rfl, hc⟩ := h.cons
  cases hb : Text.isBlank c with
  | false => simp [Text.startsSolid, hb]
  | true => rw [not_isAlpha_of_isBlank hb] at hc; exact absurd hc (by decide)

/-- The indentation of a line does not matter to its readings. -/
theorem reads_body_iff {token t label : Text} (hs : token.startsSolid = true) :
    Reads token t.body label ↔ Reads token t label := by
  constructor
  · rintro ⟨w, k, d, u, ht, hw, hd, hu⟩
    refine ⟨t.indent ++ w, k, d, u, ?_, ?_, hd, hu⟩
    · rw [List.append_assoc, ← ht, Text.indent_append_body]
    · intro c hc
      rcases List.mem_append.mp hc with h | h
      · exact Text.isBlank_of_mem_indent h
      · exact hw c h
  · rintro ⟨w, k, d, u, rfl, hw, hd, hu⟩
    rw [Text.body_append _ hw]
    cases k with
    | zero =>
      refine ⟨[], 0, d.body, u, ?_, by simp, fun c hc => ?_, hu⟩
      · simp [Text.body_append_of_startsSolid d hu.startsSolid]
      · exact hd c (Text.mem_of_mem_body hc)
    | succ k =>
      rw [copies_succ, List.append_assoc,
        Text.body_of_startsSolid (Text.startsSolid_append hs _)]
      exact ⟨[], k + 1, d, u, by simp, by simp, hd, hu⟩

/-- What follows letterless text in front of a label is decoration of that label. -/
theorem reads_of_append_eq {token x t d u label : Text} (h : x ++ t = d ++ u)
    (hx : Letterless x) (hd : ∀ c ∈ d, isDecoration c = true) (hu : Names label u) :
    Reads token t label := by
  rcases List.append_eq_append_iff.mp h with ⟨a, rfl, rfl⟩ | ⟨a, rfl, ha⟩
  · exact ⟨[], 0, a, u, rfl, by simp, fun c hc => hd c (List.mem_append_right _ hc), hu⟩
  · cases a with
    | nil =>
      obtain rfl : u = t := ha
      exact ⟨[], 0, [], u, rfl, by simp, by simp, hu⟩
    | cons c a =>
      obtain ⟨e, r, he, hc⟩ := hu.cons
      rw [ha] at he
      rw [← (List.cons.inj he).1, hx c (by simp)] at hc
      exact absurd hc (by decide)

/-- A token in front of a body that has none there, with blanks behind it or not, leaves the
readings as they were. -/
theorem reads_comment_iff {token gap t label : Text} (hs : token.startsSolid = true)
    (hl : Letterless token) (hg : ∀ c ∈ gap, Text.isBlank c = true) (ht : ¬ token <+: t.body) :
    Reads token (token ++ (gap ++ t.body)) label ↔ Reads token t.body label := by
  have hgap : Letterless gap := fun c hc => not_isAlpha_of_isBlank (hg c hc)
  constructor
  · rintro ⟨w, k, d, u, h, hw, hd, hu⟩
    have hb := congrArg Text.body h
    rw [Text.body_of_startsSolid (Text.startsSolid_append hs _), Text.body_append _ hw] at hb
    cases k with
    | zero =>
      rw [copies_zero, List.nil_append, Text.body_append_of_startsSolid d hu.startsSolid,
        ← List.append_assoc] at hb
      exact reads_of_append_eq hb (hl.append hgap)
        (fun c hc => hd c (Text.mem_of_mem_body hc)) hu
    | succ k =>
      rw [copies_succ, List.append_assoc,
        Text.body_of_startsSolid (Text.startsSolid_append hs _)] at hb
      have hb' := List.append_cancel_left hb
      cases k with
      | zero =>
        rw [copies_zero, List.nil_append] at hb'
        exact reads_of_append_eq hb' hgap hd hu
      | succ k =>
        have hbb := congrArg Text.body hb'
        rw [Text.body_append _ hg, Text.body_body, copies_succ, List.append_assoc,
          Text.body_of_startsSolid (Text.startsSolid_append hs _)] at hbb
        exact absurd (hbb ▸ List.prefix_append token _) ht
  · rintro ⟨w, k, d, u, h, hw, hd, hu⟩
    cases k with
    | zero =>
      refine ⟨[], 1, gap ++ (w ++ d), u, by simp [h], by simp, fun c hc => ?_, hu⟩
      rcases List.mem_append.mp hc with hc | hc
      · simp [isDecoration, hg c hc]
      · rcases List.mem_append.mp hc with hc | hc
        · simp [isDecoration, hw c hc]
        · exact hd c hc
    | succ k =>
      have hb := congrArg Text.body h
      rw [Text.body_body, Text.body_append _ hw, copies_succ, List.append_assoc,
        Text.body_of_startsSolid (Text.startsSolid_append hs _)] at hb
      exact absurd (hb ▸ List.prefix_append token _) ht

theorem label?_eq_of_reads_iff {token t u : Text} (hl : Letterless token)
    (h : ∀ label, Reads token t label ↔ Reads token u label) : label? token t = label? token u := by
  apply Option.ext
  intro label
  rw [label?_eq_some_iff_reads hl, label?_eq_some_iff_reads hl, h]

end Header

namespace Dialect

variable {d : Dialect}

theorem kindOf_congr {t u : Text} (ho : Text.occurs d.opening t = Text.occurs d.opening u)
    (hc : Text.occurs d.closing t = Text.occurs d.closing u)
    (hl : Header.label? d.token t = Header.label? d.token u) : d.kindOf t = d.kindOf u := by
  rw [kindOf, kindOf, ho, hc, hl]

/-- No piece of a body line is a marker. -/
theorem not_isMarker_of_infix {t u : Text} (hi : t <:+: u) (hu : d.kindOf u = .body) :
    d.kindOf t ≠ .opening ∧ d.kindOf t ≠ .closing := by
  have ho : Text.occurs d.opening u = false := by
    rw [← Bool.not_eq_true]
    intro h
    simp [kindOf, h] at hu
  have hc : Text.occurs d.closing u = false := by
    rw [← Bool.not_eq_true]
    intro h
    simp [kindOf, ho, h] at hu
  have hpiece : ∀ m : Text, Text.occurs m u = false → Text.occurs m t = false := by
    intro m hm
    rw [← Bool.not_eq_true, Text.occurs_iff_infix] at hm ⊢
    exact fun h => hm (h.trans hi)
  rw [kindOf, hpiece _ ho, hpiece _ hc]
  cases Header.label? d.token t <;> simp

/-- The kind of a line is that of its body. -/
theorem kindOf_body (h : d.Apart) (t : Text) : d.kindOf t.body = d.kindOf t := by
  have hi : ∀ m : Text, (∀ c ∈ m, Text.isBlank c = false ∧ c ∉ d.token) →
      Text.occurs m t.body = Text.occurs m t := by
    intro m hm
    rw [← Text.occurs_append t.body (u := t.indent), Text.indent_append_body]
    intro c hc hcm
    have hb := (hm c hcm).1
    rw [Text.isBlank_of_mem_indent hc] at hb
    exact absurd hb (by decide)
  apply kindOf_congr (hi _ h.opening_apart) (hi _ h.closing_apart)
  exact Header.label?_eq_of_reads_iff h.token_letterless fun _ =>
    Header.reads_body_iff h.token_startsSolid

theorem kindOf_append (h : d.Apart) {i : Text} (t : Text) (hi : ∀ c ∈ i, Text.isBlank c = true) :
    d.kindOf (i ++ t) = d.kindOf t := by
  rw [← kindOf_body h, Text.body_append t hi, kindOf_body h]

/-- A token in front of a body that has none there leaves the kind as it was. -/
theorem kindOf_comment (h : d.Apart) {gap t : Text} (hg : ∀ c ∈ gap, Text.isBlank c = true)
    (ht : ¬ d.token <+: t.body) : d.kindOf (d.token ++ (gap ++ t.body)) = d.kindOf t := by
  rw [← kindOf_body h t]
  have hi : ∀ m : Text, (∀ c ∈ m, Text.isBlank c = false ∧ c ∉ d.token) →
      Text.occurs m (d.token ++ (gap ++ t.body)) = Text.occurs m t.body := by
    intro m hm
    rw [Text.occurs_append, Text.occurs_append]
    · intro c hc hcm
      have hb := (hm c hcm).1
      rw [hg c hc] at hb
      exact absurd hb (by decide)
    · intro c hc hcm
      exact (hm c hcm).2 hc
  apply kindOf_congr (hi _ h.opening_apart) (hi _ h.closing_apart)
  exact Header.label?_eq_of_reads_iff h.token_letterless fun _ =>
    Header.reads_comment_iff h.token_startsSolid h.token_letterless hg ht

end Dialect

end RegionToggle
