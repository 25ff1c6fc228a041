import Mathlib.Data.List.TakeWhile
import RegionToggle.Line.Outlook

/-!
# The grammar of section headers

A header is a text that falls into blanks, copies of the token, decoration, a label, blanks and the
word `Configuration`. The reader tries such readings in an order; for a token without an ASCII
letter the order does not matter, since every reading has its label at the first letter of the text.
-/

namespace RegionToggle.Header

def IsLabel (label : Text) : Prop :=
  ∃ c m, label = c :: m ∧ c.isAlpha = true ∧ ∀ x ∈ m, isLabelChar x = true

def StartsWithKeyword (t : Text) : Prop := ∃ r, t = keyword ++ r ∧ startsOutsideWord r = true

/-- What follows a label: blanks, one at least, and the word `Configuration`. -/
def EndsLabel (t : Text) : Prop :=
  ∃ s u, t = s ++ u ∧ s ≠ [] ∧ (∀ c ∈ s, Text.isBlank c = true) ∧ StartsWithKeyword u

/-- A text that falls into a label, blanks and the word `Configuration`. -/
def Names (label t : Text) : Prop := ∃ u, t = label ++ u ∧ IsLabel label ∧ EndsLabel u

def copies (token : Text) (k : Nat) : Text := (List.replicate k token).flatten

/-- A text that is a header with this label. -/
def Reads (token t label : Text) : Prop :=
  ∃ w k d u, t = w ++ (copies token k ++ (d ++ u)) ∧ (∀ c ∈ w, Text.isBlank c = true) ∧
    (∀ c ∈ d, isDecoration c = true) ∧ Names label u

@[simp] theorem copies_zero (token : Text) : copies token 0 = [] := rfl

@[simp] theorem copies_succ (token : Text) (k : Nat) :
    copies token (k + 1) = token ++ copies token k := by
  simp [copies, List.replicate_succ]

/-! ### Character classes -/

theorem not_isLabelChar_of_isBlank {c : Char} (h : Text.isBlank c = true) :
    isLabelChar c = false := by
  rw [← Bool.not_eq_true]
  intro hl
  delta isLabelChar Char.isAlphanum Char.isAlpha Char.isUpper Char.isLower Char.isDigit at hl
  simp only [Bool.or_eq_true, Bool.and_eq_true, decide_eq_true_eq, beq_iff_eq, ge_iff_le,
    UInt32.le_iff_toNat_le] at hl
  simp only [Text.isBlank, Bool.or_eq_true, decide_eq_true_eq, List.contains_iff_mem,
    List.mem_cons, List.not_mem_nil, or_false] at h
  rcases hl with ((hl | hl) | hl) | rfl
  · change 65 ≤ c.toNat ∧ c.toNat ≤ 90 at hl
    omega
  · change 97 ≤ c.toNat ∧ c.toNat ≤ 122 at hl
    omega
  · change 48 ≤ c.toNat ∧ c.toNat ≤ 57 at hl
    omega
  · exact absurd h (by decide)

theorem isLabelChar_of_isAlpha {c : Char} (h : c.isAlpha = true) : isLabelChar c = true := by
  simp [isLabelChar, Char.isAlphanum, h]

theorem not_isAlpha_of_isBlank {c : Char} (h : Text.isBlank c = true) : c.isAlpha = false := by
  have hl := not_isLabelChar_of_isBlank h
  cases ha : c.isAlpha with
  | false => rfl
  | true => rw [isLabelChar_of_isAlpha ha] at hl; exact absurd hl (by decide)

theorem not_isAlpha_of_isDecoration {c : Char} (h : isDecoration c = true) :
    c.isAlpha = false := by
  simp only [isDecoration, Bool.or_eq_true, beq_iff_eq] at h
  rcases h with (((h | rfl) | rfl) | rfl) | rfl
  · exact not_isAlpha_of_isBlank h
  all_goals decide

/-! ### Keyword, label and decoration -/

/-- Where what follows a run of a class cannot start inside it, the run is the longest one. -/
theorem exists_run_iff {p : Char → Bool} {P : Text → Prop} {t : Text}
    (hP : ∀ u, P u → ∃ c r, u = c :: r ∧ p c = false) :
    (∃ x u, t = x ++ u ∧ (∀ c ∈ x, p c = true) ∧ P u) ↔ P (t.dropWhile p) := by
  constructor
  · rintro ⟨x, u, rfl, hx, hu⟩
    obtain ⟨c, r, rfl, hc⟩ := hP u hu
    rwa [List.dropWhile_append_of_pos hx, List.dropWhile_cons_of_neg (by simp [hc])]
  · intro h
    exact ⟨t.takeWhile p, t.dropWhile p, List.takeWhile_append_dropWhile.symm,
      List.all_eq_true.mp List.all_takeWhile, h⟩

theorem startsWithKeyword_iff {t : Text} : startsWithKeyword t = true ↔ StartsWithKeyword t := by
  constructor
  · intro h
    cases hs : Text.stripFront? keyword t with
    | none => simp [startsWithKeyword, hs] at h
    | some r =>
      exact ⟨r, Text.stripFront?_eq_some_iff.mp hs, by simpa [startsWithKeyword, hs] using h⟩
  · rintro ⟨r, rfl, hr⟩
    simpa [startsWithKeyword, Text.stripFront?_append] using hr

theorem StartsWithKeyword.cons {t : Text} (h : StartsWithKeyword t) :
    ∃ c r, t = c :: r ∧ Text.isBlank c = false := by
  obtain ⟨r, rfl, -⟩ := h
  exact ⟨'C', _, rfl, by decide⟩

theorem keywordFollows_eq (t : Text) : keywordFollows t = startsWithKeyword t.body := by
  induction t with
  | nil => rfl
  | cons c rest ih =>
    cases hc : Text.isBlank c with
    | true => simpa [keywordFollows, Text.body, hc] using ih
    | false => simp [keywordFollows, Text.body, hc]

theorem keywordFollows_iff {t : Text} :
    keywordFollows t = true ↔
      ∃ s u, t = s ++ u ∧ (∀ c ∈ s, Text.isBlank c = true) ∧ StartsWithKeyword u := by
  rw [exists_run_iff fun _ => StartsWithKeyword.cons, keywordFollows_eq, startsWithKeyword_iff,
    Text.body]

theorem EndsLabel.cons {t : Text} (h : EndsLabel t) :
    ∃ c r, t = c :: r ∧ Text.isBlank c = true := by
  obtain ⟨s, u, rfl, hne, hs, -⟩ := h
  cases s with
  | nil => exact absurd rfl hne
  | cons c s => exact ⟨c, s ++ u, rfl, hs c List.mem_cons_self⟩

theorem EndsLabel.cons_not_isLabelChar (t : Text) (h : EndsLabel t) :
    ∃ c r, t = c :: r ∧ isLabelChar c = false := by
  obtain ⟨c, r, rfl, hc⟩ := h.cons
  exact ⟨c, r, rfl, not_isLabelChar_of_isBlank hc⟩

theorem endsLabel_iff {t : Text} :
    EndsLabel t ↔ (∃ c r, t = c :: r ∧ Text.isBlank c = true) ∧ keywordFollows t = true := by
  constructor
  · intro h
    obtain ⟨s, u, ht, -, hs, hu⟩ := id h
    exact ⟨h.cons, keywordFollows_iff.mpr ⟨s, u, ht, hs, hu⟩⟩
  · rintro ⟨⟨c, r, rfl, hc⟩, hk⟩
    obtain ⟨s, u, ht, hs, hu⟩ := keywordFollows_iff.mp hk
    refine ⟨s, u, ht, ?_, hs, hu⟩
    rintro rfl
    obtain ⟨d, r', rfl, hd⟩ := hu.cons
    rw [(List.cons.inj ht).1, hd] at hc
    exact absurd hc (by decide)

theorem labelEnds_iff_dropWhile {t : Text} :
    labelEnds t = true ↔ EndsLabel (t.dropWhile isLabelChar) := by
  induction t with
  | nil =>
    refine iff_of_false (by simp [labelEnds]) fun h => ?_
    obtain ⟨c, r, ht, -⟩ := h.cons
    simp at ht
  | cons c rest ih =>
    cases hc : isLabelChar c with
    | true => rw [labelEnds, if_pos hc, ih, List.dropWhile_cons_of_pos hc]
    | false => simp [labelEnds, hc, endsLabel_iff]

theorem labelEnds_iff {t : Text} :
    labelEnds t = true ↔
      ∃ m u, t = m ++ u ∧ (∀ c ∈ m, isLabelChar c = true) ∧ EndsLabel u := by
  rw [exists_run_iff EndsLabel.cons_not_isLabelChar, labelEnds_iff_dropWhile]

/-- The label in front of a text is the longest run of label characters there. -/
theorem Names.takeWhile_eq {label t : Text} (h : Names label t) :
    t.takeWhile isLabelChar = label := by
  obtain ⟨u, rfl, ⟨c, m, rfl, hc, hm⟩, hu⟩ := h
  obtain ⟨d, r, rfl, hd⟩ := EndsLabel.cons_not_isLabelChar _ hu
  have hl : ∀ x ∈ c :: m, isLabelChar x = true := by
    simpa [isLabelChar_of_isAlpha hc] using hm
  rw [List.takeWhile_append_of_pos hl]
  simp [hd]

theorem Names.cons {label t : Text} (h : Names label t) :
    ∃ c r, t = c :: r ∧ c.isAlpha = true := by
  obtain ⟨u, rfl, ⟨c, m, rfl, hc, -⟩, -⟩ := h
  exact ⟨c, _, rfl, hc⟩

theorem names_cons_iff {c : Char} {rest : Text} :
    (∃ label, Names label (c :: rest)) ↔ c.isAlpha = true ∧ labelEnds (c :: rest) = true := by
  rw [labelEnds_iff]
  constructor
  · rintro ⟨label, u, ht, ⟨d, m, rfl, hd, hm⟩, hu⟩
    obtain ⟨rfl, -⟩ : c = d ∧ rest = m ++ u := by simpa using ht
    exact ⟨hd, c :: m, u, ht, by simpa [isLabelChar_of_isAlpha hd] using hm, hu⟩
  · rintro ⟨hc, m, u, ht, hm, hu⟩
    cases m with
    | nil =>
      obtain ⟨d, r, rfl, hd⟩ := EndsLabel.cons_not_isLabelChar _ hu
      rw [← (List.cons.inj ht).1, isLabelChar_of_isAlpha hc] at hd
      exact absurd hd (by decide)
    | cons d m =>
      obtain ⟨rfl, -⟩ : c = d ∧ rest = m ++ u := by simpa using ht
      exact ⟨c :: m, u, ht, ⟨c, m, rfl, hc, fun x hx => hm x (List.mem_cons_of_mem _ hx)⟩, hu⟩

theorem cons_not_isDecoration_of_names (t : Text) (h : ∃ label, Names label t) :
    ∃ c r, t = c :: r ∧ isDecoration c = false := by
  obtain ⟨label, h⟩ := h
  obtain ⟨c, r, rfl, hc⟩ := h.cons
  refine ⟨c, r, rfl, ?_⟩
  rw [← Bool.not_eq_true]
  intro hd
  rw [not_isAlpha_of_isDecoration hd] at hc
  exact absurd hc (by decide)

theorem named?_eq_some_iff_dropWhile {t u : Text} :
    named? t = some u ↔ t.dropWhile isDecoration = u ∧ ∃ label, Names label u := by
  induction t with
  | nil =>
    refine iff_of_false (by simp [named?]) ?_
    rintro ⟨rfl, hu⟩
    obtain ⟨c, r, ht, -⟩ := cons_not_isDecoration_of_names _ hu
    simp at ht
  | cons c rest ih =>
    cases hc : isDecoration c with
    | true => rw [named?, if_pos hc, ih, List.dropWhile_cons_of_pos hc]
    | false =>
      have hn : named? (c :: rest) = some u ↔
          (c.isAlpha = true ∧ labelEnds (c :: rest) = true) ∧ c :: rest = u := by
        simp [named?, hc]
      rw [hn, ← names_cons_iff, List.dropWhile_cons_of_neg (by simp [hc])]
      constructor
      · rintro ⟨h, rfl⟩
        exact ⟨rfl, h⟩
      · rintro ⟨rfl, h⟩
        exact ⟨h, rfl⟩

theorem named?_eq_some_iff {t u : Text} :
    named? t = some u ↔
      ∃ d, t = d ++ u ∧ (∀ c ∈ d, isDecoration c = true) ∧ ∃ label, Names label u := by
  have hP : ∀ v, (v = u ∧ ∃ label, Names label u) →
      ∃ c r, v = c :: r ∧ isDecoration c = false := by
    rintro v ⟨rfl, hv⟩
    exact cons_not_isDecoration_of_names v hv
  rw [named?_eq_some_iff_dropWhile, ← exists_run_iff hP]
  constructor
  · rintro ⟨d, v, rfl, hd, rfl, hv⟩
    exact ⟨d, rfl, hd, hv⟩
  · rintro ⟨d, rfl, hd, hu⟩
    exact ⟨d, u, rfl, hd, rfl, hu⟩

/-! ### Tokens and blanks in front -/

def Letterless (t : Text) : Prop := ∀ c ∈ t, c.isAlpha = false

theorem Letterless.append {t u : Text} (ht : Letterless t) (hu : Letterless u) :
    Letterless (t ++ u) := by
  intro c hc
  rcases List.mem_append.mp hc with h | h
  · exact ht c h
  · exact hu c h

theorem letterless_copies {token : Text} (h : Letterless token) (k : Nat) :
    Letterless (copies token k) := by
  induction k with
  | zero => simp [Letterless]
  | succ k ih => exact copies_succ token k ▸ h.append ih

/-- What a text comes to at its first letter. -/
def fromLetter (t : Text) : Text := t.dropWhile fun c => !c.isAlpha

theorem fromLetter_append {t : Text} (u : Text) (h : Letterless t) :
    fromLetter (t ++ u) = fromLetter u := by
  rw [fromLetter, List.dropWhile_append_of_pos fun c hc => by simp [h c hc], fromLetter]

theorem Names.fromLetter_eq {label t : Text} (h : Names label t) : fromLetter t = t := by
  obtain ⟨c, r, rfl, hc⟩ := h.cons
  simp [fromLetter, hc]

theorem fromLetter_of_named? {t u : Text} (h : named? t = some u) : fromLetter t = u := by
  obtain ⟨d, rfl, hd, label, hu⟩ := named?_eq_some_iff.mp h
  rw [fromLetter_append u fun c hc => not_isAlpha_of_isDecoration (hd c hc), hu.fromLetter_eq]

theorem namedBehindTokens?_sound {token t u : Text} (h : namedBehindTokens? token t = some u) :
    ∃ k v, t = copies token k ++ v ∧ named? v = some u := by
  fun_induction namedBehindTokens? token t with
  | case1 t => exact ⟨0, t, rfl, h⟩
  | case2 t c cs hs => exact ⟨0, t, rfl, h⟩
  | case3 t c cs rest hs ih =>
    rcases Option.or_eq_some_iff.mp h with h | ⟨-, h⟩
    · obtain ⟨k, v, hr, hv⟩ := ih h
      refine ⟨k + 1, v, ?_, hv⟩
      rw [Text.stripFront?_eq_some_iff.mp hs, copies_succ, hr, List.append_assoc]
    · exact ⟨0, t, rfl, h⟩

theorem fromLetter_of_namedBehindTokens? {token t u : Text} (ht : Letterless token)
    (h : namedBehindTokens? token t = some u) : fromLetter t = u := by
  obtain ⟨k, v, rfl, hv⟩ := namedBehindTokens?_sound h
  rw [fromLetter_append v (letterless_copies ht k), fromLetter_of_named? hv]

theorem namedBehindTokens?_of_named? {token t u : Text} (ht : Letterless token)
    (h : named? t = some u) : namedBehindTokens? token t = some u := by
  have hsome : (namedBehindTokens? token t).isSome = true := by
    cases token with
    | nil => rw [namedBehindTokens?, h]; rfl
    | cons c cs =>
      cases hs : Text.stripFront? (c :: cs) t with
      | none => rw [namedBehindTokens?_of_none hs, h]; rfl
      | some rest => simp [namedBehindTokens?_of_some hs, h]
  obtain ⟨u', hu'⟩ := Option.isSome_iff_exists.mp hsome
  rw [hu', ← fromLetter_of_namedBehindTokens? ht hu', fromLetter_of_named? h]

/-- The order in which copies of a letterless token are tried does not matter. -/
theorem namedBehindTokens?_complete {token v u : Text} (ht : Letterless token) (k : Nat)
    (h : named? v = some u) : namedBehindTokens? token (copies token k ++ v) = some u := by
  induction k with
  | zero => exact namedBehindTokens?_of_named? ht h
  | succ k ih =>
    cases token with
    | nil => simpa using ih
    | cons c cs =>
      rw [copies_succ, List.append_assoc,
        namedBehindTokens?_of_some (Text.stripFront?_append (c :: cs) _), ih, Option.some_or]

theorem namedInLine?_sound {token t u : Text} (h : namedInLine? token t = some u) :
    ∃ w v, t = w ++ v ∧ (∀ c ∈ w, Text.isBlank c = true) ∧
      namedBehindTokens? token v = some u := by
  induction t with
  | nil => exact ⟨[], [], rfl, by simp, h⟩
  | cons c rest ih =>
    rw [namedInLine?] at h
    cases hc : Text.isBlank c with
    | false =>
      rw [if_neg (by simp [hc])] at h
      exact ⟨[], c :: rest, rfl, by simp, h⟩
    | true =>
      rw [if_pos hc] at h
      rcases Option.or_eq_some_iff.mp h with h | ⟨-, h⟩
      · obtain ⟨w, v, rfl, hw, hv⟩ := ih h
        exact ⟨c :: w, v, rfl, by simpa [hc] using hw, hv⟩
      · exact ⟨[], c :: rest, rfl, by simp, h⟩

theorem fromLetter_of_namedInLine? {token t u : Text} (ht : Letterless token)
    (h : namedInLine? token t = some u) : fromLetter t = u := by
  obtain ⟨w, v, rfl, hw, hv⟩ := namedInLine?_sound h
  rw [fromLetter_append v fun c hc => not_isAlpha_of_isBlank (hw c hc),
    fromLetter_of_namedBehindTokens? ht hv]

theorem namedInLine?_of_namedBehindTokens? {token t u : Text} (ht : Letterless token)
    (h : namedBehindTokens? token t = some u) : namedInLine? token t = some u := by
  have hsome : (namedInLine? token t).isSome = true := by
    cases t with
    | nil => rw [namedInLine?, h]; rfl
    | cons c rest =>
      rw [namedInLine?, h]
      split <;> simp
  obtain ⟨u', hu'⟩ := Option.isSome_iff_exists.mp hsome
  rw [hu', ← fromLetter_of_namedInLine? ht hu', fromLetter_of_namedBehindTokens? ht h]

/-- Nor does the order in which blanks are tried. -/
theorem namedInLine?_complete {token w v u : Text} (ht : Letterless token)
    (hw : ∀ c ∈ w, Text.isBlank c = true) (h : namedBehindTokens? token v = some u) :
    namedInLine? token (w ++ v) = some u := by
  induction w with
  | nil => exact namedInLine?_of_namedBehindTokens? ht h
  | cons c w ih =>
    have hw' := ih fun d hd => hw d (List.mem_cons_of_mem _ hd)
    rw [List.cons_append, namedInLine?, if_pos (hw c List.mem_cons_self), hw', Option.some_or]

/-- For a letterless token the reader finds the label of every reading, whichever it is. -/
theorem label?_eq_some_iff_reads {token t label : Text} (ht : Letterless token) :
    label? token t = some label ↔ Reads token t label := by
  rw [label?_eq, Option.map_eq_some_iff]
  constructor
  · rintro ⟨u, h, rfl⟩
    obtain ⟨w, v, rfl, hw, hv⟩ := namedInLine?_sound h
    obtain ⟨k, v', rfl, hn⟩ := namedBehindTokens?_sound hv
    obtain ⟨d, rfl, hd, label, hu⟩ := named?_eq_some_iff.mp hn
    rw [hu.takeWhile_eq]
    exact ⟨w, k, d, u, rfl, hw, hd, hu⟩
  · rintro ⟨w, k, d, u, rfl, hw, hd, hu⟩
    have hn : named? (d ++ u) = some u := named?_eq_some_iff.mpr ⟨d, rfl, hd, label, hu⟩
    exact ⟨u, namedInLine?_complete ht hw (namedBehindTokens?_complete ht k hn), hu.takeWhile_eq⟩

end RegionToggle.Header
