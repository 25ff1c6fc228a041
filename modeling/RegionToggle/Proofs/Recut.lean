import Mathlib.Data.List.Basic
import RegionToggle.Text.Row

/-!
# Cutting joined rows again

Rows that are joined and cut again come back as they were, but for two things: a carriage return at
the end of a text moves to a line feed behind it, and an empty text without an ending is no row. The
rows of a text have neither, so they do come back, and no other rows without the two are joined to
the same text.
-/

namespace RegionToggle

/-- The row that a row is cut as when it has been joined to others, if any. -/
def Row.again? (row : Row) : Option Row :=
  match row.ending with
  | .open => if row.text = [] then none else some row
  | .lf => if row.text.getLast? = some '\r' then some ⟨row.text.dropLast, .crlf⟩ else some row
  | .crlf => some row

theorem Row.again?_eq_self_iff {row : Row} : row.again? = some row ↔
    (row.ending = .lf → row.text.getLast? ≠ some '\r') ∧ (row.ending = .open → row.text ≠ []) := by
  obtain ⟨text, ending⟩ := row
  cases ending with
  | «open» => by_cases ht : text = [] <;> simp [again?, ht]
  | lf => by_cases hr : text.getLast? = some '\r' <;> simp [again?, hr]
  | crlf => simp [again?]

/-- Whether a row comes back as it was depends on its ending and the end of its text. -/
theorem Row.again?_of_getLast? {row : Row} {t : Text} (h : row.again? = some row)
    (ht : t.getLast? = row.text.getLast?) :
    (Row.mk t row.ending).again? = some ⟨t, row.ending⟩ := by
  obtain ⟨hr, hne⟩ := again?_eq_self_iff.mp h
  have hiff : t = [] ↔ row.text = [] := by
    rw [← List.getLast?_eq_none_iff, ht, List.getLast?_eq_none_iff]
  exact again?_eq_self_iff.mpr ⟨fun hlf => ht ▸ hr hlf, fun hopen hnil => hne hopen (hiff.mp hnil)⟩

theorem Row.again?_eq_none_iff {row : Row} : row.again? = none ↔ row = ⟨[], .open⟩ := by
  obtain ⟨text, ending⟩ := row
  cases ending with
  | «open» => simp [again?]
  | lf => by_cases hr : text.getLast? = some '\r' <;> simp [again?, hr]
  | crlf => simp [again?]

/-- A row that does not come back as it was loses a carriage return to its line feed. -/
theorem Row.again?_cases {row row' : Row} (h : row.again? = some row') :
    row' = row ∨ row.ending = .lf ∧ row.text.getLast? = some '\r' ∧
      row' = ⟨row.text.dropLast, .crlf⟩ := by
  obtain ⟨text, ending⟩ := row
  cases ending with
  | «open» =>
    simp only [again?, Option.ite_none_left_eq_some, Option.some.injEq] at h
    exact .inl h.2.symm
  | lf =>
    simp only [again?] at h
    split at h
    · next hr => exact .inr ⟨rfl, hr, (Option.some.inj h).symm⟩
    · exact .inl (Option.some.inj h).symm
  | crlf => exact .inl (Option.some.inj h).symm

theorem Row.eq_or_dropLast_of_again? {row row' : Row} (h : row.again? = some row') :
    row' = row ∨ row' = ⟨row.text.dropLast, .crlf⟩ :=
  (again?_cases h).imp_right fun hlf => hlf.2.2

/-- What comes back of a row is as long as the row. -/
theorem Row.length_of_again? {row row' : Row} (h : row.again? = some row') :
    row'.text.length + row'.ending.text.length = row.text.length + row.ending.text.length := by
  rcases again?_cases h with rfl | ⟨hlf, hr, rfl⟩
  · rfl
  · have hpos : 0 < row.text.length := List.length_pos_of_mem (List.mem_of_getLast? hr)
    simp only [hlf, List.length_dropLast, Ending.text, List.length_cons, List.length_nil]
    omega

namespace Text

/-- Rows whose texts hold no line feed and of which the last alone may be open. -/
def Joinable : List Row → Prop
  | [] => True
  | row :: more => '\n' ∉ row.text ∧ (row.ending = .open → more = []) ∧ Joinable more

theorem joinable_iff {rs : List Row} :
    Joinable rs ↔ (∀ row ∈ rs, '\n' ∉ row.text) ∧ ∀ row ∈ rs.dropLast, row.ending ≠ .open := by
  induction rs with
  | nil => simp [Joinable]
  | cons row more ih =>
    cases more with
    | nil => simp [Joinable]
    | cons next more =>
      rw [Joinable, ih, List.dropLast_cons_cons]
      simp only [List.forall_mem_cons, reduceCtorEq, imp_false]
      tauto

/-- What a character in front adds to rows, unless it is part of an ending. -/
def consRow (c : Char) : List Row → List Row
  | [] => [⟨[c], .open⟩]
  | row :: more => ⟨c :: row.text, row.ending⟩ :: more

theorem rows_lf (rest : Text) : rows ('\n' :: rest) = ⟨[], .lf⟩ :: rows rest := by
  rw [rows]

theorem rows_crlf (rest : Text) : rows ('\r' :: '\n' :: rest) = ⟨[], .crlf⟩ :: rows rest := by
  rw [rows]

theorem rows_cons {c : Char} {rest : Text} (hc : c ≠ '\n')
    (hr : c = '\r' → rest.head? ≠ some '\n') : rows (c :: rest) = consRow c (rows rest) := by
  rw [rows]
  · cases rows rest <;> rfl
  · exact hc
  · intro rest' h he
    exact hr h (by simp [he])

/-- A text without a line feed is one row in front of a line feed. -/
theorem rows_append_lf {t : Text} (rest : Text) (h : '\n' ∉ t) :
    rows (t ++ '\n' :: rest) = (Row.mk t .lf).again?.toList ++ rows rest := by
  induction t with
  | nil => simp [rows_lf, Row.again?]
  | cons c t ih =>
    have hc : c ≠ '\n' := fun he => h (he ▸ List.mem_cons_self)
    have ht : '\n' ∉ t := fun hm => h (List.mem_cons_of_mem _ hm)
    cases t with
    | nil =>
      by_cases hr : c = '\r'
      · subst hr
        simp [rows_crlf, Row.again?]
      · rw [List.cons_append, rows_cons hc fun he => absurd he hr, List.nil_append, rows_lf]
        simp [consRow, Row.again?, hr]
    | cons d t =>
      have hd : d ≠ '\n' := fun he => ht (he ▸ List.mem_cons_self)
      rw [List.cons_append, rows_cons hc (by simp [hd]), ih ht]
      by_cases hl : (d :: t).getLast? = some '\r'
      · simp [consRow, Row.again?, hl, List.getLast?_cons_cons]
      · simp [consRow, Row.again?, hl, List.getLast?_cons_cons]

theorem rows_append_crlf {t : Text} (rest : Text) (h : '\n' ∉ t) :
    rows (t ++ '\r' :: '\n' :: rest) = ⟨t, .crlf⟩ :: rows rest := by
  have ht : '\n' ∉ t ++ ['\r'] := by simp [h]
  have hr := rows_append_lf rest ht
  rw [List.append_assoc] at hr
  simpa [Row.again?] using hr

theorem rows_of_no_lf {t : Text} (h : '\n' ∉ t) : rows t = (Row.mk t .open).again?.toList := by
  induction t with
  | nil => rfl
  | cons c t ih =>
    have hc : c ≠ '\n' := fun he => h (he ▸ List.mem_cons_self)
    have ht : '\n' ∉ t := fun hm => h (List.mem_cons_of_mem _ hm)
    have hn : t.head? ≠ some '\n' := fun he => ht (List.mem_of_head? he)
    rw [rows_cons hc fun _ => hn, ih ht]
    cases t <;> simp [consRow, Row.again?]

/-- Joined rows are cut as each of them says. -/
theorem rows_join {rs : List Row} (h : Joinable rs) : rows (join rs) = rs.filterMap Row.again? := by
  induction rs with
  | nil => rfl
  | cons row more ih =>
    obtain ⟨hn, ho, hm⟩ := h
    obtain ⟨t, ending⟩ := row
    rw [join_cons, List.append_assoc, List.filterMap_cons, ← ih hm]
    cases ending with
    | «open» =>
      have hmore : more = [] := ho rfl
      subst hmore
      simp only [Ending.text, join_nil, List.append_nil, rows_of_no_lf hn]
      cases (Row.mk t .open).again? <;> rfl
    | lf =>
      rw [Ending.text, List.singleton_append, rows_append_lf _ hn]
      cases (Row.mk t .lf).again? <;> rfl
    | crlf =>
      rw [Ending.text, List.cons_append, List.singleton_append, rows_append_crlf _ hn]
      rfl

/-- A row that comes back does so at its place: only the last row may be lost. -/
theorem getElem?_rows_join {rs : List Row} (h : Joinable rs) (i : Nat) :
    (rows (join rs))[i]? = rs[i]?.bind Row.again? := by
  rw [rows_join h]
  induction rs generalizing i with
  | nil => rfl
  | cons first more ih =>
    cases hf : first.again? with
    | none =>
      have hmore : more = [] := h.2.1 (by rw [Row.again?_eq_none_iff.mp hf])
      subst hmore
      cases i <;> simp [hf]
    | some first' =>
      rw [List.filterMap_cons_some hf]
      cases i with
      | zero => simp [hf]
      | succ i => rw [List.getElem?_cons_succ, List.getElem?_cons_succ, ih h.2.2]

theorem rows_join_of_settled {rs : List Row} (h : Joinable rs)
    (hs : ∀ row ∈ rs, row.again? = some row) :
    rows (join rs) = rs := by
  rw [rows_join h]
  induction rs with
  | nil => rfl
  | cons row more ih =>
    rw [List.filterMap_cons_some (hs row List.mem_cons_self),
      ih h.2.2 fun r hr => hs r (List.mem_cons_of_mem _ hr)]

/-- Whether rows can be joined is a matter of their endings and of the line feeds in their texts. -/
theorem joinable_of_endings {rs rs' : List Row} (h : Joinable rs)
    (he : rs'.map Row.ending = rs.map Row.ending) (hn : ∀ row ∈ rs', '\n' ∉ row.text) :
    Joinable rs' := by
  have hd : rs'.dropLast.map Row.ending = rs.dropLast.map Row.ending := by
    rw [List.map_dropLast, List.map_dropLast, he]
  refine joinable_iff.mpr ⟨hn, fun row' hr' hopen => ?_⟩
  have hm : row'.ending ∈ rs.dropLast.map Row.ending := hd ▸ List.mem_map_of_mem hr'
  obtain ⟨row, hr, hrow⟩ := List.mem_map.mp hm
  exact (joinable_iff.mp h).2 row hr (hrow.trans hopen)

theorem joinable_rows (t : Text) : Joinable (rows t) := by
  fun_induction rows t with
  | case1 => trivial
  | case2 rest ih => exact ⟨by simp, by simp, ih⟩
  | case3 rest ih => exact ⟨by simp, by simp, ih⟩
  | case4 c rest hc _ hr ih =>
    have hc' : '\n' ≠ c := fun he => hc he.symm
    exact ⟨by simp [hc'], by simp, trivial⟩
  | case5 c rest hc _ row more hr ih =>
    rw [hr] at ih
    obtain ⟨hn, ho, hm⟩ := ih
    have hc' : '\n' ≠ c := fun he => hc he.symm
    exact ⟨by simp [hn, hc'], ho, hm⟩

theorem lf_not_mem_of_joinable {rs : List Row} (h : Joinable rs) {row : Row} (hr : row ∈ rs) :
    '\n' ∉ row.text :=
  (joinable_iff.mp h).1 row hr

theorem starts_with_lf_of_rows {t : Text} {more : List Row} (h : rows t = ⟨[], .lf⟩ :: more) :
    t.head? = some '\n' := by
  rw [← join_rows t, h]
  rfl

/-- The rows of a text come back when they are joined and cut again. -/
theorem again?_of_mem_rows {t : Text} {row : Row} (h : row ∈ rows t) : row.again? = some row := by
  fun_induction rows t generalizing row with
  | case1 => simp at h
  | case2 rest ih =>
    rcases List.mem_cons.mp h with rfl | h
    · simp [Row.again?]
    · exact ih h
  | case3 rest ih =>
    rcases List.mem_cons.mp h with rfl | h
    · simp [Row.again?]
    · exact ih h
  | case4 c rest _ _ hr ih =>
    rw [List.mem_singleton.mp h]
    simp [Row.again?]
  | case5 c rest hc hcr first more hr ih =>
    rw [hr] at ih
    rcases List.mem_cons.mp h with rfl | h
    · obtain ⟨hlast, -⟩ := Row.again?_eq_self_iff.mp (ih List.mem_cons_self)
      refine Row.again?_eq_self_iff.mpr ⟨fun hlf => ?_, fun _ => List.cons_ne_nil c first.text⟩
      obtain ⟨text, ending⟩ := first
      dsimp only at hlf hlast ⊢
      subst hlf
      cases text with
      | nil =>
        -- a carriage return here would stand right before the line feed of `rest`
        obtain ⟨rest', hrest⟩ := List.head?_eq_some_iff.mp (starts_with_lf_of_rows hr)
        intro hlast
        exact hcr rest' (by simpa using hlast) hrest
      | cons d text =>
        rw [List.getLast?_cons_cons]
        exact hlast rfl
    · exact ih (List.mem_cons_of_mem _ h)

/-- Rows that keep to the rules of a cut: no text holds a line feed, the last row alone may be open,
no carriage return stands right before a lone line feed, and an open row is not empty. -/
structure WellCut (rs : List Row) : Prop where
  lf_not_mem : ∀ row ∈ rs, '\n' ∉ row.text
  closed : ∀ row ∈ rs.dropLast, row.ending ≠ .open
  no_return : ∀ row ∈ rs, row.ending = .lf → row.text.getLast? ≠ some '\r'
  ne_nil : ∀ row ∈ rs, row.ending = .open → row.text ≠ []

theorem wellCut_iff {rs : List Row} :
    WellCut rs ↔ Joinable rs ∧ ∀ row ∈ rs, row.again? = some row := by
  simp only [joinable_iff, Row.again?_eq_self_iff]
  constructor
  · rintro ⟨hlf, hclosed, hreturn, hne⟩
    exact ⟨⟨hlf, hclosed⟩, fun row hr => ⟨hreturn row hr, hne row hr⟩⟩
  · rintro ⟨⟨hlf, hclosed⟩, hs⟩
    exact ⟨hlf, hclosed, fun row hr => (hs row hr).1, fun row hr => (hs row hr).2⟩

theorem wellCut_rows (t : Text) : WellCut (rows t) :=
  wellCut_iff.mpr ⟨joinable_rows t, fun _ => again?_of_mem_rows⟩

theorem rows_join_of_wellCut {rs : List Row} (h : WellCut rs) : rows (join rs) = rs :=
  let ⟨hj, hs⟩ := wellCut_iff.mp h
  rows_join_of_settled hj hs

/-- The rows of a text are the one well cut list of rows that joins to it. So a text is got back
from its rows, and well cut rows are got back from their text. -/
theorem rows_eq_iff {t : Text} {rs : List Row} : rows t = rs ↔ WellCut rs ∧ join rs = t := by
  constructor
  · rintro rfl
    exact ⟨wellCut_rows t, join_rows t⟩
  · rintro ⟨h, rfl⟩
    exact rows_join_of_wellCut h

/-- Of two carriage returns before a line feed one is left in the text, a lone one ends no row, and
behind the last line feed there is no row. -/
example : rows "a\r\r\n\n\rb\r\n".toList =
    [⟨"a\r".toList, .crlf⟩, ⟨[], .lf⟩, ⟨"\rb".toList, .crlf⟩] := by
  decide

end Text

end RegionToggle
