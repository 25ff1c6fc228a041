import Mathlib.Data.List.Basic
import Mathlib.Data.List.TakeWhile
import RegionToggle.Text.Basic

/-!
# Indentation and body

How the indentation and the body of a line answer to what is put between them, and what a text whose
first character is not blank does behind an indentation. A needle that shares no character with the
front of a text is found in what is behind that front or nowhere.
-/

namespace RegionToggle.Text

/-- Whether a text starts with a character that is not blank. -/
def startsSolid : Text → Bool
  | [] => false
  | c :: _ => !isBlank c

@[simp] theorem body_nil : body [] = [] := rfl

theorem length_eq_indent_add_body (t : Text) : t.length = t.indent.length + t.body.length := by
  rw [← List.length_append, indent_append_body]

theorem mem_of_mem_indent {t : Text} {c : Char} (h : c ∈ t.indent) : c ∈ t :=
  (List.takeWhile_sublist _).subset h

theorem mem_of_mem_body {t : Text} {c : Char} (h : c ∈ t.body) : c ∈ t :=
  (List.dropWhile_sublist _).subset h

theorem body_of_startsSolid {t : Text} (h : t.startsSolid = true) : t.body = t := by
  cases t with
  | nil => rfl
  | cons c r => exact body_of_not_isBlank r (by simpa [startsSolid] using h)

theorem ne_nil_of_startsSolid {t : Text} (h : t.startsSolid = true) : t ≠ [] := by
  rintro rfl
  exact absurd h (by decide)

theorem startsSolid_append {s : Text} (h : s.startsSolid = true) (t : Text) :
    (s ++ t).startsSolid = true := by
  cases s with
  | nil => simp [startsSolid] at h
  | cons c r => simpa [startsSolid] using h

/-- A body is empty or starts with a character that is not blank. -/
theorem body_eq_nil_or_startsSolid (t : Text) : t.body = [] ∨ t.body.startsSolid = true := by
  cases hb : t.body with
  | nil => exact .inl rfl
  | cons c r => exact .inr (by simp [startsSolid, not_isBlank_of_body hb])

@[simp] theorem body_body (t : Text) : t.body.body = t.body := by
  rcases body_eq_nil_or_startsSolid t with h | h
  · simp [h]
  · exact body_of_startsSolid h

@[simp] theorem body_indent_append (t u : Text) : (t.indent ++ u).body = u.body :=
  body_append u fun _ hc => isBlank_of_mem_indent hc

theorem body_blank_cons {c : Char} (t : Text) (h : isBlank c = true) : body (c :: t) = t.body := by
  simp [body, h]

theorem body_append_of_startsSolid (t : Text) {u : Text} (h : u.startsSolid = true) :
    (t ++ u).body = t.body ++ u := by
  have hu := body_of_startsSolid h
  rw [body] at hu
  rw [body, List.dropWhile_append, hu]
  split
  · next he => rw [body, List.isEmpty_iff.mp he, List.nil_append]
  · rfl

theorem indent_of_startsSolid {t : Text} (h : t.startsSolid = true) : t.indent = [] := by
  cases t with
  | nil => rfl
  | cons c r =>
    have hc : isBlank c = false := by simpa [startsSolid] using h
    simp [indent, hc]

/-- Behind an indentation a solid text leaves the indentation as it was. -/
theorem indent_indent_append (t : Text) {u : Text} (h : u.startsSolid = true) :
    (t.indent ++ u).indent = t.indent := by
  have hu := indent_of_startsSolid h
  rw [indent] at hu
  rw [indent, List.takeWhile_append_of_pos fun _ hc => isBlank_of_mem_indent hc, hu,
    List.append_nil]

theorem isAllBlank_iff {t : Text} : t.isAllBlank = true ↔ t.body = [] := by
  rw [isAllBlank, body, List.dropWhile_eq_nil_iff, List.all_eq_true]

theorem startsSolid_body_iff {t : Text} : t.body.startsSolid = true ↔ t.isAllBlank = false := by
  rw [← Bool.not_eq_true, isAllBlank_iff]
  rcases body_eq_nil_or_startsSolid t with h | h
  · simp [h, startsSolid]
  · exact iff_of_true h fun he => by simp [he, startsSolid] at h

/-- A text that is not blank ends as its body does. -/
theorem getLast?_append_body {t : Text} (u : Text) (h : t.isAllBlank = false) :
    (u ++ t.body).getLast? = t.getLast? := by
  have hb : t.body ≠ [] := by
    intro he
    rw [isAllBlank_iff.mpr he] at h
    exact absurd h (by decide)
  calc (u ++ t.body).getLast?
      = t.body.getLast? := List.getLast?_append_of_ne_nil _ hb
    _ = (t.indent ++ t.body).getLast? := (List.getLast?_append_of_ne_nil _ hb).symm
    _ = t.getLast? := by rw [indent_append_body]

/-- A front without a character of the needle does not matter to the search for it. -/
theorem infix_append_iff {needle u : Text} (t : Text) (h : ∀ c ∈ u, c ∉ needle) :
    needle <:+: u ++ t ↔ needle <:+: t := by
  induction u with
  | nil => rfl
  | cons c u ih =>
    have hu := ih fun d hd => h d (List.mem_cons_of_mem _ hd)
    rw [List.cons_append, List.infix_cons_iff, hu, or_iff_right_iff_imp]
    intro hp
    cases needle with
    | nil => exact List.nil_infix
    | cons d ds =>
      have hd : d = c := (List.cons_prefix_cons.mp hp).1
      exact absurd (hd ▸ List.mem_cons_self) (h c List.mem_cons_self)

theorem occurs_append {needle u : Text} (t : Text) (h : ∀ c ∈ u, c ∉ needle) :
    occurs needle (u ++ t) = occurs needle t := by
  rw [Bool.eq_iff_iff, occurs_iff_infix, occurs_iff_infix, infix_append_iff t h]

end RegionToggle.Text
