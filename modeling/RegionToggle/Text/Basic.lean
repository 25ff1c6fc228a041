/-!
# Texts

A text is a list of characters. Its blank characters are the `White_Space` characters of Unicode.
A line falls into its indentation, the longest blank front, and its body, which is empty or starts
with a character that is not blank.

`occurs` looks for a text anywhere in another, `stripFront?` takes one off the front of another.
Both are tied to the list relations `<:+:` and `++`. What is to be known of every end of a text is
worked out in a row, from the empty end to the whole text, so that nothing is worked out twice.
-/

namespace RegionToggle

/-- A text, character by character. -/
abbrev Text := List Char

namespace Text

/-- The twenty-five characters with the Unicode property `White_Space`. -/
def isBlank (c : Char) : Bool :=
  let n := c.toNat
  decide (0x9 ≤ n ∧ n ≤ 0xD) || decide (0x2000 ≤ n ∧ n ≤ 0x200A) ||
    [0x20, 0x85, 0xA0, 0x1680, 0x2028, 0x2029, 0x202F, 0x205F, 0x3000].contains n

/-- The longest blank front. -/
def indent (t : Text) : Text := t.takeWhile isBlank

def body (t : Text) : Text := t.dropWhile isBlank

theorem indent_append_body (t : Text) : indent t ++ body t = t := List.takeWhile_append_dropWhile

theorem isBlank_of_mem_indent {t : Text} {c : Char} (h : c ∈ indent t) : isBlank c = true := by
  have := List.all_takeWhile (p := isBlank) (l := t)
  exact List.all_eq_true.mp this c h

/-- The body is empty or starts with a character that is not blank. -/
theorem not_isBlank_of_body {t : Text} {c : Char} {r : Text} (h : body t = c :: r) :
    isBlank c = false := by
  have := List.head?_dropWhile_not isBlank t
  rw [show t.dropWhile isBlank = c :: r from h] at this
  simpa using this

theorem body_of_not_isBlank {c : Char} (r : Text) (h : isBlank c = false) :
    body (c :: r) = c :: r := by
  simp [body, h]

/-- Adding blanks in front changes the indentation only. -/
theorem body_append {i : Text} (t : Text) (h : ∀ c ∈ i, isBlank c = true) :
    body (i ++ t) = body t := by
  induction i with
  | nil => rfl
  | cons c i ih =>
    have hc : isBlank c = true := h c (by simp)
    simp only [List.cons_append, body, List.dropWhile_cons, hc, ↓reduceIte]
    exact ih fun d hd => h d (by simp [hd])

def trim (t : Text) : Text := (body (body t).reverse).reverse

/-- A text of blanks only, the empty one included. -/
def isAllBlank (t : Text) : Bool := t.all isBlank

def lower (t : Text) : Text := t.map Char.toLower

/-! ### Finding one text in another -/

/-- Whether `needle` occurs somewhere in the text; the empty text occurs everywhere. -/
def occurs (needle : Text) : Text → Bool
  | [] => needle.isEmpty
  | c :: rest => needle.isPrefixOf (c :: rest) || occurs needle rest

theorem occurs_iff_infix {needle t : Text} : occurs needle t = true ↔ needle <:+: t := by
  induction t with
  | nil => simp [occurs]
  | cons c r ih => simp [occurs, ih, List.infix_cons_iff]

/-- What is left of a text when `front` is taken off its front. -/
def stripFront? : Text → Text → Option Text
  | [], t => some t
  | _ :: _, [] => none
  | p :: ps, c :: cs => if p = c then stripFront? ps cs else none

theorem stripFront?_eq_some_iff {front t rest : Text} :
    stripFront? front t = some rest ↔ t = front ++ rest := by
  induction front generalizing t with
  | nil => simp [stripFront?]
  | cons p ps ih =>
    cases t with
    | nil => simp [stripFront?]
    | cons c cs => by_cases h : p = c <;> simp [stripFront?, h, ih, eq_comm]

theorem stripFront?_append (front rest : Text) : stripFront? front (front ++ rest) = some rest :=
  stripFront?_eq_some_iff.mpr rfl

theorem length_of_stripFront? {front t rest : Text} (h : stripFront? front t = some rest) :
    t.length = front.length + rest.length := by
  rw [stripFront?_eq_some_iff.mp h, List.length_append]

/-! ### Ends -/

/-- The ends of a text, the whole one first and the empty one last. -/
def ends : Text → List Text
  | [] => [[]]
  | c :: rest => (c :: rest) :: ends rest

theorem head?_ends (t : Text) : (ends t).head? = some t := by
  cases t <;> rfl

/-- What is left when `front` is taken off is as many ends further as `front` has characters. -/
theorem head?_drop_ends {front t rest : Text} (h : stripFront? front t = some rest) :
    ((ends t).drop front.length).head? = some rest := by
  induction front generalizing t with
  | nil =>
    simp only [stripFront?, Option.some.injEq] at h
    simp [h, head?_ends]
  | cons p ps ih =>
    cases t with
    | nil => simp [stripFront?] at h
    | cons c cs =>
      by_cases hp : p = c
      · simp only [stripFront?, hp, ↓reduceIte] at h
        simpa [ends] using ih h
      · simp [stripFront?, hp] at h

end Text

end RegionToggle
