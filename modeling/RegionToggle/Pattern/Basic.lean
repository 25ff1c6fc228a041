import RegionToggle.Text.Basic

/-!
# Name patterns

A pattern tells the names it is meant for. `?` stands for one character, `*` for any run of them,
`[...]` for one character out of a class, `[!...]` for one that is not, and `**`, which must be a
whole `/`-component, for any run of components. Every other character stands for itself. A pattern
that is not well formed has no items.
-/

namespace RegionToggle

inductive PatternItem where
  /-- This character. -/
  | only (c : Char)
  /-- Any one character. -/
  | any
  /-- One character in one of these closed ranges, or in none of them if the class is negated. -/
  | among (negated : Bool) (ranges : List (Char × Char))
  /-- Any run of characters. -/
  | run
  /-- Any run of whole components, each with the slash behind it. -/
  | folders
  deriving DecidableEq, Repr

namespace PatternItem

def accepts (c : Char) : PatternItem → Bool
  | .only d => c == d
  | .any => true
  | .among negated ranges =>
    ranges.any (fun range => decide (range.1 ≤ c ∧ c ≤ range.2)) != negated
  | .run | .folders => false

end PatternItem

structure Pattern where
  items : List PatternItem
  deriving DecidableEq, Repr

namespace Pattern

/-- The ranges of a class; a character by itself is a range from and to itself. -/
def ranges : Text → List (Char × Char)
  | low :: '-' :: high :: rest => (low, high) :: ranges rest
  | c :: rest => (c, c) :: ranges rest
  | [] => []

/-- Cuts a class off a text that starts inside its brackets. The first character belongs to the
class even if it is a closing bracket. -/
def cutClass? : Text → Option (Text × Text)
  | [] => none
  | c :: rest =>
    match rest.dropWhile (· != ']') with
    | [] => none
    | _ :: after => some (c :: rest.takeWhile (· != ']'), after)

theorem length_of_cutClass? {t inside after : Text} (h : cutClass? t = some (inside, after)) :
    after.length < t.length := by
  cases t with
  | nil => simp [cutClass?] at h
  | cons c rest =>
    simp only [cutClass?] at h
    split at h
    · simp at h
    · next d tail hd =>
      have hl := (List.dropWhile_suffix (l := rest) (· != ']')).length_le
      rw [hd] at hl
      simp only [Option.some.injEq, Prod.mk.injEq] at h
      rw [← h.2]
      simp only [List.length_cons] at hl ⊢
      omega

/-- Reads the items of a text; `fresh` says that a component starts here. -/
def readItems? (fresh : Bool) (t : Text) : Option (List PatternItem) :=
  match t with
  | [] => some []
  | '*' :: '*' :: '/' :: rest =>
    if fresh then (readItems? true rest).map (.folders :: ·) else none
  | ['*', '*'] => if fresh then some [.folders] else none
  | '*' :: '*' :: _ => none
  | '*' :: rest => (readItems? false rest).map (.run :: ·)
  | '?' :: rest => (readItems? false rest).map (.any :: ·)
  | '[' :: '!' :: rest =>
    match _h : cutClass? rest with
    | some (inside, after) => (readItems? false after).map (.among true (ranges inside) :: ·)
    | none => none
  | '[' :: rest =>
    match _h : cutClass? rest with
    | some (inside, after) => (readItems? false after).map (.among false (ranges inside) :: ·)
    | none => none
  | c :: rest => (readItems? (c == '/') rest).map (.only c :: ·)
  termination_by t.length
  decreasing_by
    all_goals try have := length_of_cutClass? _h
    all_goals simp only [List.length_cons]; omega

def ofText? (t : Text) : Option Pattern := (readItems? true t).map (⟨·⟩)

/-- The patterns that texts spell; a text that spells none is left out. -/
def ofTexts (ts : List Text) : List Pattern := ts.filterMap ofText?

/-! ## Matching -/

/-- Whether some end of a text, the whole and the empty one included, meets a condition. -/
def someEnd (p : Text → Bool) : Text → Bool
  | [] => p []
  | c :: rest => p (c :: rest) || someEnd p rest

/-- Whether the end of a text behind one of its slashes meets a condition. -/
def someEndBehindSlash (p : Text → Bool) : Text → Bool
  | [] => false
  | c :: rest => (c == '/' && p rest) || someEndBehindSlash p rest

/-- Whether a text is one accepted character and an end that meets a condition. -/
def oneAndEnd (item : PatternItem) (p : Text → Bool) : Text → Bool
  | [] => false
  | c :: rest => item.accepts c && p rest

/-- Whether a text is something that an item stands for and an end that meets a condition. -/
def itemAndEnd (p : Text → Bool) (name : Text) : PatternItem → Bool
  | .run => someEnd p name
  | .folders => p name || someEndBehindSlash p name || p []
  | item => oneAndEnd item p name

def matchesItems : List PatternItem → Text → Bool
  | [], name => name.isEmpty
  | item :: items, name => itemAndEnd (matchesItems items) name item

end Pattern

end RegionToggle
