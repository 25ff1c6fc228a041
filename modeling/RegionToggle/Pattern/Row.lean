import RegionToggle.Pattern.Basic

/-!
# Matching names by rows

Trying the ends of a name one by one takes too long where many items stand for runs. A row tells for
all ends at once which of them some items match, and the row of one item more follows from it. What
a pattern accepts is read off the last row, and is what its items match.
-/

namespace RegionToggle.Pattern

/-- The row of `someEnd`. -/
def someEndRow : List Bool → List Bool
  | [] => []
  | met :: behind =>
    let row := someEndRow behind
    (met || row.headD false) :: row

def someEndBehindSlashRow : Text → List Bool → List Bool
  | c :: rest, _ :: behind =>
    let row := someEndBehindSlashRow rest behind
    ((c == '/' && behind.headD false) || row.headD false) :: row
  | _, _ => [false]

def oneAndEndRow (item : PatternItem) : Text → List Bool → List Bool
  | c :: rest, _ :: behind =>
    (item.accepts c && behind.headD false) :: oneAndEndRow item rest behind
  | _, _ => [false]

def itemAndEndRow (name : Text) (row : List Bool) : PatternItem → List Bool
  | .run => someEndRow row
  | .folders =>
    List.zipWith (fun met later => met || later || row.getLastD false) row
      (someEndBehindSlashRow name row)
  | item => oneAndEndRow item name row

def matchesItemsRow (name : Text) : List PatternItem → List Bool
  | [] => (Text.ends name).map List.isEmpty
  | item :: items => itemAndEndRow name (matchesItemsRow name items) item

theorem headD_map_ends (p : Text → Bool) (t : Text) : ((Text.ends t).map p).headD false = p t := by
  cases t <;> rfl

theorem someEndRow_map_ends (p : Text → Bool) (t : Text) :
    someEndRow ((Text.ends t).map p) = (Text.ends t).map (someEnd p) := by
  induction t with
  | nil => simp [Text.ends, someEndRow, someEnd]
  | cons c rest ih => simp [Text.ends, someEndRow, someEnd, ih, Text.head?_ends]

theorem someEndBehindSlashRow_map_ends (p : Text → Bool) (t : Text) :
    someEndBehindSlashRow t ((Text.ends t).map p) = (Text.ends t).map (someEndBehindSlash p) := by
  induction t with
  | nil => simp [Text.ends, someEndBehindSlashRow, someEndBehindSlash]
  | cons c rest ih =>
    simp [Text.ends, someEndBehindSlashRow, someEndBehindSlash, ih, Text.head?_ends]

theorem oneAndEndRow_map_ends (item : PatternItem) (p : Text → Bool) (t : Text) :
    oneAndEndRow item t ((Text.ends t).map p) = (Text.ends t).map (oneAndEnd item p) := by
  induction t with
  | nil => simp [Text.ends, oneAndEndRow, oneAndEnd]
  | cons c rest ih => simp [Text.ends, oneAndEndRow, oneAndEnd, ih, Text.head?_ends]

theorem getLastD_map_ends (p : Text → Bool) (t : Text) :
    ((Text.ends t).map p).getLastD false = p [] := by
  induction t with
  | nil => rfl
  | cons c rest ih =>
    rw [← ih]
    cases rest <;> simp [Text.ends]

theorem itemAndEndRow_map_ends (p : Text → Bool) (t : Text) (item : PatternItem) :
    itemAndEndRow t ((Text.ends t).map p) item =
      (Text.ends t).map fun name => itemAndEnd p name item := by
  cases item with
  | run => exact someEndRow_map_ends p t
  | folders =>
    simp only [itemAndEndRow, someEndBehindSlashRow_map_ends, getLastD_map_ends, itemAndEnd,
      List.zipWith_map, List.zipWith_self]
  | _ => exact oneAndEndRow_map_ends _ p t

/-- The row worked out item by item says of every end whether the items match it. -/
theorem matchesItemsRow_eq (name : Text) (items : List PatternItem) :
    matchesItemsRow name items = (Text.ends name).map (matchesItems items) := by
  induction items with
  | nil => rfl
  | cons item items ih => rw [matchesItemsRow, ih, itemAndEndRow_map_ends]; rfl

def accepts (pattern : Pattern) (name : Text) : Bool :=
  (matchesItemsRow name pattern.items).headD false

theorem accepts_eq_matchesItems (pattern : Pattern) (name : Text) :
    pattern.accepts name = matchesItems pattern.items name := by
  rw [accepts, matchesItemsRow_eq, headD_map_ends]

end RegionToggle.Pattern
