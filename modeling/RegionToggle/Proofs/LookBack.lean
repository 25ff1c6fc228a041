import RegionToggle.Rewrite.Zone

/-!
# Looking back

The zone of a line is carried along from line to line. It can be read off the lines before it
without any state: a region is open if the last marker among them opens one, and the section is that
of the last header behind that marker. Both ways agree, whatever the order of markers and headers.
-/

namespace RegionToggle

namespace Line

def isMarker (line : Line) : Bool :=
  match line.kind with
  | .opening | .closing => true
  | .header _ | .body => false

def label? (line : Line) : Option Text :=
  match line.kind with
  | .header label => some label
  | .opening | .closing | .body => none

/-- What the zone behind a line depends on. -/
def key (line : Line) : Nat × LineKind := (line.number, line.kind)

end Line

namespace LookBack

def lastMarker? (before : List Line) : Option Line := before.reverse.find? Line.isMarker

def sinceMarker (before : List Line) : List Line :=
  (before.reverse.takeWhile fun line => !line.isMarker).reverse

def lastLabel? (before : List Line) : Option Text := before.reverse.findSome? Line.label?

/-- Whether a region is open behind some lines. -/
def inRegion (before : List Line) : Bool :=
  (lastMarker? before).any fun line => decide (line.kind = .opening)

/-- The label of the section that goes on behind some lines, if they end in one. -/
def sectionLabel? (before : List Line) : Option Text :=
  if inRegion before then lastLabel? (sinceMarker before) else none

@[simp] theorem lastMarker?_concat (before : List Line) (line : Line) :
    lastMarker? (before ++ [line]) = if line.isMarker then some line else lastMarker? before := by
  cases h : line.isMarker <;> simp [lastMarker?, h]

@[simp] theorem sinceMarker_concat (before : List Line) (line : Line) :
    sinceMarker (before ++ [line]) =
      if line.isMarker then [] else sinceMarker before ++ [line] := by
  cases h : line.isMarker <;> simp [sinceMarker, h]

@[simp] theorem lastLabel?_concat (before : List Line) (line : Line) :
    lastLabel? (before ++ [line]) = line.label?.or (lastLabel? before) := by
  cases h : line.label? <;> simp [lastLabel?, h]

end LookBack

namespace Zone

def isInside : Zone → Bool
  | .outside => false
  | .inside _ _ => true

def label? : Zone → Option Text
  | .outside => none
  | .inside _ label? => label?

/-- The zone behind some lines, by looking back. -/
def behind (before : List Line) : Zone :=
  match LookBack.lastMarker? before with
  | none => .outside
  | some marker =>
    if marker.kind = .opening then
      .inside marker.number (LookBack.lastLabel? (LookBack.sinceMarker before))
    else .outside

/-- What one more line does to the zone behind the lines. -/
theorem behind_concat (before : List Line) (line : Line) :
    behind (before ++ [line]) = (behind before).next line := by
  obtain ⟨number, text, ending, kind⟩ := line
  cases kind with
  | opening => simp [behind, next, Line.isMarker, LookBack.lastLabel?]
  | closing => simp [behind, next, Line.isMarker]
  | header label =>
    cases hm : LookBack.lastMarker? before with
    | none => simp [behind, next, Line.isMarker, hm]
    | some marker =>
      by_cases ho : marker.kind = .opening <;>
        simp [behind, next, Line.isMarker, Line.label?, hm, ho]
  | body =>
    cases hm : LookBack.lastMarker? before with
    | none => simp [behind, next, Line.isMarker, hm]
    | some marker =>
      by_cases ho : marker.kind = .opening <;>
        simp [behind, next, Line.isMarker, Line.label?, hm, ho]

/-- The zone carried along further lines is the one found by looking back. -/
theorem last_behind (before after : List Line) :
    last (behind before) after = behind (before ++ after) := by
  induction after generalizing before with
  | nil => rw [List.append_nil]; rfl
  | cons line after ih =>
    have h := ih (before ++ [line])
    rw [behind_concat, List.append_assoc, List.singleton_append] at h
    exact h

theorem last_eq_behind (before : List Line) : last .outside before = behind before :=
  last_behind [] before

/-- Each line is placed in the zone behind the lines before it. -/
theorem place_eq_mapIdx (zone : Zone) (lines : List Line) :
    place zone lines = lines.mapIdx fun i line => (last zone (lines.take i), line) := by
  induction lines generalizing zone with
  | nil => rfl
  | cons line more ih => rw [place, ih, List.mapIdx_cons]; rfl

theorem getElem?_place (lines : List Line) (i : Nat) :
    (place .outside lines)[i]? = lines[i]?.map fun line => (behind (lines.take i), line) := by
  rw [place_eq_mapIdx, List.getElem?_mapIdx, last_eq_behind]

/-- What is made of the lines in their zones is made of them place by place. -/
theorem map_place {β : Type} (f : Zone → Line → β) (lines : List Line) :
    (place .outside lines).map (fun x => f x.1 x.2) =
      lines.mapIdx fun i line => f (behind (lines.take i)) line := by
  rw [eq_comm, List.mapIdx_eq_iff]
  intro i
  rw [List.getElem?_map, getElem?_place, Option.map_map]
  rfl

theorem isInside_behind (before : List Line) :
    (behind before).isInside = LookBack.inRegion before := by
  rw [behind, LookBack.inRegion]
  cases LookBack.lastMarker? before with
  | none => rfl
  | some marker => by_cases h : marker.kind = .opening <;> simp [h, isInside]

theorem label?_behind (before : List Line) :
    (behind before).label? = LookBack.sectionLabel? before := by
  rw [behind, LookBack.sectionLabel?, LookBack.inRegion]
  cases LookBack.lastMarker? before with
  | none => rfl
  | some marker => by_cases h : marker.kind = .opening <;> simp [h, label?]

theorem forall_mem_place_iff {lines : List Line} {P : Zone → Line → Prop} :
    (∀ x ∈ place .outside lines, P x.1 x.2) ↔
      ∀ i line, lines[i]? = some line → P (behind (lines.take i)) line := by
  constructor
  · intro h i line hi
    have hx : (place .outside lines)[i]? = some (behind (lines.take i), line) := by
      rw [getElem?_place, hi]
      rfl
    exact h _ (List.mem_of_getElem? hx)
  · intro h x hx
    obtain ⟨i, hi⟩ := List.mem_iff_getElem?.mp hx
    rw [getElem?_place, Option.map_eq_some_iff] at hi
    obtain ⟨line, hl, rfl⟩ := hi
    exact h i line hl

theorem next_congr (zone : Zone) {line line' : Line} (hn : line.number = line'.number)
    (hk : line.kind = line'.kind) : zone.next line = zone.next line' := by
  obtain ⟨number, text, ending, kind⟩ := line
  obtain ⟨number', text', ending', kind'⟩ := line'
  obtain rfl : number = number' := hn
  obtain rfl : kind = kind' := hk
  rfl

/-- Zones depend on the numbers and kinds of the lines alone. -/
theorem last_congr {lines lines' : List Line} (zone : Zone)
    (h : lines.map Line.key = lines'.map Line.key) : last zone lines = last zone lines' := by
  induction lines generalizing zone lines' with
  | nil =>
    rw [List.map_nil, eq_comm, List.map_eq_nil_iff] at h
    rw [h]
  | cons line more ih =>
    cases lines' with
    | nil => simp at h
    | cons line' more' =>
      obtain ⟨hkey, hm⟩ := List.cons.inj h
      obtain ⟨hn, hk⟩ := Prod.mk.inj hkey
      calc last zone (line :: more) = last (zone.next line) more := rfl
        _ = last (zone.next line') more' := by rw [next_congr zone hn hk, ih _ hm]
        _ = last zone (line' :: more') := rfl

theorem behind_congr {lines lines' : List Line}
    (h : lines.map Line.key = lines'.map Line.key) : behind lines = behind lines' := by
  rw [← last_eq_behind, ← last_eq_behind, last_congr _ h]

end Zone

end RegionToggle
