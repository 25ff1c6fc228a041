import RegionToggle.Proofs.Written

/-!
# Warnings about regions

The warnings of a rewrite are read off the zones that are carried along. They can be said by looking
back from each line: a marker that opens a region while one is open, one that closes a region while
none is open, a header of a region that names no platform, and a region that is open at the end. No
warning is given exactly if openings and closings come by turns and the headers between them name
platforms.
-/

namespace RegionToggle

namespace LookBack

def lastOpening? (before : List Line) : Option Line :=
  before.reverse.find? fun line => decide (line.kind = .opening)

theorem inRegion_iff {before : List Line} :
    inRegion before = true ↔
      ∃ marker, lastMarker? before = some marker ∧ marker.kind = .opening := by
  rw [inRegion, Option.any_eq_true]
  simp only [decide_eq_true_eq]

/-- If the last marker opens a region, it is the last one that does. -/
theorem lastOpening?_eq {before : List Line} {marker : Line}
    (hm : lastMarker? before = some marker) (ho : marker.kind = .opening) :
    lastOpening? before = some marker := by
  obtain ⟨hp, front, rest, hr, hfront⟩ := List.find?_eq_some_iff_append.mp hm
  refine List.find?_eq_some_iff_append.mpr ⟨by simpa using ho, front, rest, hr, fun line hl => ?_⟩
  have hno := hfront line hl
  rw [Bool.not_eq_true', Line.isMarker] at hno
  cases hk : line.kind <;> simp_all

end LookBack

namespace RegionWarning

def at? (before : List Line) (line : Line) : Option RegionWarning :=
  match line.kind, LookBack.inRegion before with
  | .opening, true =>
    (LookBack.lastOpening? before).map fun start => .openedInside line.number start.number
  | .closing, false => some (.closedOutside line.number)
  | .header label, true =>
    if Platform.ofLabel? label = none then some (.unknownSection line.number label) else none
  | _, _ => none

def atEnd? (lines : List Line) : Option RegionWarning :=
  if LookBack.inRegion lines then
    (LookBack.lastOpening? lines).map fun start => .neverClosed start.number
  else none

/-- All warnings for some lines, line by line and then for the end. -/
def along (lines : List Line) : List RegionWarning :=
  (lines.mapIdx fun i line => at? (lines.take i) line).filterMap id ++ (atEnd? lines).toList

theorem behind_of_not_inRegion {before : List Line} (h : LookBack.inRegion before = false) :
    Zone.behind before = .outside := by
  have hz := Zone.isInside_behind before
  rw [h] at hz
  cases hb : Zone.behind before with
  | outside => rfl
  | inside openedAt label? => simp [hb, Zone.isInside] at hz

theorem behind_of_inRegion {before : List Line} (h : LookBack.inRegion before = true) :
    ∃ start, LookBack.lastOpening? before = some start ∧
      Zone.behind before =
        .inside start.number (LookBack.lastLabel? (LookBack.sinceMarker before)) := by
  obtain ⟨marker, hm, ho⟩ := LookBack.inRegion_iff.mp h
  exact ⟨marker, LookBack.lastOpening?_eq hm ho, by rw [Zone.behind, hm]; exact if_pos ho⟩

theorem ofLine?_behind (before : List Line) (line : Line) :
    ofLine? (.behind before) line = at? before line := by
  obtain ⟨number, text, ending, kind⟩ := line
  rw [at?]
  cases h : LookBack.inRegion before with
  | false =>
    rw [behind_of_not_inRegion h]
    cases kind <;> rfl
  | true =>
    obtain ⟨start, hs, hz⟩ := behind_of_inRegion h
    rw [hz, hs]
    cases kind with
    | header label => simp only [ofLine?, Option.isNone_iff_eq_none]
    | _ => rfl

theorem ofEnd?_behind (lines : List Line) : ofEnd? (.behind lines) = atEnd? lines := by
  rw [atEnd?]
  cases h : LookBack.inRegion lines with
  | false =>
    rw [behind_of_not_inRegion h]
    rfl
  | true =>
    obtain ⟨start, hs, hz⟩ := behind_of_inRegion h
    rw [hz, hs]
    rfl

/-- The warnings found with zones are those found by looking back. -/
theorem ofLines_eq (lines : List Line) : ofLines lines = (along lines).take limit := by
  have hlines : (Zone.place .outside lines).map (fun x => ofLine? x.1 x.2) =
      lines.mapIdx fun i line => at? (lines.take i) line := by
    rw [Zone.map_place]
    simp only [ofLine?_behind]
  rw [along, ← hlines, List.filterMap_map, ← ofEnd?_behind, ← Zone.last_eq_behind]
  rfl

end RegionWarning

/-! ### No warnings -/

namespace LookBack

/-- Whether openings and closings come by turns, given whether a region is open before them, and
leave no region open. -/
def Turns : Bool → List Line → Prop
  | inside, [] => inside = false
  | inside, line :: more =>
    match line.kind with
    | .opening => inside = false ∧ Turns true more
    | .closing => inside = true ∧ Turns false more
    | .header _ | .body => Turns inside more

def markerKinds (lines : List Line) : List LineKind :=
  (lines.filter Line.isMarker).map Line.kind

theorem markerKinds_cons (line : Line) (more : List Line) :
    markerKinds (line :: more) =
      if line.isMarker then line.kind :: markerKinds more else markerKinds more := by
  cases h : line.isMarker <;> simp [markerKinds, h]

/-- A region that is open has to be closed first. -/
def owed (inside : Bool) : List LineKind := if inside then [.closing] else []

theorem turns_iff (inside : Bool) (lines : List Line) :
    Turns inside lines ↔ ∃ n, markerKinds lines =
      owed inside ++ (List.replicate n [LineKind.opening, LineKind.closing]).flatten := by
  induction lines generalizing inside with
  | nil =>
    cases inside with
    | false => exact iff_of_true rfl ⟨0, rfl⟩
    | true => exact iff_of_false (by simp [Turns]) (by simp [markerKinds, owed])
  | cons line more ih =>
    obtain ⟨number, text, ending, kind⟩ := line
    rw [markerKinds_cons]
    cases kind with
    | opening =>
      simp only [Turns, ih, Line.isMarker, if_true, owed]
      cases inside with
      | true => simp
      | false =>
        constructor
        · rintro ⟨-, n, hn⟩
          exact ⟨n + 1, by simp [hn, List.replicate_succ]⟩
        · rintro ⟨n, hn⟩
          cases n with
          | zero => simp at hn
          | succ n => exact ⟨rfl, n, by simpa [List.replicate_succ] using hn⟩
    | closing =>
      simp only [Turns, ih, Line.isMarker, if_true, owed]
      cases inside with
      | true => simp
      | false =>
        refine iff_of_false (by simp) ?_
        rintro ⟨n, hn⟩
        cases n <;> simp [List.replicate_succ] at hn
    | header label => simpa [Turns, Line.isMarker] using ih inside
    | body => simpa [Turns, Line.isMarker] using ih inside

end LookBack

namespace RegionWarning

/-- Whether a line of a region that is a header names a platform. -/
def Named (zone : Zone) (line : Line) : Prop :=
  ∀ label, line.kind = .header label → zone.isInside = true → Platform.ofLabel? label ≠ none

/-- What keeps one line from giving a warning, with the lines behind it left open. -/
theorem ofLine?_eq_none_iff (zone : Zone) (line : Line) (more : List Line) :
    (ofLine? zone line = none ∧ LookBack.Turns (zone.next line).isInside more) ↔
      LookBack.Turns zone.isInside (line :: more) ∧ Named zone line := by
  obtain ⟨number, text, ending, kind⟩ := line
  cases kind with
  | opening => cases zone <;> simp [ofLine?, Zone.next, Zone.isInside, LookBack.Turns, Named]
  | closing => cases zone <;> simp [ofLine?, Zone.next, Zone.isInside, LookBack.Turns, Named]
  | body => cases zone <;> simp [ofLine?, Zone.next, Zone.isInside, LookBack.Turns, Named]
  | header label =>
    cases zone with
    | outside => simp [ofLine?, Zone.next, Zone.isInside, LookBack.Turns, Named]
    | inside openedAt label? =>
      cases hl : Platform.ofLabel? label <;>
        simp [ofLine?, Zone.next, Zone.isInside, LookBack.Turns, Named, hl]

/-- No line and not the end of a file gives a warning exactly if the markers come by turns and the
headers of regions name platforms. -/
theorem silent_iff (zone : Zone) (lines : List Line) :
    ((∀ x ∈ Zone.place zone lines, ofLine? x.1 x.2 = none) ∧ ofEnd? (zone.last lines) = none) ↔
      LookBack.Turns zone.isInside lines ∧ ∀ x ∈ Zone.place zone lines, Named x.1 x.2 := by
  induction lines generalizing zone with
  | nil => cases zone <;> simp [Zone.place, Zone.last, ofEnd?, LookBack.Turns, Zone.isInside]
  | cons line more ih =>
    have hlast : zone.last (line :: more) = (zone.next line).last more := rfl
    have hstep := ofLine?_eq_none_iff zone line more
    rw [Zone.place, List.forall_mem_cons, List.forall_mem_cons, hlast, and_assoc, ih, ← and_assoc,
      hstep, and_assoc]

theorem ofLines_eq_nil_iff (lines : List Line) :
    ofLines lines = [] ↔
      LookBack.Turns false lines ∧ ∀ x ∈ Zone.place .outside lines, Named x.1 x.2 := by
  have hsilent : ofLines lines = [] ↔
      (∀ x ∈ Zone.place .outside lines, ofLine? x.1 x.2 = none) ∧
        ofEnd? (Zone.last .outside lines) = none := by
    rw [ofLines, List.take_eq_nil_iff, or_iff_right (by decide), List.append_eq_nil_iff,
      List.filterMap_eq_nil_iff, Option.toList_eq_nil_iff]
  exact hsilent.trans (silent_iff .outside lines)

end RegionWarning

/-- The warnings of a rewrite are the first hundred of those found by looking back from each line
and from the end. There are none exactly if the markers are pairs of one that opens a region and one
that closes it, and every header of a region names a platform. -/
theorem RewriteOptions.warnings_rewrite (options : RewriteOptions) (content : Text) :
    let lines := options.dialect.lines content
    (∀ i line, lines[i]? = some line → line.number = i + 1) ∧
      (options.rewrite content).stats.warnings = (RegionWarning.along lines).take 100 ∧
      ((options.rewrite content).stats.warnings = [] ↔
        (∃ n, (lines.filter Line.isMarker).map Line.kind =
          (List.replicate n [LineKind.opening, LineKind.closing]).flatten) ∧
        ∀ i line label, lines[i]? = some line → line.kind = .header label →
          LookBack.inRegion (lines.take i) = true → ∃ p, Platform.ofLabel? label = some p) := by
  intro lines
  refine ⟨fun i line hi => ?_, RegionWarning.ofLines_eq lines, ?_⟩
  · rw [Dialect.number_of_getElem?_lines hi, Nat.add_comm]
  · have hwarnings : (options.rewrite content).stats.warnings = RegionWarning.ofLines lines := rfl
    rw [hwarnings, RegionWarning.ofLines_eq_nil_iff, LookBack.turns_iff, Zone.forall_mem_place_iff]
    simp only [RegionWarning.Named, Zone.isInside_behind, Option.ne_none_iff_exists',
      LookBack.markerKinds, LookBack.owed, Bool.false_eq_true, if_false, List.nil_append]
    refine and_congr_right' ⟨fun h i line label hi => h i line hi label, fun h i line hi label =>
      h i line label hi⟩

/-- A region that opens again in its own section, a header that names no platform, and no end. -/
example :
    RegionWarning.along (Dialect.standard.lines
      "PLATFORM_SWITCH_START\nPLATFORM_SWITCH_START\nSolaris Configuration\n".toList) =
      [.openedInside 2 1, .unknownSection 3 "Solaris".toList, .neverClosed 2] := by
  decide +kernel

end RegionToggle
