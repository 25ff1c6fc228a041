import RegionToggle.Line.Basic
import RegionToggle.Platform

/-!
# Zones

Every line of a file stands in a zone: outside all regions, or inside the region opened at some line
and there in the section of some label or in none yet. The zone of a line is settled by the lines
before it. Where markers do not pair up, or a label names no platform, there is a warning.
-/

namespace RegionToggle

inductive Zone where
  | outside
  /-- Inside the region opened at a line, in the section with this label if one has started. -/
  | inside (openedAt : Nat) (label? : Option Text)
  deriving DecidableEq, Repr

namespace Zone

/-- The zone behind a line. A region does not nest: an opening line starts afresh. -/
def next (zone : Zone) (line : Line) : Zone :=
  match line.kind, zone with
  | .opening, _ => .inside line.number none
  | .closing, _ => .outside
  | .header label, .inside openedAt _ => .inside openedAt (some label)
  | .header _, .outside => .outside
  | .body, zone => zone

/-- Each line with the zone it stands in. -/
def place : Zone → List Line → List (Zone × Line)
  | _, [] => []
  | zone, line :: more => (zone, line) :: place (zone.next line) more

def last (zone : Zone) (lines : List Line) : Zone := lines.foldl next zone

@[simp] theorem length_place (zone : Zone) (lines : List Line) :
    (place zone lines).length = lines.length := by
  induction lines generalizing zone with
  | nil => rfl
  | cons line more ih => simp [place, ih]

@[simp] theorem map_snd_place (zone : Zone) (lines : List Line) :
    (place zone lines).map Prod.snd = lines := by
  induction lines generalizing zone with
  | nil => rfl
  | cons line more ih => simp [place, ih]

end Zone

inductive RegionWarning where
  /-- A region opens inside another one. -/
  | openedInside (line openedAt : Nat)
  /-- A region closes where none is open. -/
  | closedOutside (line : Nat)
  /-- The label of a section names no platform. -/
  | unknownSection (line : Nat) (label : Text)
  /-- The last region is open at the end of the file. -/
  | neverClosed (openedAt : Nat)
  deriving DecidableEq, Repr

namespace RegionWarning

def message : RegionWarning → String
  | .openedInside line openedAt =>
    s!"line {line}: start marker inside region opened at line {openedAt}"
  | .closedOutside line => s!"line {line}: end marker without a matching start"
  | .unknownSection line label =>
    let label := String.ofList label
    s!"line {line}: section '{label}' does not name a known platform; " ++
      "its lines will be commented"
  | .neverClosed openedAt => s!"region opened at line {openedAt} is never closed"

def ofLine? (zone : Zone) (line : Line) : Option RegionWarning :=
  match line.kind, zone with
  | .opening, .inside openedAt _ => some (.openedInside line.number openedAt)
  | .closing, .outside => some (.closedOutside line.number)
  | .header label, .inside _ _ =>
    if (Platform.ofLabel? label).isNone then some (.unknownSection line.number label) else none
  | _, _ => none

/-- The warning that a file ending in a zone gives rise to. -/
def ofEnd? : Zone → Option RegionWarning
  | .inside openedAt _ => some (.neverClosed openedAt)
  | .outside => none

/-- How many warnings are kept for one file. -/
def limit : Nat := 100

/-- The warnings for a file, those for its lines first. -/
def ofLines (lines : List Line) : List RegionWarning :=
  let found := (Zone.place .outside lines).filterMap fun (zone, line) => ofLine? zone line
  (found ++ (ofEnd? (Zone.last .outside lines)).toList).take limit

end RegionWarning

end RegionToggle
