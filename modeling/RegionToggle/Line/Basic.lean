import RegionToggle.Line.Outlook
import RegionToggle.Text.Row

/-!
# Lines and their kinds

A dialect is how files spell switchable regions: the text that opens one, the text that closes one,
and the token that turns a line into a comment. A line is a numbered row with a kind. The kind
depends on the text alone: whether the line stands inside a region is not its matter.
-/

namespace RegionToggle

structure Dialect where
  opening : Text
  closing : Text
  token : Text
  deriving DecidableEq, Repr

namespace Dialect

def standardOpening : Text := "PLATFORM_SWITCH_START".toList

def standardClosing : Text := "PLATFORM_SWITCH_END".toList

/-- The comment token of JSON with comments. -/
def standardToken : Text := "//".toList

/-- What the standard opening and closing texts have in common. -/
def commonMark : Text := "PLATFORM_SWITCH".toList

def standard : Dialect := ⟨standardOpening, standardClosing, standardToken⟩

end Dialect

inductive LineKind where
  /-- It opens a region. -/
  | opening
  /-- It closes a region. -/
  | closing
  /-- It starts the section with this label. -/
  | header (label : Text)
  | body
  deriving DecidableEq, Repr

structure Line where
  number : Nat
  text : Text
  ending : Ending
  kind : LineKind
  deriving DecidableEq, Repr

namespace Dialect

/-- The kind of a line. A text that opens a region does so even if it also closes one, and neither
is a header. -/
def kindOf (d : Dialect) (t : Text) : LineKind :=
  if Text.occurs d.opening t then .opening
  else if Text.occurs d.closing t then .closing
  else
    match Header.label? d.token t with
    | some label => .header label
    | none => .body

/-- Lines from rows, numbered from `first`. -/
def linesFrom (d : Dialect) (first : Nat) : List Row → List Line
  | [] => []
  | row :: more => ⟨first, row.text, row.ending, d.kindOf row.text⟩ :: d.linesFrom (first + 1) more

def lines (d : Dialect) (content : Text) : List Line := d.linesFrom 1 content.rows

end Dialect

end RegionToggle
