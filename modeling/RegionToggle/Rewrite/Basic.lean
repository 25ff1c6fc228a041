import RegionToggle.Comment
import RegionToggle.Rewrite.Zone

/-!
# Rewriting a file for a platform

A rewrite keeps the sections of one platform active and comments out those of the others. It copies
markers and the headers of sections, edits each line by itself, and leaves every ending as it is, so
the result has the lines of the content in their places.
-/

namespace RegionToggle

inductive OutsidePolicy where
  /-- They stay. -/
  | preserve
  /-- Their comment tokens go. -/
  | uncomment
  /-- Lines that mention the platform or a marker lose their comment tokens, all others get one. -/
  | labelMatch
  deriving DecidableEq, Repr

namespace OutsidePolicy

/-- The policy with this name; blanks around it and ASCII case do not count. -/
def ofName? (name : Text) : Option OutsidePolicy :=
  let name := name.trim.lower
  if name = "preserve".toList then some .preserve
  else if name = "uncomment".toList then some .uncomment
  else if name = "label".toList ∨ name = "label_match".toList then some .labelMatch
  else none

end OutsidePolicy

structure RewriteOptions where
  platform : Platform
  dialect : Dialect := .standard
  outside : OutsidePolicy := .preserve
  deriving DecidableEq, Repr

inductive Aim where
  | keep
  | comment
  | uncomment
  deriving DecidableEq, Repr

inductive Edit where
  | kept
  | commented (text : Text)
  | uncommented (text : Text)
  deriving DecidableEq, Repr

namespace Edit

/-- The text of a line after an edit. -/
def apply (old : Text) : Edit → Text
  | .kept => old
  | .commented text => text
  | .uncommented text => text

/-- Carries out an aim; a line on which there is nothing to do is kept. -/
def ofAim (style : CommentStyle) (text : Text) : Aim → Edit
  | .keep => .kept
  | .comment => (style.comment? text).elim .kept .commented
  | .uncomment => (style.uncomment? text).elim .kept .uncommented

def isCommented : Edit → Bool
  | .commented _ => true
  | _ => false

def isUncommented : Edit → Bool
  | .uncommented _ => true
  | _ => false

def isKept : Edit → Bool
  | .kept => true
  | _ => false

end Edit

namespace RewriteOptions

def outsideAim (options : RewriteOptions) (text : Text) : Aim :=
  match options.outside with
  | .preserve => .keep
  | .uncomment => .uncomment
  | .labelMatch =>
    if Text.occurs options.platform.label text || Text.occurs Dialect.commonMark text then
      .uncomment
    else .comment

/-- What is to be done about a line in a zone. Lines between the start of a region and its first
header belong to no platform and stay. -/
def aim (options : RewriteOptions) (zone : Zone) (line : Line) : Aim :=
  match line.kind, zone with
  | .opening, _ | .closing, _ => .keep
  | .header _, .inside _ _ => .keep
  | .header _, .outside | .body, .outside => options.outsideAim line.text
  | .body, .inside _ none => .keep
  | .body, .inside _ (some label) =>
    if options.platform.isNamedBy label then .uncomment else .comment

def edit (options : RewriteOptions) (style : CommentStyle) (zone : Zone) (line : Line) : Edit :=
  .ofAim style line.text (options.aim zone line)

end RewriteOptions

structure RewriteStats where
  lines : Nat
  regions : Nat
  commented : Nat
  uncommented : Nat
  unchanged : Nat
  warnings : List RegionWarning
  deriving DecidableEq, Repr

def RewriteStats.changed (stats : RewriteStats) : Bool :=
  decide (0 < stats.commented + stats.uncommented)

structure Rewritten where
  text : Text
  stats : RewriteStats
  deriving DecidableEq, Repr

namespace RewriteOptions

/-- The edits of all lines, in order, each with its line. -/
def edits (options : RewriteOptions) (lines : List Line) : List (Line × Edit) :=
  let style := CommentStyle.detect options.dialect.token lines
  (Zone.place .outside lines).map fun (zone, line) => (line, options.edit style zone line)

/-- The rewritten text of classified lines. -/
def render (options : RewriteOptions) (lines : List Line) : Rewritten :=
  let edits := options.edits lines
  { text := edits.flatMap fun (line, edit) => edit.apply line.text ++ line.ending.text
    stats :=
      { lines := lines.length
        regions := lines.countP fun line => decide (line.kind = .opening)
        commented := edits.countP fun (_, edit) => edit.isCommented
        uncommented := edits.countP fun (_, edit) => edit.isUncommented
        unchanged := edits.countP fun (_, edit) => edit.isKept
        warnings := RegionWarning.ofLines lines } }

def rewrite (options : RewriteOptions) (content : Text) : Rewritten :=
  options.render (options.dialect.lines content)

end RewriteOptions

end RegionToggle
