import Mathlib.Data.List.Infix
import RegionToggle.Proofs.Written

/-!
# Texts by position

A rewrite passes over the lines once and carries a zone along. What it writes for a line can be said
without any state: it depends on the line, the style of the file, whether a region is open at the
place of the line, and the label of the last header since the last marker. So the rewritten text is
put together from the texts that stand at the places of the lines, whatever the order of markers and
headers.
-/

namespace RegionToggle.RewriteOptions

/-- The text that a policy asks for in the place of a line outside every region. -/
def outsideText (options : RewriteOptions) (style : CommentStyle) (t : Text) : Text :=
  match options.outside with
  | .preserve => t
  | .uncomment => (style.uncomment? t).getD t
  | .labelMatch =>
    if options.platform.label <:+: t ∨ Dialect.commonMark <:+: t then (style.uncomment? t).getD t
    else (style.comment? t).getD t

/-- The text in the place of a body line of a region, by the label of its section. -/
def sectionText (options : RewriteOptions) (style : CommentStyle) (label? : Option Text)
    (t : Text) : Text :=
  match label? with
  | none => t
  | some label =>
    if Platform.ofLabel? label = some options.platform then (style.uncomment? t).getD t
    else (style.comment? t).getD t

/-- The text in the place of a line, by whether a region is open there and by the label of the last
header since the last marker. -/
def placedText (options : RewriteOptions) (style : CommentStyle) (inRegion : Bool)
    (label? : Option Text) (line : Line) : Text :=
  match line.kind, inRegion with
  | .opening, _ | .closing, _ | .header _, true => line.text
  | .body, true => options.sectionText style label? line.text
  | .header _, false | .body, false => options.outsideText style line.text

variable (options : RewriteOptions) (style : CommentStyle)

theorem apply_outsideAim (t : Text) :
    (Edit.ofAim style t (options.outsideAim t)).apply t = options.outsideText style t := by
  rw [outsideAim, outsideText]
  cases options.outside with
  | preserve => rfl
  | uncomment => exact Edit.apply_ofAim_uncomment style t
  | labelMatch =>
    by_cases h : options.platform.label <:+: t ∨ Dialect.commonMark <:+: t
    · have hoccurs : (Text.occurs options.platform.label t || Text.occurs Dialect.commonMark t) =
          true := by
        rwa [Bool.or_eq_true, Text.occurs_iff_infix, Text.occurs_iff_infix]
      simp only [if_pos h, if_pos hoccurs, Edit.apply_ofAim_uncomment]
    · have hoccurs : ¬ (Text.occurs options.platform.label t ||
          Text.occurs Dialect.commonMark t) = true := by
        rwa [Bool.or_eq_true, Text.occurs_iff_infix, Text.occurs_iff_infix]
      simp only [if_neg h, if_neg hoccurs, Edit.apply_ofAim_comment]

theorem apply_sectionAim (label? : Option Text) (t : Text) :
    (Edit.ofAim style t (options.sectionAim label?)).apply t =
      options.sectionText style label? t := by
  cases label? with
  | none => rfl
  | some label =>
    rw [sectionAim, sectionText]
    by_cases h : Platform.ofLabel? label = some options.platform
    · rw [if_pos h, if_pos (Platform.isNamedBy_iff.mpr h), Edit.apply_ofAim_uncomment]
    · rw [if_neg h, if_neg (mt Platform.isNamedBy_iff.mp h), Edit.apply_ofAim_comment]

/-- What is written for a line in a zone is the text in the place of the line. -/
theorem textFor_eq_placedText (zone : Zone) (line : Line) :
    options.textFor style zone line =
      options.placedText style zone.isInside zone.label? line := by
  rw [textFor, edit, aim_eq]
  obtain ⟨number, text, ending, kind⟩ := line
  cases kind with
  | opening => rfl
  | closing => rfl
  | header label =>
    cases zone with
    | outside => exact options.apply_outsideAim style text
    | inside openedAt label? => rfl
  | body =>
    cases zone with
    | outside => exact options.apply_outsideAim style text
    | inside openedAt label? => exact options.apply_sectionAim style label? text

/-- Outside every region labels do not matter. -/
theorem placedText_sectionLabel? (before : List Line) (line : Line) :
    options.placedText style (LookBack.inRegion before) (LookBack.sectionLabel? before) line =
      options.placedText style (LookBack.inRegion before)
        (LookBack.lastLabel? (LookBack.sinceMarker before)) line := by
  rw [LookBack.sectionLabel?]
  cases LookBack.inRegion before with
  | true => rfl
  | false =>
    obtain ⟨number, text, ending, kind⟩ := line
    cases kind <;> rfl

/-- One pass over the lines writes the text in the place of each line, and its ending behind it. -/
theorem text_render_eq_placedText (lines : List Line) :
    (options.render lines).text =
      (lines.mapIdx fun i line =>
        options.placedText (.detect options.dialect.token lines)
            (LookBack.inRegion (lines.take i))
            (LookBack.lastLabel? (LookBack.sinceMarker (lines.take i))) line ++
          line.ending.text).flatten := by
  let style := CommentStyle.detect options.dialect.token lines
  have hplaces := Zone.map_place
    (fun zone line => options.textFor style zone line ++ line.ending.text) lines
  rw [text_render, Text.join, written_eq, List.flatMap_map, List.flatMap_def]
  refine congrArg List.flatten (hplaces.trans ?_)
  simp only [textFor_eq_placedText, Zone.isInside_behind, Zone.label?_behind,
    placedText_sectionLabel?, style]

end RegionToggle.RewriteOptions
