import RegionToggle.Proofs.Regions
import RegionToggle.Proofs.SecondRun

/-!
# Headers that come to light

A rewrite leaves the headers of sections as they are, and commenting a line out never makes a header
of it. But taking comment tokens off a line takes off more than a header may have in front: the
stray half of a token, or a comment in front of a comment. A line that is no header then may be one
afterwards. The headers of a rewritten text are those of the content and those that come to light in
the sections of the platform.
-/

namespace RegionToggle

theorem Line.label?_congr {line line' : Line} (h : line.kind = line'.kind) :
    line.label? = line'.label? := by
  rw [label?, label?, h]

theorem Dialect.Apart.steady {d : Dialect} (h : d.Apart) (ht : '\n' ∉ d.token) : d.Steady :=
  ⟨ht, h.opening_apart, h.closing_apart⟩

namespace LookBack

/-- The label of the section that starts at a place: that of a header inside a region. -/
def headerAt? (lines : List Line) (i : Nat) : Option Text :=
  if inRegion (lines.take i) then lines[i]?.bind Line.label? else none

/-- The label that comes to light at a place: that of a body line in a section of the platform which
is a header when it is laid bare. -/
def hiddenHeaderAt? (p : Platform) (d : Dialect) (lines : List Line) (i : Nat) : Option Text :=
  lines[i]?.bind fun line =>
    if line.kind = .body ∧ inSectionOf p (lines.take i) = true then (line.laidBare d).label?
    else none

theorem inSectionOf_of_not_inRegion {p : Platform} {before : List Line}
    (h : inRegion before = false) : inSectionOf p before = false := by
  simp [inSectionOf, sectionLabel?, h]

/-- No header comes to light where there is one. -/
theorem headerAt?_eq_none {p : Platform} {d : Dialect} {lines : List Line} {i : Nat}
    (h : hiddenHeaderAt? p d lines i ≠ none) : headerAt? lines i = none := by
  obtain ⟨label, h⟩ := Option.ne_none_iff_exists'.mp h
  obtain ⟨line, hi, hl⟩ := Option.bind_eq_some_iff.mp h
  split at hl
  · next hz =>
    have hnone : line.label? = none := by rw [Line.label?, hz.1]
    rw [headerAt?, hi, Option.bind_some, hnone, ite_self]
  · exact absurd hl (by simp)

end LookBack

namespace RewriteOptions

variable {options : RewriteOptions} {style : CommentStyle} {zone : Zone} {line line' : Line}
  {content : Text}

/-- A line is read again with the kind of the text written for it. -/
theorem kind_of_lineAfter? (ha : options.dialect.Apart) (hl : line ∈ options.dialect.lines content)
    (h : options.lineAfter? style zone line = some line') :
    line'.kind = (options.lineFor style zone line).kind := by
  rw [lineAfter?, Option.map_eq_some_iff] at h
  obtain ⟨row, hr, rfl⟩ := h
  have hbody : row.text.body = (options.textFor style zone line).body :=
    body_of_again? (isAllBlank_or_again?_textFor hl) hr
  rw [lineFor, ← Dialect.kindOf_body ha, hbody, Dialect.kindOf_body ha]

/-- A line that is lost was no header when it was written. -/
theorem label?_of_lineAfter? (ha : options.dialect.Apart)
    (hl : line ∈ options.dialect.lines content) :
    (options.lineAfter? style zone line).bind Line.label? =
      (options.lineFor style zone line).label? := by
  cases h : options.lineAfter? style zone line with
  | some line' => exact Line.label?_congr (kind_of_lineAfter? ha hl h)
  | none =>
    rw [lineAfter?, Option.map_eq_none_iff, Row.again?_eq_none_iff] at h
    have hnil : options.textFor style zone line = [] := congrArg Row.text h
    rw [Option.bind_none, Line.label?, lineFor, hnil, Dialect.kindOf]
    cases Text.occurs options.dialect.opening [] <;>
      cases Text.occurs options.dialect.closing [] <;> rfl

/-- The headers of a rewritten text are those of the content and those that come to light. -/
theorem headerAt?_rewrite (options : RewriteOptions) (hp : options.outside = .preserve)
    (ha : options.dialect.Apart) (ht : '\n' ∉ options.dialect.token) (content : Text) (i : Nat) :
    LookBack.headerAt? (options.dialect.lines (options.rewrite content).text) i =
      (LookBack.headerAt? (options.dialect.lines content) i).or
        (LookBack.hiddenHeaderAt? options.platform options.dialect
          (options.dialect.lines content) i) := by
  have hregion := LookBack.inRegion_take_congr (markerAt?_rewrite (ha.steady ht) content) i
  rw [LookBack.headerAt?, LookBack.headerAt?, hregion, getElem?_lines_rewrite ht,
    LookBack.hiddenHeaderAt?]
  cases hi : (options.dialect.lines content)[i]? with
  | none => simp
  | some line =>
    have hl := List.mem_of_getElem? hi
    cases hr : LookBack.inRegion ((options.dialect.lines content).take i) with
    | false => simp [LookBack.inSectionOf_of_not_inRegion hr]
    | true =>
      have hkind := Line.label?_congr (kind_lineFor
        (.detect options.dialect.token (options.dialect.lines content))
        (.behind ((options.dialect.lines content).take i)) hp ha rfl
        (Dialect.kind_of_mem_linesFrom hl))
      rw [if_pos rfl, if_pos rfl, Option.bind_some, Option.bind_some, Option.bind_some,
        label?_of_lineAfter? ha hl, hkind, Zone.isOf_behind]
      split
      · next hz =>
        have hnone : line.label? = none := by rw [Line.label?, hz.1]
        rw [hnone, Option.none_or]
      · rw [Option.or_none]

/-- In the standard dialect, with outside lines preserved, a rewrite keeps every header and its
label. It makes none exactly if none comes to light. -/
theorem headers_rewrite_iff (p : Platform) (content : Text) :
    let d := Dialect.standard
    let final := ((RewriteOptions.mk p d .preserve).rewrite content).text
    (∀ i, LookBack.headerAt? (d.lines final) i =
        (LookBack.headerAt? (d.lines content) i).or
          (LookBack.hiddenHeaderAt? p d (d.lines content) i)) ∧
      ((∀ i, LookBack.headerAt? (d.lines final) i = LookBack.headerAt? (d.lines content) i) ↔
        ∀ i, LookBack.hiddenHeaderAt? p d (d.lines content) i = none) := by
  intro d final
  have ht : '\n' ∉ Dialect.standard.token := by decide
  have heq : ∀ i, LookBack.headerAt? (d.lines final) i =
      (LookBack.headerAt? (d.lines content) i).or
        (LookBack.hiddenHeaderAt? p d (d.lines content) i) :=
    headerAt?_rewrite ⟨p, d, .preserve⟩ rfl Dialect.standard_apart ht content
  refine ⟨heq, forall_congr' fun i => ?_⟩
  rw [heq i]
  constructor
  · intro h
    by_contra hne
    rw [LookBack.headerAt?_eq_none hne, Option.none_or] at h
    exact hne h
  · intro h
    rw [h, Option.or_none]

/-- Behind one and a half tokens there is no header, but without them there is: the lines behind it
change sides, and a second run comments them out. -/
theorem headers_rewrite_stray :
    let lines (content : Text) : List Line := Dialect.standard.lines content
    let rewritten (p : Platform) (content : Text) : Text :=
      ((RewriteOptions.mk p .standard .preserve).rewrite content).text
    let region (header line : String) : Text :=
      ("// PLATFORM_SWITCH_START\n// Windows Configuration\n" ++ header ++ "\n" ++ line ++
        "\n// PLATFORM_SWITCH_END\n").toList
    let content : Text := region "///Linux Configuration" "x"
    let final : Text := region "Linux Configuration" "x"
    rewritten .windows content = final ∧
      LookBack.headerAt? (lines content) 2 = none ∧
      LookBack.headerAt? (lines final) 2 = some "Linux".toList ∧
      rewritten .windows final = region "Linux Configuration" "//x" ∧
      ¬ ∀ (p : Platform) (content : Text) (i : Nat),
        LookBack.headerAt? (lines (rewritten p content)) i =
          LookBack.headerAt? (lines content) i := by
  intro lines rewritten region content final
  have hfirst : rewritten .windows content = final := by decide +kernel
  have hbefore : LookBack.headerAt? (lines content) 2 = none := by decide +kernel
  have hafter : LookBack.headerAt? (lines final) 2 = some "Linux".toList := by decide +kernel
  refine ⟨hfirst, hbefore, hafter, by decide +kernel, fun h => ?_⟩
  have hsame : LookBack.headerAt? (lines (rewritten .windows content)) 2 =
      LookBack.headerAt? (lines content) 2 := h .windows content 2
  rw [hfirst, hafter, hbefore] at hsame
  exact absurd hsame (by decide)

end RewriteOptions

end RegionToggle
