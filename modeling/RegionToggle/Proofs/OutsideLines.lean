import Mathlib.Logic.Function.Basic
import RegionToggle.Proofs.Regions
import RegionToggle.Proofs.StyleVote

/-!
# Lines outside of regions

A rewrite that preserves the lines outside regions passes them over: none of them votes for the
style, moves a zone or is counted. So two contents that differ in such lines alone, however many
there are in either and whatever they look like, are rewritten alike where they are alike.
-/

namespace RegionToggle

/-- What a line is apart from its number. -/
def Line.tag (line : Line) : Text × Ending × LineKind := (line.text, line.ending, line.kind)

namespace Zone

/-- Whether a line belongs to a region: it stands in one or is a marker. -/
def claims (x : Zone × Line) : Bool := x.1.isInside || x.2.isMarker

/-- The lines that belong to regions, each in its zone. -/
def claimed (zone : Zone) (lines : List Line) : List (Zone × Line) :=
  (place zone lines).filter claims

/-- What a rewrite sees of a line in its zone: whether a region is open, the label of the section
and the line but for its number. -/
def view (x : Zone × Line) : Bool × Option Text × Text × Ending × LineKind :=
  (x.1.isInside, x.1.label?, x.2.tag)

variable {zone zone' : Zone} {line line' : Line}

theorem view_eq_iff {x x' : Zone × Line} :
    view x = view x' ↔ x.1.isInside = x'.1.isInside ∧ x.1.label? = x'.1.label? ∧
      x.2.text = x'.2.text ∧ x.2.ending = x'.2.ending ∧ x.2.kind = x'.2.kind := by
  simp only [view, Line.tag, Prod.mk.injEq]

/-- A line that belongs to no region leaves the zone as it is. -/
theorem next_of_not_claims (h : claims (zone, line) = false) : zone.next line = zone := by
  obtain ⟨number, text, ending, kind⟩ := line
  rw [claims, Bool.or_eq_false_iff] at h
  cases zone with
  | inside openedAt label? => exact absurd h.1 (by simp [isInside])
  | outside =>
    cases kind with
    | opening => exact absurd h.2 (by simp [Line.isMarker])
    | closing => exact absurd h.2 (by simp [Line.isMarker])
    | header label => rfl
    | body => rfl

/-- Without the lines that belong to no region the others stand in the zones they stood in. -/
theorem place_claimed (zone : Zone) (lines : List Line) :
    place zone ((claimed zone lines).map Prod.snd) = claimed zone lines := by
  induction lines generalizing zone with
  | nil => rfl
  | cons line more ih =>
    rw [claimed, place, List.filter_cons]
    cases h : claims (zone, line) with
    | true =>
      rw [if_pos rfl, List.map_cons, place]
      exact congrArg _ (ih (zone.next line))
    | false =>
      rw [if_neg Bool.false_ne_true, next_of_not_claims h]
      exact ih zone

theorem view_next (hz : zone.isInside = zone'.isInside ∧ zone.label? = zone'.label?)
    (hk : line.kind = line'.kind) :
    (zone.next line).isInside = (zone'.next line').isInside ∧
      (zone.next line).label? = (zone'.next line').label? := by
  obtain ⟨number, text, ending, kind⟩ := line
  obtain ⟨number', text', ending', kind'⟩ := line'
  obtain rfl : kind = kind' := hk
  cases kind with
  | opening => exact ⟨rfl, rfl⟩
  | closing => exact ⟨rfl, rfl⟩
  | header label =>
    cases zone <;> cases zone' <;> simp_all [next, isInside, label?]
  | body => exact hz

/-- Lines that differ in their numbers alone look alike where they stand. -/
theorem map_view_place {lines lines' : List Line}
    (hz : zone.isInside = zone'.isInside ∧ zone.label? = zone'.label?)
    (h : lines.map Line.tag = lines'.map Line.tag) :
    (place zone lines).map view = (place zone' lines').map view := by
  induction lines generalizing zone zone' lines' with
  | nil =>
    rw [List.map_nil, eq_comm, List.map_eq_nil_iff] at h
    rw [h]
    rfl
  | cons line more ih =>
    cases lines' with
    | nil => simp at h
    | cons line' more' =>
      obtain ⟨htag, hmore⟩ := List.cons.inj h
      have hk : line.kind = line'.kind := congrArg (fun tag => tag.2.2) htag
      rw [place, place, List.map_cons, List.map_cons, ih (view_next hz hk) hmore, view, view,
        hz.1, hz.2, htag]

end Zone

def Dialect.regionLines (d : Dialect) (content : Text) : List (Text × Ending × LineKind) :=
  (Zone.claimed .outside (d.lines content)).map fun x => x.2.tag

def RewriteOptions.regionRows (options : RewriteOptions) (content : Text) : List Row :=
  let lines := options.dialect.lines content
  (((Zone.place .outside lines).zip (options.written lines)).filter fun x => Zone.claims x.1).map
    Prod.snd

/-! ### What a rewrite sees of lines in regions -/

/-- Lists that look alike give the same results in all that depends on the looks alone. -/
theorem map_eq_map_of_factorsThrough {α β γ : Type} {look : α → β} {g : α → γ}
    (hg : g.FactorsThrough look) {xs ys : List α} (h : xs.map look = ys.map look) :
    xs.map g = ys.map g := by
  induction xs generalizing ys with
  | nil =>
    rw [List.map_nil, eq_comm, List.map_eq_nil_iff] at h
    rw [h]
  | cons x xs ih =>
    cases ys with
    | nil => simp at h
    | cons y ys =>
      obtain ⟨hxy, hrest⟩ := List.cons.inj h
      rw [List.map_cons, List.map_cons, hg hxy, ih hrest]

namespace Dialect

variable {d : Dialect} {content content' : Text}

/-- Contents with the same lines in their regions are alike there in all that a rewrite sees. -/
theorem map_claimed_congr {α : Type} {g : Zone × Line → α} (hg : g.FactorsThrough Zone.view)
    (h : d.regionLines content = d.regionLines content') :
    (Zone.claimed .outside (d.lines content)).map g =
      (Zone.claimed .outside (d.lines content')).map g := by
  apply map_eq_map_of_factorsThrough hg
  rw [← Zone.place_claimed, ← Zone.place_claimed .outside (d.lines content')]
  apply Zone.map_view_place ⟨rfl, rfl⟩
  rw [List.map_map, List.map_map]
  exact h

/-- The vote of a line depends on what a rewrite sees of it. -/
theorem voteIn?_factorsThrough (token : Text) :
    (fun x : Zone × Line => CommentStyle.voteIn? token x.1 x.2).FactorsThrough Zone.view := by
  intro x x' h
  obtain ⟨hin, -, htext, -, hkind⟩ := Zone.view_eq_iff.mp h
  simp only [CommentStyle.voteIn?, hin, htext, hkind]

/-- Lines that belong to no region do not vote. -/
theorem votes_eq_filterMap_claimed (token : Text) (lines : List Line) :
    CommentStyle.votes token false lines =
      ((Zone.claimed .outside lines).map fun x =>
        CommentStyle.voteIn? token x.1 x.2).filterMap id := by
  have hvotes := CommentStyle.votes_eq_filterMap token .outside lines
  rw [Zone.isInside] at hvotes
  rw [hvotes, List.filterMap_map, Zone.claimed, List.filterMap_filter]
  apply List.filterMap_congr
  intro x _
  cases h : Zone.claims x with
  | true => rfl
  | false =>
    rw [Zone.claims, Bool.or_eq_false_iff] at h
    simp [CommentStyle.voteIn?, h.1]

/-- Contents with the same lines in their regions have the same style. -/
theorem detect_congr (h : d.regionLines content = d.regionLines content') :
    CommentStyle.detect d.token (d.lines content) =
      CommentStyle.detect d.token (d.lines content') := by
  rw [CommentStyle.detect, CommentStyle.detect, votes_eq_filterMap_claimed,
    votes_eq_filterMap_claimed, map_claimed_congr (voteIn?_factorsThrough d.token) h]

end Dialect

namespace RewriteOptions

variable {options : RewriteOptions} {style : CommentStyle} {content content' : Text}

/-- What is done about a line depends on what a rewrite sees of it. -/
theorem edit_factorsThrough (options : RewriteOptions) (style : CommentStyle) :
    (fun x : Zone × Line => options.edit style x.1 x.2).FactorsThrough Zone.view := by
  intro x x' h
  obtain ⟨hin, hlabel, htext, -, hkind⟩ := Zone.view_eq_iff.mp h
  have hmarker : x.2.isMarker = x'.2.isMarker := by rw [Line.isMarker, hkind, ← Line.isMarker]
  simp only [edit, aim_eq, hin, hlabel, htext, hkind, hmarker]

/-- So does the row that is written for it. -/
theorem row_factorsThrough (options : RewriteOptions) (style : CommentStyle) :
    (fun x : Zone × Line =>
      Row.mk (options.textFor style x.1 x.2) x.2.ending).FactorsThrough Zone.view := by
  intro x x' h
  obtain ⟨-, -, htext, hending, -⟩ := Zone.view_eq_iff.mp h
  have hedit : options.edit style x.1 x.2 = options.edit style x'.1 x'.2 :=
    edit_factorsThrough options style h
  simp only [textFor, hedit, htext, hending]

theorem regionRows_eq (options : RewriteOptions) (content : Text) :
    let lines := options.dialect.lines content
    options.regionRows content = (Zone.claimed .outside lines).map fun x =>
      ⟨options.textFor (.detect options.dialect.token lines) x.1 x.2, x.2.ending⟩ := by
  intro lines
  have hzip : ∀ (places : List (Zone × Line)) (row : Zone × Line → Row),
      places.zip (places.map row) = places.map fun x => (x, row x) := by
    intro places row
    calc places.zip (places.map row)
        = (places.map id).zip (places.map row) := by rw [List.map_id]
      _ = places.map fun x => (x, row x) := List.zip_map'
  rw [regionRows, written_eq, hzip, List.filter_map, List.map_map]
  rfl

/-! ### What a rewrite makes of lines in regions -/

/-- Lines that belong to no region are to be kept if outside lines are preserved. -/
theorem aim_of_not_claims (hp : options.outside = .preserve) {x : Zone × Line}
    (h : Zone.claims x = false) : options.aim x.1 x.2 = .keep := by
  rw [Zone.claims, Bool.or_eq_false_iff] at h
  rw [aim_eq, h.1, h.2, outsideAim, hp]
  rfl

/-- Edits are counted in lines that belong to regions. -/
theorem countP_edits (hp : options.outside = .preserve) {q : Edit → Bool} (hq : q .kept = false)
    (lines : List Line) :
    (options.edits lines).countP (fun x => q x.2) =
      ((Zone.claimed .outside lines).map fun x =>
        options.edit (.detect options.dialect.token lines) x.1 x.2).countP q := by
  rw [edits, List.countP_map, List.countP_map, Zone.claimed, List.countP_filter]
  apply List.countP_congr
  intro x _
  cases h : Zone.claims x with
  | true => simp
  | false => simp [edit, aim_of_not_claims hp h, Edit.ofAim, hq]

/-- So contents with the same lines in their regions count the same edits. -/
theorem countP_edits_congr (hp : options.outside = .preserve) {q : Edit → Bool}
    (hq : q .kept = false)
    (h : options.dialect.regionLines content = options.dialect.regionLines content') :
    (options.edits (options.dialect.lines content)).countP (fun x => q x.2) =
      (options.edits (options.dialect.lines content')).countP fun x => q x.2 := by
  rw [countP_edits hp hq, countP_edits hp hq, Dialect.detect_congr h,
    Dialect.map_claimed_congr (edit_factorsThrough options _) h]

/-- Regions are counted in them as well. -/
theorem regions_rewrite (options : RewriteOptions) (content : Text) :
    (options.rewrite content).stats.regions =
      (options.dialect.regionLines content).countP fun tag => decide (tag.2.2 = .opening) := by
  have hplace : (options.rewrite content).stats.regions =
      (Zone.place .outside (options.dialect.lines content)).countP
        fun x => decide (x.2.kind = .opening) := by
    conv => rhs; rw [← Function.comp_def (fun line : Line => decide (line.kind = .opening)),
      ← List.countP_map, Zone.map_snd_place]
    rfl
  rw [hplace, Dialect.regionLines, List.countP_map, Zone.claimed, List.countP_filter]
  apply List.countP_congr
  intro x _
  simp +contextual [Line.tag, Zone.claims, Line.isMarker]

/-- With outside lines preserved, two contents that come to the same lines once the lines that
belong to no region are struck out are rewritten alike: the same rows are written for the lines that
are left, and the same edits and regions are counted. In either every line that belongs to no region
is written as it is, and is found at its place in the rewritten text again. -/
theorem rewrite_congr_of_regionLines (hp : options.outside = .preserve)
    (h : options.dialect.regionLines content = options.dialect.regionLines content') :
    options.regionRows content = options.regionRows content' ∧
      (options.rewrite content).stats.commented = (options.rewrite content').stats.commented ∧
      (options.rewrite content).stats.uncommented =
        (options.rewrite content').stats.uncommented ∧
      (options.rewrite content).stats.regions = (options.rewrite content').stats.regions ∧
      ∀ t ∈ [content, content'],
        let lines := options.dialect.lines t
        (options.rewrite t).text = Text.join (options.written lines) ∧
          ∀ i line, lines[i]? = some line →
            Zone.claims (.behind (lines.take i), line) = false →
            (options.written lines)[i]? = some line.row ∧
              ('\n' ∉ options.dialect.token →
                (options.dialect.lines (options.rewrite t).text)[i]? = some line) := by
  have hstyle := Dialect.detect_congr h
  refine ⟨?_, ?_, ?_, ?_, ?_⟩
  · rw [regionRows_eq, regionRows_eq, hstyle]
    exact Dialect.map_claimed_congr (row_factorsThrough options _) h
  · exact countP_edits_congr hp (q := Edit.isCommented) rfl h
  · exact countP_edits_congr hp (q := Edit.isUncommented) rfl h
  · rw [regions_rewrite, regions_rewrite, h]
  · intro t _ lines
    refine ⟨text_rewrite options t, fun i line hi hc => ?_⟩
    have ha := aim_of_not_claims hp hc
    refine ⟨?_, fun ht => ?_⟩
    · rw [getElem?_written, hi, Option.map_some, textFor, edit, ha, Edit.apply_ofAim_keep, Line.row]
    · rw [getElem?_lines_rewrite ht, hi, Option.bind_some,
        lineAfter?_of_keep (List.mem_of_getElem? hi) ha]

/-- The comments and headers around a region, however they are written, do not change its style. -/
theorem rewrite_congr_of_regionLines_noise :
    let options : RewriteOptions := { platform := .linux }
    let content := "// a\n// b\n".toList ++
      "// PLATFORM_SWITCH_START\n// Windows Configuration\nc\n//d\n".toList ++
      "// Linux Configuration\n//e\n// PLATFORM_SWITCH_END\n".toList
    let content' := "// Linux Configuration\r\n".toList ++
      "// PLATFORM_SWITCH_START\n// Windows Configuration\nc\n//d\n".toList ++
      "// Linux Configuration\n//e\n// PLATFORM_SWITCH_END\nf\n// g".toList
    options.outside = .preserve ∧
      options.dialect.regionLines content = options.dialect.regionLines content' ∧
      options.regionRows content = options.regionRows content' ∧
      (options.rewrite content).text =
        "// a\n// b\n".toList ++
          "// PLATFORM_SWITCH_START\n// Windows Configuration\n//c\n//d\n".toList ++
          "// Linux Configuration\ne\n// PLATFORM_SWITCH_END\n".toList := by
  intro options content content'
  have h : options.dialect.regionLines content = options.dialect.regionLines content' := by
    decide +kernel
  exact ⟨rfl, h, (rewrite_congr_of_regionLines rfl h).1, by decide +kernel⟩

end RewriteOptions

end RegionToggle
