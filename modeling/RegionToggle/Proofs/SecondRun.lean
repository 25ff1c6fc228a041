import RegionToggle.Proofs.Rest

/-!
# Running twice

Running a second time for the same platform is meant to change nothing, since the first run takes
every comment token off the lines it makes live. But it stops at the first blank: a comment behind a
comment and a header behind one come to light and are met by the second run. Laid bare, the lines of
a platform's sections show both, and so tell exactly for which files a second run changes nothing.
-/

namespace RegionToggle

/-- A line as it reads when its comment tokens are taken off. -/
def Line.laidBare (d : Dialect) (line : Line) : Line :=
  { line with
    text := CommentStyle.bare d.token line.text
    kind := d.kindOf (CommentStyle.bare d.token line.text) }

namespace LookBack

/-- Whether some lines end in a section of the platform. -/
def inSectionOf (p : Platform) (before : List Line) : Bool := (sectionLabel? before).any p.isNamedBy

/-- The lines of a file, with the body lines in sections of the platform laid bare. -/
def laidBare (p : Platform) (d : Dialect) (lines : List Line) : List Line :=
  lines.mapIdx fun i line =>
    if line.kind = .body ∧ inSectionOf p (lines.take i) = true then line.laidBare d else line

/-- Whether each line that is laid bare is live where it belongs to the platform as the lines then
read, and a comment where a header that came to light takes it to another section. -/
def ReadsAlike (p : Platform) (d : Dialect) (lines : List Line) : Prop :=
  ∀ i line label, (laidBare p d lines)[i]? = some line → line.kind = .body →
    line.text.isAllBlank = false → inSectionOf p (lines.take i) = true →
    sectionLabel? ((laidBare p d lines).take i) = some label →
    (CommentStyle.isComment d.token line.text = true ↔ p.isNamedBy label = false)

end LookBack

/-! ### Zones of two readings of the same lines -/

namespace Zone

def isOf (p : Platform) (zone : Zone) : Bool := zone.label?.any p.isNamedBy

theorem isOf_iff {p : Platform} {zone : Zone} :
    zone.isOf p = true ↔ ∃ label, zone.label? = some label ∧ p.isNamedBy label = true := by
  rw [isOf, Option.any_eq_true]

theorem isNamedBy_of_not_isOf {p : Platform} {zone : Zone} {label : Text}
    (h : ¬ zone.isOf p = true) (hl : zone.label? = some label) : p.isNamedBy label = false := by
  rw [← Bool.not_eq_true]
  exact fun hn => h (isOf_iff.mpr ⟨label, hl, hn⟩)

/-- The zone of a second reading is that of the first, or both are in one region and the first is in
some section of the platform. -/
inductive Strays (p : Platform) : Zone → Zone → Prop where
  | same (zone : Zone) : Strays p zone zone
  | apart (openedAt : Nat) (label label' : Text) (h : p.isNamedBy label = true) :
    Strays p (.inside openedAt (some label)) (.inside openedAt (some label'))

/-- One line keeps two readings together, if it is of one kind for both or a body line of the
platform in which the second finds no marker. -/
theorem Strays.next {p : Platform} {zone zone' : Zone} {line line' : Line}
    (h : Strays p zone zone') (hn : line.number = line'.number)
    (hk : line'.kind = line.kind ∨
      line.kind = .body ∧ zone.isOf p = true ∧ line'.isMarker = false) :
    Strays p (zone.next line) (zone'.next line') := by
  obtain ⟨number, text, ending, kind⟩ := line
  obtain ⟨number', text', ending', kind'⟩ := line'
  obtain rfl : number = number' := hn
  rcases hk with hk | ⟨hk, hp, hm⟩
  · obtain rfl : kind' = kind := hk
    cases h with
    | same => exact .same _
    | apart openedAt label label' hl =>
      cases kind' with
      | opening => exact .same _
      | closing => exact .same _
      | header label => exact .same _
      | body => exact .apart openedAt label label' hl
  · obtain rfl : kind = .body := hk
    -- the second reading may find a header here, which keeps it in the region
    cases kind' with
    | opening => simp [Line.isMarker] at hm
    | closing => simp [Line.isMarker] at hm
    | body => cases h with
      | same => exact .same _
      | apart openedAt label label' hl => exact .apart openedAt label label' hl
    | header label'' =>
      cases h with
      | same =>
        cases zone with
        | outside => exact .same _
        | inside openedAt label? =>
          cases label? with
          | none => simp [isOf, Zone.label?] at hp
          | some label =>
            exact .apart openedAt label label'' (by simpa [isOf, Zone.label?] using hp)
      | apart openedAt label label' hl => exact .apart openedAt label label'' hl

theorem Strays.eq_of_not_isOf {p : Platform} {zone zone' : Zone} (h : Strays p zone zone')
    (hp : zone.isOf p = false) : zone' = zone := by
  cases h with
  | same => rfl
  | apart openedAt label label' hl => simp [isOf, Zone.label?, hl] at hp

theorem isOf_behind (p : Platform) (before : List Line) :
    (behind before).isOf p = LookBack.inSectionOf p before := by
  rw [isOf, label?_behind, LookBack.inSectionOf]

end Zone

/-! ### The rows of the first run -/

namespace RewriteOptions

variable {options : RewriteOptions}

/-- A body line of the platform is written with the body that it has when laid bare. -/
theorem body_textFor {style : CommentStyle} {zone : Zone} {line : Line} (hk : line.kind = .body)
    (hz : zone.isOf options.platform = true) :
    (options.textFor style zone line).body = CommentStyle.bare style.token line.text := by
  obtain ⟨label, hl, hn⟩ := Zone.isOf_iff.mp hz
  rw [textFor_of_isNamedBy hk hl hn, CommentStyle.body_getD_uncomment?]

/-- Any other line is written with the kind that it has. -/
theorem kindOf_textFor {style : CommentStyle} {zone : Zone} {line : Line}
    (hp : options.outside = .preserve) (ha : options.dialect.Apart)
    (hs : style.token = options.dialect.token)
    (hz : ¬ (line.kind = .body ∧ zone.isOf options.platform = true)) :
    options.dialect.kindOf (options.textFor style zone line) =
      options.dialect.kindOf line.text := by
  by_cases hk : line.kind = .body
  · cases hl : zone.label? with
    | none =>
      rw [textFor, edit, aim_of_preserve hp, if_pos hk, hl]
      rfl
    | some label =>
      have hn := Zone.isNamedBy_of_not_isOf (fun h => hz ⟨hk, h⟩) hl
      rw [textFor_of_not_isNamedBy hk hl hn, CommentStyle.kindOf_getD_comment? ha line.text hs]
  · rw [textFor, edit, aim_of_preserve hp, if_neg hk]
    rfl

/-- The rows that the first run writes, read as lines. -/
def writtenLines (options : RewriteOptions) (lines : List Line) : List Line :=
  options.dialect.linesFrom 1 (options.written lines)

def lineFor (options : RewriteOptions) (style : CommentStyle) (zone : Zone) (line : Line) : Line :=
  let text := options.textFor style zone line
  { line with text, kind := options.dialect.kindOf text }

variable {content : Text}

theorem getElem?_writtenLines (i : Nat) :
    (options.writtenLines (options.dialect.lines content))[i]? =
      (options.dialect.lines content)[i]?.map fun line =>
        options.lineFor (.detect options.dialect.token (options.dialect.lines content))
          (.behind ((options.dialect.lines content).take i)) line := by
  rw [writtenLines, Dialect.getElem?_linesFrom, getElem?_written, Option.map_map]
  cases h : (options.dialect.lines content)[i]? with
  | none => rfl
  | some line => simp [lineFor, Dialect.number_of_getElem?_lines h]

/-- The line that is written has the kind of the line, laid bare if it is the platform's. -/
theorem kind_lineFor (style : CommentStyle) (zone : Zone) {line : Line}
    (hp : options.outside = .preserve) (ha : options.dialect.Apart)
    (hs : style.token = options.dialect.token)
    (hk : line.kind = options.dialect.kindOf line.text) :
    (options.lineFor style zone line).kind =
      (if line.kind = .body ∧ zone.isOf options.platform = true then
        line.laidBare options.dialect else line).kind := by
  rw [lineFor]
  split
  · next hz =>
    rw [← Dialect.kindOf_body ha, body_textFor hz.1 hz.2, hs]
    rfl
  · next hz => rw [kindOf_textFor hp ha hs hz, hk]

theorem getElem?_laidBare (p : Platform) (d : Dialect) (lines : List Line) (i : Nat) :
    (LookBack.laidBare p d lines)[i]? = lines[i]?.map fun line =>
      if line.kind = .body ∧ (Zone.behind (lines.take i)).isOf p = true then line.laidBare d
      else line := by
  rw [LookBack.laidBare, List.getElem?_mapIdx, Zone.isOf_behind]

/-- The rows that are written and the lines laid bare are read in the same zones. -/
theorem behind_writtenLines (hp : options.outside = .preserve) (ha : options.dialect.Apart)
    (i : Nat) :
    Zone.behind ((options.writtenLines (options.dialect.lines content)).take i) =
      Zone.behind ((LookBack.laidBare options.platform options.dialect
        (options.dialect.lines content)).take i) := by
  apply Zone.behind_congr
  rw [List.map_take, List.map_take]
  congr 1
  apply List.ext_getElem?
  intro j
  rw [List.getElem?_map, List.getElem?_map, getElem?_writtenLines, getElem?_laidBare]
  cases h : (options.dialect.lines content)[j]? with
  | none => rfl
  | some line =>
    have hk := kind_lineFor (.detect options.dialect.token (options.dialect.lines content))
      (.behind ((options.dialect.lines content).take j)) hp ha rfl
      (Dialect.kind_of_mem_linesFrom (List.mem_of_getElem? h))
    simp only [Option.map_some, Line.key, hk]
    split <;> rfl

theorem not_isMarker_laidBare {d : Dialect} {line : Line} (hk : line.kind = .body)
    (hl : line.kind = d.kindOf line.text) : (line.laidBare d).isMarker = false := by
  have hi : CommentStyle.bare d.token line.text <:+: line.text :=
    ((CommentStyle.bare_suffix _ _).trans (List.dropWhile_suffix _)).isInfix
  have hn := Dialect.not_isMarker_of_infix hi (hl ▸ hk)
  rw [Line.isMarker, Line.laidBare]
  cases h : d.kindOf (CommentStyle.bare d.token line.text) with
  | opening => exact absurd h hn.1
  | closing => exact absurd h hn.2
  | header label => rfl
  | body => rfl

/-- Reading the lines laid bare strays from reading them as they are only within regions, from
sections of the platform on. -/
theorem strays_laidBare (p : Platform) (d : Dialect) (content : Text) (i : Nat) :
    Zone.Strays p (.behind ((d.lines content).take i))
      (.behind ((LookBack.laidBare p d (d.lines content)).take i)) := by
  induction i with
  | zero => exact .same _
  | succ i ih =>
    rw [List.take_add_one, List.take_add_one, getElem?_laidBare]
    cases h : (d.lines content)[i]? with
    | none => simpa using ih
    | some line =>
      rw [Option.map_some, Option.toList_some, Option.toList_some, Zone.behind_concat,
        Zone.behind_concat]
      split
      · next hz =>
        have hk := Dialect.kind_of_mem_linesFrom (List.mem_of_getElem? h)
        exact ih.next rfl (.inr ⟨hz.1, hz.2, not_isMarker_laidBare hz.1 hk⟩)
      · exact ih.next rfl (.inl rfl)

/-! ### The second run -/

/-- A rewritten text is at rest exactly if the rows written for it are. -/
theorem rests_rewrite_iff (hp : options.outside = .preserve) (ha : options.dialect.Apart)
    (ht : '\n' ∉ options.dialect.token) :
    (∀ x ∈ Zone.place .outside (options.dialect.lines (options.rewrite content).text),
        options.Rests x.1 x.2) ↔
      ∀ x ∈ Zone.place .outside (options.writtenLines (options.dialect.lines content)),
        options.Rests x.1 x.2 := by
  have hrows : ∀ row ∈ options.written (options.dialect.lines content),
      row.text.isAllBlank = true ∨ row.again? = some row := by
    intro row hrow
    cases hb : row.text.isAllBlank with
    | true => exact .inl rfl
    | false => exact .inr (again?_of_mem_written hrow hb)
  rw [lines_rewrite ht, writtenLines]
  exact rests_recut_iff hp ha hrows (joinable_written ht) .outside 1

/-- What is written for a line that is not laid bare is at rest in the zone of the line. -/
theorem rests_lineFor {style : CommentStyle} {zone : Zone} {line : Line}
    (hp : options.outside = .preserve) (hs : style.token = options.dialect.token)
    (hsolid : options.dialect.token.startsSolid = true)
    (hz : ¬ (line.kind = .body ∧ zone.isOf options.platform = true))
    (hk : (options.lineFor style zone line).kind = line.kind) :
    options.Rests zone (options.lineFor style zone line) := by
  have hne : options.dialect.token ≠ [] := Text.ne_nil_of_startsSolid hsolid
  rw [rests_iff hp hne]
  intro hb hblank label hl
  rw [hk] at hb
  have hn := Zone.isNamedBy_of_not_isOf (fun h => hz ⟨hb, h⟩) hl
  have hw : options.textFor style zone line = (style.comment? line.text).getD line.text :=
    textFor_of_not_isNamedBy hb hl hn
  have hlive : line.text.isAllBlank = false := by
    rw [← Bool.not_eq_true]
    intro h
    simp [lineFor, hw, CommentStyle.comment?_eq, h] at hblank
  refine iff_of_true (CommentStyle.isComment_iff.mpr ⟨hne, ?_⟩) hn
  rw [lineFor, hw, ← hs]
  exact CommentStyle.token_prefix_comment (hs ▸ hsolid) hlive

/-- What is written for a line is at rest unless the line is laid bare and is not at rest then. -/
theorem rests_lineFor_iff {style : CommentStyle} {zone zone' : Zone} {line : Line}
    (hp : options.outside = .preserve) (ha : options.dialect.Apart)
    (hs : style.token = options.dialect.token)
    (hl : line.kind = options.dialect.kindOf line.text)
    (hz : Zone.Strays options.platform zone zone') :
    options.Rests zone' (options.lineFor style zone line) ↔
      (line.kind = .body ∧ zone.isOf options.platform = true →
        options.Rests zone' (line.laidBare options.dialect)) := by
  have hk := kind_lineFor style zone hp ha hs hl
  by_cases h : line.kind = .body ∧ zone.isOf options.platform = true
  · rw [if_pos h] at hk
    have hb : (options.lineFor style zone line).text.body =
        (line.laidBare options.dialect).text.body := by
      rw [lineFor, body_textFor h.1 h.2, hs]
      exact (CommentStyle.body_bare _ _).symm
    rw [rests_congr hp hk hb]
    exact ⟨fun hr _ => hr, fun hr => hr h⟩
  · rw [if_neg h] at hk
    refine iff_of_true ?_ fun h' => absurd h' h
    have hrests := rests_lineFor hp hs ha.token_startsSolid h hk
    by_cases hof : zone.isOf options.platform = true
    · have hbody : line.kind ≠ .body := fun hb => h ⟨hb, hof⟩
      rw [Rests, aim_of_preserve hp, if_neg (hk ▸ hbody)]
      trivial
    · rw [hz.eq_of_not_isOf (Bool.not_eq_true _ ▸ hof)]
      exact hrests

/-- Lines read alike exactly if each that is laid bare is at rest where it then stands. -/
theorem readsAlike_iff (hp : options.outside = .preserve) (ht : options.dialect.token ≠ [])
    (lines : List Line) :
    LookBack.ReadsAlike options.platform options.dialect lines ↔
      ∀ i line, lines[i]? = some line →
        (line.kind = .body ∧ (Zone.behind (lines.take i)).isOf options.platform = true →
          options.Rests
            (.behind ((LookBack.laidBare options.platform options.dialect lines).take i))
            (line.laidBare options.dialect)) := by
  constructor
  · intro h i line hi hz
    rw [rests_iff hp ht]
    intro hb hblank label hl
    rw [Zone.label?_behind] at hl
    refine h i _ label ?_ hb hblank (Zone.isOf_behind _ _ ▸ hz.2) hl
    rw [getElem?_laidBare, hi, Option.map_some, if_pos hz]
  · intro h i bare label hi hb hblank hof hl
    rw [getElem?_laidBare, Option.map_eq_some_iff] at hi
    obtain ⟨line, hline, hbare⟩ := hi
    rw [← Zone.isOf_behind] at hof
    by_cases hk : line.kind = .body
    · rw [if_pos ⟨hk, hof⟩] at hbare
      have hr := h i line hline ⟨hk, hof⟩
      rw [hbare, rests_iff hp ht] at hr
      exact hr hb hblank label (by rw [Zone.label?_behind, hl])
    · rw [if_neg fun h => hk h.1] at hbare
      exact absurd hb (hbare ▸ hk)

/-- The second run changes nothing exactly if the lines of the content read alike. -/
theorem rewrite_rewrite_rests_iff (hp : options.outside = .preserve) (ha : options.dialect.Apart)
    (ht : '\n' ∉ options.dialect.token) :
    (∀ x ∈ Zone.place .outside (options.dialect.lines (options.rewrite content).text),
        options.Rests x.1 x.2) ↔
      LookBack.ReadsAlike options.platform options.dialect (options.dialect.lines content) := by
  rw [rests_rewrite_iff hp ha ht, Zone.forall_mem_place_iff,
    readsAlike_iff hp (Text.ne_nil_of_startsSolid ha.token_startsSolid)]
  have hline : ∀ (i : Nat) (line : Line), (options.dialect.lines content)[i]? = some line →
      line.kind = options.dialect.kindOf line.text :=
    fun i line hi => Dialect.kind_of_mem_linesFrom (List.mem_of_getElem? hi)
  constructor
  · intro h i line hi
    have hr := h i _ (by rw [getElem?_writtenLines, hi, Option.map_some])
    rw [behind_writtenLines hp ha] at hr
    exact (rests_lineFor_iff hp ha rfl (hline i line hi) (strays_laidBare _ _ content i)).mp hr
  · intro h i row hi
    rw [getElem?_writtenLines, Option.map_eq_some_iff] at hi
    obtain ⟨line, hi, rfl⟩ := hi
    rw [behind_writtenLines hp ha]
    exact (rests_lineFor_iff hp ha rfl (hline i line hi) (strays_laidBare _ _ content i)).mpr
      (h i line hi)

/-- A second run for the same platform changes nothing exactly for the files whose lines, laid bare
in the sections of that platform, read alike. -/
theorem rewrite_twice_iff (p : Platform) (content : Text) :
    let options : RewriteOptions := { platform := p }
    let once := (options.rewrite content).text
    ((options.rewrite once).text = once ∧ (options.rewrite once).stats.commented = 0 ∧
        (options.rewrite once).stats.uncommented = 0) ↔
      LookBack.ReadsAlike p .standard (Dialect.standard.lines content) := by
  intro options once
  have ht : '\n' ∉ Dialect.standard.token := by decide
  calc ((options.rewrite once).text = once ∧ (options.rewrite once).stats.commented = 0 ∧
        (options.rewrite once).stats.uncommented = 0)
      ↔ ∀ x ∈ Zone.place .outside (options.dialect.lines once), options.Rests x.1 x.2 :=
        rewrite_rests_iff once
    _ ↔ LookBack.ReadsAlike p .standard (Dialect.standard.lines content) :=
        rewrite_rewrite_rests_iff rfl Dialect.standard_apart ht

/-- A comment behind a comment is still a comment when the first run has taken the one in front off,
and the second run takes it off, too. -/
theorem rewrite_twice_stacked :
    let options : RewriteOptions := { platform := .windows }
    let region (line : String) : Text :=
      ("// PLATFORM_SWITCH_START\n// Windows Configuration\n" ++ line ++
        "\n// PLATFORM_SWITCH_END\n").toList
    (options.rewrite (region "// // x")).text = region "// x" ∧
      (options.rewrite (region "// x")).text = region "x" ∧
      (options.rewrite (region "// x")).stats.uncommented = 1 ∧
      ¬ ∀ content, (options.rewrite (options.rewrite content).text).text =
        (options.rewrite content).text := by
  intro options region
  have hfirst : (options.rewrite (region "// // x")).text = region "// x" := by decide +kernel
  have hsecond : (options.rewrite (region "// x")).text = region "x" := by decide +kernel
  refine ⟨hfirst, hsecond, by decide +kernel, fun h => ?_⟩
  have hsame := h (region "// // x")
  rw [hfirst, hsecond] at hsame
  exact absurd hsame (by decide +kernel)

end RewriteOptions

end RegionToggle
