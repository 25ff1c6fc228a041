import RegionToggle.Proofs.Payload

/-!
# Regions

A rewrite leaves marker lines as they are and edits nothing but the margins of others. A marker that
shares nothing with margins stands behind the margin of its line, so an edit neither makes nor
breaks one. Whatever rewrites a text goes through, its markers stay at their places, and with them
its regions.
-/

namespace RegionToggle

/-- Dialects whose token keeps to one line, and whose markers hold no blank and nothing of it. -/
structure Dialect.Steady (d : Dialect) : Prop where
  lf_not_mem_token : '\n' ∉ d.token
  opening_apart : ∀ c ∈ d.opening, Text.isBlank c = false ∧ c ∉ d.token
  closing_apart : ∀ c ∈ d.closing, Text.isBlank c = false ∧ c ∉ d.token

theorem Dialect.standard_steady : Dialect.standard.Steady where
  lf_not_mem_token := by decide
  opening_apart := standard_apart.opening_apart
  closing_apart := standard_apart.closing_apart

/-- A needle apart from margins is found behind the margin or nowhere. -/
theorem Text.occurs_payload {token needle : Text}
    (h : ∀ c ∈ needle, isBlank c = false ∧ c ∉ token) (t : Text) :
    occurs needle (payload token t) = occurs needle t := by
  have hmargin : ∀ c ∈ t.takeWhile (isMargin token), c ∉ needle := by
    intro c hc hn
    have hm : isMargin token c = true := List.all_eq_true.mp List.all_takeWhile c hc
    simp [isMargin, h c hn] at hm
  rw [payload, ← occurs_append (t.dropWhile (isMargin token)) hmargin,
    List.takeWhile_append_dropWhile]

/-- A line is a marker if one of the markers occurs in it. -/
theorem Dialect.isMarker_eq {d : Dialect} {line : Line} (h : line.kind = d.kindOf line.text) :
    line.isMarker = (Text.occurs d.opening line.text || Text.occurs d.closing line.text) := by
  rw [Line.isMarker, h, kindOf]
  cases Text.occurs d.opening line.text with
  | true => rfl
  | false =>
    cases Text.occurs d.closing line.text with
    | true => rfl
    | false => cases Header.label? d.token line.text <;> rfl

/-! ### Lines with the same markers -/

namespace LookBack

def markerAt? (lines : List Line) (i : Nat) : Option Line := lines[i]?.filter Line.isMarker

theorem markerAt?_take (lines : List Line) (n i : Nat) :
    markerAt? (lines.take n) i = if i < n then markerAt? lines i else none := by
  rw [markerAt?, List.getElem?_take]
  split <;> rfl

variable {lines lines' : List Line}

theorem filter_isMarker_eq_nil (h : ∀ i, markerAt? lines i = none) :
    lines.filter Line.isMarker = [] := by
  rw [List.filter_eq_nil_iff]
  intro line hl hm
  obtain ⟨i, hi⟩ := List.mem_iff_getElem?.mp hl
  have hnone := h i
  rw [markerAt?, hi, Option.filter_some_pos hm] at hnone
  exact absurd hnone (by simp)

/-- Lines with the same markers at all places have the same markers in order. -/
theorem filter_isMarker_congr (h : ∀ i, markerAt? lines i = markerAt? lines' i) :
    lines.filter Line.isMarker = lines'.filter Line.isMarker := by
  induction lines generalizing lines' with
  | nil => exact (filter_isMarker_eq_nil fun i => (h i).symm).symm
  | cons line more ih =>
    cases lines' with
    | nil => exact filter_isMarker_eq_nil h
    | cons line' more' =>
      have hmore := ih fun i => h (i + 1)
      have hfirst : (some line).filter Line.isMarker = (some line').filter Line.isMarker := h 0
      rw [List.filter_cons, List.filter_cons, hmore]
      cases hm : line.isMarker <;> cases hm' : line'.isMarker <;>
        simp_all [Option.filter]

theorem lastMarker?_eq (before : List Line) :
    lastMarker? before = (before.filter Line.isMarker).getLast? := by
  rw [lastMarker?, ← List.head?_filter, List.filter_reverse, List.head?_reverse]

/-- Where markers are the same, so are regions. -/
theorem inRegion_take_congr (h : ∀ i, markerAt? lines i = markerAt? lines' i) (n : Nat) :
    inRegion (lines.take n) = inRegion (lines'.take n) := by
  have hn : ∀ i, markerAt? (lines.take n) i = markerAt? (lines'.take n) i := by
    intro i
    rw [markerAt?_take, markerAt?_take, h]
  rw [inRegion, inRegion, lastMarker?_eq, lastMarker?_eq, filter_isMarker_congr hn]

/-- Regions are counted by markers. -/
theorem countP_opening_congr (h : ∀ i, markerAt? lines i = markerAt? lines' i) :
    lines.countP (fun line => decide (line.kind = .opening)) =
      lines'.countP fun line => decide (line.kind = .opening) := by
  have hfilter : ∀ ls : List Line, ls.countP (fun line => decide (line.kind = .opening)) =
      (ls.filter Line.isMarker).countP fun line => decide (line.kind = .opening) := by
    intro ls
    rw [List.countP_filter]
    apply List.countP_congr
    intro line _
    simp +contextual [Line.isMarker]
  rw [hfilter lines, hfilter lines', filter_isMarker_congr h]

end LookBack

/-! ### One rewrite -/

namespace RewriteOptions

variable {options : RewriteOptions} {style : CommentStyle} {zone : Zone} {line line' : Line}
  {content : Text}

theorem aim_of_isMarker (hm : line.isMarker = true) : options.aim zone line = .keep := by
  rw [aim_eq, if_pos hm]

/-- A line that is not edited comes back as it is. -/
theorem lineAfter?_of_kept (hl : line ∈ options.dialect.lines content)
    (h : options.edit style zone line = .kept) :
    options.lineAfter? style zone line = some line := by
  have ht : options.textFor style zone line = line.text := by rw [textFor, h, Edit.apply]
  have he : ¬ options.Empties style zone line := by
    rintro ⟨ha, hu⟩
    rw [edit, ha, Edit.ofAim, hu] at h
    simp at h
  rw [lineAfter?, again?_textFor hl he, Option.map_some, ht, ← Dialect.kind_of_mem_linesFrom hl]

/-- So does a line that is to be kept. -/
theorem lineAfter?_of_keep (hl : line ∈ options.dialect.lines content)
    (ha : options.aim zone line = .keep) : options.lineAfter? style zone line = some line :=
  lineAfter?_of_kept hl (by rw [edit, ha, Edit.ofAim])

theorem occurs_textFor (options : RewriteOptions) (zone : Zone) {needle : Text}
    (h : ∀ c ∈ needle, Text.isBlank c = false ∧ c ∉ style.token) :
    Text.occurs needle (options.textFor style zone line) = Text.occurs needle line.text := by
  rw [← Text.occurs_payload h, payload_textFor, Text.occurs_payload h]

theorem occurs_of_lineAfter? {needle : Text}
    (h : ∀ c ∈ needle, Text.isBlank c = false ∧ c ∉ style.token)
    (ha : options.lineAfter? style zone line = some line')
    (ho : Text.occurs needle line'.text = true) : Text.occurs needle line.text = true := by
  rw [lineAfter?, Option.map_eq_some_iff] at ha
  obtain ⟨row, hr, rfl⟩ := ha
  have hrow : row.text <:+: options.textFor style zone line := by
    rcases Row.eq_or_dropLast_of_again? hr with rfl | rfl
    · exact List.infix_rfl
    · exact (List.dropLast_prefix _).isInfix
  rw [← occurs_textFor options zone h, Text.occurs_iff_infix]
  exact (Text.occurs_iff_infix.mp ho).trans hrow

/-- No other line becomes a marker. -/
theorem isMarker_of_lineAfter? (hd : options.dialect.Steady)
    (hs : style.token = options.dialect.token) (hl : line ∈ options.dialect.lines content)
    (ha : options.lineAfter? style zone line = some line') (hm : line'.isMarker = true) :
    line.isMarker = true := by
  have hk' : line'.kind = options.dialect.kindOf line'.text := by
    rw [lineAfter?, Option.map_eq_some_iff] at ha
    obtain ⟨row, -, rfl⟩ := ha
    rfl
  rw [Dialect.isMarker_eq hk', Bool.or_eq_true] at hm
  rw [Dialect.isMarker_eq (Dialect.kind_of_mem_linesFrom hl), Bool.or_eq_true]
  exact hm.imp (occurs_of_lineAfter? (hs ▸ hd.opening_apart) ha)
    (occurs_of_lineAfter? (hs ▸ hd.closing_apart) ha)

/-- One rewrite leaves the markers at their places. -/
theorem markerAt?_rewrite (hd : options.dialect.Steady) (content : Text) (i : Nat) :
    LookBack.markerAt? (options.dialect.lines (options.rewrite content).text) i =
      LookBack.markerAt? (options.dialect.lines content) i := by
  rw [LookBack.markerAt?, LookBack.markerAt?, getElem?_lines_rewrite hd.lf_not_mem_token]
  cases hi : (options.dialect.lines content)[i]? with
  | none => rfl
  | some line =>
    have hl := List.mem_of_getElem? hi
    rw [Option.bind_some]
    cases hm : line.isMarker with
    | true => rw [lineAfter?_of_keep hl (aim_of_isMarker hm)]
    | false =>
      rw [Option.filter_some_neg (by simp [hm]), Option.filter_eq_none_iff]
      intro line' ha hm'
      have hmarker := isMarker_of_lineAfter? hd rfl hl ha hm'
      rw [hm] at hmarker
      exact absurd hmarker (by decide)

end RewriteOptions

/-! ### Histories -/

namespace Text

variable {d : Dialect}

theorem markerAt?_rewriteEach (hd : d.Steady) (history : List RewriteOptions)
    (h : ∀ options ∈ history, options.dialect = d) (content : Text) (i : Nat) :
    LookBack.markerAt? (d.lines (content.rewriteEach history)) i =
      LookBack.markerAt? (d.lines content) i := by
  induction history generalizing content with
  | nil => rfl
  | cons options more ih =>
    obtain rfl : options.dialect = d := h options List.mem_cons_self
    rw [rewriteEach_cons, ih fun o ho => h o (List.mem_cons_of_mem _ ho),
      RewriteOptions.markerAt?_rewrite hd]

theorem length_lines_rewriteEach_le (ht : '\n' ∉ d.token) (history : List RewriteOptions)
    (h : ∀ options ∈ history, options.dialect = d) (content : Text) :
    (d.lines (content.rewriteEach history)).length ≤ (d.lines content).length := by
  induction history generalizing content with
  | nil => exact le_rfl
  | cons options more ih =>
    obtain rfl : options.dialect = d := h options List.mem_cons_self
    rw [rewriteEach_cons]
    exact (ih (fun o ho => h o (List.mem_cons_of_mem _ ho)) _).trans
      (RewriteOptions.length_lines_rewrite_le ht)

/-- However often a text is rewritten in one dialect, for whichever platforms and under whichever
policies, its marker lines stay at their places as they are and no line becomes one. So the places
that are still there lie in regions as before, and every rewrite counts the same regions. -/
theorem regions_rewriteEach (hd : d.Steady) (history : List RewriteOptions)
    (h : ∀ options ∈ history, options.dialect = d) (content : Text) :
    let final := content.rewriteEach history
    (∀ i, LookBack.markerAt? (d.lines final) i = LookBack.markerAt? (d.lines content) i) ∧
      (d.lines final).length ≤ (d.lines content).length ∧
      (∀ i, LookBack.inRegion ((d.lines final).take i) =
        LookBack.inRegion ((d.lines content).take i)) ∧
      ∀ options options' : RewriteOptions, options.dialect = d → options'.dialect = d →
        (options.rewrite final).stats.regions = (options'.rewrite content).stats.regions := by
  intro final
  have hmarkers := markerAt?_rewriteEach hd history h content
  refine ⟨hmarkers, length_lines_rewriteEach_le hd.lf_not_mem_token history h content,
    LookBack.inRegion_take_congr hmarkers, ?_⟩
  rintro options options' rfl ho
  calc (options.rewrite final).stats.regions
      = (options.dialect.lines content).countP fun line => decide (line.kind = .opening) :=
        LookBack.countP_opening_congr hmarkers
    _ = (options'.rewrite content).stats.regions := by rw [← ho]; rfl

/-- Two rewrites of a text in which a region opens twice; a line at the end is lost. -/
theorem regions_rewriteEach_reopened :
    let d : Dialect := ⟨"<on>".toList, "<off>".toList, "--".toList⟩
    let history : List RewriteOptions := [⟨.windows, d, .uncomment⟩, ⟨.linux, d, .labelMatch⟩]
    let content : Text :=
      "--x\n<on>\n-- Windows Configuration\n  -- a\n--\t<on> -- y\nb\n<off>\n--".toList
    let final := content.rewriteEach history
    d.Steady ∧ (∀ options ∈ history, options.dialect = d) ∧
      final =
        "--x\n<on>\n-- Windows Configuration\n  --a\n--\t<on> -- y\nb\n<off>\n".toList ∧
      (d.lines final).length ≤ (d.lines content).length ∧
      (∀ i, LookBack.markerAt? (d.lines final) i = LookBack.markerAt? (d.lines content) i) ∧
      (∀ i, LookBack.inRegion ((d.lines final).take i) =
        LookBack.inRegion ((d.lines content).take i)) := by
  intro d history content final
  have hd : d.Steady :=
    ⟨by decide, Dialect.marker_apart (by decide), Dialect.marker_apart (by decide)⟩
  have h : ∀ options ∈ history, options.dialect = d := by decide
  obtain ⟨hmarkers, hlength, hregions, -⟩ := regions_rewriteEach hd history h content
  exact ⟨hd, h, by decide +kernel, hlength, hmarkers, hregions⟩

end Text

end RegionToggle
