import Mathlib.Data.DFinsupp.WellFounded
import RegionToggle.Proofs.Regions
import RegionToggle.Proofs.Rest

/-!
# Rewrites settle

An edit can make a marker or a header of a line, and so change what is to be done about all lines
behind it, but never what is to be done about a line before. So the first line that a rewrite edits
stands in the same zone when the text is rewritten again, and less is left to do about it. Line by
line, with the first lines counting most, the work that is left goes down with every rewrite that
changes anything, and this comes to an end.
-/

namespace RegionToggle

/-- Dialects whose token does not start with a blank, and holds no line feed and nothing that words
are made of: no ASCII letter and no underscore. -/
structure Dialect.Wordless (d : Dialect) : Prop where
  starts_not_blank : ∀ c, d.token.head? = some c → Text.isBlank c = false
  token_wordless : ∀ c ∈ d.token, c ≠ '\n' ∧ c.isAlpha = false ∧ c ≠ '_'

namespace Dialect.Wordless

variable {d : Dialect}

theorem lf_not_mem (h : d.Wordless) : '\n' ∉ d.token := fun hm => (h.token_wordless _ hm).1 rfl

theorem startsSolid (h : d.Wordless) (ht : d.token ≠ []) : d.token.startsSolid = true := by
  cases hd : d.token with
  | nil => exact absurd hd ht
  | cons c cs =>
    have hc := h.starts_not_blank c (by rw [hd, List.head?_cons])
    simp [Text.startsSolid, hc]

/-- A word of letters and underscores has nothing of a blank or of the token in it. -/
theorem apart (h : d.Wordless) {word : Text} (hw : ∀ c ∈ word, c.isAlpha = true ∨ c = '_') :
    ∀ c ∈ word, Text.isBlank c = false ∧ c ∉ d.token := by
  intro c hc
  have htoken : c ∉ d.token := by
    intro hm
    obtain ⟨-, ha, hu⟩ := h.token_wordless c hm
    rcases hw c hc with hw | hw
    · rw [hw] at ha
      exact absurd ha (by decide)
    · exact hu hw
  refine ⟨?_, htoken⟩
  rcases hw c hc with hw | rfl
  · rw [← Bool.not_eq_true]
    intro hb
    rw [Header.not_isAlpha_of_isBlank hb] at hw
    exact absurd hw (by decide)
  · decide

end Dialect.Wordless

namespace RewriteOptions

variable {options : RewriteOptions} {style : CommentStyle} {zone : Zone} {line line' : Line}
  {content : Text} {n i : Nat}

/-! ### One line -/

/-- A rewrite leaves the payload of a line. -/
theorem payload_lineAfter? (hl : line ∈ options.dialect.lines content)
    (h : options.lineAfter? style zone line = some line') :
    Text.payload style.token line'.text = Text.payload style.token line.text := by
  rw [lineAfter?, Option.map_eq_some_iff] at h
  obtain ⟨row, hr, rfl⟩ := h
  have hbody : row.text.body = (options.textFor style zone line).body :=
    body_of_again? (isAllBlank_or_again?_textFor hl) hr
  calc Text.payload style.token row.text
      = Text.payload style.token row.text.body := (Text.payload_body _).symm
    _ = Text.payload style.token (options.textFor style zone line) := by
        rw [hbody, Text.payload_body]
    _ = Text.payload style.token line.text := payload_textFor style zone line

/-- What a line outside mentions decides about it, and a rewrite leaves that. -/
theorem outsideAim_lineAfter? (hd : options.dialect.Wordless)
    (hs : style.token = options.dialect.token) (hl : line ∈ options.dialect.lines content)
    (h : options.lineAfter? style zone line = some line') :
    options.outsideAim line'.text = options.outsideAim line.text := by
  have hpayload := payload_lineAfter? hl h
  have hmention : ∀ word : Text, (∀ c ∈ word, c.isAlpha = true ∨ c = '_') →
      Text.occurs word line'.text = Text.occurs word line.text := by
    intro word hw
    have hapart := hd.apart hw
    rw [← hs] at hapart
    rw [← Text.occurs_payload hapart, hpayload, Text.occurs_payload hapart]
  have hlabel : ∀ c ∈ options.platform.label, c.isAlpha = true ∨ c = '_' := by
    have h : (options.platform.label.all fun c => c.isAlpha || c == '_') = true := by
      cases options.platform <;> decide
    simpa using h
  have hcommon : ∀ c ∈ Dialect.commonMark, c.isAlpha = true ∨ c = '_' := by
    have h : (Dialect.commonMark.all fun c => c.isAlpha || c == '_') = true := by decide
    simpa using h
  rw [outsideAim, outsideAim, hmention _ hlabel, hmention _ hcommon]

/-- When the text is rewritten again in the same zone, the same is to be done about a line, or
nothing, if it has become a marker or the header of a section. -/
theorem aim_lineAfter? (hd : options.dialect.Wordless)
    (hs : style.token = options.dialect.token) (hl : line ∈ options.dialect.lines content)
    (h : options.lineAfter? style zone line = some line') :
    options.aim zone line' = options.aim zone line ∨ options.aim zone line' = .keep := by
  by_cases hk : options.aim zone line = .keep
  · obtain rfl : line = line' := by simpa [lineAfter?_of_keep hl hk] using h
    exact .inl rfl
  · have hm : ¬ line.isMarker = true := fun hm => hk (aim_of_isMarker hm)
    rw [aim_eq, if_neg hm] at hk
    rw [aim_eq, aim_eq options zone line, if_neg hm, outsideAim_lineAfter? hd hs hl h]
    by_cases hm' : line'.isMarker = true
    · exact .inr (if_pos hm')
    · rw [if_neg hm']
      by_cases hz : (!zone.isInside) = true
      · rw [if_pos hz, if_pos hz]
        exact .inl rfl
      · rw [if_neg hz] at hk
        rw [if_neg hz, if_neg hz]
        have hb : line.kind = .body := by_contra fun hb => hk (if_neg hb)
        by_cases hb' : line'.kind = .body
        · rw [if_pos hb', if_pos hb]
          exact .inl rfl
        · exact .inr (if_neg hb')

/-- How much there is left to do about a line in a zone: a comment is written once, and comment
tokens are taken off as long as the line lasts. -/
def work (options : RewriteOptions) (zone : Zone) (line : Line) : Nat :=
  match options.aim zone line with
  | .keep => 0
  | .comment =>
    if line.text.isAllBlank = true ∨ options.dialect.token <+: line.text.body then 0 else 1
  | .uncomment => line.text.length

/-- A line that is commented out has nothing left to do about it in the same zone. -/
theorem work_commented (hd : options.dialect.Wordless) (hs : style.token = options.dialect.token)
    (hl : line ∈ options.dialect.lines content) (ha : options.aim zone line = .comment)
    (hc : ¬ (line.text.isAllBlank = true ∨ style.token <+: line.text.body))
    (h : options.lineAfter? style zone line = some line') : options.work zone line' = 0 := by
  have hne : options.dialect.token ≠ [] := by
    intro hnil
    exact hc (.inr (hs ▸ hnil ▸ List.nil_prefix))
  have hsolid : style.mark.startsSolid = true :=
    CommentStyle.startsSolid_mark (hs ▸ hd.startsSolid hne)
  have htext : options.textFor style zone line = line.text.withMark style.mark := by
    rw [textFor, edit, ha, Edit.apply_ofAim_comment, CommentStyle.comment?_eq, if_neg hc,
      Option.getD_some]
  have hempties : ¬ options.Empties style zone line := by
    rintro ⟨hu, -⟩
    rw [ha] at hu
    exact absurd hu (by decide)
  have hline' : line'.text = line.text.withMark style.mark := by
    rw [lineAfter?, again?_textFor hl hempties, Option.map_some, Option.some.injEq] at h
    rw [← h, htext]
  have hcomment : options.dialect.token <+: line'.text.body := by
    rw [hline', Text.body_withMark _ hsolid, CommentStyle.mark, hs, List.append_assoc]
    exact List.prefix_append _ _
  rcases aim_lineAfter? hd hs hl h with haim | haim
  · rw [work, haim, ha]
    exact if_pos (.inr hcomment)
  · rw [work, haim]

/-- A line that has lost comment tokens has no more left to do about it than it has characters. -/
theorem work_uncommented_le (hd : options.dialect.Wordless)
    (hs : style.token = options.dialect.token) (hl : line ∈ options.dialect.lines content)
    (ha : options.aim zone line = .uncomment) {u : Text} (hu : style.uncomment? line.text = some u)
    (h : options.lineAfter? style zone line = some line') : options.work zone line' ≤ u.length := by
  have htext : options.textFor style zone line = u := by
    rw [textFor, edit, ha, Edit.apply_ofAim_uncomment, hu, Option.getD_some]
  have hlength : line'.text.length ≤ u.length := by
    rw [lineAfter?, htext, Option.map_eq_some_iff] at h
    obtain ⟨row, hr, rfl⟩ := h
    rcases Row.eq_or_dropLast_of_again? hr with rfl | rfl
    · exact le_rfl
    · exact (List.dropLast_sublist _).length_le
  rcases aim_lineAfter? hd hs hl h with haim | haim
  · rw [work, haim, ha]
    exact hlength
  · rw [work, haim]
    exact Nat.zero_le _

/-- When a line is edited, less is left to do about what it has become in the same zone. -/
theorem work_lineAfter?_lt (hd : options.dialect.Wordless)
    (hs : style.token = options.dialect.token) (hl : line ∈ options.dialect.lines content)
    (he : options.edit style zone line ≠ .kept) :
    (options.lineAfter? style zone line).elim 0 (options.work zone) < options.work zone line := by
  cases ha : options.aim zone line with
  | keep => exact absurd (by rw [edit, ha, Edit.ofAim]) he
  | comment =>
    have hc : ¬ (line.text.isAllBlank = true ∨ style.token <+: line.text.body) := by
      rw [← CommentStyle.comment?_eq_none_iff]
      intro hnone
      rw [edit, ha, Edit.ofAim, hnone] at he
      exact he rfl
    have hone : options.work zone line = 1 := by
      rw [work, ha, ← hs]
      exact if_neg hc
    rw [hone]
    cases h : options.lineAfter? style zone line with
    | none => exact Nat.one_pos
    | some line' => exact (work_commented hd hs hl ha hc h).trans_lt Nat.one_pos
  | uncomment =>
    cases hu : style.uncomment? line.text with
    | none =>
      rw [edit, ha, Edit.ofAim, hu] at he
      exact absurd rfl he
    | some u =>
      have hshorter := CommentStyle.length_lt_of_uncomment? hu
      have hwork : options.work zone line = line.text.length := by rw [work, ha]
      rw [hwork]
      cases h : options.lineAfter? style zone line with
      | none => exact (Nat.zero_le _).trans_lt hshorter
      | some line' => exact (work_uncommented_le hd hs hl ha hu h).trans_lt hshorter

/-! ### All lines -/

def workAt (options : RewriteOptions) (lines : List Line) (i : Nat) : Nat :=
  lines[i]?.elim 0 (options.work (.behind (lines.take i)))

/-- The work left at the first `n` lines of a text, the first lines counting most. -/
def workLeft (options : RewriteOptions) (n : Nat) (content : Text) : Lex (Fin n → Nat) :=
  toLex fun i => options.workAt (options.dialect.lines content) i

def EditsAt (options : RewriteOptions) (content : Text) (i : Nat) : Prop :=
  let lines := options.dialect.lines content
  ∃ line, lines[i]? = some line ∧
    options.edit (.detect options.dialect.token lines) (.behind (lines.take i)) line ≠ .kept

/-- Up to the first edit a rewrite leaves the lines as they are. -/
theorem take_lines_rewrite (ht : '\n' ∉ options.dialect.token)
    (h : ∀ j < i, ¬ options.EditsAt content j) :
    (options.dialect.lines (options.rewrite content).text).take i =
      (options.dialect.lines content).take i := by
  apply List.ext_getElem?
  intro j
  rw [List.getElem?_take, List.getElem?_take]
  split
  · next hj =>
    rw [getElem?_lines_rewrite ht]
    cases hl : (options.dialect.lines content)[j]? with
    | none => rfl
    | some line =>
      apply lineAfter?_of_kept (List.mem_of_getElem? hl)
      by_contra hne
      exact h j hj ⟨line, hl, hne⟩
  · rfl

/-- A text that a rewrite changes has a first line that is edited. -/
theorem exists_first_edit (h : (options.rewrite content).text ≠ content) :
    ∃ i, options.EditsAt content i ∧ ∀ j < i, ¬ options.EditsAt content j := by
  classical
  have hex : ∃ i, options.EditsAt content i := by
    by_contra hno
    have hs : (CommentStyle.detect options.dialect.token (options.dialect.lines content)).token =
      options.dialect.token := rfl
    have hrests : ∀ x ∈ Zone.place .outside (options.dialect.lines content),
        options.Rests x.1 x.2 := by
      refine Zone.forall_mem_place_iff.mpr fun i line hl => (edit_eq_kept_iff hs).mp ?_
      by_contra hne
      exact hno ⟨i, line, hl, hne⟩
    exact h ((rewrite_rests_iff content).mpr hrests).1
  exact ⟨Nat.find hex, Nat.find_spec hex, fun j hj => Nat.find_min hex hj⟩

/-- In front of the first edit as much work is left as there was. -/
theorem workAt_rewrite_eq {j : Nat} (ht : '\n' ∉ options.dialect.token)
    (hfirst : ∀ j < i, ¬ options.EditsAt content j) (hj : j < i) :
    options.workAt (options.dialect.lines (options.rewrite content).text) j =
      options.workAt (options.dialect.lines content) j := by
  have hline := congrArg (·[j]?) (take_lines_rewrite ht hfirst)
  simp only [List.getElem?_take_of_lt hj] at hline
  rw [workAt, workAt, hline, take_lines_rewrite ht fun k hk => hfirst k (hk.trans hj)]

/-- At the first edit less is left: the line stands in the zone where it stood. -/
theorem workAt_rewrite_lt (hd : options.dialect.Wordless) (h : options.EditsAt content i)
    (hfirst : ∀ j < i, ¬ options.EditsAt content j) :
    options.workAt (options.dialect.lines (options.rewrite content).text) i <
      options.workAt (options.dialect.lines content) i := by
  obtain ⟨line, hl, he⟩ := h
  rw [workAt, workAt, take_lines_rewrite hd.lf_not_mem hfirst, getElem?_lines_rewrite hd.lf_not_mem,
    hl, Option.bind_some, Option.elim_some]
  exact work_lineAfter?_lt hd rfl (List.mem_of_getElem? hl) he

/-- A rewrite that changes a text leaves less work. -/
theorem workLeft_rewrite_lt (hd : options.dialect.Wordless)
    (hn : (options.dialect.lines content).length ≤ n)
    (h : (options.rewrite content).text ≠ content) :
    options.workLeft n (options.rewrite content).text < options.workLeft n content := by
  obtain ⟨i, hi, hfirst⟩ := exists_first_edit h
  have hlt : i < n := by
    obtain ⟨line, hl, -⟩ := hi
    exact (List.getElem?_eq_some_iff.mp hl).1.trans_le hn
  refine ⟨⟨i, hlt⟩, fun j hj => ?_, workAt_rewrite_lt hd hi hfirst⟩
  exact workAt_rewrite_eq hd.lf_not_mem hfirst hj

/-- Whatever its markers and its policy, in a dialect whose token does not start with a blank and
holds no line feed, letter or underscore, a text that is rewritten again and again comes to one that
the next rewrite leaves as it is. -/
theorem rewrite_settles (options : RewriteOptions) (hd : options.dialect.Wordless)
    (content : Text) :
    ∃ runs, let settled := content.rewriteEach (List.replicate runs options)
      (options.rewrite settled).text = settled := by
  suffices h : ∀ (left : Lex (Fin (options.dialect.lines content).length → Nat)) (t : Text),
      (options.dialect.lines t).length ≤ (options.dialect.lines content).length →
      options.workLeft _ t = left →
        ∃ runs, let settled := t.rewriteEach (List.replicate runs options)
          (options.rewrite settled).text = settled from
    h _ content le_rfl rfl
  intro left
  induction left using WellFoundedLT.induction with
  | ind left ih =>
    rintro t hn rfl
    by_cases h : (options.rewrite t).text = t
    · exact ⟨0, h⟩
    · have hn' : (options.dialect.lines (options.rewrite t).text).length ≤
          (options.dialect.lines content).length :=
        (length_lines_rewrite_le hd.lf_not_mem).trans hn
      obtain ⟨runs, hruns⟩ := ih _ (workLeft_rewrite_lt hd hn h) _ hn' rfl
      exact ⟨runs + 1, hruns⟩

/-- The first run makes a marker of a line, which puts the line behind it outside, where the next
two runs take one comment token each off it. -/
theorem rewrite_settles_new_marker :
    let d : Dialect := ⟨"[[".toList, "-- x".toList, "--".toList⟩
    let options : RewriteOptions := ⟨.windows, d, .uncomment⟩
    let run (lines : String) : Text := ("[[\nLinux Configuration\n" ++ lines).toList
    d.Wordless ∧
      (options.rewrite (run "x\n-- -- y")).text = run "-- x\n-- -- y" ∧
      (options.rewrite (run "-- x\n-- -- y")).text = run "-- x\n -- y" ∧
      (options.rewrite (run "-- x\n -- y")).text = run "-- x\n  y" ∧
      (options.rewrite (run "-- x\n  y")).text = run "-- x\n  y" ∧
      ∃ runs, let settled := (run "x\n-- -- y").rewriteEach (List.replicate runs options)
        (options.rewrite settled).text = settled := by
  intro d options run
  have hd : d.Wordless := ⟨by simp [d, Text.isBlank], by simp [d]⟩
  exact ⟨hd, by decide +kernel, by decide +kernel, by decide +kernel, by decide +kernel,
    rewrite_settles options hd (run "x\n-- -- y")⟩

end RewriteOptions

end RegionToggle
