import RegionToggle.Proofs.OneFile
import RegionToggle.Proofs.Rest

/-!
# Counters and the text written

A rewrite counts the lines that it edits, and a run compares the text it has read with the text it
would write. Both tell the same. No edit leaves a line as long as it was. With a token that holds no
line feed the lines come apart again in the text written, and an edited line shows in its place.
With one that does, no line is a comment, so lines only get longer and no edit makes up for another.
-/

namespace RegionToggle

namespace Edit

variable {style : CommentStyle} {t : Text} {aim : Aim}

/-- A line that is edited gets longer or shorter. -/
theorem length_apply_ofAim_iff :
    ((ofAim style t aim).apply t).length = t.length ↔ ofAim style t aim = .kept := by
  cases aim with
  | keep => exact iff_of_true rfl rfl
  | comment =>
    rw [ofAim]
    cases h : style.comment? t with
    | none => exact iff_of_true rfl rfl
    | some c =>
      have hlen := CommentStyle.length_of_comment? h
      have hmark := CommentStyle.length_mark_pos (CommentStyle.token_ne_nil_of_comment? h)
      have hlonger : c.length ≠ t.length := by omega
      exact iff_of_false hlonger (by simp)
  | uncomment =>
    rw [ofAim]
    cases h : style.uncomment? t with
    | none => exact iff_of_true rfl rfl
    | some u =>
      have hlen := CommentStyle.length_lt_of_uncomment? h
      exact iff_of_false hlen.ne (by simp)

/-- Each line is counted once, by what has been done to it. -/
theorem countP_add_countP (edits : List (Line × Edit)) :
    edits.countP (fun x => x.2.isCommented) + edits.countP (fun x => x.2.isUncommented) +
      edits.countP (fun x => x.2.isKept) = edits.length := by
  induction edits with
  | nil => rfl
  | cons x more ih =>
    rw [List.countP_cons, List.countP_cons, List.countP_cons, List.length_cons, ← ih]
    cases x.2 <;> simp [isCommented, isUncommented, isKept] <;> omega

end Edit

namespace RewriteOptions

variable {options : RewriteOptions} {style : CommentStyle} {zone : Zone} {line : Line}
  {content : Text}

theorem length_textFor_iff :
    (options.textFor style zone line).length = line.text.length ↔
      options.edit style zone line = .kept :=
  Edit.length_apply_ofAim_iff

/-! ### Tokens without a line feed -/

/-- A line that comes back as it was has not been edited. -/
theorem edit_eq_kept_of_lineAfter? (h : options.lineAfter? style zone line = some line) :
    options.edit style zone line = .kept := by
  rw [lineAfter?, Option.map_eq_some_iff] at h
  obtain ⟨row, hrow, hline⟩ := h
  have htext : row.text = line.text := congrArg Line.text hline
  have hending : row.ending = line.ending := congrArg Line.ending hline
  have hlen := Row.length_of_again? hrow
  rw [htext, hending, Nat.add_right_cancel_iff] at hlen
  exact length_textFor_iff.mp hlen.symm

theorem rests_of_text_rewrite_eq (ht : '\n' ∉ options.dialect.token)
    (h : (options.rewrite content).text = content) :
    ∀ x ∈ Zone.place .outside (options.dialect.lines content), options.Rests x.1 x.2 := by
  refine Zone.forall_mem_place_iff.mpr fun i line hl => ?_
  have hback := getElem?_lines_rewrite ht content i
  rw [h, hl, Option.bind_some] at hback
  exact (edit_eq_kept_iff rfl).mp (edit_eq_kept_of_lineAfter? hback.symm)

/-! ### Tokens with a line feed -/

/-- A line holds no token with a line feed, so it is left alone or gets a mark. -/
theorem edit_of_lf_mem (ht : '\n' ∈ style.token) (hl : '\n' ∉ line.text) :
    options.edit style zone line = .kept ∨
      options.edit style zone line = .commented (line.text.withMark style.mark) := by
  rw [edit]
  cases options.aim zone line with
  | keep => exact .inl rfl
  | comment =>
    rw [Edit.ofAim, CommentStyle.comment?_eq]
    split
    · exact .inl rfl
    · exact .inr rfl
  | uncomment =>
    have hnone : style.uncomment? line.text = none := by
      rw [CommentStyle.uncomment?_eq_none_iff, ← Bool.not_eq_true, CommentStyle.isComment_iff]
      rintro ⟨-, hp⟩
      exact hl (Text.mem_of_mem_body (hp.subset ht))
    rw [Edit.ofAim, hnone]
    exact .inl rfl

/-- Edits that put marks on lines make a text longer by these marks. -/
theorem length_flatMap_apply {edits : List (Line × Edit)}
    (h : ∀ x ∈ edits, x.2 = .kept ∨ x.2 = .commented (x.1.text.withMark style.mark)) :
    (edits.flatMap fun x => x.2.apply x.1.text ++ x.1.ending.text).length =
      (Text.join ((edits.map Prod.fst).map Line.row)).length +
        edits.countP (fun x => x.2.isCommented) * style.mark.length := by
  induction edits with
  | nil => simp
  | cons x more ih =>
    have hmore := ih fun y hy => h y (List.mem_cons_of_mem _ hy)
    rw [List.flatMap_cons, List.length_append, hmore, List.map_cons, List.map_cons, Text.join_cons,
      List.length_append, List.countP_cons]
    rcases h x List.mem_cons_self with hx | hx
    · simp [hx, Edit.apply, Edit.isCommented, Line.row]
      omega
    · simp [hx, Edit.apply, Edit.isCommented, Line.row, Text.length_withMark, Nat.add_mul]
      omega

theorem map_fst_edits (options : RewriteOptions) (lines : List Line) :
    (options.edits lines).map Prod.fst = lines := by
  rw [edits, List.map_map]
  exact Zone.map_snd_place .outside lines

/-- With such a token nothing is uncommented, and the text gets longer with every line that is
commented out. -/
theorem length_text_rewrite_of_lf_mem (ht : '\n' ∈ options.dialect.token) (content : Text) :
    let result := options.rewrite content
    let style := CommentStyle.detect options.dialect.token (options.dialect.lines content)
    result.stats.uncommented = 0 ∧
      result.text.length = content.length + result.stats.commented * style.mark.length := by
  intro result style
  have hedits : ∀ x ∈ options.edits (options.dialect.lines content),
      x.2 = .kept ∨ x.2 = .commented (x.1.text.withMark style.mark) := by
    intro x hx
    obtain ⟨y, hy, rfl⟩ := List.mem_map.mp hx
    exact edit_of_lf_mem ht (Dialect.lf_not_mem_of_mem_lines (Zone.mem_lines_of_mem_place hy))
  constructor
  · refine List.countP_eq_zero.mpr fun x hx => ?_
    rcases hedits x hx with h | h <;> simp [h, Edit.isUncommented]
  · have hlen := length_flatMap_apply hedits
    rwa [map_fst_edits, Dialect.map_row_lines, Text.join_rows] at hlen

/-! ### Both together -/

/-- A rewrite gives a text back exactly if it counts no edit. -/
theorem text_rewrite_eq_iff (options : RewriteOptions) (content : Text) :
    (options.rewrite content).text = content ↔
      (options.rewrite content).stats.commented = 0 ∧
        (options.rewrite content).stats.uncommented = 0 := by
  constructor
  · intro h
    by_cases ht : '\n' ∈ options.dialect.token
    · obtain ⟨huncommented, hlen⟩ := length_text_rewrite_of_lf_mem ht content
      let style := CommentStyle.detect options.dialect.token (options.dialect.lines content)
      have hmark : 0 < style.mark.length :=
        CommentStyle.length_mark_pos (List.ne_nil_of_mem ht)
      rw [h, Nat.left_eq_add, Nat.mul_eq_zero] at hlen
      exact ⟨hlen.resolve_right hmark.ne', huncommented⟩
    · exact ((rewrite_rests_iff content).mpr (rests_of_text_rewrite_eq ht h)).2
  · intro h
    have hkept := (counts_eq_zero_iff options _).mp h
    exact ((rewrite_rests_iff content).mpr ((edits_kept_iff _).mp hkept)).1

end RewriteOptions

theorem RewriteStats.changed_eq_true_iff (stats : RewriteStats) :
    stats.changed = true ↔ ¬ (stats.commented = 0 ∧ stats.uncommented = 0) := by
  rw [changed, decide_eq_true_iff]
  omega

/-- The regions of a file are counted by its rows that open one. -/
theorem Dialect.countP_lines_opening (d : Dialect) (content : Text) :
    (d.lines content).countP (fun line => decide (line.kind = .opening)) =
      content.rows.countP fun row => decide (d.kindOf row.text = .opening) := by
  rw [← map_row_lines (d := d) content, List.countP_map]
  refine List.countP_congr fun line hl => ?_
  rw [kind_of_mem_linesFrom hl]
  rfl

namespace RunOptions

/-- A file that has been read is reported as unchanged exactly if its text is given back. -/
theorem exists_unchanged_iff {options : RunOptions} {disk : Disk} {path : Path} {content : Text}
    (h : disk.readText path = .ok content) :
    (∃ outcome after, options.processFile disk path = .ok (outcome, after) ∧
        outcome.status = .unchanged) ↔
      (options.rewrite.rewrite content).text = content := by
  constructor
  · rintro ⟨outcome, after, hdone, hstatus⟩
    obtain ⟨location, text, hfind, rfl, -⟩ := processFile_eq_ok hdone
    have hread : disk.readText path = .ok text := Disk.readText_eq_ok_iff.mpr ⟨location, hfind⟩
    obtain rfl : content = text := Except.ok.inj (h.symm.trans hread)
    by_contra hdiffers
    cases hdry : options.dryRun <;> simp [outcomeFor, hdiffers, hdry] at hstatus
  · intro hsame
    refine ⟨⟨path, .unchanged, (options.rewrite.rewrite content).stats⟩, disk, ?_, rfl⟩
    rw [processFile, h]
    exact if_pos hsame

/-- Whatever its markers, its token and its policy, a rewrite counts every line of a content once;
it counts the lines that open a region, and it counts an edit exactly if the text written is not the
content. So a run reports a file that it has read as unchanged exactly if no edit was counted. -/
theorem counts_rewrite (options : RunOptions) (content : Text) :
    let result := options.rewrite.rewrite content
    result.stats.lines = content.rows.length ∧
      result.stats.lines =
        result.stats.commented + result.stats.uncommented + result.stats.unchanged ∧
      result.stats.regions = content.rows.countP
        (fun row => decide (options.rewrite.dialect.kindOf row.text = .opening)) ∧
      (result.stats.changed = true ↔ result.text ≠ content) ∧
      ∀ disk path, disk.readText path = .ok content →
        ((∃ outcome after, options.processFile disk path = .ok (outcome, after) ∧
            outcome.status = .unchanged) ↔
          result.stats.commented = 0 ∧ result.stats.uncommented = 0) := by
  intro result
  have htext := options.rewrite.text_rewrite_eq_iff content
  refine ⟨Dialect.length_linesFrom 1 _, ?_, Dialect.countP_lines_opening _ content, ?_, ?_⟩
  · have hcounts := Edit.countP_add_countP
      (options.rewrite.edits (options.rewrite.dialect.lines content))
    rw [RewriteOptions.edits, List.length_map, Zone.length_place] at hcounts
    exact hcounts.symm
  · rw [RewriteStats.changed_eq_true_iff, ne_eq, htext]
  · intro disk path hread
    rw [exists_unchanged_iff hread, htext]

end RunOptions

/-! ### A file by itself -/

namespace LoneFile

open Sample

def disk (content : Text) : Disk := ⟨.folder [(file, .file (Utf8.encode content))], []⟩

def path : Path := ⟨file⟩

theorem readText_disk (content : Text) : (disk content).readText path = .ok content := by
  have hfind : (disk content).find .look path = .ok ([file], .file (Utf8.encode content)) :=
    Disk.find_eq_ok_iff.mpr ⟨by decide +kernel,
      Disk.walk_names rfl (by decide +kernel) (by decide +kernel) fun _ target => by simp⟩
  exact Disk.readText_eq_ok_iff.mpr ⟨[file], hfind⟩

/-- With a line feed for a token, two lines are moved down for Linux, and for Windows the file is
left unchanged. -/
theorem counts_rewrite_lf :
    let options (p : Platform) : RunOptions :=
      { rewrite := { platform := p, dialect := ⟨"[[".toList, "]]".toList, "\n".toList⟩ } }
    let content := "[[\nWindows Configuration\nx\n\ny".toList
    let unchanged (p : Platform) : Prop := ∃ outcome after,
      (options p).processFile (disk content) path = .ok (outcome, after) ∧
        outcome.status = .unchanged
    let result := (options .linux).rewrite.rewrite content
    result.text = "[[\nWindows Configuration\n\nx\n\n\ny".toList ∧ result.stats.commented = 2 ∧
      result.stats.lines = 5 ∧ result.stats.regions = 1 ∧ result.stats.changed = true ∧
      (disk content).readText path = .ok content ∧ ¬ unchanged .linux ∧ unchanged .windows := by
  intro options content unchanged result
  have hread := readText_disk content
  obtain ⟨hlines, -, hregions, hchanged, hstatus⟩ := (options .linux).counts_rewrite content
  obtain ⟨-, -, -, -, hrest⟩ := (options .windows).counts_rewrite content
  have hcommented : result.stats.commented = 2 := by decide +kernel
  refine ⟨by decide +kernel, hcommented, hlines.trans (by decide +kernel),
    hregions.trans (by decide +kernel), hchanged.mpr (by decide +kernel), hread, fun h => ?_,
    (hrest _ _ hread).mpr (by decide +kernel)⟩
  have hzero : result.stats.commented = 0 := ((hstatus _ _ hread).mp h).1
  rw [hcommented] at hzero
  exact absurd hzero (by decide)

end LoneFile

end RegionToggle
