import RegionToggle.Proofs.Rewritten

/-!
# Payloads

The payload of a line is what follows its margin, the longest front of blanks and of characters of
the comment token. A rewrite edits margins only. So whatever rewrites a text goes through, the lines
with something in their payload keep it, with their endings and in their order; a line of which only
a margin is left may vanish at the end of the text, or lose a carriage return to its ending.
-/

namespace RegionToggle

namespace Text

/-- Whether a character belongs to the margin of a line: it is blank or stands in the token. -/
def isMargin (token : Text) (c : Char) : Bool := isBlank c || token.contains c

def payload (token t : Text) : Text := t.dropWhile (isMargin token)

variable {token : Text}

theorem isMargin_of_isBlank {c : Char} (h : isBlank c = true) : isMargin token c = true := by
  simp [isMargin, h]

theorem isMargin_of_mem {c : Char} (h : c ∈ token) : isMargin token c = true := by
  simp [isMargin, h]

/-- More margin in front leaves the payload. -/
theorem payload_append {u : Text} (t : Text) (h : ∀ c ∈ u, isMargin token c = true) :
    payload token (u ++ t) = payload token t :=
  List.dropWhile_append_of_pos h

theorem payload_indent_append (t u : Text) : payload token (t.indent ++ u) = payload token u :=
  payload_append u fun _ hc => isMargin_of_isBlank (isBlank_of_mem_indent hc)

@[simp] theorem payload_body (t : Text) : payload token t.body = payload token t := by
  conv => rhs; rw [← indent_append_body t, payload_indent_append]

theorem payload_eq_nil_iff {t : Text} : payload token t = [] ↔ ∀ c ∈ t, isMargin token c = true :=
  List.dropWhile_eq_nil_iff

/-- A line with a payload is not blank. -/
theorem isAllBlank_of_payload_ne_nil {t : Text} (h : payload token t ≠ []) :
    t.isAllBlank = false := by
  rw [← Bool.not_eq_true]
  intro hb
  apply h
  rw [payload_eq_nil_iff]
  exact fun c hc => isMargin_of_isBlank (List.all_eq_true.mp hb c hc)

end Text

/-! ### Comments are margin -/

namespace CommentStyle

open Text (payload payload_append payload_indent_append isMargin_of_mem isMargin_of_isBlank)

theorem payload_withMark (style : CommentStyle) (t : Text) :
    payload style.token (t.withMark style.mark) = payload style.token t := by
  have hm : ∀ c ∈ style.mark, Text.isMargin style.token c = true := by
    intro c hc
    rcases List.mem_append.mp hc with hc | hc
    · exact isMargin_of_mem hc
    · exact isMargin_of_isBlank (isBlank_of_mem_gap hc)
  rw [Text.withMark, payload_indent_append, payload_append _ hm, Text.payload_body]

theorem payload_dropCopies (token t : Text) :
    payload token (dropCopies token t) = payload token t := by
  fun_induction dropCopies token t with
  | case1 t => rfl
  | case2 t c cs hs => rfl
  | case3 t c cs rest hs ih =>
    rw [ih, Text.stripFront?_eq_some_iff.mp hs, payload_append _ fun _ hc => isMargin_of_mem hc]

theorem payload_dropStray (token t : Text) :
    payload token (dropStray token t) = payload token t := by
  cases token with
  | nil => rfl
  | cons c cs =>
    rw [dropStray]
    split
    · have hstray : ∀ x ∈ t.takeWhile (· == c), Text.isMargin (c :: cs) x = true := by
        intro x hx
        have hxc : (x == c) = true := List.all_eq_true.mp (List.all_takeWhile (l := t)) x hx
        rw [eq_of_beq hxc]
        exact isMargin_of_mem List.mem_cons_self
      have hcut : t.takeWhile (· == c) ++ t.dropWhile (· == c) = t :=
        List.takeWhile_append_dropWhile
      conv => rhs; rw [← hcut, payload_append _ hstray]
    · rfl

theorem payload_strip? {token t rest : Text} (h : strip? token t = some rest) :
    payload token rest = payload token t := by
  rw [strip?] at h
  split at h
  · rw [← Option.some.inj h, payload_dropStray, payload_dropCopies]
  · exact absurd h (by simp)

theorem payload_withoutGap (style : CommentStyle) (t : Text) :
    payload style.token (style.withoutGap t) = payload style.token t := by
  rw [← Text.payload_body, body_withoutGap, Text.payload_body]

theorem payload_getD_comment? (style : CommentStyle) (t : Text) :
    payload style.token ((style.comment? t).getD t) = payload style.token t := by
  rw [comment?_eq]
  split
  · rfl
  · rw [Option.getD_some, payload_withMark]

theorem payload_getD_uncomment? (style : CommentStyle) (t : Text) :
    payload style.token ((style.uncomment? t).getD t) = payload style.token t := by
  rw [uncomment?_eq]
  cases hr : strip? style.token t.body with
  | none => rfl
  | some rest =>
    rw [Option.map_some, Option.getD_some, payload_indent_append, payload_withoutGap,
      payload_strip? hr, Text.payload_body]

end CommentStyle

/-! ### Rewrites edit margins -/

def Row.payload? (token : Text) (row : Row) : Option (Text × Ending) :=
  if Text.payload token row.text = [] then none else some (Text.payload token row.text, row.ending)

/-- The payloads of a text that are not empty, in order, with the endings of their lines. -/
def Text.payloads (token t : Text) : List (Text × Ending) := t.rows.filterMap (Row.payload? token)

namespace RewriteOptions

variable {options : RewriteOptions}

theorem payload_textFor (style : CommentStyle) (zone : Zone) (line : Line) :
    Text.payload style.token (options.textFor style zone line) =
      Text.payload style.token line.text := by
  rw [textFor, edit]
  cases options.aim zone line with
  | keep => rfl
  | comment => rw [Edit.apply_ofAim_comment, CommentStyle.payload_getD_comment?]
  | uncomment => rw [Edit.apply_ofAim_uncomment, CommentStyle.payload_getD_uncomment?]

/-- The rows that are written have the payloads of the lines. -/
theorem payloads_written (options : RewriteOptions) (lines : List Line) :
    (options.written lines).filterMap (Row.payload? options.dialect.token) =
      (lines.map Line.row).filterMap (Row.payload? options.dialect.token) := by
  conv => rhs; rw [← Zone.map_snd_place .outside lines, List.map_map]
  rw [written_eq, List.filterMap_map, List.filterMap_map]
  congr 1
  funext x
  have hp : Text.payload options.dialect.token
      (options.textFor (.detect options.dialect.token lines) x.1 x.2) =
        Text.payload options.dialect.token x.2.text :=
    payload_textFor (.detect options.dialect.token lines) x.1 x.2
  rw [Function.comp_apply, Row.payload?, hp]
  rfl

variable {content : Text}

/-- A row that is written comes back from the rewritten text with its payload, and if it has none,
with none or not at all. -/
theorem bind_payload?_again? {row : Row}
    (h : row ∈ options.written (options.dialect.lines content)) :
    row.again?.bind (Row.payload? options.dialect.token) =
      row.payload? options.dialect.token := by
  by_cases hp : Text.payload options.dialect.token row.text = []
  · have hnone : row.payload? options.dialect.token = none := if_pos hp
    cases hr : row.again? with
    | none => rw [hnone, Option.bind_none]
    | some row' =>
      rw [hnone, Option.bind_some]
      rcases Row.eq_or_dropLast_of_again? hr with rfl | rfl
      · exact hnone
      · apply if_pos
        rw [Text.payload_eq_nil_iff] at hp ⊢
        exact fun c hc => hp c (List.dropLast_subset _ hc)
  · rw [again?_of_mem_written h (Text.isAllBlank_of_payload_ne_nil hp), Option.bind_some]

/-- One rewrite keeps the payloads of a text. -/
theorem payloads_rewrite (ht : '\n' ∉ options.dialect.token) (content : Text) :
    Text.payloads options.dialect.token (options.rewrite content).text =
      Text.payloads options.dialect.token content := by
  calc Text.payloads options.dialect.token (options.rewrite content).text
      = ((options.written (options.dialect.lines content)).filterMap Row.again?).filterMap
          (Row.payload? options.dialect.token) := by
        rw [Text.payloads, text_rewrite, Text.rows_join (joinable_written ht)]
    _ = (options.written (options.dialect.lines content)).filterMap
          (Row.payload? options.dialect.token) := by
        rw [List.filterMap_filterMap]
        exact List.filterMap_congr fun row hrow => bind_payload?_again? hrow
    _ = Text.payloads options.dialect.token content := by
        rw [payloads_written, Dialect.map_row_lines, Text.payloads]

end RewriteOptions

/-! ### Histories -/

/-- A text after some rewrites, one after the other. -/
def Text.rewriteEach (content : Text) (history : List RewriteOptions) : Text :=
  history.foldl (fun content options => (options.rewrite content).text) content

namespace Text

@[simp] theorem rewriteEach_nil (content : Text) : content.rewriteEach [] = content := rfl

@[simp] theorem rewriteEach_cons (content : Text) (options : RewriteOptions)
    (more : List RewriteOptions) :
    content.rewriteEach (options :: more) = (options.rewrite content).text.rewriteEach more := rfl

/-- However often a text is rewritten, for whichever platforms, under whichever policies and between
whichever markers, as long as the token stays it keeps its payloads. -/
theorem payloads_rewriteEach (token : Text) (ht : '\n' ∉ token) (history : List RewriteOptions)
    (h : ∀ options ∈ history, options.dialect.token = token) (content : Text) :
    payloads token (content.rewriteEach history) = payloads token content := by
  induction history generalizing content with
  | nil => rfl
  | cons options more ih =>
    have hmore : ∀ o ∈ more, o.dialect.token = token := fun o ho => h o (List.mem_cons_of_mem _ ho)
    obtain rfl : options.dialect.token = token := h options List.mem_cons_self
    rw [rewriteEach_cons, ih hmore, RewriteOptions.payloads_rewrite ht]

/-- Two rewrites with markers of their own: a line is lost, and a carriage return joins an ending.
-/
theorem payloads_rewriteEach_two_markers :
    let history : List RewriteOptions := [
      ⟨.windows, ⟨"[[".toList, "]]".toList, Dialect.standardToken⟩, .uncomment⟩,
      ⟨.linux, ⟨"<".toList, ">".toList, Dialect.standardToken⟩, .labelMatch⟩]
    let content : Text := "//a // b\n[[\n// Linux Configuration\n\t///c\r\n]]\n\r//\n/d\n//".toList
    '\n' ∉ Dialect.standardToken ∧
      (∀ options ∈ history, options.dialect.token = Dialect.standardToken) ∧
      content.rewriteEach history =
        "//a // b\n//[[\n Linux Configuration\n\t///c\r\n//]]\n\r\n///d\n".toList ∧
      payloads Dialect.standardToken (content.rewriteEach history) =
        [("a // b".toList, .lf), ("[[".toList, .lf), ("Linux Configuration".toList, .lf),
          ("c".toList, .crlf), ("]]".toList, .lf), ("d".toList, .lf)] := by
  intro history content
  have ht : '\n' ∉ Dialect.standardToken := by decide
  have h : ∀ options ∈ history, options.dialect.token = Dialect.standardToken := by decide
  refine ⟨ht, h, by decide +kernel, ?_⟩
  exact (payloads_rewriteEach _ ht history h content).trans (by decide +kernel)

end Text

end RegionToggle
