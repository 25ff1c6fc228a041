import RegionToggle.Line.Basic
import RegionToggle.Proofs.HeaderGrammar

/-!
# Headers and their parts

A header is put together from parts: blanks, copies of the token, decoration, a label, blanks, and
the word `Configuration`. With a token that holds no letter, a line without markers is a header
exactly if it is put together from such parts. There may be several ways to do it, since blanks may
be counted as decoration and so may a token, but the label is the same in all of them: the word at
the first letter of the line.
-/

namespace RegionToggle

namespace Header

/-- What a header may be put together from, in the order of the line. -/
structure Parts where
  margin : Text
  tokens : Nat
  decoration : Text
  label : Text
  gap : Text
  rest : Text
  deriving DecidableEq, Repr

namespace Parts

def line (token : Text) (p : Parts) : Text :=
  p.margin ++ copies token p.tokens ++ p.decoration ++ p.label ++ p.gap ++ keyword ++ p.rest

structure Proper (p : Parts) : Prop where
  margin_blank : ∀ c ∈ p.margin, Text.isBlank c = true
  decoration : ∀ c ∈ p.decoration, isDecoration c = true
  label : IsLabel p.label
  gap_ne_nil : p.gap ≠ []
  gap_blank : ∀ c ∈ p.gap, Text.isBlank c = true
  word_ends : startsOutsideWord p.rest = true

end Parts

variable {token t label : Text}

/-- The readings of a line are the ways to put it together from parts. -/
theorem reads_iff_exists_parts :
    Reads token t label ↔ ∃ p : Parts, p.Proper ∧ p.line token = t ∧ p.label = label := by
  constructor
  · rintro ⟨w, k, d, u, rfl, hw, hd, v, rfl, hl, s, x, rfl, hne, hs, r, rfl, hr⟩
    exact ⟨⟨w, k, d, label, s, r⟩, ⟨hw, hd, hl, hne, hs, hr⟩, by simp [Parts.line], rfl⟩
  · rintro ⟨⟨w, k, d, l, s, r⟩, ⟨hw, hd, hl, hne, hs, hr⟩, rfl, rfl⟩
    have hkeyword : StartsWithKeyword (keyword ++ r) := ⟨r, rfl, hr⟩
    have hends : EndsLabel (s ++ (keyword ++ r)) := ⟨s, _, rfl, hne, hs, hkeyword⟩
    have hnames : Names l (l ++ (s ++ (keyword ++ r))) := ⟨_, rfl, hl, hends⟩
    exact ⟨w, k, d, _, by simp [Parts.line], hw, hd, hnames⟩

/-- In every reading the label is the word at the first letter of the line. -/
theorem Reads.label_eq (hl : Letterless token) (h : Reads token t label) :
    label = (fromLetter t).takeWhile isLabelChar := by
  obtain ⟨w, k, d, u, rfl, hw, hd, hu⟩ := h
  have hfirst : fromLetter (w ++ (copies token k ++ (d ++ u))) = u := by
    rw [fromLetter_append _ fun c hc => not_isAlpha_of_isBlank (hw c hc),
      fromLetter_append _ (letterless_copies hl k),
      fromLetter_append _ fun c hc => not_isAlpha_of_isDecoration (hd c hc), hu.fromLetter_eq]
  rw [hfirst, hu.takeWhile_eq]

end Header

namespace Dialect

open Header (Parts fromLetter isLabelChar)

variable {d : Dialect} {t : Text}

/-- A line without markers is what its label says. -/
theorem kindOf_of_markerless (ho : ¬ d.opening <:+: t) (hc : ¬ d.closing <:+: t) :
    d.kindOf t = (Header.label? d.token t).elim .body .header := by
  rw [← Text.occurs_iff_infix] at ho hc
  rw [kindOf, if_neg ho, if_neg hc]
  cases Header.label? d.token t <;> rfl

/-- With a letterless token, a line without markers is a header exactly if it is put together from
the parts of one, and a body line otherwise. However it is put together, the label is the longest
run of label characters at its first letter. -/
theorem kindOf_eq_header_iff (hl : Header.Letterless d.token) (ho : ¬ d.opening <:+: t)
    (hc : ¬ d.closing <:+: t) :
    (∀ label, d.kindOf t = .header label ↔
        ∃ p : Parts, p.Proper ∧ p.line d.token = t ∧ p.label = label) ∧
      (d.kindOf t = .body ↔ ∀ p : Parts, p.Proper → p.line d.token ≠ t) ∧
      ∀ p : Parts, p.Proper → p.line d.token = t →
        p.label = (fromLetter t).takeWhile isLabelChar := by
  have hheader : ∀ label, d.kindOf t = .header label ↔
      ∃ p : Parts, p.Proper ∧ p.line d.token = t ∧ p.label = label := by
    intro label
    rw [← Header.reads_iff_exists_parts, ← Header.label?_eq_some_iff_reads hl,
      kindOf_of_markerless ho hc]
    cases Header.label? d.token t <;> simp
  refine ⟨hheader, ⟨fun hbody p hp hline => ?_, fun hnone => ?_⟩, fun p hp hline => ?_⟩
  · have hkind : d.kindOf t = .header p.label := (hheader p.label).mpr ⟨p, hp, hline, rfl⟩
    rw [hbody] at hkind
    exact absurd hkind (by simp)
  · cases hlabel : Header.label? d.token t with
    | none => rw [kindOf_of_markerless ho hc, hlabel]; rfl
    | some label =>
      have hkind : d.kindOf t = .header label := by rw [kindOf_of_markerless ho hc, hlabel]; rfl
      obtain ⟨p, hp, hline, -⟩ := (hheader label).mp hkind
      exact absurd hline (hnone p hp)
  · exact (Header.reads_iff_exists_parts.mpr ⟨p, hp, hline, rfl⟩).label_eq hl

/-- A token of decoration can be counted as a token or not. -/
theorem kindOf_eq_header_iff_two_ways :
    let d : Dialect := ⟨"[[".toList, "]]".toList, "*-".toList⟩
    let t := " *-*-- Linux_2\tConfiguration: x".toList
    let p : Parts := ⟨" ".toList, 2, "- ".toList, "Linux_2".toList, "\t".toList, ": x".toList⟩
    let q : Parts := ⟨[], 0, " *-*-- ".toList, "Linux_2".toList, "\t".toList, ": x".toList⟩
    p.Proper ∧ p.line d.token = t ∧ q.Proper ∧ q.line d.token = t ∧
      d.kindOf t = .header "Linux_2".toList ∧
      p.label = (fromLetter t).takeWhile isLabelChar ∧
      q.label = (fromLetter t).takeWhile isLabelChar := by
  intro d t p q
  have hlabel : Header.IsLabel "Linux_2".toList :=
    ⟨'L', "inux_2".toList, rfl, rfl, List.all_eq_true.mp (by decide)⟩
  have hgap : ∀ c ∈ "\t".toList, Text.isBlank c = true := List.all_eq_true.mp (by decide)
  have hends : Header.startsOutsideWord ": x".toList = true := by decide +kernel
  have hp : p.Proper :=
    ⟨List.all_eq_true.mp (by decide), List.all_eq_true.mp (by decide), hlabel, by decide, hgap,
      hends⟩
  have hq : q.Proper :=
    ⟨List.all_eq_true.mp (by decide), List.all_eq_true.mp (by decide), hlabel, by decide, hgap,
      hends⟩
  obtain ⟨hheader, -, hsame⟩ := kindOf_eq_header_iff (d := d) (t := t)
    (by simp [Header.Letterless, d]) (by decide +kernel) (by decide +kernel)
  exact ⟨hp, rfl, hq, rfl, (hheader _).mpr ⟨p, hp, rfl, rfl⟩, hsame p hp rfl, hsame q hq rfl⟩

end Dialect

end RegionToggle
