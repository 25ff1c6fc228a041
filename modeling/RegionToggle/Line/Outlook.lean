import RegionToggle.Line.Header

/-!
# Reading headers in one go

Trying the readings of a line one by one takes too long where there are many. An outlook holds all
that is to be known of one end of a line, and follows from the outlooks of the ends behind it. The
label of a line is read off the outlook at its start, and is the one that the readings give.
-/

namespace RegionToggle.Header

/-- What is ahead at some place of a line: what the readings of that end of it come to. -/
structure Outlook where
  keywordFollows : Bool
  labelEnds : Bool
  named? : Option Text
  behindTokens? : Option Text
  inLine? : Option Text
  deriving DecidableEq, Repr

/-- The outlook at the start of a text. -/
def outlook (token t : Text) : Outlook where
  keywordFollows := keywordFollows t
  labelEnds := labelEnds t
  named? := named? t
  behindTokens? := namedBehindTokens? token t
  inLine? := namedInLine? token t

def Outlook.nowhere : Outlook := ⟨false, false, none, none, none⟩

/-- The outlook of the text `c :: rest`, given those of the ends of `rest`. -/
def nextOutlook (token : Text) (c : Char) (rest : Text) (behind : List Outlook) : Outlook :=
  let last := behind.headD .nowhere
  let keywordFollows :=
    if Text.isBlank c then last.keywordFollows else startsWithKeyword (c :: rest)
  let labelEnds := if isLabelChar c then last.labelEnds else Text.isBlank c && keywordFollows
  let named? :=
    if isDecoration c then last.named?
    else if c.isAlpha && labelEnds then some (c :: rest)
    else none
  let behindTokens? :=
    match token with
    | [] => named?
    | d :: ds =>
      match Text.stripFront? (d :: ds) (c :: rest) with
      | none => named?
      | some _ => ((behind.drop ds.length).headD .nowhere).behindTokens?.or named?
  let inLine? := if Text.isBlank c then last.inLine?.or behindTokens? else behindTokens?
  { keywordFollows, labelEnds, named?, behindTokens?, inLine? }

def outlooks (token : Text) : Text → List Outlook
  | [] => [.nowhere]
  | c :: rest =>
    let behind := outlooks token rest
    nextOutlook token c rest behind :: behind

theorem outlook_nil (token : Text) : outlook token [] = .nowhere := by
  have h : namedBehindTokens? token [] = none := by
    cases token with
    | nil => simp [namedBehindTokens?, named?]
    | cons d ds => rw [namedBehindTokens?_of_none rfl, named?]
  simp [outlook, Outlook.nowhere, keywordFollows, labelEnds, named?, namedInLine?, h]

theorem outlook_cons (token : Text) (c : Char) (rest : Text) :
    outlook token (c :: rest) =
      nextOutlook token c rest ((Text.ends rest).map (outlook token)) := by
  cases token with
  | nil =>
    simp [outlook, nextOutlook, Text.head?_ends, keywordFollows, labelEnds, named?,
      namedBehindTokens?, namedInLine?]
  | cons d ds =>
    cases hs : Text.stripFront? (d :: ds) (c :: rest) with
    | none =>
      simp [outlook, nextOutlook, Text.head?_ends, hs, keywordFollows, labelEnds, named?,
        namedBehindTokens?_of_none hs, namedInLine?]
    | some left =>
      have hd := Text.head?_drop_ends hs
      simp only [Text.ends, List.length_cons, List.drop_succ_cons] at hd
      simp [outlook, nextOutlook, Text.head?_ends, hs, hd, keywordFollows, labelEnds, named?,
        namedBehindTokens?_of_some hs, namedInLine?, ← List.map_drop]

/-- The outlooks worked out from the empty end on are those of the ends. -/
theorem outlooks_eq (token t : Text) : outlooks token t = (Text.ends t).map (outlook token) := by
  induction t with
  | nil => simp [outlooks, Text.ends, outlook_nil]
  | cons c rest ih => simp [outlooks, Text.ends, outlook_cons, ih]

def label? (token t : Text) : Option Text :=
  ((outlooks token t).headD .nowhere).inLine?.map (·.takeWhile isLabelChar)

/-- The label is that of the reading that counts. -/
theorem label?_eq (token t : Text) :
    label? token t = (namedInLine? token t).map (·.takeWhile isLabelChar) := by
  rw [label?, outlooks_eq]
  cases t <;> rfl

end RegionToggle.Header
