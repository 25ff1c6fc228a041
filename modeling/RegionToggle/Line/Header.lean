import RegionToggle.Text.Basic
import RegionToggle.Text.Word

/-!
# Section headers

A header opens the section of one platform. It reads, from the start of its line: blanks, comment
tokens, decoration, a label, blanks, and the word `Configuration`. Decoration is any mix of blanks
and the characters `-`, `=`, `*` and `#`; a label is an ASCII letter followed by ASCII letters,
digits and underscores.

A token may itself hold blanks or letters, so a line can be read in several ways. The reading with
the longest run of blanks counts, and among those the one with the longest run of tokens.
-/

namespace RegionToggle.Header

def keyword : Text := "Configuration".toList

def isDecoration (c : Char) : Bool := Text.isBlank c || c == '-' || c == '=' || c == '*' || c == '#'

/-- Characters a label may go on with. -/
def isLabelChar (c : Char) : Bool := c.isAlphanum || c == '_'

/-- Whether no word goes on at the start of a text. -/
def startsOutsideWord : Text → Bool
  | [] => true
  | c :: _ => !Text.isWord c

def startsWithKeyword (t : Text) : Bool :=
  match Text.stripFront? keyword t with
  | some rest => startsOutsideWord rest
  | none => false

/-- Whether a text reads blanks, if any, and the word `Configuration`. -/
def keywordFollows : Text → Bool
  | [] => false
  | c :: rest => if Text.isBlank c then keywordFollows rest else startsWithKeyword (c :: rest)

/-- Whether a text reads the rest of a label, blanks, and the word `Configuration`. -/
def labelEnds : Text → Bool
  | [] => false
  | c :: rest =>
    if isLabelChar c then labelEnds rest else Text.isBlank c && keywordFollows (c :: rest)

/-- What a text leaves behind its decoration, if it reads a label, blanks, and the word
`Configuration` there. -/
def named? : Text → Option Text
  | [] => none
  | c :: rest =>
    if isDecoration c then named? rest
    else if c.isAlpha && labelEnds (c :: rest) then some (c :: rest)
    else none

/-- What a text leaves behind tokens and decoration, if it reads a label and so on there. The
longest run of tokens for which it does counts. -/
def namedBehindTokens? (token t : Text) : Option Text :=
  match token with
  | [] => named? t
  | c :: cs =>
    match _h : Text.stripFront? (c :: cs) t with
    | none => named? t
    | some rest => (namedBehindTokens? (c :: cs) rest).or (named? t)
  termination_by t.length
  decreasing_by
    have := Text.length_of_stripFront? _h
    simp only [List.length_cons] at this
    omega

theorem namedBehindTokens?_of_none {d : Char} {ds t : Text}
    (h : Text.stripFront? (d :: ds) t = none) : namedBehindTokens? (d :: ds) t = named? t := by
  rw [namedBehindTokens?]
  split <;> simp_all

theorem namedBehindTokens?_of_some {d : Char} {ds t rest : Text}
    (h : Text.stripFront? (d :: ds) t = some rest) :
    namedBehindTokens? (d :: ds) t = (namedBehindTokens? (d :: ds) rest).or (named? t) := by
  rw [namedBehindTokens?]
  split <;> simp_all

/-- What a text leaves behind blanks, tokens and decoration, if it reads a label and so on there.
The longest run of blanks for which it does counts. -/
def namedInLine? (token : Text) : Text → Option Text
  | [] => namedBehindTokens? token []
  | c :: rest =>
    if Text.isBlank c then (namedInLine? token rest).or (namedBehindTokens? token (c :: rest))
    else namedBehindTokens? token (c :: rest)

end RegionToggle.Header
