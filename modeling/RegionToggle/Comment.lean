import RegionToggle.Line.Basic

/-!
# Comments

A line is commented out by a token behind its indentation. A style says what the token is and
whether one space follows it. `comment?` writes a comment and `uncomment?` takes it away, every copy
of the token at once; each answers `none` where there is nothing to do.
-/

namespace RegionToggle

/-- How lines are commented out: the token, and whether a space follows it. -/
structure CommentStyle where
  token : Text
  spaced : Bool
  deriving DecidableEq, Repr

namespace CommentStyle

/-- What stands between the token and the line. -/
def gap (style : CommentStyle) : Text := if style.spaced then [' '] else []

/-- A text without the copies of `token` at its front. -/
def dropCopies (token t : Text) : Text :=
  match token with
  | [] => t
  | c :: cs =>
    match _h : Text.stripFront? (c :: cs) t with
    | none => t
    | some rest => dropCopies (c :: cs) rest
  termination_by t.length
  decreasing_by
    have := Text.length_of_stripFront? _h
    simp only [List.length_cons] at this
    omega

/-- A token of one repeated character leaves no stray copy of it behind: `///x` is `//` and `x`. -/
def dropStray (token t : Text) : Text :=
  match token with
  | [] => t
  | c :: cs => if cs.all (· == c) then t.dropWhile (· == c) else t

/-- What a body leaves when all its comment tokens are taken off its front; `none` if it has no
token there, as ever when the token is empty. -/
def strip? (token body : Text) : Option Text :=
  if !token.isEmpty && token.isPrefixOf body then some (dropStray token (dropCopies token body))
  else none

/-- The line commented out; `none` if it is blank or a comment already. -/
def comment? (style : CommentStyle) (t : Text) : Option Text :=
  let body := t.body
  if body.isEmpty || style.token.isPrefixOf body then none
  else some (t.indent ++ style.token ++ style.gap ++ body)

/-- The line without its comment tokens, and in a spaced style without the space behind them; `none`
if it is no comment. -/
def uncomment? (style : CommentStyle) (t : Text) : Option Text :=
  (strip? style.token t.body).map fun rest =>
    t.indent ++ if style.spaced then (Text.stripFront? [' '] rest).getD rest else rest

/-- The vote of a comment for a style: `some true` for spaced, `some false` for compact. A comment
with nothing in it and a line that is no comment do not vote. -/
def vote? (token t : Text) : Option Bool :=
  match strip? token t.body with
  | some (c :: _) => some (c == ' ')
  | _ => none

def votes (token : Text) : Bool → List Line → List Bool
  | _, [] => []
  | inside, line :: more =>
    match line.kind with
    | .opening => votes token true more
    | .closing => votes token false more
    | .header _ => votes token inside more
    | .body =>
      match inside, vote? token line.text with
      | true, some spaced => spaced :: votes token inside more
      | _, _ => votes token inside more

/-- The style most comments inside the regions of a file are written in; compact on a tie. -/
def detect (token : Text) (lines : List Line) : CommentStyle :=
  let cast := votes token false lines
  ⟨token, decide (cast.count false < cast.count true)⟩

end CommentStyle

end RegionToggle
