import RegionToggle.Text.Basic

/-!
# Texts as rows

A row is the text of a line and the ending that closes it. `rows` cuts a text behind every line
feed; a carriage return right before the line feed belongs to the ending. A last line without a line
feed has no ending. `join` puts rows together again.
-/

namespace RegionToggle

/-- How a line ends: not at all, with a line feed, or with a carriage return and a line feed. -/
inductive Ending where
  | open
  | lf
  | crlf
  deriving DecidableEq, Repr

namespace Ending

def text : Ending → Text
  | .open => []
  | .lf => ['\n']
  | .crlf => ['\r', '\n']

end Ending

structure Row where
  text : Text
  ending : Ending
  deriving DecidableEq, Repr

namespace Text

def rows : Text → List Row
  | [] => []
  | '\n' :: rest => ⟨[], .lf⟩ :: rows rest
  | '\r' :: '\n' :: rest => ⟨[], .crlf⟩ :: rows rest
  | c :: rest =>
    match rows rest with
    | [] => [⟨[c], .open⟩]
    | row :: more => ⟨c :: row.text, row.ending⟩ :: more

/-- The text with these rows. -/
def join (rows : List Row) : Text := rows.flatMap fun row => row.text ++ row.ending.text

@[simp] theorem join_nil : join [] = [] := rfl

@[simp] theorem join_cons (row : Row) (more : List Row) :
    join (row :: more) = row.text ++ row.ending.text ++ join more := by
  simp [join]

theorem join_rows (t : Text) : join (rows t) = t := by
  fun_induction rows t with
  | case1 => rfl
  | case2 rest ih => simp [Ending.text, ih]
  | case3 rest ih => simp [Ending.text, ih]
  | case4 c rest _ _ hr ih =>
    rw [hr] at ih
    simp only [join_nil] at ih
    simp [Ending.text, ← ih]
  | case5 c rest _ _ row more hr ih =>
    rw [hr] at ih
    simpa using ih

end Text

end RegionToggle
