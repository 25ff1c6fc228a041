import RegionToggle.Text.Basic

/-!
# JSON texts

A JSON value without fractions, and its text with one member a line and two blanks for each level.
-/

namespace RegionToggle

/-- A JSON value; the members of an object keep their order. -/
inductive JsonValue where
  | bool (b : Bool)
  | count (n : Nat)
  | text (t : Text)
  | list (items : List JsonValue)
  | object (members : List (String × JsonValue))
  deriving Repr

namespace JsonValue

def hexDigit (n : Nat) : Char := "0123456789abcdef".toList.getD n '0'

/-- A character inside quotes: quotes, backslashes and control characters are escaped, and all
others stand as they are. -/
def quoteChar (c : Char) : Text :=
  match c with
  | '"' => ['\\', '"']
  | '\\' => ['\\', '\\']
  | '\n' => ['\\', 'n']
  | '\r' => ['\\', 'r']
  | '\t' => ['\\', 't']
  | '\x08' => ['\\', 'b']
  | '\x0c' => ['\\', 'f']
  | c =>
    if c.toNat < 0x20 then
      ['\\', 'u', '0', '0', hexDigit (c.toNat / 16), hexDigit (c.toNat % 16)]
    else [c]

def quote (t : Text) : Text := '"' :: t.flatMap quoteChar ++ ['"']

/-- The line break and blanks in front of a member at a level. -/
def breakLine (level : Nat) : Text := '\n' :: List.replicate (2 * level) ' '

mutual

def render (level : Nat) : JsonValue → Text
  | .bool b => (if b then "true" else "false").toList
  | .count n => (toString n).toList
  | .text t => quote t
  | .list [] => "[]".toList
  | .list (item :: items) =>
    '[' :: breakLine (level + 1) ++ render (level + 1) item ++ renderItems level items
  | .object [] => "\x7b\x7d".toList
  | .object ((name, value) :: members) =>
    '\x7b' :: breakLine (level + 1) ++ quote name.toList ++ ": ".toList ++
      render (level + 1) value ++ renderMembers level members

def renderItems (level : Nat) : List JsonValue → Text
  | [] => breakLine level ++ [']']
  | item :: items =>
    ',' :: breakLine (level + 1) ++ render (level + 1) item ++ renderItems level items

def renderMembers (level : Nat) : List (String × JsonValue) → Text
  | [] => breakLine level ++ ['\x7d']
  | (name, value) :: members =>
    ',' :: breakLine (level + 1) ++ quote name.toList ++ ": ".toList ++
      render (level + 1) value ++ renderMembers level members

end

end JsonValue

end RegionToggle
