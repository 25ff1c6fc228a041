import RegionToggle.Toml.Number
import RegionToggle.Toml.Table

/-!
# Documents

A document is a list of statements, each on lines of its own: headers, which open tables, and keys
with values, which go to the table opened last. Reading one gives its table, or nothing if the
document is not well formed or its statements do not agree.
-/

namespace RegionToggle.Toml

/-! ## Values -/

/-- Reads the rest of an array, behind its bracket or a comma, in at most so many steps. -/
def arrayRest? (value? : Scanner Value) : Nat → Scanner (List Value)
  | 0, _ => none
  | steps + 1, t =>
    match skipFiller false t with
    | ']' :: rest => some ([], rest)
    | t => do
      let (item, rest) ← value? t
      match skipFiller false rest with
      | ',' :: rest =>
        let (items, rest) ← arrayRest? value? steps rest
        some (item :: items, rest)
      | ']' :: rest => some ([item], rest)
      | _ => none

def assignment? (value? : Scanner Value) : Scanner (List Text × Value) := fun t => do
  let (keys, rest) ← key? t
  let rest ← char? '=' rest
  let (value, rest) ← value? (skipSpace rest)
  some ((keys, value), rest)

/-- Adds the value of a dotted key to a table. -/
def OpenTable.assignKeys? (keys : List Text) (value : Value) (table : OpenTable) :
    Option OpenTable :=
  keys.getLast?.bind fun key => table.assign? keys.dropLast key value

/-- A form of its own for the tables that dotted keys make inside braces: none of them is entered
once the brace is closed. -/
def inBraces : OpenTable := ⟨.closed, []⟩

/-- Reads the rest of a table in braces, in front of an assignment, in at most so many steps. -/
def bracesRest? (value? : Scanner Value) : Nat → OpenTable → Scanner OpenTable
  | 0, _, _ => none
  | steps + 1, table, t => do
    let ((keys, value), rest) ← assignment? value? t
    let table ← table.assignKeys? keys value
    match skipSpace rest with
    | ',' :: rest => bracesRest? value? steps table rest
    | '}' :: rest => some (table, rest)
    | _ => none

def braces? (value? : Scanner Value) (steps : Nat) (t : Text) : Option (Value × Text) :=
  match skipSpace t with
  | '}' :: rest => some (.table .closed [], rest)
  | _ => do
    let (table, rest) ← bracesRest? value? steps inBraces t
    some (.table .closed table.entries, rest)

/-- Reads a value with at most so many levels of arrays and tables in it, each of them in at most
`steps` steps. A step takes a character or more, so a text has no need of more steps than it has
characters. -/
def value? (steps : Nat) : Nat → Scanner Value
  | depth, t =>
    match t with
    | [] => none
    | c :: rest =>
      if c == '"' || c == '\'' then (quotedText? t).map fun (s, rest) => (.text s, rest)
      else if c == '[' || c == '{' then
        match depth with
        | 0 => none
        | depth + 1 =>
          if c == '[' then
            (arrayRest? (value? steps depth) steps rest).map fun (items, rest) =>
              (.array items, rest)
          else braces? (value? steps depth) steps rest
      else if c == '+' || c == '-' || c.isDigit then number? t
      else
        match t with
        | 't' :: 'r' :: 'u' :: 'e' :: rest => some (.flag true, rest)
        | 'f' :: 'a' :: 'l' :: 's' :: 'e' :: rest => some (.flag false, rest)
        | _ => specialFloat? t

/-! ## Statements -/

inductive Statement where
  | header (keys : List Text)
  | elementHeader (keys : List Text)
  | assignment (keys : List Text) (value : Value)

def header? : Scanner Statement
  | '[' :: t => do
    let (keys, rest) ← key? t
    match rest with
    | ']' :: ']' :: rest => some (.elementHeader keys, rest)
    | _ => none
  | t => do
    let (keys, rest) ← key? t
    match rest with
    | ']' :: rest => some (.header keys, rest)
    | _ => none

/-- Reads a statement, with arrays and tables in at most so many steps. -/
def statement? (steps : Nat) : Scanner Statement
  | '[' :: rest => header? rest
  | t => (assignment? (value? steps (nestingLimit - 1)) t).map fun ((keys, value), rest) =>
      (.assignment keys value, rest)

def statements? : Nat → Text → Option (List Statement)
  | 0, _ => none
  | steps + 1, t =>
    match skipSpace t with
    | [] => some []
    | c :: rest =>
      if c == '#' || c == '\n' || c == '\r' then do
        statements? steps (← lineEnd? (c :: rest))
      else do
        let (statement, rest) ← statement? steps (c :: rest)
        let more ← statements? steps (← lineEnd? rest)
        some (statement :: more)

/-- Carries out statements on the table of the document; `header` is the path of the table opened
last. -/
def build? (header : List Text) (table : OpenTable) : List Statement → Option OpenTable
  | [] => some table
  | .header keys :: more => do
    let table ← table.head? keys.dropLast (← keys.getLast?)
    build? keys table more
  | .elementHeader keys :: more => do
    let table ← table.headElement? keys.dropLast (← keys.getLast?)
    build? keys table more
  | .assignment keys value :: more => do
    let table ← table.assignUnder? header keys.dropLast (← keys.getLast?) value
    build? header table more

/-- The table that a document spells. A byte order mark at its front does not count. -/
def document? (t : Text) : Option Value := do
  let t := (Text.stripFront? ['\uFEFF'] t).getD t
  let statements ← statements? (t.length + 1) t
  let table ← build? [] ⟨.headed, []⟩ statements
  some (.table .headed table.entries)

end RegionToggle.Toml
