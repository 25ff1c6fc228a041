import RegionToggle.Toml.Value

/-!
# Building tables

Keys and headers add to tables that may be there already. What a table admits depends on its form: a
headed or closed table is not reached by dotted keys, a table is headed once, and a key has one
value. Where an array of tables stands on the way, its last element is meant.
-/

namespace RegionToggle.Toml

def setValue (key : Text) (value : Value) (entries : Entries) : Entries :=
  entries.map fun entry => if entry.1 = key then (key, value) else entry

/-- A table being added to: its form and its entries. -/
structure OpenTable where
  form : TableForm
  entries : Entries

/-- Adds a key with a value; the key must be new. -/
def OpenTable.add? (key : Text) (value : Value) (table : OpenTable) : Option OpenTable :=
  if (table.entries.lookup key).isSome then none
  else some { table with entries := table.entries ++ [(key, value)] }

/-- Goes down a path from a table and changes the table at its end. Tables missing on the way are
made in the form `made`, and `mayEnter` says which forms of table are entered on the way. -/
def OpenTable.descend? (made : TableForm) (mayEnter : TableForm → Bool)
    (change : OpenTable → Option OpenTable) : List Text → OpenTable → Option OpenTable
  | [], table => change table
  | key :: path, table =>
    match table.entries.lookup key with
    | none => do
      let inner ← descend? made mayEnter change path ⟨made, []⟩
      some { table with entries := table.entries ++ [(key, .table inner.form inner.entries)] }
    | some (.table form entries) =>
      if mayEnter form then do
        let inner ← descend? made mayEnter change path ⟨form, entries⟩
        some { table with entries := setValue key (.table inner.form inner.entries) table.entries }
      else none
    | some (.tables elements) => do
      let last ← elements.getLast?
      let inner ← descend? made mayEnter change path ⟨.headed, last⟩
      some { table with
        entries := setValue key (.tables (elements.dropLast ++ [inner.entries])) table.entries }
    | some _ => none

/-- Adds a value under a dotted key, given as the path to it and its last part. The table at the end
of a path must have been made by dotted keys. -/
def OpenTable.assign? (path : List Text) (key : Text) (value : Value) (table : OpenTable) :
    Option OpenTable :=
  table.descend? .dotted (fun form => form = .dotted ∨ form = .implied)
    (fun inner =>
      if path.isEmpty || inner.form = .dotted then inner.add? key value else none) path

/-- Whether a header may go through a table: all but closed ones. -/
def mayHead (form : TableForm) : Bool := decide (form ≠ .closed)

/-- Opens the table of a header, given as the path to it and its last part. It must be new, or have
been implied by the headers of tables inside it. -/
def OpenTable.head? (path : List Text) (key : Text) (table : OpenTable) : Option OpenTable :=
  table.descend? .implied mayHead (fun inner =>
    match inner.entries.lookup key with
    | none => inner.add? key (.table .headed [])
    | some (.table .implied entries) =>
      some { inner with entries := setValue key (.table .headed entries) inner.entries }
    | some _ => none) path

/-- Opens a new element for a double-bracketed header. -/
def OpenTable.headElement? (path : List Text) (key : Text) (table : OpenTable) : Option OpenTable :=
  table.descend? .implied mayHead (fun inner =>
    match inner.entries.lookup key with
    | none => inner.add? key (.tables [[]])
    | some (.tables elements) =>
      some { inner with entries := setValue key (.tables (elements ++ [[]])) inner.entries }
    | some _ => none) path

/-- Adds a value under a dotted key to the table of the header with a path. -/
def OpenTable.assignUnder? (header path : List Text) (key : Text) (value : Value)
    (table : OpenTable) : Option OpenTable :=
  table.descend? .implied mayHead (fun inner => inner.assign? path key value) header

end RegionToggle.Toml
