import RegionToggle.Text.Basic

/-!
# Values of a settings file

A settings file is written in TOML 1.0. Its values are texts, numbers, truth values, dates and
times, arrays, and tables from keys to values. How a table came about decides what may still be
added to it, so a table remembers its form.
-/

namespace RegionToggle.Toml

inductive TableForm where
  /-- Written in braces; nothing is added to it. -/
  | closed
  /-- Opened by a header of its own. -/
  | headed
  /-- Only named on the way, by the header of a table inside it. -/
  | implied
  /-- Only named on the way, by a dotted key. -/
  | dotted
  deriving DecidableEq, Repr

/-- A value of a settings file. No setting is a float or a date, so only their kind is kept. -/
inductive Value where
  | text (t : Text)
  | integer (n : Int)
  | float
  | flag (b : Bool)
  | date
  | array (items : List Value)
  | table (form : TableForm) (entries : List (Text × Value))
  /-- The tables that share one double-bracketed header. -/
  | tables (elements : List (List (Text × Value)))
  deriving Repr, Inhabited

/-- The keys of a table with their values, in the order in which they were first named. -/
abbrev Entries := List (Text × Value)

namespace Value

def text? : Value → Option Text
  | .text t => some t
  | _ => none

def flag? : Value → Option Bool
  | .flag b => some b
  | _ => none

/-- A count of 64 bits, if the value is one. -/
def count? : Value → Option Nat
  | .integer n => if 0 ≤ n ∧ n < Int.pow 2 64 then some n.toNat else none
  | _ => none

def items? : Value → Option (List Value)
  | .array items => some items
  | .tables elements => some (elements.map (.table .headed))
  | _ => none

def texts? (value : Value) : Option (List Text) := value.items?.bind (·.mapM text?)

/-- The values of a record with the given keys: those of a table, by key, or those of an array, in
the order of the keys. A date is a record too, with none of the keys. -/
def record? (keys : List Text) : Value → Option Entries
  | .table _ entries => some (entries.filter fun entry => keys.contains entry.1)
  | .array items => some (keys.zip items)
  | .tables elements => some (keys.zip (elements.map (.table .headed)))
  | .date => some []
  | _ => none

end Value

end RegionToggle.Toml
