import RegionToggle.Text.Quoted

/-!
# Log records

A record says what happened in a few words and in named fields, and how much it matters. A log is
set to a level, and keeps the records of that level and of all levels that matter more.
-/

namespace RegionToggle

inductive LogLevel where
  | error
  | warn
  | info
  | debug
  | trace
  deriving DecidableEq, Repr

namespace LogLevel

/-- Every level, the most silent first. -/
def all : List LogLevel := [.error, .warn, .info, .debug, .trace]

def name : LogLevel → Text
  | .error => "error".toList
  | .warn => "warn".toList
  | .info => "info".toList
  | .debug => "debug".toList
  | .trace => "trace".toList

/-- The level with this name. Case does not count; only ASCII capitals have the letters of a name as
their small ones. -/
def ofName? (t : Text) : Option LogLevel := all.find? fun level => level.name == t.lower

/-- Whether a log set to a level keeps the records of another. -/
def keeps (level record : LogLevel) : Bool := decide (all.idxOf record ≤ all.idxOf level)

end LogLevel

structure LogRecord where
  level : LogLevel
  event : String
  fields : List (String × String) := []
  deriving DecidableEq, Repr

namespace LogRecord

/-- A text in a style of the terminal, given by its number. -/
def styled (style s : String) : String := "\x1b[" ++ style ++ "m" ++ s ++ "\x1b[0m"

/-- A field as it is written: the name in italics, a faint equals sign, and the value as it is, line
ends included. -/
def field (name value : String) : String := " " ++ styled "3" name ++ styled "2" "=" ++ value

def quoted (t : Text) : String := String.ofList t.quoted

def quotedList (ts : List Text) : String := String.ofList (Text.quotedList ts)

def text (record : LogRecord) : String :=
  String.ofList record.level.name ++ ": " ++ record.event ++
    String.join (record.fields.map fun (name, value) => field name value)

end LogRecord

end RegionToggle
