import RegionToggle.Text.Utf8

/-!
# Paths

A path is a string of bytes with slashes in it; its segments are what stands between them. A name is
one segment that names an entry of a directory.
-/

namespace RegionToggle

abbrev Name := Bytes

structure Path where
  bytes : Bytes
  deriving DecidableEq, Repr

namespace Path

def slash : UInt8 := 0x2F

/-- The segment that stands for the directory itself. -/
def here : Bytes := [0x2E]

/-- The segment that stands for the directory above. -/
def above : Bytes := [0x2E, 0x2E]

def ofText (t : Text) : Path := ⟨Utf8.encode t⟩

def text? (p : Path) : Option Text := Utf8.decode? p.bytes

/-- A path for display: bytes that are no UTF-8 show as U+FFFD. -/
def display (p : Path) : String := String.ofList (Utf8.lossy p.bytes)

/-- What stands between the slashes of a string of bytes. -/
def split : Bytes → List Bytes
  | [] => [[]]
  | b :: rest =>
    if b = slash then [] :: split rest
    else
      match split rest with
      | [] => [[b]]
      | segment :: more => (b :: segment) :: more

def segments (p : Path) : List Bytes := split p.bytes

/-- The fronts of a list, the shortest first, without the empty one. -/
def fronts {α : Type} : List α → List (List α)
  | [] => []
  | a :: rest => [a] :: (fronts rest).map (a :: ·)

/-- The paths of the folders that a path goes through, the topmost first. -/
def ancestors (p : Path) : List Path :=
  (fronts p.segments.dropLast).map fun segments => ⟨List.intercalate [slash] segments⟩

def isAbsolute (p : Path) : Bool := p.bytes.head? == some slash

/-- The path one name further; a slash comes between unless there is one already. -/
def child (p : Path) (name : Name) : Path :=
  match p.bytes.getLast? with
  | none => ⟨name⟩
  | some last => if last = slash then ⟨p.bytes ++ name⟩ else ⟨p.bytes ++ slash :: name⟩

def descend (p : Path) (names : List Name) : Path := names.foldl child p

/-- Whether a segment leads nowhere: it is empty or stands for the directory itself. -/
def staysHere (segment : Bytes) : Bool := segment.isEmpty || segment == here

/-- The segments that lead somewhere. -/
def steps (p : Path) : List Bytes := p.segments.filter fun segment => !staysHere segment

/-- The name that some steps end in; there is none where they end in a step upwards. -/
def nameOf? (steps : List Bytes) : Option Name :=
  steps.getLast?.filter (· != above)

/-- The name a path ends in. A slash or a dot at its end does not count. -/
def name? (p : Path) : Option Name := nameOf? p.steps

/-- The name that the path ends in before its last step. -/
def parentName? (p : Path) : Option Name := nameOf? p.steps.dropLast

end Path

end RegionToggle
