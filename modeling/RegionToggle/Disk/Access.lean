import RegionToggle.Disk.Tree

/-!
# Reaching files by path

A disk is a tree with a current folder in it, where relative paths start; absolute paths start at
the top. A path is followed segment by segment. Links are followed on the way, at most forty of
them; the last one only if the operation asks for what it leads to. The top of the tree is its own
folder above.
-/

namespace RegionToggle

inductive Fault where
  | noEntry
  | notDirectory
  | isDirectory
  | nameTooLong
  | linkLoop
  /-- A system that guards its folders may answer so. -/
  | denied
  /-- A path with a NUL byte in it never reaches the system. -/
  | nulInPath
  /-- A text was asked for, and the bytes are none. -/
  | notText
  /-- A fault known by its wording alone. -/
  | other (wording : String)
  deriving DecidableEq, Repr

namespace Fault

def message : Fault → String
  | .noEntry => "No such file or directory (os error 2)"
  | .notDirectory => "Not a directory (os error 20)"
  | .isDirectory => "Is a directory (os error 21)"
  | .nameTooLong => "File name too long (os error 36)"
  | .linkLoop => "Too many levels of symbolic links (os error 40)"
  | .denied => "Permission denied (os error 13)"
  | .nulInPath => "file name contained an unexpected NUL byte"
  | .notText => "stream did not contain valid UTF-8"
  | .other wording => wording

end Fault

structure Disk where
  top : Node
  here : Location
  deriving Repr

/-- Where a path leads: to a node, or to a free name in a folder. -/
inductive Place where
  | found (location : Location) (node : Node)
  | vacant (location : Location)
  deriving Repr

structure Approach where
  /-- Whether a link at the end is followed. -/
  followsLast : Bool
  /-- Whether a file may be made at the end; a slash behind its name is then an error. -/
  makes : Bool
  deriving DecidableEq, Repr

namespace Approach

def look : Approach := ⟨true, false⟩

/-- To look at an entry itself, be it a link. -/
def lookAtEntry : Approach := ⟨false, false⟩

def write : Approach := ⟨true, true⟩

end Approach

namespace Disk

def maxName : Nat := 255

def maxPath : Nat := 4095

/-- The most links a path may lead through. -/
def maxLinks : Nat := 40

/-- The folder where a path starts that is met in some folder. -/
def start (folder : Location) (path : Path) : Location := if path.isAbsolute then [] else folder

/-- Follows segments from a folder, through `links` links at most. -/
def walk (disk : Disk) (approach : Approach) (links : Nat) (folder : Location)
    (segments : List Bytes) : Except Fault Place :=
  match segments with
  | [] =>
    match disk.top.get? folder with
    | some node => .ok (.found folder node)
    | none => .error .noEntry
  | segment :: rest =>
    if segment.isEmpty || segment == Path.here then disk.walk approach links folder rest
    else if segment == Path.above then disk.walk approach links folder.dropLast rest
    else if approach.makes && !rest.isEmpty && rest.all List.isEmpty then .error .isDirectory
    else if maxName < segment.length then .error .nameTooLong
    else
      let location := folder ++ [segment]
      match disk.top.get? location with
      | none => if rest.isEmpty then .ok (.vacant location) else .error .noEntry
      | some (.folder _) => disk.walk approach links location rest
      | some (.file content) =>
        if rest.isEmpty then .ok (.found location (.file content)) else .error .notDirectory
      | some (.link target) =>
        if rest.isEmpty && !approach.followsLast then .ok (.found location (.link target))
        else
          match links with
          | 0 => .error .linkLoop
          | links + 1 => disk.walk approach links (start folder target) (target.segments ++ rest)
  termination_by (links, segments.length)

/-- Checks a path as such, wherever it leads. -/
def checkPath (path : Path) : Except Fault Unit :=
  if path.bytes.contains 0 then .error .nulInPath
  else if path.bytes.isEmpty then .error .noEntry
  else if maxPath < path.bytes.length then .error .nameTooLong
  else .ok ()

def locate (disk : Disk) (approach : Approach) (path : Path) : Except Fault Place :=
  match checkPath path with
  | .error fault => .error fault
  | .ok () => disk.walk approach maxLinks (start disk.here path) path.segments

def find (disk : Disk) (approach : Approach) (path : Path) : Except Fault (Location × Node) :=
  match disk.locate approach path with
  | .ok (.found location node) => .ok (location, node)
  | .ok (.vacant _) => .error .noEntry
  | .error fault => .error fault

def reaches (disk : Disk) (path : Path) : Bool := (disk.find .look path).isOk

def read (disk : Disk) (path : Path) : Except Fault Bytes :=
  match disk.find .look path with
  | .ok (_, .file content) => .ok content
  | .ok (_, _) => .error .isDirectory
  | .error fault => .error fault

def put (disk : Disk) (location : Location) (node : Node) : Disk :=
  { disk with top := disk.top.put location node }

def write (disk : Disk) (path : Path) (content : Bytes) : Except Fault Disk :=
  match disk.locate .write path with
  | .ok (.found location (.file _)) => .ok (disk.put location (.file content))
  | .ok (.found _ _) => .error .isDirectory
  | .ok (.vacant location) => .ok (disk.put location (.file content))
  | .error fault => .error fault

end Disk

end RegionToggle
