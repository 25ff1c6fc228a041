import RegionToggle.Disk.Path

/-!
# Trees of files

A tree is a folder with files, links and folders in it. A location is the names from the top of the
tree down to an entry, and no link stands on the way: each entry has one location. `get?` is the
view of a tree by location, and `put` changes it at one.
-/

namespace RegionToggle

/-- A file, a symbolic link or a folder. Folders list their entries in the order in which the system
tells them. -/
inductive Node where
  | file (content : Bytes)
  | link (target : Path)
  | folder (entries : List (Name × Node))
  deriving Repr

abbrev Location := List Name

namespace Node

def get? : Location → Node → Option Node
  | [], node => some node
  | name :: rest, .folder entries => (entries.lookup name).bind (get? rest)
  | _ :: _, _ => none

/-- Gives a name to a node, in the place of what had that name or else behind all entries. -/
def setEntry (name : Name) (node : Node) : List (Name × Node) → List (Name × Node)
  | [] => [(name, node)]
  | entry :: more =>
    if entry.1 = name then (name, node) :: more else entry :: setEntry name node more

/-- Puts a node at a location, unless the folder for it is missing. -/
def put (node : Node) (location : Location) (new : Node) : Node :=
  match location, node with
  | [], _ => new
  | name :: rest, .folder entries =>
    match entries.lookup name with
    | some child => .folder (setEntry name (child.put rest new) entries)
    | none => if rest.isEmpty then .folder (setEntry name new entries) else .folder entries
  | _ :: _, node => node

/-- Puts a node at a location, with the folders above it where they are missing. -/
def plant (node : Node) (location : Location) (new : Node) : Node :=
  match location, node with
  | [], _ => new
  | name :: rest, .folder entries =>
    let child := (entries.lookup name).getD (.folder [])
    .folder (setEntry name (child.plant rest new) entries)
  | name :: rest, _ => .folder [(name, plant (.folder []) rest new)]

theorem lookup_setEntry_self (name : Name) (node : Node) (entries : List (Name × Node)) :
    (setEntry name node entries).lookup name = some node := by
  induction entries with
  | nil => simp [setEntry]
  | cons entry more ih =>
    obtain ⟨first, old⟩ := entry
    by_cases h : first = name
    · simp [setEntry, h]
    · have hn : (name == first) = false := by simpa using Ne.symm h
      simp [setEntry, h, List.lookup_cons, hn, ih]

theorem lookup_setEntry_of_ne {name other : Name} (h : other ≠ name) (node : Node)
    (entries : List (Name × Node)) :
    (setEntry name node entries).lookup other = entries.lookup other := by
  induction entries with
  | nil =>
    have hn : (other == name) = false := by simpa using h
    simp [setEntry, List.lookup_cons, hn]
  | cons entry more ih =>
    obtain ⟨first, old⟩ := entry
    by_cases he : first = name
    · subst he
      have hn : (other == first) = false := by simpa using h
      simp [setEntry, List.lookup_cons, hn]
    · cases hn : other == first <;> simp [setEntry, he, List.lookup_cons, hn, ih]

mutual

def files : Node → List (Location × Bytes)
  | .file content => [([], content)]
  | .link _ => []
  | .folder entries => filesOfEntries entries

def filesOfEntries : List (Name × Node) → List (Location × Bytes)
  | [] => []
  | (name, node) :: more =>
    node.files.map (fun (below, content) => (name :: below, content)) ++ filesOfEntries more

end

end Node

end RegionToggle
