import RegionToggle.Disk.Access
import RegionToggle.Pattern.Row

/-!
# Finding the files to rewrite

A file is a target if its name matches a target pattern and the folder right above it has the
configured name. The search goes down from a root folder, keeps out of excluded folders, and follows
no link but the root itself; a link below the root counts as a file. A folder with a path that the
system does not take stays shut. The targets come in the order of their paths, name by name, and
only so many of them.
-/

namespace RegionToggle

structure SearchOptions where
  /-- The name of the folder right above a target. -/
  subfolder : Text := ".vscode".toList
  /-- Patterns for the names of targets. -/
  targets : List Text := ["settings.json".toList, "c_cpp_properties.json".toList,
    "launch.json".toList]
  /-- Patterns for the names of folders to keep out of. -/
  excludes : List Text := [".git".toList, "target".toList, "node_modules".toList]
  /-- Whether to keep out of the folder of that name right below the root. -/
  skipsTopSubfolder : Bool := false
  /-- How many names below the root a target may lie. -/
  maxDepth : Nat := 16
  /-- How many targets to keep. -/
  maxFiles : Nat := 1000
  deriving DecidableEq, Repr

inductive SearchProblem where
  | rootMissing (root : Path)
  | rootNotFolder (root : Path)
  | rootDenied (root : Path) (fault : Fault)
  deriving DecidableEq, Repr

def SearchProblem.message : SearchProblem → String
  | .rootMissing root =>
    let shown := root.display
    s!"Scan path '{shown}' does not exist"
  | .rootNotFolder root =>
    let shown := root.display
    s!"Scan path '{shown}' is not a directory"
  | .rootDenied root fault =>
    let shown := root.display
    let cause := fault.message
    s!"Permission denied accessing '{shown}': {cause}"

/-- The problem with a root that cannot be looked at. -/
def SearchProblem.ofFault (root : Path) : Fault → SearchProblem
  | .denied => .rootDenied root .denied
  | _ => .rootMissing root

inductive SearchWarning where
  /-- A file in the right folder has a name that is no text. -/
  | unreadableName (path : Path)
  /-- A folder cannot be opened. -/
  | folderShut (path : Path) (fault : Fault)
  /-- There are more targets than may be kept. -/
  | tooMany (found limit : Nat)
  deriving DecidableEq, Repr

def SearchWarning.message : SearchWarning → String
  | .unreadableName path =>
    let shown := path.display
    s!"Skipping '{shown}': non-UTF-8 filename"
  | .folderShut path fault =>
    let shown := path.display
    let cause := fault.message
    s!"Cannot access '{shown}': IO error for operation on {shown}: {cause}"
  | .tooMany found limit =>
    s!"{found} configuration files were found but the limit is {limit}. " ++
      s!"Only the first {limit} (by path) will be processed. " ++
      "Raise [discovery] max_files in config.toml if you need more."

structure Found where
  files : List Path
  warnings : List SearchWarning
  deriving DecidableEq, Repr

/-- What a search meets, by the names from the root down to it. -/
inductive Sight where
  /-- An entry that is no folder. -/
  | leaf (names : Location)
  /-- A folder that cannot be opened. -/
  | shut (names : Location) (fault : Fault)
  deriving DecidableEq, Repr

/-- What is met in a folder, as seen from the one above it. -/
def Sight.under (name : Name) : Sight → Sight
  | .leaf names => .leaf (name :: names)
  | .shut names fault => .shut (name :: names) fault

inductive Verdict where
  | target
  | unreadable
  | other
  deriving DecidableEq, Repr

/-- The target that is met, if it is one, under verdicts on entries. -/
def Sight.target? (judge : Location → Verdict) : Sight → Option Location
  | .leaf names => if judge names = .target then some names else none
  | .shut _ _ => none

/-- What there is to say about what is met below a root, under verdicts on entries. -/
def Sight.warning? (judge : Location → Verdict) (root : Path) : Sight → Option SearchWarning
  | .leaf names =>
    if judge names = .unreadable then some (.unreadableName (root.descend names)) else none
  | .shut names fault => some (.folderShut (root.descend names) fault)

namespace SearchOptions

/-- The deepest a search goes, whatever the options say. -/
def depthCap : Nat := 64

def filesCap : Nat := 100000

def depth (options : SearchOptions) : Nat := min options.maxDepth depthCap

def limit (options : SearchOptions) : Nat := min options.maxFiles filesCap

/-- A name as a text, empty if it is none. -/
def nameText (name : Name) : Text := (Utf8.decode? name).getD []

/-- Whether the search goes into a folder so many names below the root, given the patterns of
folders to keep out of. -/
def enters (options : SearchOptions) (excludes : List Pattern) (depth : Nat) (name : Name) : Bool :=
  !(options.skipsTopSubfolder && depth == 1 && nameText name == options.subfolder) &&
    !excludes.any (·.accepts (nameText name))

/-- What is met in a folder with given entries, which lie `depth` names below the root; the search
goes `budget` names down from the folder, and opens it only if that is any. -/
def sights (enters : Nat → Name → Bool) : Nat → Nat → Path → List (Name × Node) → List Sight
  | 0, _, _, _ => []
  | budget + 1, depth, folder, entries =>
    match Disk.checkPath folder with
    | .error fault => [.shut [] fault]
    | .ok () =>
      entries.flatMap fun (name, node) =>
        match node with
        | .folder inner =>
          if enters depth name then
            (sights enters budget (depth + 1) (folder.child name) inner).map (Sight.under name)
          else []
        | _ => [.leaf [name]]

/-- The name of the folder right above an entry. Above an entry right below the root it is the name
that the root's path ends in, and above the root itself the one before. -/
def holder? (root : Path) (leaf : Location) : Option Name :=
  match leaf.dropLast.getLast? with
  | some name => some name
  | none => if leaf.isEmpty then root.parentName? else root.name?

/-- The name of an entry; that of the root is the one its path ends in. -/
def ownName? (root : Path) (leaf : Location) : Option Name :=
  match leaf.getLast? with
  | some name => some name
  | none => root.name?

/-- What an entry is to the search, given the patterns of targets. -/
def judge (options : SearchOptions) (targets : List Pattern) (root : Path) (leaf : Location) :
    Verdict :=
  if (holder? root leaf).bind Utf8.decode? = some options.subfolder then
    match (ownName? root leaf).bind Utf8.decode? with
    | none => .unreadable
    | some name => if targets.any (·.accepts name) then .target else .other
  else .other

/-- The order of locations: name by name, and names byte by byte. -/
def precedes (a b : Location) : Bool := decide (a ≤ b)

def select (options : SearchOptions) (root : Path) (sights : List Sight) : Found :=
  let judge := options.judge (Pattern.ofTexts options.targets) root
  let targets := sights.filterMap (Sight.target? judge)
  { files := ((targets.mergeSort precedes).take options.limit).map root.descend
    warnings := sights.filterMap (Sight.warning? judge root) ++
      if options.limit < targets.length then [.tooMany targets.length options.limit] else [] }

/-- What a search meets below a root. A root that is a link is itself an entry beside those it leads
to. -/
def survey (options : SearchOptions) (disk : Disk) (root : Path) :
    Except SearchProblem (List Sight) :=
  match disk.find .look root with
  | .error fault => .error (.ofFault root fault)
  | .ok (_, .folder entries) =>
    let enters := options.enters (Pattern.ofTexts options.excludes)
    let below := sights enters options.depth 1 root entries
    match disk.find .lookAtEntry root with
    | .ok (_, .link _) => .ok (.leaf [] :: below)
    | _ => .ok below
  | .ok (_, _) => .error (.rootNotFolder root)

def search (options : SearchOptions) (disk : Disk) (root : Path) : Except SearchProblem Found :=
  (options.survey disk root).map (options.select root)

end SearchOptions

end RegionToggle
