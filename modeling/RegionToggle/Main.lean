import RegionToggle.CommandLine.Command

/-!
# The program

The outer layer. It copies what a run can see of the file system to a disk, carries out the command
on that, and writes the files that come out different.
-/

namespace RegionToggle.Outer

def host : Text := "linux".toList

def entryAt (path : String) : IO.FS.DirEntry := ⟨".", path⟩

/-- What is at a path: a link counts as such. -/
def kind? (path : String) : IO (Option IO.FS.FileType) := do
  match ← (entryAt path).path.symlinkMetadata.toBaseIO with
  | .ok metadata => return some metadata.type
  | .error _ => return none

/-- The path without links and dots to what a path leads to. -/
def real? (path : String) : IO (Option String) := do
  match ← (IO.FS.realPath path).toBaseIO with
  | .ok file => return some file.toString
  | .error _ => return none

/-- The location that an absolute path without links and dots spells. -/
def locationOf (path : String) : Location :=
  (Path.ofText path.toList).segments.filter fun segment => !segment.isEmpty

def pathOf (location : Location) : String := ((⟨[Path.slash]⟩ : Path).descend location).display

/-- A link for a disk: it leads straight to where the real one ends, or else nowhere. -/
def linkFrom (path : String) : IO Node := do
  match ← real? path with
  | some target => return .link (.ofText target.toList)
  | none => return .link ⟨[Path.slash, 0]⟩

/-- Copies what a path ends at: a file with its content, a folder without its entries. -/
def copyEnd (disk : Disk) (path : String) : IO Disk := do
  match ← real? path with
  | none => return disk
  | some target =>
    let location := locationOf target
    match ← kind? target with
    | some .dir =>
      if (disk.top.get? location).isSome then return disk
      else return { disk with top := disk.top.plant location (.folder []) }
    | _ =>
      let content ← IO.FS.readBinFile target
      return { disk with top := disk.top.plant location (.file content.toList) }

/-- Copies the folders and links that a path leads through, and what it ends at. -/
def copyPath (disk : Disk) (path : Path) : IO Disk := do
  let mut disk := disk
  for front in path.ancestors ++ [path] do
    if let .ok (.vacant location) := disk.locate .lookAtEntry front then
      match ← kind? front.display with
      | some .dir => disk := { disk with top := disk.top.plant location (.folder []) }
      | some .symlink =>
        disk := { disk with top := disk.top.plant location (← linkFrom front.display) }
        disk ← copyEnd disk front.display
      | _ => pure ()
  copyEnd disk path.display

/-- The entries of a folder as a search sees them: files without their content, and folders that it
does not enter without their entries. -/
def entriesOf (enters : Nat → Name → Bool) : Nat → Nat → String → IO (List (Name × Node))
  | 0, _, _ => return []
  | budget + 1, depth, folder => do
    match ← (entryAt folder).path.readDir.toBaseIO with
    | .error _ => return []
    | .ok entries =>
      entries.toList.mapM fun entry => do
        let name := Utf8.encode entry.fileName.toList
        let path := entry.path.toString
        match ← kind? path with
        | some .symlink => return (name, ← linkFrom path)
        | some .dir =>
          if enters depth name then
            return (name, .folder (← entriesOf enters budget (depth + 1) path))
          else return (name, .folder [])
        | _ => return (name, .file [])

/-- Copies all that a run can see. -/
def copyFor (surroundings : Surroundings) (arguments : Arguments) (disk : Disk) : IO Disk := do
  let settings := Command.settingsPath surroundings arguments
  let root := Command.rootPath arguments
  let disk ← copyPath disk settings
  match Command.loadSettings surroundings arguments disk with
  | .error _ => return disk
  | .ok loaded =>
    let options := Command.searchOptions loaded.settings arguments
    let disk ← copyPath disk root
    match disk.find .look root with
    | .ok (location, .folder _) =>
      let enters := options.enters (Pattern.ofTexts options.excludes)
      let entries ← entriesOf enters options.depth 1 root.display
      let disk := disk.put location (.folder entries)
      match options.search disk root with
      | .ok found => (found.files ++ [settings]).foldlM (fun disk file => copyPath disk file) disk
      | .error _ => return disk
    | _ => return disk

/-- Writes the files that differ between two disks with the same entries. -/
def writeBack (before after : Disk) : IO Unit := do
  for ((location, old), (_, new)) in before.top.files.zip after.top.files do
    unless old == new do
      IO.FS.writeBinFile (pathOf location) ⟨new.toArray⟩

def surroundings : IO Surroundings := do
  let named (key : String) : IO (Option Text) := do
    return ((← IO.getEnv key).map String.toList).filter fun value => !value.isEmpty
  return ⟨host, Command.usualSettings (← named "XDG_CONFIG_HOME") (← named "HOME")⟩

def program (commandLine : List Text) : IO UInt32 := do
  let surroundings ← surroundings
  let here := locationOf (← IO.currentDir).toString
  let empty : Disk := ⟨(Node.folder []).plant here (.folder []), here⟩
  let disk ←
    match Arguments.parse commandLine with
    | .run arguments => copyFor surroundings arguments empty
    | _ => pure empty
  let done := Command.run surroundings commandLine disk
  writeBack disk done.disk
  IO.print (String.ofList done.output)
  for message in done.messages do
    IO.eprintln message
  return UInt32.ofNat done.code

end RegionToggle.Outer

def main (arguments : List String) : IO UInt32 :=
  RegionToggle.Outer.program (arguments.map String.toList)
