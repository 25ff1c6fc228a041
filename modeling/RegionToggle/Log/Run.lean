import RegionToggle.Log.Basic
import RegionToggle.Run
import RegionToggle.Settings.File

/-!
# What is logged of a run

The records of a run in the order of events: the settings that are not used, where the search
starts, what it finds, what becomes of each file, and the failure that ends the run.
-/

namespace RegionToggle

namespace LogRecord

def ofNotice (notice : SettingsNotice) : LogRecord :=
  ⟨.warn, "Config warning", [("warning", notice.message)]⟩

def ofSearch (options : SearchOptions) (root : Path) : LogRecord :=
  ⟨.debug, "Discovery starting", [("root", root.display),
    ("subdir", String.ofList options.subfolder), ("max_depth", toString options.depth),
    ("max_files", toString options.limit), ("targets", quotedList options.targets),
    ("exclude", quotedList options.excludes)]⟩

/-- Patterns that are not well formed and so are left out. -/
def ofPatterns (kind : Text) (patterns : List Text) : List LogRecord :=
  (patterns.filter fun pattern => (Pattern.ofText? pattern).isNone).map fun pattern =>
    ⟨.warn, "Invalid glob pattern, skipping", [("pattern", quoted pattern), ("kind", quoted kind)]⟩

/-- The folder right below the root that a search keeps out of, if there is one. -/
def ofSkipped (options : SearchOptions) (disk : Disk) (root : Path) : List LogRecord :=
  let folder := root.child (Utf8.encode options.subfolder)
  match options.skipsTopSubfolder, disk.find .lookAtEntry folder with
  | true, .ok (_, .folder _) =>
    [⟨.debug, "Skipping root config directory", [("dir", folder.display)]⟩]
  | _, _ => []

/-- What is met below a root, under verdicts on entries. -/
def ofSight? (judge : Location → Verdict) (root : Path) : Sight → Option LogRecord
  | .leaf names =>
    if judge names = .target then
      some ⟨.trace, "Target file found", [("file", (root.descend names).display)]⟩
    else none
  | .shut names fault =>
    let warning : SearchWarning := .folderShut (root.descend names) fault
    some ⟨.debug, "Discovery warning", [("warning", warning.message)]⟩

def ofWarning (warning : SearchWarning) : LogRecord :=
  ⟨.warn, "Discovery warning", [("warning", warning.message)]⟩

def ofRewrites (options : RunOptions) (root : Path) (found : Found) : LogRecord :=
  ⟨.info, "Switching configuration files", [("root", root.display),
    ("platform", String.ofList options.rewrite.platform.label),
    ("files", toString found.files.length), ("dry_run", toString options.dryRun)]⟩

/-- What became of a file, behind the warnings about its regions. -/
def ofOutcome (outcome : FileOutcome) : List LogRecord :=
  let file := ("file", outcome.path.display)
  let stats := outcome.stats
  (stats.warnings.map fun warning =>
    ⟨.warn, "Switch region problem", [file, ("warning", warning.message)]⟩) ++
  [⟨.debug, "File processed", [file, ("status", quoted outcome.status.label.toList),
    ("commented", toString stats.commented), ("uncommented", toString stats.uncommented),
    ("regions", toString stats.regions)]⟩]

def ofFailure (failure : Failure) : LogRecord :=
  ⟨.error, "Run failed", [("error", failure.message)]⟩

/-- The records of a run on a disk that has come to some outcomes, but for its failure. A search
that could not start leaves none. -/
def ofRun (options : RunOptions) (disk : Disk) (root : Path) (outcomes : List FileOutcome) :
    List LogRecord :=
  let search := options.search
  match search.survey disk root with
  | .error _ => []
  | .ok sights =>
    let found := search.select root sights
    let judge := search.judge (Pattern.ofTexts search.targets) root
    [ofSearch search root] ++ ofPatterns "target".toList search.targets ++
      ofPatterns "exclude".toList search.excludes ++ ofSkipped search disk root ++
      sights.filterMap (ofSight? judge root) ++ found.warnings.map ofWarning ++
      [ofRewrites options root found] ++ outcomes.flatMap ofOutcome

end LogRecord

end RegionToggle
