import RegionToggle.Failure
import RegionToggle.Rewrite.Basic

/-!
# Runs

A run finds the targets below a root and rewrites them one after the other. A file that comes out
different is written back, or in a dry run only reported. The first file that cannot be read as text
or written ends the run; what was done before stays done.
-/

namespace RegionToggle

structure RunOptions where
  search : SearchOptions := {}
  rewrite : RewriteOptions
  dryRun : Bool := false
  deriving DecidableEq, Repr

inductive FileStatus where
  | updated
  | unchanged
  | wouldUpdate
  deriving DecidableEq, Repr

def FileStatus.label : FileStatus → String
  | .updated => "Updated"
  | .unchanged => "Unchanged"
  | .wouldUpdate => "Would update"

structure FileOutcome where
  path : Path
  status : FileStatus
  stats : RewriteStats
  deriving DecidableEq, Repr

/-- The line that tells of an outcome as soon as there is one. -/
def FileOutcome.progress (outcome : FileOutcome) : String :=
  outcome.status.label ++ " " ++ outcome.path.display

structure RunSummary where
  platform : Platform
  root : Path
  dryRun : Bool
  filesFound : Nat
  outcomes : List FileOutcome
  warnings : List SearchWarning
  deriving DecidableEq, Repr

def RunSummary.changedCount (summary : RunSummary) : Nat :=
  summary.outcomes.countP fun outcome => decide (outcome.status ≠ .unchanged)

def Disk.readText (disk : Disk) (path : Path) : Except Failure Text :=
  match disk.read path with
  | .error fault => .error (.file path .read fault)
  | .ok bytes =>
    match Utf8.decode bytes with
    | .error fault => .error (.encoding path fault)
    | .ok text => .ok text

def Disk.writeText (disk : Disk) (path : Path) (text : Text) : Except Failure Disk :=
  match disk.write path (Utf8.encode text) with
  | .error fault => .error (.file path .write fault)
  | .ok disk => .ok disk

/-- How far some files have been worked through: the disk by then, the outcomes in order, and the
failure that ended it, if one did. -/
structure Progress where
  disk : Disk
  outcomes : List FileOutcome
  failure? : Option Failure
  deriving Repr

/-- A run: the disk it leaves, the outcomes in the order in which they came about, and its summary
or the failure that stopped it. -/
structure Run where
  disk : Disk
  outcomes : List FileOutcome
  result : Except Failure RunSummary

namespace RunOptions

def processFile (options : RunOptions) (disk : Disk) (path : Path) :
    Except Failure (FileOutcome × Disk) :=
  match disk.readText path with
  | .error failure => .error failure
  | .ok content =>
    let rewritten := options.rewrite.rewrite content
    if rewritten.text = content then .ok (⟨path, .unchanged, rewritten.stats⟩, disk)
    else if options.dryRun then .ok (⟨path, .wouldUpdate, rewritten.stats⟩, disk)
    else
      match disk.writeText path rewritten.text with
      | .error failure => .error failure
      | .ok written => .ok (⟨path, .updated, rewritten.stats⟩, written)

/-- Works on files in order, up to the first failure. -/
def processFiles (options : RunOptions) (disk : Disk) : List Path → Progress
  | [] => ⟨disk, [], none⟩
  | path :: more =>
    match options.processFile disk path with
    | .error failure => ⟨disk, [], some failure⟩
    | .ok (outcome, disk) =>
      let rest := options.processFiles disk more
      { rest with outcomes := outcome :: rest.outcomes }

def run (options : RunOptions) (disk : Disk) (root : Path) : Run :=
  match options.search.search disk root with
  | .error problem => ⟨disk, [], .error (.search problem)⟩
  | .ok found =>
    let done := options.processFiles disk found.files
    { disk := done.disk
      outcomes := done.outcomes
      result :=
        match done.failure? with
        | some failure => .error failure
        | none => .ok {
            platform := options.rewrite.platform
            root
            dryRun := options.dryRun
            filesFound := found.files.length
            outcomes := done.outcomes
            warnings := found.warnings } }

end RunOptions

end RegionToggle
