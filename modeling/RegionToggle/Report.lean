import RegionToggle.Json
import RegionToggle.Run

/-!
# Reports

The summary of a run as a JSON value. It has none if a path in it is no text.
-/

namespace RegionToggle

def Path.json? (path : Path) : Option JsonValue := path.text?.map .text

def JsonValue.ofMessages (messages : List String) : JsonValue :=
  .list (messages.map fun message => .text message.toList)

def RewriteStats.json (stats : RewriteStats) : JsonValue :=
  .object [
    ("lines", .count stats.lines),
    ("regions", .count stats.regions),
    ("commented", .count stats.commented),
    ("uncommented", .count stats.uncommented),
    ("unchanged", .count stats.unchanged),
    ("warnings", .ofMessages (stats.warnings.map (·.message)))]

def FileStatus.word : FileStatus → Text
  | .updated => "updated".toList
  | .unchanged => "unchanged".toList
  | .wouldUpdate => "would_update".toList

def FileOutcome.json? (outcome : FileOutcome) : Option JsonValue := do
  let path ← outcome.path.json?
  return .object [("path", path), ("status", .text outcome.status.word),
    ("stats", outcome.stats.json)]

def RunSummary.json? (summary : RunSummary) : Option JsonValue := do
  let root ← summary.root.json?
  let outcomes ← summary.outcomes.mapM FileOutcome.json?
  return .object [
    ("platform", .text summary.platform.label),
    ("root", root),
    ("dry_run", .bool summary.dryRun),
    ("files_discovered", .count summary.filesFound),
    ("outcomes", .list outcomes),
    ("warnings", .ofMessages (summary.warnings.map (·.message)))]

end RegionToggle
