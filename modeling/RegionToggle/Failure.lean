import RegionToggle.Discovery
import RegionToggle.Platform

/-!
# Failures

Whatever can stop a run, by cause. `message` words a failure and `causes` the failures behind it,
the nearest first.
-/

namespace RegionToggle

inductive SettingsProblem where
  /-- The file is not in the form of a settings file. -/
  | malformed (path : Path)
  | outOfRange (field value expected : String)
  | unreadable (path : Path) (fault : Fault)
  deriving DecidableEq, Repr

def SettingsProblem.message : SettingsProblem → String
  | .malformed path =>
    let shown := path.display
    s!"Config parse error '{shown}'"
  | .outOfRange field value expected =>
    s!"Config '{field}' = '{value}' is out of range. Expected: {expected}"
  | .unreadable path fault =>
    let shown := path.display
    let cause := fault.message
    s!"Config I/O error '{shown}': {cause}"

inductive FileOperation where
  | read
  | write
  deriving DecidableEq, Repr

def FileOperation.word : FileOperation → String
  | .read => "read"
  | .write => "write"

inductive Failure where
  | search (problem : SearchProblem)
  | settings (problem : SettingsProblem)
  | platform (problem : Platform.Problem)
  | file (path : Path) (operation : FileOperation) (fault : Fault)
  /-- A file to rewrite holds bytes that are no text; to write it back would spoil it. -/
  | encoding (path : Path) (fault : Utf8.Fault)
  deriving DecidableEq, Repr

namespace Failure

def message : Failure → String
  | .search problem => "Discovery error: " ++ problem.message
  | .settings problem => "Configuration error: " ++ problem.message
  | .platform problem => "Platform error: " ++ problem.message
  | .file path operation fault =>
    let shown := path.display
    let verb := operation.word
    let cause := fault.message
    s!"I/O error during {verb} on '{shown}': {cause}"
  | .encoding path fault =>
    let shown := path.display
    let cause := fault.message
    s!"'{shown}': invalid UTF-8 encoding: {cause}"

/-- The wordings of what lies behind a failure, the nearest first. -/
def causes : Failure → List String
  | .search problem =>
    problem.message :: match problem with
      | .rootDenied _ fault => [fault.message]
      | .rootMissing _ | .rootNotFolder _ => []
  | .settings problem =>
    problem.message :: match problem with
      | .unreadable _ fault => [fault.message]
      | .malformed _ | .outOfRange _ _ _ => []
  | .platform problem => [problem.message]
  | .file _ _ fault => [fault.message]
  | .encoding _ fault => [fault.message]

end Failure

end RegionToggle
