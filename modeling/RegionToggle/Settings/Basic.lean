import RegionToggle.Discovery
import RegionToggle.Failure
import RegionToggle.Log.Basic
import RegionToggle.Rewrite.Basic
import RegionToggle.Settings.Draft

/-!
# Settings

Settings are settled from a draft: each setting that the draft asks for is checked by itself, and
one that does not pass leaves a warning and the standard setting in its place. The opening and
closing texts are checked against each other as well, and fall back together.
-/

namespace RegionToggle

structure Settings where
  search : SearchOptions := {}
  dialect : Dialect := .standard
  outside : OutsidePolicy := .preserve
  logLevel? : Option LogLevel := none
  deriving DecidableEq, Repr

/-- The settings whose values are single short lines. -/
inductive LineSetting where
  | opening
  | closing
  | token
  deriving DecidableEq, Repr

def LineSetting.label : LineSetting → String
  | .opening => "[markers] start"
  | .closing => "[markers] end"
  | .token => "[rewrite] comment_token"

inductive SettingsWarning where
  | badSubfolder (name : Text)
  | noTargets
  | badDepth (value : Nat)
  | badFiles (value : Nat)
  | notOneLine (setting : LineSetting)
  | tooLong (setting : LineSetting) (value : Text)
  | overlap (opening closing : Text)
  | unknownPolicy (name : Text)
  | unknownLevel (name : Text)
  deriving DecidableEq, Repr

namespace SettingsWarning

def lineLimit : Nat := 64

def outOfRange (field value expected : String) : String :=
  (SettingsProblem.outOfRange field value expected).message ++ ". Using default."

def message : SettingsWarning → String
  | .badSubfolder name =>
    let name := String.ofList name
    s!"[discovery] subdir_name = \"{name}\" must be a single directory name. " ++
      "Using default (\".vscode\")."
  | .noTargets =>
    "[discovery] target_files is empty; nothing would be processed. Using defaults."
  | .badDepth value =>
    let cap := SearchOptions.depthCap
    outOfRange "[discovery] max_depth" (toString value) s!"1-{cap}"
  | .badFiles value =>
    let cap := SearchOptions.filesCap
    outOfRange "[discovery] max_files" (toString value) s!"1-{cap}"
  | .notOneLine setting =>
    setting.label ++ " must be a non-empty single-line string. Using default."
  | .tooLong setting value =>
    outOfRange setting.label (String.ofList value) s!"at most {lineLimit} bytes"
  | .overlap opening closing =>
    let opening := String.ofList opening
    let closing := String.ofList closing
    s!"[markers] start (\"{opening}\") and end (\"{closing}\") overlap. Using defaults."
  | .unknownPolicy name =>
    let name := String.ofList name
    s!"[rewrite] outside_region = \"{name}\" is not recognised. " ++
      "Valid values: preserve, uncomment, label. Using default (preserve)."
  | .unknownLevel name =>
    let name := String.ofList name
    s!"[logging] level = \"{name}\" is not recognised. " ++
      "Valid values: error, warn, info, debug, trace. Using default (warn)."

end SettingsWarning

structure Settled where
  settings : Settings
  warnings : List SettingsWarning
  deriving DecidableEq, Repr

namespace SettingsDraft

/-- Whether a text can be the name of a folder: it is not empty, is neither of the names that stand
for folders, and has no slash of either kind in it. -/
def isFolderName (name : Text) : Bool :=
  !name.isEmpty && name != ".".toList && name != "..".toList &&
    !name.contains '/' && !name.contains '\\'

def checkSubfolder (name : Text) : Except SettingsWarning Text :=
  if isFolderName name then .ok name else .error (.badSubfolder name)

/-- Checks the patterns for targets: there must be one. -/
def checkTargets (patterns : List Text) : Except SettingsWarning (List Text) :=
  if patterns.isEmpty then .error .noTargets else .ok patterns

def checkDepth (depth : Nat) : Except SettingsWarning Nat :=
  if 1 ≤ depth ∧ depth ≤ SearchOptions.depthCap then .ok depth else .error (.badDepth depth)

def checkFiles (files : Nat) : Except SettingsWarning Nat :=
  if 1 ≤ files ∧ files ≤ SearchOptions.filesCap then .ok files else .error (.badFiles files)

/-- Checks a marker or a token: it must have something in it, keep to one line, and be short. -/
def checkLine (setting : LineSetting) (value : Text) : Except SettingsWarning Text :=
  if Text.isAllBlank value || value.contains '\n' || value.contains '\r' then
    .error (.notOneLine setting)
  else if SettingsWarning.lineLimit < (Utf8.encode value).length then
    .error (.tooLong setting value)
  else .ok value

def checkPolicy (name : Text) : Except SettingsWarning OutsidePolicy :=
  match OutsidePolicy.ofName? name with
  | some policy => .ok policy
  | none => .error (.unknownPolicy name)

def checkLevel (name : Text) : Except SettingsWarning (Option LogLevel) :=
  match LogLevel.ofName? name with
  | some level => .ok (some level)
  | none => .error (.unknownLevel name)

/-- The setting to use: the one asked for if it passes its check, else the standard one, with a
warning if it was asked for in vain. -/
def adopt {α β : Type} (standard : β) (check : α → Except SettingsWarning β) :
    Option α → β × List SettingsWarning
  | none => (standard, [])
  | some asked =>
    match check asked with
    | .ok value => (value, [])
    | .error warning => (standard, [warning])

/-- Whether one of two markers occurs in the other, so that no line could tell them apart. -/
def overlaps (opening closing : Text) : Bool :=
  Text.occurs closing opening || Text.occurs opening closing

/-- The markers to use: both of a pair, or both standard ones if the pair overlaps. -/
def settleMarkers (opening closing : Text) : (Text × Text) × List SettingsWarning :=
  if overlaps opening closing then
    ((Dialect.standardOpening, Dialect.standardClosing), [.overlap opening closing])
  else ((opening, closing), [])

def settle (draft : SettingsDraft) : Settled :=
  let standard : SearchOptions := {}
  let subfolder := adopt standard.subfolder checkSubfolder draft.subfolder?
  let targets := adopt standard.targets checkTargets draft.targets?
  let depth := adopt standard.maxDepth checkDepth draft.maxDepth?
  let files := adopt standard.maxFiles checkFiles draft.maxFiles?
  let opening := adopt Dialect.standardOpening (checkLine .opening) draft.opening?
  let closing := adopt Dialect.standardClosing (checkLine .closing) draft.closing?
  let markers := settleMarkers opening.1 closing.1
  let token := adopt Dialect.standardToken (checkLine .token) draft.token?
  let outside := adopt OutsidePolicy.preserve checkPolicy draft.outside?
  let level := adopt none checkLevel draft.logLevel?
  { settings :=
      { search :=
          { subfolder := subfolder.1
            targets := targets.1
            excludes := draft.excludes?.getD standard.excludes
            skipsTopSubfolder := draft.skipsTopSubfolder?.getD standard.skipsTopSubfolder
            maxDepth := depth.1
            maxFiles := files.1 }
        dialect := ⟨markers.1.1, markers.1.2, token.1⟩
        outside := outside.1
        logLevel? := level.1 }
    warnings := subfolder.2 ++ targets.2 ++ depth.2 ++ files.2 ++ opening.2 ++ closing.2 ++
      markers.2 ++ token.2 ++ outside.2 ++ level.2 }

end SettingsDraft

end RegionToggle
