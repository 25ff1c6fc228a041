import RegionToggle.Settings.Basic

/-!
# Settings files

A settings file that was asked for by name has to be there and in order. The one in its usual place
need not: without it, or if it is of no use, the standard settings hold.
-/

namespace RegionToggle

inductive SettingsNotice where
  /-- One setting is not used. -/
  | warning (reason : SettingsWarning)
  /-- The whole file is not used. -/
  | unusable (failure : Failure)
  deriving DecidableEq, Repr

def SettingsNotice.message : SettingsNotice → String
  | .warning reason => reason.message
  | .unusable failure => failure.message ++ ". Using defaults."

structure LoadedSettings where
  settings : Settings
  notices : List SettingsNotice
  deriving DecidableEq, Repr

namespace Settings

/-- Loads a file that was asked for by name. -/
def loadFile (disk : Disk) (path : Path) : Except Failure LoadedSettings :=
  match disk.read path with
  | .error fault => .error (.settings (.unreadable path fault))
  | .ok bytes =>
    match Utf8.decode? bytes with
    | none => .error (.settings (.unreadable path .notText))
    | some text =>
      match SettingsDraft.ofText? text with
      | none => .error (.settings (.malformed path))
      | some draft => .ok ⟨draft.settle.settings, draft.settle.warnings.map .warning⟩

/-- Loads the file in its usual place. -/
def load (disk : Disk) (path : Path) : LoadedSettings :=
  if disk.reaches path then
    match loadFile disk path with
    | .ok loaded => loaded
    | .error failure => ⟨{}, [.unusable failure]⟩
  else ⟨{}, []⟩

end Settings

end RegionToggle
