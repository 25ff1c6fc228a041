import RegionToggle.Text.Basic

/-!
# Platforms

The three platforms that a section can be written for, the labels that name them, and how a run
comes by the one it keeps active.
-/

namespace RegionToggle

inductive Platform where
  | windows
  | macOS
  | linux
  deriving DecidableEq, Repr

namespace Platform

/-- Every platform, in the order of display. -/
def all : List Platform := [.windows, .macOS, .linux]

def label : Platform → Text
  | .windows => "Windows".toList
  | .macOS => "MacOS".toList
  | .linux => "Linux".toList

/-- The small-letter labels that name a platform. -/
def aliases : Platform → List Text
  | .windows => ["windows".toList, "win".toList, "win32".toList, "win64".toList]
  | .macOS => ["macos".toList, "mac".toList, "osx".toList, "darwin".toList]
  | .linux => ["linux".toList]

def hostName : Platform → Text
  | .windows => "windows".toList
  | .macOS => "macos".toList
  | .linux => "linux".toList

/-- The platform that a label names; blanks around it and ASCII case do not count. -/
def ofLabel? (label : Text) : Option Platform :=
  all.find? fun p => p.aliases.contains label.trim.lower

def ofHost? (name : Text) : Option Platform :=
  all.find? fun p => p.hostName == name

def isNamedBy (p : Platform) (label : Text) : Bool := ofLabel? label == some p

theorem isNamedBy_iff {p : Platform} {label : Text} :
    p.isNamedBy label = true ↔ ofLabel? label = some p := by
  simp [isNamedBy]

inductive Problem where
  /-- The host system is none of the three platforms. -/
  | unsupportedHost (name : Text)
  /-- A label that names no platform. -/
  | unknownLabel (label : Text)
  deriving DecidableEq, Repr

def Problem.message : Problem → String
  | .unsupportedHost name =>
    let name := String.ofList name
    s!"Host OS '{name}' is not supported. Pass --platform windows|macos|linux explicitly."
  | .unknownLabel label =>
    let label := String.ofList label
    s!"Unknown platform '{label}'. Expected one of: windows, macos, linux."

def parse (label : Text) : Except Problem Platform :=
  match ofLabel? label with
  | some p => .ok p
  | none => .error (.unknownLabel label)

/-- The platform of a host system that has to be one of the three. -/
def ofHost (name : Text) : Except Problem Platform :=
  match ofHost? name with
  | some p => .ok p
  | none => .error (.unsupportedHost name)

/-- The platform to keep active: the one asked for, else the host's. -/
def choose (host : Text) : Option Text → Except Problem Platform
  | some label => parse label
  | none => ofHost host

end Platform

end RegionToggle
