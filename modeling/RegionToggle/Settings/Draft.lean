import RegionToggle.Toml.Document

/-!
# Drafts of settings

A draft is what a settings file asks for, each setting on its own and none of them checked. A value
of the wrong type spoils the whole draft; keys that are not known do not count.
-/

namespace RegionToggle

structure SettingsDraft where
  subfolder? : Option Text := none
  targets? : Option (List Text) := none
  excludes? : Option (List Text) := none
  skipsTopSubfolder? : Option Bool := none
  maxDepth? : Option Nat := none
  maxFiles? : Option Nat := none
  opening? : Option Text := none
  closing? : Option Text := none
  token? : Option Text := none
  outside? : Option Text := none
  logLevel? : Option Text := none
  deriving DecidableEq, Repr

namespace SettingsDraft

open Toml (Entries Value)

/-- The entries of a section of a file, given the keys that it may have. A section that is missing
has none. -/
def section? (keys : List Text) (name : Text) (file : Entries) : Option Entries :=
  match file.lookup name with
  | none => some []
  | some value => value.record? keys

/-- A setting of a section, read with a reader for its type. A setting that is missing is not asked
for. -/
def setting? {α : Type} (read? : Value → Option α) (key : Text) (entries : Entries) :
    Option (Option α) :=
  match entries.lookup key with
  | none => some none
  | some value => (read? value).map some

def searchKeys : List Text :=
  ["subdir_name".toList, "target_files".toList, "exclude_patterns".toList,
    "exclude_root_config_dir".toList, "max_depth".toList, "max_files".toList]

def markerKeys : List Text := ["start".toList, "end".toList]

def rewriteKeys : List Text := ["comment_token".toList, "outside_region".toList]

def logKeys : List Text := ["level".toList]

def sectionNames : List Text :=
  ["discovery".toList, "markers".toList, "rewrite".toList, "logging".toList]

def ofValue? (value : Value) : Option SettingsDraft := do
  let file ← value.record? sectionNames
  let search ← section? searchKeys "discovery".toList file
  let markers ← section? markerKeys "markers".toList file
  let rewrite ← section? rewriteKeys "rewrite".toList file
  let log ← section? logKeys "logging".toList file
  return {
    subfolder? := ← setting? Value.text? "subdir_name".toList search
    targets? := ← setting? Value.texts? "target_files".toList search
    excludes? := ← setting? Value.texts? "exclude_patterns".toList search
    skipsTopSubfolder? := ← setting? Value.flag? "exclude_root_config_dir".toList search
    maxDepth? := ← setting? Value.count? "max_depth".toList search
    maxFiles? := ← setting? Value.count? "max_files".toList search
    opening? := ← setting? Value.text? "start".toList markers
    closing? := ← setting? Value.text? "end".toList markers
    token? := ← setting? Value.text? "comment_token".toList rewrite
    outside? := ← setting? Value.text? "outside_region".toList rewrite
    logLevel? := ← setting? Value.text? "level".toList log }

def ofText? (t : Text) : Option SettingsDraft := (Toml.document? t).bind ofValue?

end SettingsDraft

end RegionToggle
