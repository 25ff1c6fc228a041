import RegionToggle.Proofs.OneFile

/-!
# A run changes targets only

Whatever a run changes is a file that the path of a target leads to, and stays a file. Where the
target is no link, it is the target itself that changes. A target that is a link is written through:
the file that it leads to changes, wherever that is.
-/

namespace RegionToggle

namespace SearchOptions

variable {options : SearchOptions} {disk : Disk} {root : Path} {base names : Location}
  {entries : List (Name × Node)} {t : Text}

/-- Whether some names are those from a root, which leads to the folder at `base`, down to a target
that a search finds. -/
structure FindsTarget (options : SearchOptions) (disk : Disk) (root : Path)
    (base names : Location) : Prop where
  root_leads : ∃ entries, disk.find .look root = .ok (base, .folder entries)
  below : names ≠ []
  found : ∃ found, options.search disk root = .ok found ∧ root.descend names ∈ found.files
  holder : (holder? root names).bind Utf8.decode? = some options.subfolder

/-- Without links the folder right above an entry has the name that the path to it says. -/
theorem holder_eq (hfree : disk.top.isLinkFree = true)
    (hf : disk.find .look root = .ok (base, .folder entries)) (hne : names ≠ [])
    (h : (holder? root names).bind Utf8.decode? = some t) :
    ((base ++ names).dropLast.getLast?).bind Utf8.decode? = some t := by
  rw [List.dropLast_append_of_ne_nil hne]
  rw [holder?] at h
  cases hlast : names.dropLast.getLast? with
  | some name =>
    have hd : names.dropLast ≠ [] := by
      rintro hnil
      simp [hnil] at hlast
    rw [List.getLast?_append_of_ne_nil _ hd, hlast]
    simpa [hlast] using h
  | none =>
    rw [List.getLast?_eq_none_iff.mp hlast, List.append_nil]
    simp only [hlast, List.isEmpty_iff, if_neg hne, Option.bind_eq_some_iff] at h
    obtain ⟨name, hn, hd⟩ := h
    rw [Disk.getLast?_of_find hfree hf hn]
    exact hd

end SearchOptions

namespace RunOptions

variable {options : RunOptions} {disk : Disk} {root : Path} {location : Location}
  {paths : List Path}

/-- What work on files changes is a file that one of the paths leads to, before any work. -/
theorem processFiles_changes
    (h : (options.processFiles disk paths).disk.top.entryAt? location ≠
      disk.top.entryAt? location) :
    ∃ path ∈ paths, ∃ old new, disk.find .look path = .ok (location, .file old) ∧
      (options.processFiles disk paths).disk.top.get? location = some (.file new) := by
  induction paths generalizing disk with
  | nil => exact absurd rfl h
  | cons path more ih =>
    rw [processFiles] at h ⊢
    cases hp : options.processFile disk path with
    | error failure => simp [hp] at h
    | ok result =>
      obtain ⟨outcome, disk'⟩ := result
      obtain ⟨at', text, hf, -, hrefilled⟩ := processFile_eq_ok hp
      simp only [hp] at h ⊢
      by_cases hlater : (options.processFiles disk' more).disk.top.entryAt? location =
          disk'.top.entryAt? location
      · -- nothing behind this file changes the location, so the work on this file does
        rw [hlater] at h
        obtain rfl : location = at' := by
          by_contra hne
          exact h (hrefilled.entryAt?_of_ne hne)
        refine ⟨path, List.mem_cons_self, Utf8.encode text, Utf8.encode (options.textLeft text), hf,
          ?_⟩
        rw [← Node.entryAt?_eq_file_iff, hlater, Node.entryAt?_eq_file_iff]
        exact hrefilled.get?_self
      · obtain ⟨later, hm, old, new, hlf, hnew⟩ := ih hlater
        obtain ⟨old', hlf'⟩ := (hrefilled.alike (Disk.get?_of_find hf)).symm.find_file hlf
        exact ⟨later, List.mem_cons_of_mem _ hm, old', new, hlf', hnew⟩

/-- Whatever a run changes is a file, and stays one, that the path of a target leads to. It is the
target itself, in a folder of the configured name as the path has it, unless the target is a link.
In a tree without links it is the target itself, and the folder that it is in has that name. -/
theorem run_changes_targets_only (ht : disk.top.isTree = true)
    (h : (options.run disk root).disk.top.entryAt? location ≠ disk.top.entryAt? location) :
    ∃ base names old new, options.search.FindsTarget disk root base names ∧
      disk.find .look (root.descend names) = .ok (location, .file old) ∧
      (options.run disk root).disk.top.get? location = some (.file new) ∧
      (location = base ++ names ∨ ∃ target, disk.top.get? (base ++ names) = some (.link target)) ∧
      (disk.top.isLinkFree = true →
        location = base ++ names ∧
          location.dropLast.getLast?.bind Utf8.decode? = some options.search.subfolder) := by
  rw [run] at h ⊢
  cases hs : options.search.search disk root with
  | error problem => simp [hs] at h
  | ok found =>
    simp only [hs] at h ⊢
    obtain ⟨path, hm, old, new, hf, hnew⟩ := processFiles_changes h
    obtain ⟨base, entries, hbase, leaves, hfiles, -, hleaves⟩ := SearchOptions.search_eq_ok ht hs
    rw [hfiles] at hm
    obtain ⟨names, hmem, rfl⟩ := List.mem_map.mp hm
    obtain ⟨htarget, hleaf⟩ := hleaves names hmem
    rcases hleaf with ⟨rfl, -⟩ | ⟨hne, node, hg, hnofolder⟩
    · -- the root itself leads to a folder
      obtain ⟨-, hn⟩ := Prod.mk.inj (Except.ok.inj (hf.symm.trans hbase))
      simp at hn
    have hitself : (∀ target, node ≠ .link target) → location = base ++ names := by
      intro hlink
      have hl : disk.locate .look (root.descend names) = _ :=
        Disk.locate_descend ht hbase hg hne fun _ => hlink
      rw [Disk.find_eq_ok_iff_locate.mp hf] at hl
      split at hl
      · simp at hl
      · exact (Place.found.inj (Except.ok.inj hl)).1
    have hfinds : options.search.FindsTarget disk root base names :=
      ⟨⟨entries, hbase⟩, hne, ⟨found, hs, by rw [hfiles]; exact hm⟩, htarget.holder⟩
    refine ⟨base, names, old, new, hfinds, hf, hnew, ?_, fun hfree => ?_⟩
    · cases node with
      | link target => exact .inr ⟨target, hg⟩
      | file content => exact .inl (hitself (by simp))
      | folder inner => exact absurd rfl (hnofolder inner)
    · have heq := hitself fun target hlink => Node.get?_ne_link hfree _ target (hlink ▸ hg)
      rw [heq]
      exact ⟨rfl, SearchOptions.holder_eq hfree hbase hne htarget.holder⟩

end RunOptions

/-! ### A target that is a link

A workspace `ws` whose `.vscode/settings.json` is a link to `notes.json`, which lies beside it. -/

namespace LinkedNotes

open Sample

def notes : Name := Utf8.encode "notes.json".toList

def workspace : Name := Utf8.encode "ws".toList

def entries : List (Name × Node) :=
  [(folder, .folder [(file, .link (.ofText "../../notes.json".toList))])]

/-- The disk with the workspace and the file beside it. -/
def disk : Disk where
  top := .folder [(notes, .file (Utf8.encode text)), (workspace, .folder entries)]
  here := []

def root : Path := .ofText "ws".toList

def path : Path := root.descend [folder, file]

theorem find_root (approach : Approach) :
    disk.find approach root = .ok ([workspace], .folder entries) :=
  Disk.find_eq_ok_iff.mpr ⟨by decide +kernel,
    Disk.walk_names rfl (by decide +kernel) (by decide +kernel) fun _ target => by simp⟩

theorem search_eq : toLinux.search.search disk root = .ok ⟨[path], []⟩ := by
  have hsurvey : search.survey disk root = .ok [.leaf [folder, file]] := by
    simp only [SearchOptions.survey, find_root]
    decide +kernel
  exact (SearchOptions.search_of_survey hsurvey).trans (congrArg Except.ok (select_eq root))

/-- Looked at or written to, the path of the link leads to the file outside. -/
theorem locate_path (makes : Bool) :
    disk.locate ⟨true, makes⟩ path = .ok (.found [notes] (.file (Utf8.encode text))) := by
  have hcheck : Disk.checkPath path = .ok () := by decide +kernel
  have hstart : Disk.start disk.here path = [] := by decide +kernel
  have hsegments : path.segments = [workspace, folder, file] := by decide +kernel
  rw [Disk.locate, hcheck, hstart, hsegments]
  cases makes
  all_goals
    calc
      _ = disk.walk _ 40 [workspace] [folder, file] := Disk.walk_cons ..
      _ = disk.walk _ 40 [workspace, folder] [file] := Disk.walk_cons ..
      _ = disk.walk _ 39 [workspace, folder] [Path.above, Path.above, notes] :=
        Disk.walk_cons ..
      _ = disk.walk _ 39 [workspace] [Path.above, notes] := Disk.walk_cons ..
      _ = disk.walk _ 39 [] [notes] := Disk.walk_cons ..
      _ = .ok (.found [notes] (.file (Utf8.encode text))) := Disk.walk_cons ..

/-- The switch writes through the link. -/
theorem run_changes_notes :
    (toLinux.run disk root).disk.top.entryAt? [notes] ≠ disk.top.entryAt? [notes] := by
  have hlook : disk.locate .look path = _ := locate_path false
  have hread : disk.readText path = .ok text :=
    Disk.readText_eq_ok_iff.mpr ⟨_, Disk.find_eq_ok_iff_locate.mpr hlook⟩
  obtain ⟨disk', hp⟩ : ∃ disk', toLinux.processFile disk path = .ok (_, disk') :=
    RunOptions.exists_processFile_eq_ok ((locate_path true).trans hlook.symm) hread
  obtain ⟨at', text', hf, -, hrefilled⟩ := RunOptions.processFile_eq_ok hp
  rw [Disk.find_eq_ok_iff_locate, hlook, Except.ok.injEq, Place.found.injEq, Node.file.injEq] at hf
  obtain ⟨rfl, hencode⟩ := hf
  obtain rfl := Utf8.encode_injective hencode
  have hchanged : toLinux.textLeft text ≠ text := by
    rw [RunOptions.textLeft, rewrite_text]
    exact switched_ne
  have hdisk : (toLinux.run disk root).disk = disk' := by
    simp only [RunOptions.run, search_eq, RunOptions.processFiles, hp]
  rw [hdisk, Node.entryAt?_eq_file_iff.mpr hrefilled.get?_self]
  intro h
  exact hchanged (Utf8.encode_injective (Entry.file.inj (Option.some.inj h)))

/-- Where a search finds targets, the file outside is none of them. -/
theorem notes_ne {base names : Location}
    (h : toLinux.search.FindsTarget disk root base names) : [notes] ≠ base ++ names := by
  obtain ⟨entries, hbase⟩ := h.root_leads
  rw [find_root] at hbase
  obtain ⟨rfl, -⟩ := Prod.mk.inj (Except.ok.inj hbase)
  intro heq
  exact absurd (List.cons.inj heq).1 (by decide +kernel)

theorem run_changes_through_link :
    ∃ base names target, toLinux.search.FindsTarget disk root base names ∧
      disk.top.get? (base ++ names) = some (.link target) := by
  obtain ⟨base, names, -, -, hfinds, -, -, hitself, -⟩ :=
    RunOptions.run_changes_targets_only (by decide +kernel) run_changes_notes
  obtain ⟨target, hlink⟩ := hitself.resolve_left (notes_ne hfinds)
  exact ⟨base, names, target, hfinds, hlink⟩

/-- The run changes a file that is none of the targets, nor below the root. -/
theorem run_changes_file_outside :
    disk.top.isTree = true ∧
      (toLinux.run disk root).disk.top.entryAt? [notes] ≠ disk.top.entryAt? [notes] ∧
      ∀ base names, toLinux.search.FindsTarget disk root base names → [notes] ≠ base ++ names :=
  ⟨by decide +kernel, run_changes_notes, fun _ _ => notes_ne⟩

end LinkedNotes

end RegionToggle
