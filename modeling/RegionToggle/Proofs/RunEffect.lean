import RegionToggle.Proofs.Worklist

/-!
# What a run does

A run that writes, in a tree without links, does one thing at a time: the files that the search
finds hold their rewritten texts, in order, up to the first that cannot be read. Nothing else
changes, and what the run tells is what it has done.
-/

namespace RegionToggle

namespace RunOptions

variable {options : RunOptions} {disk disk' : Disk} {root : Path} {base : Location}
  {text : Location → Text} {done more : List Location} {stop : Option Failure} {found : Found}

/-- Whether a run has rewritten the files at some places below the folder at `base`, which have some
texts, and has done nothing else. There is one outcome for each of these files, in order; it is
`updated` exactly if the file has changed. -/
structure Rewrote (options : RunOptions) (disk : Disk) (root : Path) (base : Location)
    (text : Location → Text) (done : List Location) (run : Run) : Prop where
  here : run.disk.here = disk.here
  holds : ∀ names ∈ done, run.disk.top.get? (base ++ names) =
    some (.file (Utf8.encode (options.rewrite.rewrite (text names)).text))
  others : ∀ location, (∀ names ∈ done, location ≠ base ++ names) →
    run.disk.top.entryAt? location = disk.top.entryAt? location
  outcomes : run.outcomes = done.map fun names =>
    { path := root.descend names
      status :=
        if run.disk.top.entryAt? (base ++ names) = disk.top.entryAt? (base ++ names) then .unchanged
        else .updated
      stats := (options.rewrite.rewrite (text names)).stats }

/-- Where work on files writes, it rewrites them. -/
theorem rewrote_of_worked (hwrites : options.dryRun = false)
    (hreads : ∀ names ∈ done, disk.Reads (root.descend names) (base ++ names) (text names))
    (h : options.Worked base text done disk disk') (result : Except Failure RunSummary) :
    options.Rewrote disk root base text done
      ⟨disk', done.map fun names => options.outcomeFor (root.descend names) (text names),
        result⟩ := by
  have hleft : ∀ t, options.textLeft t = (options.rewrite.rewrite t).text := fun t => by
    rw [textLeft, hwrites, if_neg Bool.false_ne_true]
  refine ⟨h.alike.here, fun names hm => hleft (text names) ▸ h.holds names hm, h.others, ?_⟩
  refine List.map_congr_left fun names hm => ?_
  have hold := Node.entryAt?_eq_file_iff.mpr (hreads names hm).holds
  have hnew := Node.entryAt?_eq_file_iff.mpr (h.holds names hm)
  have hsame : disk'.top.entryAt? (base ++ names) = disk.top.entryAt? (base ++ names) ↔
      (options.rewrite.rewrite (text names)).text = text names := by
    rw [hnew, hold, hleft, Option.some.injEq, Entry.file.injEq]
    exact ⟨Utf8.encode_injective, congrArg _⟩
  simp [outcomeFor, hwrites, hsame]

/-- As many outcomes tell of a change as files have changed. -/
theorem Rewrote.countP_outcomes {run : Run} (h : options.Rewrote disk root base text done run) :
    (run.outcomes.countP fun outcome => decide (outcome.status ≠ .unchanged)) =
      done.countP fun names => decide
        (run.disk.top.entryAt? (base ++ names) ≠ disk.top.entryAt? (base ++ names)) := by
  rw [h.outcomes, List.countP_map]
  refine List.countP_congr fun names _ => ?_
  by_cases hsame : run.disk.top.entryAt? (base ++ names) = disk.top.entryAt? (base ++ names) <;>
    simp [hsame]

/-- What a run does that finds the files `base ++ names`, for `names` in `leaves`, by the paths
`root.descend names`. -/
structure Effect (options : RunOptions) (disk : Disk) (root : Path) (found : Found)
    (base : Location) (leaves : List Location) (run : Run) : Prop where
  root_leads : ∃ entries, disk.find .look root = .ok (base, .folder entries)
  files : found.files = leaves.map root.descend
  nodup : leaves.Nodup
  are_files : ∀ names ∈ leaves, ∃ content, disk.top.get? (base ++ names) = some (.file content)
  /-- If all files can be read, it rewrites them all, and its summary says so. -/
  all_read : ∀ text : Location → Text,
    (∀ names ∈ leaves, disk.Reads (root.descend names) (base ++ names) (text names)) →
      options.Rewrote disk root base text leaves run ∧
      ∃ summary, run.result = .ok summary ∧ summary.filesFound = found.files.length ∧
        summary.outcomes = run.outcomes ∧ summary.warnings = found.warnings ∧
        summary.changedCount = leaves.countP fun names => decide
          (run.disk.top.entryAt? (base ++ names) ≠ disk.top.entryAt? (base ++ names))
  /-- Otherwise it rewrites those in front of the first that cannot be read, and ends in the failure
  that says why that one cannot. -/
  one_refused : ∀ (text : Location → Text) done names more failure,
    leaves = done ++ names :: more →
    (∀ before ∈ done, disk.Reads (root.descend before) (base ++ before) (text before)) →
    disk.Refuses (root.descend names) (base ++ names) failure →
      options.Rewrote disk root base text done run ∧ run.result = .error failure

/-- A run without dry run in a tree without links does nothing if the search fails, and else just
what is to be done about the files that the search finds. -/
theorem run_effect (hwrites : options.dryRun = false) (ht : disk.top.isTree = true)
    (hfree : disk.top.isLinkFree = true) :
    (∀ problem, options.search.search disk root = .error problem →
      options.run disk root = ⟨disk, [], .error (.search problem)⟩) ∧
    ∀ found, options.search.search disk root = .ok found →
      ∃ base leaves, options.Effect disk root found base leaves (options.run disk root) := by
  refine ⟨fun problem hs => by rw [run, hs], fun found hs => ?_⟩
  obtain ⟨base, entries, hbase, leaves, hfiles, hnodup, hnames⟩ :=
    SearchOptions.names_of_search ht hfree hs
  refine ⟨base, leaves, ⟨entries, hbase⟩, hfiles, hnodup, fun names hm => (hnames names hm).file,
    fun text hreads => ?_, fun text done names more failure hsplit hreads hrefuses => ?_⟩
  · obtain ⟨disk', hworked, hrun⟩ : ∃ disk', options.Worked base text leaves disk disk' ∧ _ :=
      run_eq hs (by rw [List.append_nil, hfiles]) (by rwa [List.append_nil])
        (by rwa [List.append_nil]) hreads .allDone
    have hrewrote := rewrote_of_worked hwrites hreads hworked (options.run disk root).result
    rw [hrun] at hrewrote ⊢
    exact ⟨hrewrote, _, rfl, rfl, rfl, rfl, hrewrote.countP_outcomes⟩
  · subst hsplit
    obtain ⟨disk', hworked, hrun⟩ : ∃ disk', options.Worked base text done disk disk' ∧ _ :=
      run_eq hs hfiles hnodup hnames hreads (.refused hrefuses)
    rw [hrun]
    exact ⟨rewrote_of_worked hwrites hreads hworked _, rfl⟩

end RunOptions

/-! ### A target that is no text

A folder with three targets. The first and the last hold a text that a switch to Linux changes, and
the second holds a byte that is no text. -/

namespace SpoiltTarget

open Sample

def early : Name := Utf8.encode "c_cpp_properties.json".toList

def spoilt : Name := Utf8.encode "launch.json".toList

/-- Where the targets are, in order. -/
def targets : List Location := [[folder, early], [folder, spoilt], [folder, file]]

def entries : List (Name × Node) :=
  [(folder, .folder [(early, .file (Utf8.encode text)), (spoilt, .file [0xFF]),
    (file, .file (Utf8.encode text))])]

def disk : Disk := ⟨.folder entries, []⟩

def root : Path := ⟨Path.here⟩

theorem find_root (approach : Approach) : disk.find approach root = .ok ([], .folder entries) :=
  Disk.find_of_staysHere rfl rfl rfl (by decide)

theorem search_eq : toLinux.search.search disk root = .ok ⟨targets.map root.descend, []⟩ := by
  have hsurvey : search.survey disk root = .ok (targets.map .leaf) := by
    simp only [SearchOptions.survey, find_root]
    decide +kernel
  let judge := search.judge (Pattern.ofTexts search.targets) root
  have htargets : (targets.map .leaf).filterMap (Sight.target? judge) = targets := by
    decide +kernel
  have hwarnings : (targets.map .leaf).filterMap (Sight.warning? judge root) = [] := by
    decide +kernel
  have hsorted : targets.mergeSort SearchOptions.precedes = targets :=
    List.mergeSort_of_pairwise (by decide +kernel)
  calc toLinux.search.search disk root
    _ = .ok (search.select root (targets.map .leaf)) := SearchOptions.search_of_survey hsurvey
    _ = .ok ⟨targets.map root.descend, []⟩ := by
      simp only [SearchOptions.select]
      rw [htargets, hwarnings, hsorted]
      rfl

theorem isTree_top : disk.top.isTree = true := by decide +kernel

theorem isLinkFree_top : disk.top.isLinkFree = true := by decide

theorem short_of_mem : ∀ names ∈ targets, (root.descend names).bytes.length ≤ Disk.maxPath := by
  decide +kernel

theorem get?_of_mem : ∀ names ∈ targets, ∃ content, disk.top.get? names = some (.file content) := by
  simp only [targets, List.forall_mem_cons]
  exact ⟨⟨_, rfl⟩, ⟨_, rfl⟩, ⟨_, rfl⟩, by simp⟩

/-- Below this root a path tells the names that lead to it. -/
theorem map_steps_descend {leaves : List Location}
    (h : ∀ names ∈ leaves, ∃ content, disk.top.get? names = some (.file content)) :
    (leaves.map root.descend).map Path.steps = leaves := by
  rw [List.map_map, List.map_congr_left, List.map_id]
  intro names hm
  obtain ⟨content, hg⟩ := h names hm
  exact Path.steps_descend (by decide) (Node.isProper_of_get? isTree_top hg)

/-- An effect on what the search finds is one on the targets. -/
theorem targets_of_effect {base : Location} {leaves : List Location} {run : Run}
    (h : toLinux.Effect disk root ⟨targets.map root.descend, []⟩ base leaves run) :
    base = [] ∧ leaves = targets := by
  obtain ⟨_, hbase⟩ := h.root_leads
  rw [find_root] at hbase
  obtain ⟨rfl, -⟩ := Prod.mk.inj (Except.ok.inj hbase)
  have hsteps := congrArg (List.map Path.steps) h.files
  rw [map_steps_descend get?_of_mem, map_steps_descend h.are_files] at hsteps
  exact ⟨rfl, hsteps.symm⟩

theorem reads_early : disk.Reads (root.descend [folder, early]) [folder, early] text :=
  ⟨short_of_mem _ (by simp [targets]), rfl⟩

theorem refuses_spoilt :
    disk.Refuses (root.descend [folder, spoilt]) [folder, spoilt]
      (.encoding (root.descend [folder, spoilt]) ⟨0, some 1⟩) :=
  .noText (short_of_mem _ (by simp [targets])) rfl (by decide +kernel)

/-- The file in front of the one that is no text is rewritten, and the one behind it is not. -/
theorem run_effect_spoilt :
    let run := toLinux.run disk root
    toLinux.dryRun = false ∧ disk.top.isTree = true ∧ disk.top.isLinkFree = true ∧
      toLinux.search.search disk root = .ok ⟨targets.map root.descend, []⟩ ∧
      run.result = .error (.encoding (root.descend [folder, spoilt]) ⟨0, some 1⟩) ∧
      (run.outcomes.map fun outcome => (outcome.path, outcome.status)) =
        [(root.descend [folder, early], .updated)] ∧
      run.disk.top.entryAt? [folder, early] = some (.file (Utf8.encode switched)) ∧
      run.disk.top.entryAt? [folder, spoilt] = some (.file [0xFF]) ∧
      run.disk.top.entryAt? [folder, file] = some (.file (Utf8.encode text)) := by
  intro run
  obtain ⟨base, leaves, heffect⟩ :=
    (RunOptions.run_effect rfl isTree_top isLinkFree_top).2 _ search_eq
  obtain ⟨rfl, rfl⟩ := targets_of_effect heffect
  obtain ⟨hrewrote, hresult⟩ := heffect.one_refused (fun _ => text) [[folder, early]]
    [folder, spoilt] [[folder, file]] _ rfl
    (fun names hm => List.mem_singleton.mp hm ▸ reads_early) refuses_spoilt
  have hearly : run.disk.top.entryAt? [folder, early] = some (.file (Utf8.encode switched)) := by
    rw [← rewrite_text]
    exact Node.entryAt?_eq_file_iff.mpr (hrewrote.holds [folder, early] (by simp))
  have hchanged : run.disk.top.entryAt? [folder, early] ≠ disk.top.entryAt? [folder, early] := by
    rw [hearly, Node.entryAt?_eq_file_iff.mpr reads_early.holds]
    intro he
    exact switched_ne (Utf8.encode_injective (Entry.file.inj (Option.some.inj he)))
  have hne := heffect.nodup
  simp only [targets, List.nodup_cons, List.mem_cons, not_or] at hne
  refine ⟨rfl, isTree_top, isLinkFree_top, search_eq, hresult, ?_, hearly, ?_, ?_⟩
  · rw [hrewrote.outcomes]
    simpa using hchanged
  · rw [hrewrote.others [folder, spoilt] fun names hm => ?_]
    · exact Node.entryAt?_eq_file_iff.mpr rfl
    · exact List.mem_singleton.mp hm ▸ Ne.symm hne.1.1
  · rw [hrewrote.others [folder, file] fun names hm => ?_]
    · exact Node.entryAt?_eq_file_iff.mpr rfl
    · exact List.mem_singleton.mp hm ▸ Ne.symm hne.1.2.1

end SpoiltTarget

/-! ### A root with a long path

A folder whose only file is `.vscode/settings.json`, and paths of that folder that are as long as
one likes: a dot and slashes. -/

namespace LongPath

open Sample

def entries : List (Name × Node) :=
  [(folder, .folder [(file, .file (Utf8.encode text))])]

def disk : Disk := ⟨.folder entries, []⟩

/-- A path of the folder. -/
def root (slashes : Nat) : Path := ⟨0x2E :: List.replicate slashes Path.slash⟩

variable {slashes : Nat}

theorem segments_root : (root slashes).segments = Path.here :: List.replicate slashes [] := by
  have hslashes : Path.split (List.replicate slashes Path.slash) =
      [] :: List.replicate slashes [] := by
    induction slashes with
    | zero => rfl
    | succ n ih => rw [List.replicate_succ, Path.split, if_pos rfl, ih, List.replicate_succ]
  rw [Path.segments, root, Path.split, if_neg (by decide), hslashes]
  rfl

theorem find_root (h : slashes < Disk.maxPath) (approach : Approach) :
    disk.find approach (root slashes) = .ok ([], .folder entries) := by
  have hcheck : Disk.checkPath (root slashes) = .ok () := by
    rw [Disk.checkPath_eq_ok_iff]
    simp [root, Path.slash]
    omega
  have hstart : Disk.start disk.here (root slashes) = [] := by simp [Disk.start, disk]
  have hstay : ∀ segment ∈ (root slashes).segments, Path.staysHere segment = true := by
    intro segment hm
    rw [segments_root, List.mem_cons, List.mem_replicate] at hm
    rcases hm with rfl | ⟨-, rfl⟩ <;> rfl
  exact Disk.find_of_staysHere hcheck hstart rfl hstay

/-- What a search meets there hangs on whether the folder for settings opens. -/
theorem survey_eq (h : slashes < Disk.maxPath) :
    search.survey disk (root slashes) =
      .ok (match Disk.checkPath ((root slashes).child folder) with
        | .error fault => [.shut [folder] fault]
        | .ok () => [.leaf [folder, file]]) := by
  have hsights : SearchOptions.sights (search.enters (Pattern.ofTexts search.excludes)) search.depth
      1 (root slashes) entries =
        match Disk.checkPath ((root slashes).child folder) with
        | .error fault => [.shut [folder] fault]
        | .ok () => [.leaf [folder, file]] := by
    have henters : search.enters (Pattern.ofTexts search.excludes) 1 folder = true := by
      decide +kernel
    have hroot := (Disk.find_eq_ok_iff.mp (find_root h .look)).1
    rw [show search.depth = 14 + 1 + 1 by decide, SearchOptions.sights_succ, hroot]
    cases hfolder : Disk.checkPath ((root slashes).child folder) <;>
      simp [entries, SearchOptions.sightsAt, henters, SearchOptions.sights_succ, hfolder,
        Sight.under]
  rw [SearchOptions.survey, find_root h, find_root h]
  simp only [hsights]

theorem search_eq (h : slashes < Disk.maxPath)
    (hfolder : Disk.checkPath ((root slashes).child folder) = .ok ()) :
    toLinux.search.search disk (root slashes) =
      .ok ⟨[(root slashes).descend [folder, file]], []⟩ := by
  have hsurvey : search.survey disk (root slashes) = .ok [.leaf [folder, file]] := by
    rw [survey_eq h, hfolder]
  exact (SearchOptions.search_of_survey hsurvey).trans (congrArg Except.ok (select_eq _))

theorem bytes_child_root : ((root (slashes + 1)).child folder).bytes =
    (root (slashes + 1)).bytes ++ folder := by
  simp [Path.child, root, List.getLast?_cons, List.getLast?_replicate]

theorem checkPath_child_root (h : slashes + 9 ≤ Disk.maxPath) :
    Disk.checkPath ((root (slashes + 1)).child folder) = .ok () := by
  rw [Disk.checkPath_eq_ok_iff, bytes_child_root]
  refine ⟨?_, by simp [root], by simp [root, length_folder]; omega⟩
  rw [List.mem_append]
  rintro (hm | hm)
  · simp [root, Path.slash] at hm
  · exact Name.nul_not_mem_of_isProper (isProper_names folder (by simp)) hm

theorem maxPath_lt_length (h : Disk.maxPath < slashes + 22) :
    Disk.maxPath < ((root (slashes + 1)).descend [folder, file]).bytes.length := by
  have hne : ((root (slashes + 1)).child folder).bytes ≠ [] :=
    Path.bytes_child_ne_nil (by simp [root]) folder
  change _ < (((root (slashes + 1)).child folder).child file).bytes.length
  rcases Path.bytes_child hne file with ⟨-, hb⟩ | ⟨-, hb⟩
  all_goals
    rw [hb, bytes_child_root]
    simp [root, length_folder, length_file]
    omega

theorem isTree_top : disk.top.isTree = true := by decide +kernel

theorem get?_file : disk.top.get? [folder, file] = some (.file (Utf8.encode text)) := rfl

theorem readText_eq (h : slashes + 1 < Disk.maxPath) (hlong : Disk.maxPath < slashes + 22) :
    disk.readText ((root (slashes + 1)).descend [folder, file]) =
      .error (.file ((root (slashes + 1)).descend [folder, file]) .read .nameTooLong) := by
  have hnames : disk.Names ((root (slashes + 1)).descend [folder, file]) [folder, file] :=
    Disk.names_descend isTree_top (find_root h .look) (by simp) get?_file
  exact hnames.readText_of_refuses (.pathTooLong (maxPath_lt_length hlong))

/-- A file with a text that a search finds cannot be read by a path that is too long. -/
theorem run_refuses_long_path :
    let path := (root 4087).descend [folder, file]
    disk.top.isTree = true ∧ disk.top.isLinkFree = true ∧ toLinux.dryRun = false ∧
      toLinux.search.search disk (root 4087) = .ok ⟨[path], []⟩ ∧
      disk.top.get? [folder, file] = some (.file (Utf8.encode text)) ∧
      (toLinux.run disk (root 4087)).result = .error (.file path .read .nameTooLong) := by
  intro path
  have hsearch : toLinux.search.search disk (root 4087) = .ok ⟨[path], []⟩ :=
    search_eq (by decide) (checkPath_child_root (show 4086 + 9 ≤ Disk.maxPath by decide))
  have hread : disk.readText path = .error (.file path .read .nameTooLong) :=
    readText_eq (show 4086 + 1 < Disk.maxPath by decide) (by decide)
  exact ⟨isTree_top, by decide, rfl, hsearch, get?_file,
    RunOptions.result_run_of_readText_error hsearch hread⟩

end LongPath

end RegionToggle
