import RegionToggle.Proofs.RunEffect

/-!
# A dry run foretells the run

A dry run changes nothing. In a tree without links it tells what the run would do: file by file the
same, with the files that it says would be updated updated, and the same failure in the end, if
there is one. For what the run writes to one file bears upon no other.
-/

namespace RegionToggle

/-- What becomes of a status when what it says is carried out. -/
def FileStatus.carriedOut : FileStatus → FileStatus
  | .wouldUpdate => .updated
  | .updated => .updated
  | .unchanged => .unchanged

def FileOutcome.carriedOut (outcome : FileOutcome) : FileOutcome :=
  { outcome with status := outcome.status.carriedOut }

def RunSummary.carriedOut (summary : RunSummary) : RunSummary :=
  { summary with dryRun := false, outcomes := summary.outcomes.map FileOutcome.carriedOut }

namespace RunOptions

variable {options : RunOptions} {disk disk' : Disk} {root path : Path} {outcome : FileOutcome}

def withDryRun (options : RunOptions) (dryRun : Bool) : RunOptions := { options with dryRun }

@[simp] theorem search_withDryRun (dryRun : Bool) :
    (options.withDryRun dryRun).search = options.search := rfl

/-- Work on a file in a dry run changes nothing. -/
theorem disk_of_processFile_dry (hdry : options.dryRun = true)
    (h : options.processFile disk path = .ok (outcome, disk')) : disk' = disk := by
  rw [processFile] at h
  cases hr : disk.readText path with
  | error failure => simp [hr] at h
  | ok text =>
    by_cases hsame : (options.rewrite.rewrite text).text = text
    · simp only [hr, if_pos hsame, Except.ok.injEq, Prod.mk.injEq] at h
      exact h.2.symm
    · simp only [hr, if_neg hsame, if_pos hdry, Except.ok.injEq, Prod.mk.injEq] at h
      exact h.2.symm

theorem disk_processFiles_dry (hdry : options.dryRun = true) (paths : List Path) :
    (options.processFiles disk paths).disk = disk := by
  induction paths with
  | nil => rfl
  | cons path more ih =>
    rw [processFiles]
    cases hp : options.processFile disk path with
    | error failure => rfl
    | ok result =>
      obtain ⟨outcome, disk'⟩ := result
      obtain rfl := disk_of_processFile_dry hdry hp
      exact ih

/-- A dry run changes nothing, with links or without. -/
theorem disk_run_dry (hdry : options.dryRun = true) : (options.run disk root).disk = disk := by
  rw [run]
  split
  · rfl
  · exact disk_processFiles_dry hdry _

/-- What becomes of a file is what the dry run says, carried out. -/
theorem outcomeFor_carriedOut (options : RunOptions) (path : Path) (text : Text) :
    ((options.withDryRun true).outcomeFor path text).carriedOut =
      (options.withDryRun false).outcomeFor path text := by
  by_cases hsame : (options.rewrite.rewrite text).text = text <;>
    simp [outcomeFor, FileOutcome.carriedOut, FileStatus.carriedOut, withDryRun, hsame]

theorem conclude_carriedOut (options : RunOptions) (root : Path) (found : Found)
    (outcomes : List FileOutcome) (stop : Option Failure) :
    ((options.withDryRun true).conclude root found outcomes stop).map RunSummary.carriedOut =
      (options.withDryRun false).conclude root found (outcomes.map FileOutcome.carriedOut)
        stop := by
  cases stop <;> rfl

/-- A dry run changes nothing, and in a tree without links the run is what the dry run says, carried
out: the same outcomes in the same order, and the same summary or the same failure. -/
theorem dry_run_foretells (ht : disk.top.isTree = true) (hfree : disk.top.isLinkFree = true) :
    let dry := (options.withDryRun true).run disk root
    let real := (options.withDryRun false).run disk root
    dry.disk = disk ∧ real.outcomes = dry.outcomes.map FileOutcome.carriedOut ∧
      real.result = dry.result.map RunSummary.carriedOut := by
  intro dry real
  refine ⟨disk_run_dry rfl, ?_⟩
  cases hs : options.search.search disk root with
  | error problem =>
    have hrun : ∀ dryRun, (options.withDryRun dryRun).run disk root =
        ⟨disk, [], .error (.search problem)⟩ := fun dryRun => by rw [run, search_withDryRun, hs]
    simp only [dry, real, hrun]
    exact ⟨rfl, rfl⟩
  | ok found =>
    obtain ⟨base, entries, -, leaves, hfiles, hnodup, hnames⟩ :=
      SearchOptions.names_of_search ht hfree hs
    obtain ⟨text, done, more, stop, rfl, hreads, hstop⟩ := exists_stop hnames
    -- both runs read the same texts, and stop at the same file
    have hrun : ∀ dryRun, ∃ disk',
        let outcomes := done.map fun names =>
          (options.withDryRun dryRun).outcomeFor (root.descend names) (text names)
        (options.withDryRun dryRun).run disk root =
          ⟨disk', outcomes, (options.withDryRun dryRun).conclude root found outcomes stop⟩ := by
      intro dryRun
      have hs' : (options.withDryRun dryRun).search.search disk root = .ok found := hs
      obtain ⟨disk', -, h⟩ := run_eq hs' hfiles hnodup hnames hreads hstop
      exact ⟨disk', h⟩
    obtain ⟨disk₁, hdry⟩ := hrun true
    obtain ⟨disk₂, hreal⟩ := hrun false
    have houtcomes : (done.map fun names =>
          (options.withDryRun false).outcomeFor (root.descend names) (text names)) =
        (done.map fun names => (options.withDryRun true).outcomeFor (root.descend names)
          (text names)).map FileOutcome.carriedOut := by
      simp [outcomeFor_carriedOut]
    simp only [dry, real, hdry, hreal, conclude_carriedOut, houtcomes, true_and]

end RunOptions

namespace SpoiltTarget

open Sample

theorem dry_run_eq :
    (toLinux.withDryRun true).run disk root =
      ⟨disk,
        [⟨root.descend [folder, early], .wouldUpdate, (toLinux.rewrite.rewrite text).stats⟩],
        .error (.encoding (root.descend [folder, spoilt]) ⟨0, some 1⟩)⟩ := by
  have hsearch : (toLinux.withDryRun true).search.search disk root =
    .ok ⟨targets.map root.descend, []⟩ := search_eq
  have hnames {names : Location} {content : Bytes} (hne : names ≠ [])
      (hget : disk.top.get? names = some (.file content)) :
      disk.Names (root.descend names) names :=
    Disk.names_descend isTree_top (find_root .look) hne hget
  have hearly : disk.readText (root.descend [folder, early]) = .ok text :=
    (hnames (by simp) reads_early.holds).readText_eq_ok_iff.mpr reads_early
  have hchanged : (toLinux.rewrite.rewrite text).text ≠ text := by
    rw [rewrite_text]
    exact switched_ne
  have hfirst : (toLinux.withDryRun true).processFile disk (root.descend [folder, early]) =
      .ok (⟨root.descend [folder, early], .wouldUpdate, (toLinux.rewrite.rewrite text).stats⟩,
        disk) := by
    simp only [RunOptions.processFile, hearly]
    exact (if_neg hchanged).trans (if_pos rfl)
  have hget : disk.top.get? [folder, spoilt] = some (.file [0xFF]) := rfl
  have hsecond := (toLinux.withDryRun true).processFile_of_readText_error
    ((hnames (by simp) hget).readText_of_refuses refuses_spoilt)
  simp only [RunOptions.run, hsearch, targets, List.map_cons, RunOptions.processFiles, hfirst,
    hsecond]

/-- A dry run tells what a run does to the file in front of the one that is no text, and that it
goes no further. -/
theorem dry_run_foretells_spoilt :
    let dry := (toLinux.withDryRun true).run disk root
    let real := (toLinux.withDryRun false).run disk root
    let told (run : Run) := run.outcomes.map fun outcome => (outcome.path, outcome.status)
    let refused := root.descend [folder, spoilt]
    disk.top.isTree = true ∧ disk.top.isLinkFree = true ∧
      toLinux.search.search disk root = .ok ⟨targets.map root.descend, []⟩ ∧
      dry.disk = disk ∧ told dry = [(root.descend [folder, early], .wouldUpdate)] ∧
      dry.result = .error (.encoding refused ⟨0, some 1⟩) ∧
      told real = [(root.descend [folder, early], .updated)] ∧
      real.result = .error (.encoding refused ⟨0, some 1⟩) := by
  intro dry real told refused
  have hdry : dry = ⟨disk, _, _⟩ := dry_run_eq
  obtain ⟨hdisk, houtcomes, hresult⟩ :
      dry.disk = disk ∧ real.outcomes = dry.outcomes.map FileOutcome.carriedOut ∧
        real.result = dry.result.map RunSummary.carriedOut :=
    toLinux.dry_run_foretells isTree_top isLinkFree_top
  rw [hdry] at houtcomes hresult
  have htold : told dry = [(root.descend [folder, early], .wouldUpdate)] := by
    rw [hdry]
    rfl
  refine ⟨isTree_top, isLinkFree_top, search_eq, hdisk, htold, by rw [hdry], ?_, hresult⟩
  exact congrArg (List.map fun outcome => (outcome.path, outcome.status)) houtcomes

end SpoiltTarget

end RegionToggle
