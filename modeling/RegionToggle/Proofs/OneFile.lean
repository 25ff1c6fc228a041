import RegionToggle.Run
import RegionToggle.Proofs.Sights

/-!
# Work on one file

Work on one file reads the text that the path leads to. Where the work is done, that file holds the
text that is left for it, and nothing else has changed; where it fails, nothing has.
-/

namespace RegionToggle

namespace Disk

variable {disk disk' : Disk} {path : Path} {location other : Location} {content old new : Bytes}
  {text : Text}

/-! ### Disks that differ in one file -/

/-- Whether a disk is what another one becomes when the file at a location gets some content. -/
structure Refilled (disk disk' : Disk) (location : Location) (content : Bytes) : Prop where
  here : disk'.here = disk.here
  entryAt? : ∀ other, disk'.top.entryAt? other =
    if other = location then some (.file content) else disk.top.entryAt? other

theorem refilled_self (h : disk.top.get? location = some (.file content)) :
    Refilled disk disk location content := by
  refine ⟨rfl, fun other => ?_⟩
  split
  · next ho => rw [ho, Node.entryAt?_eq_file_iff.mpr h]
  · rfl

theorem refilled_put (new : Bytes) (h : disk.top.get? location = some (.file old)) :
    Refilled disk (disk.put location (.file new)) location new :=
  ⟨rfl, Node.entryAt?_put_file new h⟩

theorem Refilled.get?_self (h : Refilled disk disk' location content) :
    disk'.top.get? location = some (.file content) :=
  Node.entryAt?_eq_file_iff.mp (by rw [h.entryAt?, if_pos rfl])

theorem Refilled.entryAt?_of_ne (h : Refilled disk disk' location content)
    (hne : other ≠ location) :
    disk'.top.entryAt? other = disk.top.entryAt? other := by
  rw [h.entryAt?, if_neg hne]

/-- What is in a file is no matter of the shape of a disk. -/
theorem Refilled.alike (h : Refilled disk disk' location content)
    (hg : disk.top.get? location = some (.file old)) : Alike disk disk' := by
  refine ⟨h.here, fun other => ?_⟩
  rw [h.entryAt?]
  split
  · next ho => rw [ho, Node.entryAt?_eq_file_iff.mpr hg]; rfl
  · rfl

theorem Alike.symm (h : Alike disk disk') : Alike disk' disk :=
  ⟨h.here.symm, fun location => (h.outline location).symm⟩

/-- In disks of one shape a path leads to one and the same location, or fails alike. -/
theorem Alike.locate (h : Alike disk disk') (approach : Approach) (path : Path) :
    (disk'.locate approach path).map Place.location =
      (disk.locate approach path).map Place.location := by
  rw [Disk.locate, Disk.locate, h.here]
  cases checkPath path with
  | error fault => rfl
  | ok _ => exact h.walk

/-- In disks of one shape a path to a file leads to a file at the same location. -/
theorem Alike.find_file {approach : Approach} (h : Alike disk disk')
    (hf : disk.find approach path = .ok (location, .file old)) :
    ∃ new, disk'.find approach path = .ok (location, .file new) := by
  have hl := find_eq_ok_iff_locate.mp hf
  have hmap := h.locate approach path
  rw [hl] at hmap
  cases hl' : disk'.locate approach path with
  | error fault => simp [hl', Except.map] at hmap
  | ok place =>
    rw [hl'] at hmap
    obtain rfl : place.location = location := Except.ok.inj hmap
    obtain ⟨new, hg⟩ := h.get?_file (get?_of_find hf)
    refine ⟨new, find_eq_ok_iff_locate.mpr ?_⟩
    rw [hl']
    exact congrArg _ (eq_found_of_locate hl' hg)

/-! ### Reading and writing -/

/-- A text that is read is in the file that the path leads to. -/
theorem readText_eq_ok_iff :
    disk.readText path = .ok text ↔
      ∃ location, disk.find .look path = .ok (location, .file (Utf8.encode text)) := by
  rw [readText, read]
  cases hf : disk.find .look path with
  | error fault => simp
  | ok found =>
    obtain ⟨location, node⟩ := found
    cases node with
    | folder entries => simp
    | link target => simp
    | file content =>
      cases hd : Utf8.decode content with
      | error fault =>
        have hne : content ≠ Utf8.encode text := fun he => by simp [he, Utf8.decode_encode] at hd
        simp [hd, hne]
      | ok read =>
        obtain rfl := Utf8.decode_eq_ok_iff.mp hd
        simp only [Utf8.decode_encode, Except.ok.injEq, Prod.mk.injEq, Node.file.injEq,
          exists_eq_left']
        exact ⟨congrArg _, Utf8.encode_injective⟩

/-- Where a text is written, it is in the file that the path leads to when one looks. -/
theorem refilled_of_writeText (hf : disk.find .look path = .ok (location, .file old))
    (h : disk.writeText path text = .ok disk') :
    Refilled disk disk' location (Utf8.encode text) := by
  obtain ⟨hc, hw⟩ := find_eq_ok_iff.mp hf
  rw [writeText, write, locate, hc] at h
  cases hwrite : disk.walk .write maxLinks (start disk.here path) path.segments with
  | error fault => simp [hwrite] at h
  | ok place =>
    obtain rfl := Except.ok.inj ((walk_look_of_walk_write hwrite).symm.trans hw)
    simp only [hwrite, Except.ok.injEq] at h
    rw [← h]
    exact refilled_put _ (get?_of_find hf)

end Disk

/-! ### One file of a run -/

namespace RunOptions

variable {options : RunOptions} {disk disk' : Disk} {path : Path} {text : Text}
  {outcome : FileOutcome} {failure : Failure}

/-- The text that a run leaves in a file with a text. -/
def textLeft (options : RunOptions) (text : Text) : Text :=
  if options.dryRun then text else (options.rewrite.rewrite text).text

def outcomeFor (options : RunOptions) (path : Path) (text : Text) : FileOutcome :=
  let rewritten := options.rewrite.rewrite text
  { path
    status := if rewritten.text = text then .unchanged
      else if options.dryRun then .wouldUpdate else .updated
    stats := rewritten.stats }

theorem processFile_of_readText_error (h : disk.readText path = .error failure) :
    options.processFile disk path = .error failure := by
  rw [processFile, h]

/-- A run ends at the first file that it finds if that cannot be read. -/
theorem result_run_of_readText_error {root : Path} {more : List Path}
    {warnings : List SearchWarning}
    (hs : options.search.search disk root = .ok ⟨path :: more, warnings⟩)
    (h : disk.readText path = .error failure) :
    (options.run disk root).result = .error failure := by
  simp only [run, hs, processFiles, processFile_of_readText_error h]

/-- All that work on a file does, where it is done: the file that the path leads to holds the text
that is left for its text, and nothing else changes. -/
theorem processFile_eq_ok (h : options.processFile disk path = .ok (outcome, disk')) :
    ∃ location text, disk.find .look path = .ok (location, .file (Utf8.encode text)) ∧
      outcome = options.outcomeFor path text ∧
      Disk.Refilled disk disk' location (Utf8.encode (options.textLeft text)) := by
  rw [processFile] at h
  cases hr : disk.readText path with
  | error failure => simp [hr] at h
  | ok text =>
    obtain ⟨location, hf⟩ := Disk.readText_eq_ok_iff.mp hr
    have hself := Disk.refilled_self (Disk.get?_of_find hf)
    simp only [hr] at h
    refine ⟨location, text, hf, ?_⟩
    by_cases hsame : (options.rewrite.rewrite text).text = text
    · simp only [if_pos hsame, Except.ok.injEq, Prod.mk.injEq] at h
      obtain ⟨rfl, rfl⟩ := h
      refine ⟨by rw [outcomeFor, if_pos hsame], ?_⟩
      rw [textLeft, hsame, ite_self]
      exact hself
    · rw [if_neg hsame] at h
      cases hdry : options.dryRun with
      | true =>
        simp only [hdry, if_true, Except.ok.injEq, Prod.mk.injEq] at h
        obtain ⟨rfl, rfl⟩ := h
        refine ⟨by rw [outcomeFor, if_neg hsame, hdry, if_pos rfl], ?_⟩
        rw [textLeft, hdry, if_pos rfl]
        exact hself
      | false =>
        rw [hdry] at h
        cases hw : disk.writeText path (options.rewrite.rewrite text).text with
        | error failure => simp [hw] at h
        | ok written =>
          simp only [hw, Bool.false_eq_true, if_false, Except.ok.injEq, Prod.mk.injEq] at h
          obtain ⟨rfl, rfl⟩ := h
          refine ⟨by rw [outcomeFor, if_neg hsame, hdry, if_neg Bool.false_ne_true], ?_⟩
          rw [textLeft, hdry, if_neg Bool.false_ne_true]
          exact Disk.refilled_of_writeText hf hw

/-- Work on a file that can be read is done if the path leads to the same place when it is followed
to write. -/
theorem exists_processFile_eq_ok (hl : disk.locate .write path = disk.locate .look path)
    (hr : disk.readText path = .ok text) :
    ∃ disk', options.processFile disk path = .ok (options.outcomeFor path text, disk') := by
  obtain ⟨location, hf⟩ := Disk.readText_eq_ok_iff.mp hr
  have hwrite : ∀ new, ∃ disk', disk.writeText path new = .ok disk' := by
    intro new
    exact ⟨_, by rw [Disk.writeText, Disk.write, hl, Disk.find_eq_ok_iff_locate.mp hf]⟩
  obtain ⟨written, hw⟩ := hwrite (options.rewrite.rewrite text).text
  rw [processFile, hr]
  by_cases hsame : (options.rewrite.rewrite text).text = text
  · exact ⟨disk, by simp [hsame, outcomeFor]⟩
  · cases hdry : options.dryRun with
    | true => exact ⟨disk, by simp [hsame, hdry, outcomeFor]⟩
    | false => exact ⟨written, by simp [hsame, hdry, hw, outcomeFor]⟩

end RunOptions

namespace Sample

/-- A text that a switch to Linux changes. -/
def text : Text :=
  "// PLATFORM_SWITCH_START\n// Linux Configuration\n//x\n// PLATFORM_SWITCH_END\n".toList

def toLinux : RunOptions := { search, rewrite := { platform := .linux } }

/-- The text after the switch. -/
def switched : Text :=
  "// PLATFORM_SWITCH_START\n// Linux Configuration\nx\n// PLATFORM_SWITCH_END\n".toList

theorem rewrite_text : (toLinux.rewrite.rewrite text).text = switched := by decide +kernel

theorem switched_ne : switched ≠ text := fun h => absurd (String.toList_inj.mp h) (by simp)

end Sample

end RegionToggle
