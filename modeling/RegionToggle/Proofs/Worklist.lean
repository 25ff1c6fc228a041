import RegionToggle.Proofs.OneFile

/-!
# Work on files one after the other

In a tree without links each path that a search finds names a file of its own. Such a file can be
read, or there is a failure that says why not. Work on the files in order is done for all of them,
or up to the first that cannot be read; either way the files before hold what is left for their
texts, and nothing else has changed. So no work on one file bears upon another.
-/

namespace RegionToggle

namespace Disk

variable {disk disk' : Disk} {path : Path} {location : Location} {content : Bytes} {text : Text}
  {failure : Failure}

/-- Whether a path names the file at a location: it leads there, however it is followed, unless it
is too long. -/
structure Names (disk : Disk) (path : Path) (location : Location) : Prop where
  file : ∃ content, disk.top.get? location = some (.file content)
  leads : ∀ approach, (disk.locate approach path).map Place.location =
    if maxPath < path.bytes.length then .error .nameTooLong else .ok location

/-- Whether the file at a location has a text, and can be opened by a path. -/
structure Reads (disk : Disk) (path : Path) (location : Location) (text : Text) : Prop where
  short : path.bytes.length ≤ maxPath
  holds : disk.top.get? location = some (.file (Utf8.encode text))

/-- Whether the file at a location cannot be read as a text by a path, with the failure that says
so. -/
inductive Refuses (disk : Disk) (path : Path) (location : Location) : Failure → Prop where
  | pathTooLong (h : maxPath < path.bytes.length) :
    Refuses disk path location (.file path .read .nameTooLong)
  | noText {content : Bytes} {fault : Utf8.Fault} (short : path.bytes.length ≤ maxPath)
    (holds : disk.top.get? location = some (.file content))
    (h : Utf8.decode content = .error fault) : Refuses disk path location (.encoding path fault)

/-- In a tree the path some names further from that of a folder names the file that they lead to. -/
theorem names_descend {root : Path} {base names : Location} {entries : List (Name × Node)}
    (ht : disk.top.isTree = true) (hb : disk.find .look root = .ok (base, .folder entries))
    (hne : names ≠ []) (hg : disk.top.get? (base ++ names) = some (.file content)) :
    disk.Names (root.descend names) (base ++ names) := by
  refine ⟨⟨content, hg⟩, fun approach => ?_⟩
  rw [locate_descend ht hb hg hne (by simp)]
  split <;> rfl

theorem Names.locate_eq (h : disk.Names path location)
    (hg : disk.top.get? location = some (.file content)) (approach : Approach) :
    disk.locate approach path =
      if maxPath < path.bytes.length then .error .nameTooLong
      else .ok (.found location (.file content)) := by
  have hmap := h.leads approach
  cases hl : disk.locate approach path with
  | error fault =>
    rw [hl] at hmap
    split at hmap <;> simp_all [Except.map]
  | ok place =>
    rw [hl] at hmap
    split at hmap
    · simp [Except.map] at hmap
    · next hshort =>
      obtain rfl : place.location = location := Except.ok.inj hmap
      rw [if_neg hshort]
      exact congrArg _ (eq_found_of_locate hl hg)

theorem Names.readText_eq_ok_iff (h : disk.Names path location) :
    disk.readText path = .ok text ↔ disk.Reads path location text := by
  obtain ⟨content, hg⟩ := h.file
  rw [Disk.readText_eq_ok_iff]
  simp only [find_eq_ok_iff_locate, h.locate_eq hg]
  constructor
  · rintro ⟨location', hl⟩
    split at hl
    · simp at hl
    · next hshort =>
      simp only [Except.ok.injEq, Place.found.injEq, Node.file.injEq] at hl
      exact ⟨Nat.not_lt.mp hshort, by rw [hg, hl.2]⟩
  · rintro ⟨hshort, hholds⟩
    exact ⟨location, by rw [if_neg (Nat.not_lt.mpr hshort), Option.some.inj (hg.symm.trans hholds)]⟩

theorem Names.readText_of_refuses (h : disk.Names path location)
    (hr : disk.Refuses path location failure) : disk.readText path = .error failure := by
  obtain ⟨content, hg⟩ := h.file
  cases hr with
  | pathTooLong hlong => simp [readText, read, find, h.locate_eq hg, hlong]
  | noText hshort hholds hd =>
    simp [readText, read, find, h.locate_eq hholds, Nat.not_lt.mpr hshort, hd]

/-- A file that a path names can be read, or there is a failure that says why not. -/
theorem Names.reads_or_refuses (h : disk.Names path location) :
    (∃ text, disk.Reads path location text) ∨ ∃ failure, disk.Refuses path location failure := by
  obtain ⟨content, hg⟩ := h.file
  by_cases hlong : maxPath < path.bytes.length
  · exact .inr ⟨_, .pathTooLong hlong⟩
  · have hshort := Nat.not_lt.mp hlong
    cases hd : Utf8.decode content with
    | error fault => exact .inr ⟨_, .noText hshort hg hd⟩
    | ok text => exact .inl ⟨text, hshort, by rw [hg, Utf8.decode_eq_ok_iff.mp hd]⟩

/-! ### What does not change when other files are written -/

theorem Names.of_alike (ha : Alike disk disk') (h : disk.Names path location) :
    disk'.Names path location := by
  obtain ⟨content, hg⟩ := h.file
  refine ⟨ha.get?_file hg, fun approach => ?_⟩
  rw [ha.locate, h.leads]

theorem get?_file_of_entryAt? (h : disk'.top.entryAt? location = disk.top.entryAt? location)
    (hg : disk.top.get? location = some (.file content)) :
    disk'.top.get? location = some (.file content) := by
  rw [← Node.entryAt?_eq_file_iff, h, Node.entryAt?_eq_file_iff, hg]

theorem Reads.of_entryAt? (h : disk'.top.entryAt? location = disk.top.entryAt? location)
    (hr : disk.Reads path location text) : disk'.Reads path location text :=
  ⟨hr.short, get?_file_of_entryAt? h hr.holds⟩

theorem Refuses.of_entryAt? (h : disk'.top.entryAt? location = disk.top.entryAt? location)
    (hr : disk.Refuses path location failure) : disk'.Refuses path location failure := by
  cases hr with
  | pathTooLong hlong => exact .pathTooLong hlong
  | noText hshort hholds hd => exact .noText hshort (get?_file_of_entryAt? h hholds) hd

end Disk

/-! ### The files that a search finds -/

/-- Without links the files that a search finds are named by their paths, each once. -/
theorem SearchOptions.names_of_search {options : SearchOptions} {disk : Disk} {root : Path}
    {found : Found} (ht : disk.top.isTree = true) (hfree : disk.top.isLinkFree = true)
    (h : options.search disk root = .ok found) :
    ∃ base entries, disk.find .look root = .ok (base, .folder entries) ∧
      ∃ leaves : List Location, found.files = leaves.map root.descend ∧ leaves.Nodup ∧
        ∀ names ∈ leaves, disk.Names (root.descend names) (base ++ names) := by
  obtain ⟨base, entries, hbase, leaves, hfiles, hnodup, hleaves⟩ := search_eq_ok ht h
  refine ⟨base, entries, hbase, leaves, hfiles, hnodup, fun names hm => ?_⟩
  rcases (hleaves names hm).2 with ⟨-, base', target, hl⟩ | ⟨hne, node, hg, hnofolder⟩
  · exact absurd (Disk.get?_of_find hl) (Node.get?_ne_link hfree base' target)
  cases node with
  | folder inner => exact absurd rfl (hnofolder inner)
  | link target => exact absurd hg (Node.get?_ne_link hfree _ target)
  | file content => exact Disk.names_descend ht hbase hne hg

/-! ### Work in order -/

namespace RunOptions

variable {options : RunOptions} {disk disk' : Disk} {root : Path} {base : Location}
  {text : Location → Text} {names : Location} {done more : List Location} {stop : Option Failure}

/-- Whether a disk is what another one becomes when the files at some places below a folder, with
the texts that they have, get the texts that are left for them. -/
structure Worked (options : RunOptions) (base : Location) (text : Location → Text)
    (done : List Location) (disk disk' : Disk) : Prop where
  alike : Disk.Alike disk disk'
  holds : ∀ names ∈ done, disk'.top.get? (base ++ names) =
    some (.file (Utf8.encode (options.textLeft (text names))))
  others : ∀ location, (∀ names ∈ done, location ≠ base ++ names) →
    disk'.top.entryAt? location = disk.top.entryAt? location

theorem Worked.others_of_not_mem (h : options.Worked base text done disk disk')
    (hm : names ∉ done) :
    disk'.top.entryAt? (base ++ names) = disk.top.entryAt? (base ++ names) :=
  h.others _ fun _ hd he => hm (List.append_cancel_left he ▸ hd)

/-- Why work on files ends in front of some of them: there are none, or the first cannot be read. -/
inductive StopsAt (disk : Disk) (root : Path) (base : Location) :
    List Location → Option Failure → Prop where
  | allDone : StopsAt disk root base [] none
  | refused {names : Location} {more : List Location} {failure : Failure}
    (h : disk.Refuses (root.descend names) (base ++ names) failure) :
    StopsAt disk root base (names :: more) (some failure)

/-- Work on a file that is named and can be read: then it holds the text that is left for it. -/
theorem processFile_eq_of_reads {path : Path} {location : Location} {content : Text}
    (hn : disk.Names path location) (hr : disk.Reads path location content) :
    ∃ disk', options.processFile disk path = .ok (options.outcomeFor path content, disk') ∧
      Disk.Refilled disk disk' location (Utf8.encode (options.textLeft content)) := by
  have hlocate := hn.locate_eq hr.holds
  obtain ⟨disk', hp⟩ : ∃ disk', options.processFile disk path = .ok (_, disk') :=
    exists_processFile_eq_ok ((hlocate .write).trans (hlocate .look).symm)
      (hn.readText_eq_ok_iff.mpr hr)
  refine ⟨disk', hp, ?_⟩
  obtain ⟨location', text', hf, -, hrefilled⟩ := processFile_eq_ok hp
  rw [Disk.find_eq_ok_iff_locate, hlocate, if_neg (Nat.not_lt.mpr hr.short), Except.ok.injEq,
    Place.found.injEq, Node.file.injEq] at hf
  obtain ⟨rfl, hencode⟩ := hf
  rw [Utf8.encode_injective hencode]
  exact hrefilled

/-- Work on files that are named and can be read, up to where it ends. -/
theorem processFiles_eq (hnodup : (done ++ more).Nodup)
    (hnames : ∀ names ∈ done ++ more, disk.Names (root.descend names) (base ++ names))
    (hreads : ∀ names ∈ done, disk.Reads (root.descend names) (base ++ names) (text names))
    (hstop : StopsAt disk root base more stop) :
    ∃ disk', options.Worked base text done disk disk' ∧
      options.processFiles disk ((done ++ more).map root.descend) =
        ⟨disk', done.map fun names => options.outcomeFor (root.descend names) (text names),
          stop⟩ := by
  induction done generalizing disk with
  | nil =>
    refine ⟨disk, ⟨.refl disk, by simp, fun _ _ => rfl⟩, ?_⟩
    cases hstop with
    | allDone => rfl
    | @refused names more failure h =>
      have hn := hnames names (by simp)
      simp [processFiles, processFile_of_readText_error (hn.readText_of_refuses h)]
  | cons first done ih =>
    rw [List.cons_append, List.nodup_cons] at hnodup
    obtain ⟨hfirst, hnodup⟩ := hnodup
    have hn := hnames first (by simp)
    have hr := hreads first (by simp)
    obtain ⟨disk', hp, hrefilled⟩ : ∃ disk', options.processFile disk _ = .ok (_, disk') ∧ _ :=
      processFile_eq_of_reads hn hr
    have ha := hrefilled.alike hr.holds
    -- writing the first file leaves all the others as they are
    have hothers : ∀ names ∈ done ++ more,
        disk'.top.entryAt? (base ++ names) = disk.top.entryAt? (base ++ names) := by
      intro names hm
      exact hrefilled.entryAt?_of_ne fun he => hfirst (List.append_cancel_left he ▸ hm)
    obtain ⟨disk'', hworked, hprocess⟩ := ih hnodup
      (fun names hm => (hnames names (List.mem_cons_of_mem _ hm)).of_alike ha)
      (fun names hm => (hreads names (List.mem_cons_of_mem _ hm)).of_entryAt?
        (hothers names (List.mem_append_left _ hm)))
      (by
        cases hstop with
        | allDone => exact .allDone
        | refused h => exact .refused (h.of_entryAt? (hothers _ (by simp))))
    refine ⟨disk'', ⟨ha.trans hworked.alike, ?_, ?_⟩, ?_⟩
    · intro names hm
      rcases List.mem_cons.mp hm with rfl | hm
      · have hlater := hworked.others_of_not_mem fun hd => hfirst (List.mem_append_left _ hd)
        exact Disk.get?_file_of_entryAt? hlater hrefilled.get?_self
      · exact hworked.holds names hm
    · intro location hl
      rw [hworked.others location fun names hm => hl names (List.mem_cons_of_mem _ hm),
        hrefilled.entryAt?_of_ne (hl first List.mem_cons_self)]
    · simp only [List.cons_append, List.map_cons, processFiles, hp, hprocess]

/-- Files that are named can be read up to where work on them ends. -/
theorem exists_stop {leaves : List Location}
    (hnames : ∀ names ∈ leaves, disk.Names (root.descend names) (base ++ names)) :
    ∃ text : Location → Text, ∃ done more stop, leaves = done ++ more ∧
      (∀ names ∈ done, disk.Reads (root.descend names) (base ++ names) (text names)) ∧
      StopsAt disk root base more stop := by
  refine ⟨fun names => (disk.readText (root.descend names)).toOption.getD [], ?_⟩
  induction leaves with
  | nil => exact ⟨[], [], none, rfl, by simp, .allDone⟩
  | cons first rest ih =>
    have hn := hnames first List.mem_cons_self
    rcases hn.reads_or_refuses with ⟨content, hr⟩ | ⟨failure, hr⟩
    · obtain ⟨done, more, stop, rfl, hreads, hstop⟩ :=
        ih fun names hm => hnames names (List.mem_cons_of_mem _ hm)
      refine ⟨first :: done, more, stop, rfl, fun names hm => ?_, hstop⟩
      rcases List.mem_cons.mp hm with rfl | hm
      · simpa [hn.readText_eq_ok_iff.mpr hr, Except.toOption] using hr
      · exact hreads names hm
    · exact ⟨[], first :: rest, some failure, rfl, by simp, .refused hr⟩

/-! ### A whole run -/

/-- What a run comes to that has had some outcomes, and ends in a failure or for want of files. -/
def conclude (options : RunOptions) (root : Path) (found : Found) (outcomes : List FileOutcome) :
    Option Failure → Except Failure RunSummary
  | some failure => .error failure
  | none => .ok {
      platform := options.rewrite.platform
      root
      dryRun := options.dryRun
      filesFound := found.files.length
      outcomes
      warnings := found.warnings }

/-- A run does the work on the files that the search finds, up to where that ends. -/
theorem run_eq {found : Found} (hs : options.search.search disk root = .ok found)
    (hfiles : found.files = (done ++ more).map root.descend) (hnodup : (done ++ more).Nodup)
    (hnames : ∀ names ∈ done ++ more, disk.Names (root.descend names) (base ++ names))
    (hreads : ∀ names ∈ done, disk.Reads (root.descend names) (base ++ names) (text names))
    (hstop : StopsAt disk root base more stop) :
    ∃ disk', options.Worked base text done disk disk' ∧
      let outcomes := done.map fun names => options.outcomeFor (root.descend names) (text names)
      options.run disk root = ⟨disk', outcomes, options.conclude root found outcomes stop⟩ := by
  obtain ⟨disk', hworked, hprocess⟩ :
      ∃ disk', options.Worked base text done disk disk' ∧ options.processFiles disk _ = _ :=
    processFiles_eq hnodup hnames hreads hstop
  refine ⟨disk', hworked, ?_⟩
  simp only [run, hs, hfiles, hprocess]
  cases stop with
  | some failure => rfl
  | none => simp only [conclude, hfiles]

end RunOptions

end RegionToggle
