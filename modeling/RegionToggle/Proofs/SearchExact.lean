import RegionToggle.Proofs.RunEffect

/-!
# Exactly the targets

A search walks a tree and keeps out of folders by their names; whether an entry is a target can also
be told from the names that lead to it. Both come to the same: the walk meets every entry that its
names admit, as deep as it may go and as far as the system opens the folders on the way, and nothing
else. What it finds is the first part of all targets in the order of their paths.
-/

namespace RegionToggle

namespace Node

/-- Whether names lead from a node to something that is no folder. -/
def HasLeaf (node : Node) (names : Location) : Prop :=
  ∃ found, node.get? names = some found ∧ ∀ entries, found ≠ .folder entries

variable {node : Node} {entries : List (Name × Node)} {name : Name} {names : Location}

/-- To something that is no folder it takes a name at least. -/
theorem ne_nil_of_hasLeaf (h : (Node.folder entries).HasLeaf names) : names ≠ [] := by
  rintro rfl
  obtain ⟨found, hf, hn⟩ := h
  exact hn entries (Option.some.inj hf).symm

theorem hasLeaf_folder_cons_iff :
    (Node.folder entries).HasLeaf (name :: names) ↔
      ∃ child, entries.lookup name = some child ∧ child.HasLeaf names := by
  simp only [HasLeaf, get?_folder_cons, Option.bind_eq_some_iff]
  constructor
  · rintro ⟨found, ⟨child, hl, hf⟩, hn⟩
    exact ⟨child, hl, found, hf, hn⟩
  · rintro ⟨child, hl, found, hf, hn⟩
    exact ⟨found, ⟨child, hl, hf⟩, hn⟩

theorem hasLeaf_iff_of_not_folder (h : ∀ entries, node ≠ .folder entries) :
    node.HasLeaf names ↔ names = [] := by
  constructor
  · rintro ⟨found, hf, -⟩
    exact eq_nil_of_get? h hf
  · rintro rfl
    exact ⟨node, rfl, h⟩

end Node

namespace SearchOptions

variable {enters : Nat → Name → Bool} {budget depth : Nat} {folder root : Path}
  {entries : List (Name × Node)} {name : Name} {names : Location} {options : SearchOptions}

/-! ### What is met below a folder -/

/-- Whether a walk goes into all folders of some names, the first of them `depth` names below the
root. -/
def EntersAll (enters : Nat → Name → Bool) (depth : Nat) (names : Location) : Prop :=
  ∀ i name, names[i]? = some name → enters (depth + i) name = true

theorem entersAll_nil : EntersAll enters depth [] := by
  intro i name hi
  simp at hi

theorem entersAll_cons :
    EntersAll enters depth (name :: names) ↔
      enters depth name = true ∧ EntersAll enters (depth + 1) names := by
  constructor
  · intro h
    refine ⟨h 0 name rfl, fun i n hi => ?_⟩
    rw [Nat.add_assoc, Nat.add_comm 1]
    exact h (i + 1) n hi
  · rintro ⟨hfirst, hrest⟩ i n hi
    cases i with
    | zero => rwa [← Option.some.inj hi]
    | succ i =>
      have hr := hrest i n hi
      rwa [Nat.add_assoc, Nat.add_comm 1] at hr

/-- What is met behind a name is met at the entry of that name. -/
theorem leaf_cons_mem_sights_iff (ht : (Node.folder entries).isTree = true)
    (hopen : Disk.checkPath folder = .ok ()) :
    Sight.leaf (name :: names) ∈ sights enters (budget + 1) depth folder entries ↔
      ∃ node, entries.lookup name = some node ∧
        Sight.leaf (name :: names) ∈ sightsAt enters budget depth folder (name, node) := by
  rw [sights_succ, hopen, List.mem_flatMap]
  constructor
  · rintro ⟨⟨name', node⟩, he, hs⟩
    obtain ⟨below, hb⟩ := names_of_mem_sightsAt hs
    obtain rfl : name = name' := (List.cons.inj hb).1
    exact ⟨node, Node.lookup_of_mem (Node.nodup_of_isTree ht) he, hs⟩
  · rintro ⟨node, hl, hs⟩
    exact ⟨(name, node), Node.mem_of_lookup hl, hs⟩

/-- An entry that is no folder is met itself. -/
theorem sightsAt_of_not_folder {node : Node} (h : ∀ inner, node ≠ .folder inner) :
    sightsAt enters budget depth folder (name, node) = [.leaf [name]] := by
  cases node with
  | file content => rfl
  | link target => rfl
  | folder inner => exact absurd rfl (h inner)

/-- In a folder is met what is met there, if the walk goes in. -/
theorem leaf_cons_mem_sightsAt_folder_iff {inner : List (Name × Node)} :
    Sight.leaf (name :: names) ∈ sightsAt enters budget depth folder (name, .folder inner) ↔
      enters depth name = true ∧
        Sight.leaf names ∈ sights enters budget (depth + 1) (folder.child name) inner := by
  rw [sightsAt]
  cases enters depth name with
  | false => simp
  | true =>
    rw [if_pos rfl, and_iff_right rfl, List.mem_map]
    constructor
    · rintro ⟨sight, hs, hu⟩
      have hleaf : Sight.under name (.leaf names) = sight.under name := hu.symm
      rwa [Sight.under_injective name hleaf]
    · intro hs
      exact ⟨_, hs, rfl⟩

/-- A walk meets an entry exactly if it is no folder, not too deep, and lies in folders that the
walk goes into and the system opens. -/
theorem leaf_mem_sights_iff (ht : (Node.folder entries).isTree = true)
    (hz : 0 ∉ folder.bytes) (hne : folder.bytes ≠ []) :
    Sight.leaf names ∈ sights enters budget depth folder entries ↔
      (Node.folder entries).HasLeaf names ∧ names.length ≤ budget ∧
        EntersAll enters depth names.dropLast ∧
        (folder.descend names.dropLast).bytes.length ≤ Disk.maxPath := by
  induction budget generalizing depth folder entries names with
  | zero =>
    refine iff_of_false (by simp [sights]) ?_
    rintro ⟨hleaf, hlength, -⟩
    exact Node.ne_nil_of_hasLeaf hleaf (List.length_eq_zero_iff.mp (Nat.le_zero.mp hlength))
  | succ budget ih =>
    cases hopen : Disk.checkPath folder with
    | error fault =>
      -- a folder that does not open has a path that is too long, and so has all below it
      refine iff_of_false (by simp [sights_succ, hopen]) ?_
      rintro ⟨-, -, -, hlong⟩
      have hok := Disk.checkPath_eq_ok_iff.mpr
        ⟨hz, hne, Nat.le_trans (Path.length_le_descend hne _) hlong⟩
      exact absurd (hopen.symm.trans hok) (by simp)
    | ok _ =>
      have hlong := (Disk.checkPath_eq_ok_iff.mp hopen).2.2
      cases names with
      | nil =>
        refine iff_of_false (fun h => (get?_of_leaf_mem_sights ht h).1 rfl) ?_
        rintro ⟨hleaf, -⟩
        exact Node.ne_nil_of_hasLeaf hleaf rfl
      | cons name rest =>
        rw [leaf_cons_mem_sights_iff ht hopen, Node.hasLeaf_folder_cons_iff]
        cases hl : entries.lookup name with
        | none => simp
        | some child =>
          have hm := Node.mem_of_lookup hl
          simp only [Option.some.injEq, exists_eq_left']
          by_cases hc : ∀ inner, child ≠ .folder inner
          · rw [sightsAt_of_not_folder hc, List.mem_singleton, Sight.leaf.injEq,
              Node.hasLeaf_iff_of_not_folder hc, and_iff_left_of_imp]
            · simp
            · rintro rfl
              exact ⟨Nat.le_add_left 1 budget, entersAll_nil, hlong⟩
          · obtain ⟨inner, rfl⟩ : ∃ inner, child = .folder inner := by simpa using hc
            have hproper : ∀ n ∈ [name], Name.isProper n = true := by
              simpa using Node.isProper_of_mem ht hm
            have hchild : 0 ∉ (folder.child name).bytes := Path.nul_not_mem_descend hne hz hproper
            rw [leaf_cons_mem_sightsAt_folder_iff,
              ih (Node.isTree_of_mem ht hm) hchild (Path.bytes_child_ne_nil hne name)]
            cases rest with
            | nil =>
              have hno : ¬ (Node.folder inner).HasLeaf [] := fun h => Node.ne_nil_of_hasLeaf h rfl
              simp [hno]
            | cons next more =>
              rw [List.dropLast_cons_cons, entersAll_cons, List.length_cons, List.length_cons,
                Nat.add_le_add_iff_right]
              tauto

/-! ### What makes a target -/

/-- Whether names lead down from a root, which leads to a folder with given entries, to a target of
a search. -/
structure Wants (options : SearchOptions) (root : Path) (entries : List (Name × Node))
    (names : Location) : Prop where
  /-- There is an entry that is no folder. -/
  entry : (Node.folder entries).HasLeaf names
  /-- It lies below the root, and not too deep. -/
  depth : 1 ≤ names.length ∧ names.length ≤ min options.maxDepth 64
  /-- No folder between the root and the entry has the name of one to keep out of. -/
  admitted : ∀ name ∈ names.dropLast, ∀ pattern ∈ Pattern.ofTexts options.excludes,
    Pattern.matchesItems pattern.items (nameText name) = false
  /-- If the folder of the configured name right below the root is to be skipped, the entry does not
  lie in that one. -/
  notTop : options.skipsTopSubfolder = true → ∀ name, names.dropLast.head? = some name →
    nameText name ≠ options.subfolder
  /-- The folder right above the entry has the configured name. -/
  holder : (names.dropLast.getLast?.or root.name?).bind Utf8.decode? = some options.subfolder
  /-- The entry has the name of a target. -/
  own : ∃ name, names.getLast?.bind Utf8.decode? = some name ∧
    ∃ pattern ∈ Pattern.ofTexts options.targets, Pattern.matchesItems pattern.items name = true

theorem enters_iff {excludes : List Pattern} :
    options.enters excludes depth name = true ↔
      (options.skipsTopSubfolder = true → depth = 1 → nameText name ≠ options.subfolder) ∧
        ∀ pattern ∈ excludes, Pattern.matchesItems pattern.items (nameText name) = false := by
  rw [enters]
  cases options.skipsTopSubfolder <;> simp [imp_iff_not_or, Pattern.accepts_eq_matchesItems]

/-- A walk goes into folders that are not to be kept out of; the topmost of them lies one name below
the root. -/
theorem entersAll_enters_iff {excludes : List Pattern} :
    EntersAll (options.enters excludes) 1 names ↔
      (∀ name ∈ names, ∀ pattern ∈ excludes,
          Pattern.matchesItems pattern.items (nameText name) = false) ∧
        (options.skipsTopSubfolder = true → ∀ name, names.head? = some name →
          nameText name ≠ options.subfolder) := by
  constructor
  · intro h
    refine ⟨fun name hm => ?_, fun hs name hn => ?_⟩
    · obtain ⟨i, hi⟩ := List.mem_iff_getElem?.mp hm
      exact (enters_iff.mp (h i name hi)).2
    · rw [List.head?_eq_getElem?] at hn
      exact (enters_iff.mp (h 0 name hn)).1 hs rfl
  · rintro ⟨hall, htop⟩ i name hi
    refine enters_iff.mpr ⟨fun hs hd => ?_, hall name (List.mem_of_getElem? hi)⟩
    obtain rfl : i = 0 := by omega
    exact htop hs name (List.head?_eq_getElem?.trans hi)

/-- The verdict on an entry below the root, by the last two names that lead to it. -/
theorem judge_eq_target_iff {targets : List Pattern} (h : names ≠ []) :
    options.judge targets root names = .target ↔
      (names.dropLast.getLast?.or root.name?).bind Utf8.decode? = some options.subfolder ∧
        ∃ name, names.getLast?.bind Utf8.decode? = some name ∧
          ∃ pattern ∈ targets, Pattern.matchesItems pattern.items name = true := by
  have hholder : holder? root names = names.dropLast.getLast?.or root.name? := by
    rw [holder?]
    cases names.dropLast.getLast? with
    | none => simp [h]
    | some name => rfl
  have hown : ownName? root names = names.getLast? := by
    rw [ownName?, List.getLast?_eq_some_getLast h]
  rw [judge, hholder, hown]
  split
  · next hh =>
    cases names.getLast?.bind Utf8.decode? with
    | none => simp
    | some name => simp [hh, Pattern.accepts_eq_matchesItems]
  · next hh => simp [hh]

/-- The targets among what is met below a root are those that the search wants, in folders that the
system opens. -/
theorem leaf_mem_sights_and_judge_iff (ht : (Node.folder entries).isTree = true)
    (hroot : Disk.checkPath root = .ok ()) :
    (Sight.leaf names ∈ sights (options.enters (Pattern.ofTexts options.excludes)) options.depth 1
        root entries ∧ options.judge (Pattern.ofTexts options.targets) root names = .target) ↔
      options.Wants root entries names ∧
        (root.descend names.dropLast).bytes.length ≤ Disk.maxPath := by
  obtain ⟨hz, hne, -⟩ := Disk.checkPath_eq_ok_iff.mp hroot
  rw [leaf_mem_sights_iff ht hz hne, entersAll_enters_iff]
  constructor
  · rintro ⟨⟨hleaf, hdepth, ⟨hall, htop⟩, hlong⟩, hj⟩
    have hnames := Node.ne_nil_of_hasLeaf hleaf
    obtain ⟨hholder, hown⟩ := (judge_eq_target_iff hnames).mp hj
    exact ⟨⟨hleaf, ⟨List.length_pos_iff.mpr hnames, hdepth⟩, hall, htop, hholder, hown⟩, hlong⟩
  · rintro ⟨h, hlong⟩
    exact ⟨⟨h.entry, h.depth.2, ⟨h.admitted, h.notTop⟩, hlong⟩,
      (judge_eq_target_iff (List.length_pos_iff.mp h.depth.1)).mpr ⟨h.holder, h.own⟩⟩

/-! ### All targets in order -/

/-- Sorted, and with nothing in them twice, locations ascend. -/
theorem pairwise_lt_mergeSort {targets : List Location} (h : targets.Nodup) :
    (targets.mergeSort precedes).Pairwise (· < ·) := by
  have hsorted : (targets.mergeSort precedes).Pairwise fun a b => precedes a b = true := by
    apply List.pairwise_mergeSort
    · intro a b c hab hbc
      exact decide_eq_true (List.le_trans (of_decide_eq_true hab) (of_decide_eq_true hbc))
    · intro a b
      rw [Bool.or_eq_true]
      exact (List.le_total a b).imp decide_eq_true decide_eq_true
  have hnodup := (List.mergeSort_perm targets precedes).nodup_iff.mpr h
  refine (hsorted.and hnodup).imp fun {a b} ⟨hle, hne⟩ => ?_
  exact (List.le_iff_lt_or_eq.mp (of_decide_eq_true hle)).resolve_right hne

end SearchOptions

def SearchWarning.isTooMany : SearchWarning → Bool
  | .tooMany _ _ => true
  | _ => false

namespace SearchOptions

variable {disk : Disk} {root : Path} {base : Location} {entries : List (Name × Node)}
  {options : SearchOptions}

/-- No warning about what is met says that there is too much of it. -/
theorem filter_isTooMany_warnings (judge : Location → Verdict) (root : Path)
    (sights : List Sight) :
    (sights.filterMap (Sight.warning? judge root)).filter SearchWarning.isTooMany = [] := by
  rw [List.filter_eq_nil_iff]
  intro warning hw
  obtain ⟨sight, -, hs⟩ := List.mem_filterMap.mp hw
  cases sight with
  | shut names fault =>
    obtain rfl := Option.some.inj hs
    simp [SearchWarning.isTooMany]
  | leaf names =>
    obtain ⟨-, hs⟩ := Option.ite_none_right_eq_some.mp hs
    obtain rfl := Option.some.inj hs
    simp [SearchWarning.isTooMany]

/-- A selection says that there are too many targets if there are, and no more than once. -/
theorem filter_isTooMany_select (options : SearchOptions) (root : Path) (sights : List Sight) :
    let judge := options.judge (Pattern.ofTexts options.targets) root
    let targets := sights.filterMap (Sight.target? judge)
    (options.select root sights).warnings.filter SearchWarning.isTooMany =
      if options.limit < targets.length then [.tooMany targets.length options.limit] else [] := by
  intro judge targets
  have hown : (options.select root sights).warnings =
      sights.filterMap (Sight.warning? judge root) ++
        if options.limit < targets.length then [.tooMany targets.length options.limit] else [] :=
    rfl
  rw [hown, List.filter_append, filter_isTooMany_warnings, List.nil_append]
  split <;> rfl

/-- Below a root that is a folder and no link, a search selects from what is met in it. -/
theorem search_eq_select (options : SearchOptions)
    (hroot : disk.find .look root = .ok (base, .folder entries))
    (hlink : ∀ location target, disk.find .lookAtEntry root ≠ .ok (location, .link target)) :
    options.search disk root = .ok (options.select root <|
      sights (options.enters (Pattern.ofTexts options.excludes)) options.depth 1 root entries) := by
  rw [search, survey, hroot]
  cases hl : disk.find .lookAtEntry root with
  | error fault => rfl
  | ok place =>
    obtain ⟨location, node⟩ := place
    cases node with
    | file content => rfl
    | folder entries => rfl
    | link target => exact absurd hl (hlink location target)

/-- Below a root that is a folder and no link, in whichever order the folders list their entries, a
search finds the first of all targets, in the order of the steps of their paths and each of them
once: as many as it may keep. It says that there are too many exactly if there are more, and once. A
target counts if the path of the folder that it lies in is one that the system takes. -/
theorem search_exact (options : SearchOptions) (ht : disk.top.isTree = true)
    (hroot : disk.find .look root = .ok (base, .folder entries))
    (hlink : ∀ location target, disk.find .lookAtEntry root ≠ .ok (location, .link target)) :
    ∃ (found : Found) (all : List Path), options.search disk root = .ok found ∧
      (∀ path, path ∈ all ↔ ∃ names, options.Wants root entries names ∧
        (root.descend names.dropLast).bytes.length ≤ Disk.maxPath ∧ path = root.descend names) ∧
      all.Pairwise (fun p q => p.steps < q.steps) ∧
      found.files = all.take (min options.maxFiles 100000) ∧
      found.warnings.filter SearchWarning.isTooMany =
        if min options.maxFiles 100000 < all.length then
          [.tooMany all.length (min options.maxFiles 100000)]
        else [] := by
  have htree : (Node.folder entries).isTree = true :=
    Node.isTree_of_get? ht (Disk.get?_of_find hroot)
  have hcheck := (Disk.find_eq_ok_iff.mp hroot).1
  have hne := (Disk.checkPath_eq_ok_iff.mp hcheck).2.1
  let met := sights (options.enters (Pattern.ofTexts options.excludes)) options.depth 1 root entries
  let judge := options.judge (Pattern.ofTexts options.targets) root
  let targets := met.filterMap (Sight.target? judge)
  have hmem : ∀ names, names ∈ targets ↔ options.Wants root entries names ∧
      (root.descend names.dropLast).bytes.length ≤ Disk.maxPath := by
    intro names
    rw [← leaf_mem_sights_and_judge_iff htree hcheck, Sight.mem_filterMap_target?_iff]
  have hnodup : targets.Nodup := Sight.nodup_filterMap_target? (nodup_sights htree)
  have hperm := List.mergeSort_perm targets precedes
  refine ⟨_, (targets.mergeSort precedes).map root.descend,
    search_eq_select options hroot hlink, ?_, ?_, ?_, ?_⟩
  · intro path
    rw [List.mem_map]
    apply exists_congr
    intro names
    rw [hperm.mem_iff, hmem, and_assoc, eq_comm]
  · refine List.pairwise_map.mpr ((pairwise_lt_mergeSort hnodup).imp_of_mem ?_)
    intro a b ha hb hab
    have hsteps : ∀ names ∈ targets.mergeSort precedes,
        (root.descend names).steps = root.steps ++ names := by
      intro names hm
      obtain ⟨node, hg, -⟩ := ((hmem names).mp (hperm.mem_iff.mp hm)).1.entry
      exact Path.steps_descend hne (Node.isProper_of_get? htree hg)
    rw [hsteps a ha, hsteps b hb]
    exact List.append_left_lt hab
  · exact List.map_take
  · rw [List.length_map, hperm.length_eq]
    exact filter_isTooMany_select options root met

end SearchOptions

theorem Sample.matches_file : ∃ pattern ∈ Pattern.ofTexts Sample.search.targets,
    Pattern.matchesItems pattern.items "settings.json".toList = true := by
  decide +kernel

/-! ### Two targets, and room for one -/

namespace TwoProjects

open Sample

def early : Name := Utf8.encode "early".toList

def late : Name := Utf8.encode "late".toList

/-- A project with something for its settings. -/
def project (settings : Node) : Node := .folder [(folder, .folder [(file, settings)])]

/-- The projects, not in the order of their names; the settings of one are a link. -/
def entries : List (Name × Node) :=
  [(late, project (.file [])), (early, project (.link ⟨late⟩))]

def disk : Disk := ⟨.folder entries, []⟩

def root : Path := ⟨Path.here⟩

def searchOne : SearchOptions := { maxFiles := 1 }

theorem find_root (approach : Approach) : disk.find approach root = .ok ([], .folder entries) :=
  Disk.find_of_staysHere rfl rfl rfl (by decide)

theorem admitted_names : ∀ name ∈ [early, late, folder],
    ∀ pattern ∈ Pattern.ofTexts searchOne.excludes,
      Pattern.matchesItems pattern.items (SearchOptions.nameText name) = false := by
  decide +kernel

theorem wants_settings {name : Name} (h : name = early ∨ name = late) :
    searchOne.Wants root entries [name, folder, file] where
  entry := by
    rcases h with rfl | rfl
    · exact ⟨.link ⟨late⟩, rfl, by simp⟩
    · exact ⟨.file [], rfl, by simp⟩
  depth := show 1 ≤ 3 ∧ 3 ≤ min searchOne.maxDepth 64 by decide
  admitted := by
    intro name' hm
    apply admitted_names
    rcases h with rfl | rfl <;> simp at hm ⊢ <;> tauto
  notTop hs := absurd hs (by decide)
  holder := by
    have hlast : [name, folder, file].dropLast.getLast? = some folder := by simp
    rw [hlast]
    exact decode?_folder
  own := ⟨"settings.json".toList, by simp [decode?_file], matches_file⟩

/-- Both settings are targets, one is kept, and there is a warning. -/
theorem search_exact_one :
    disk.top.isTree = true ∧ disk.find .look root = .ok ([], .folder entries) ∧
      disk.find .lookAtEntry root = .ok ([], .folder entries) ∧
      ∃ (found : Found) (all : List Path), searchOne.search disk root = .ok found ∧
        root.descend [early, folder, file] ∈ all ∧ root.descend [late, folder, file] ∈ all ∧
        all.Pairwise (fun p q => p.steps < q.steps) ∧ found.files = all.take 1 ∧
        found.warnings.filter SearchWarning.isTooMany = [.tooMany all.length 1] := by
  have ht : disk.top.isTree = true := by decide +kernel
  have hlink : ∀ location target, disk.find .lookAtEntry root ≠ .ok (location, .link target) := by
    intro location target
    rw [find_root]
    simp
  obtain ⟨found, all, hs, hall, hpairwise, hfiles, hwarnings⟩ :=
    SearchOptions.search_exact searchOne ht (find_root .look) hlink
  have hearly := (hall _).mpr ⟨_, wants_settings (.inl rfl), by decide +kernel, rfl⟩
  have hlate := (hall _).mpr ⟨_, wants_settings (.inr rfl), by decide +kernel, rfl⟩
  have hne : root.descend [early, folder, file] ≠ root.descend [late, folder, file] := by
    decide +kernel
  have hmany : 1 < all.length := by
    obtain ⟨i, hi, hearlyAt⟩ := List.mem_iff_getElem.mp hearly
    obtain ⟨j, hj, hlateAt⟩ := List.mem_iff_getElem.mp hlate
    have hij : i ≠ j := by
      rintro rfl
      exact hne (hearlyAt.symm.trans hlateAt)
    omega
  exact ⟨ht, find_root _, find_root _, found, all, hs, hearly, hlate, hpairwise, hfiles,
    hwarnings.trans (if_pos hmany)⟩

end TwoProjects

/-! ### A folder that does not open -/

namespace LongPath

open Sample SearchOptions

/-- The settings are a target of the default search, whatever the root is called. -/
theorem wants_file (root : Path) : search.Wants root entries [folder, file] where
  entry := ⟨.file (Utf8.encode text), rfl, by simp⟩
  depth := by decide
  admitted := by decide +kernel
  notTop := by decide
  holder := decode?_folder
  own := ⟨"settings.json".toList, decode?_file, matches_file⟩

theorem search_eq_shut {slashes : Nat} {fault : Fault} (h : slashes < Disk.maxPath)
    (hfolder : Disk.checkPath ((root slashes).child folder) = .error fault) :
    search.search disk (root slashes) =
      .ok ⟨[], [.folderShut ((root slashes).child folder) fault]⟩ := by
  rw [SearchOptions.search, survey_eq h, hfolder]
  simp [Except.map, select, List.filterMap_cons, Sight.target?, Sight.warning?, Path.descend]

theorem checkPath_child_root_of_lt {slashes : Nat} (h : slashes + 1 < Disk.maxPath)
    (hlong : Disk.maxPath < slashes + 9) :
    Disk.checkPath ((root (slashes + 1)).child folder) = .error .nameTooLong := by
  have hcheck := (Disk.find_eq_ok_iff.mp (find_root h .look)).1
  have hlength : Disk.maxPath < ((root (slashes + 1)).child folder).bytes.length := by
    rw [bytes_child_root, List.length_append, length_folder]
    simp [root]
    omega
  have hproper : ∀ name ∈ [folder], Name.isProper name = true := fun name hm =>
    List.mem_singleton.mp hm ▸ isProper_names folder (by simp)
  exact (Disk.checkPath_descend hcheck hproper).trans (if_pos hlength)

/-- A folder whose path is too long stays shut, and its targets are not found. -/
theorem search_misses_long_folder :
    disk.top.isTree = true ∧
      (∀ approach, disk.find approach (root 4094) = .ok ([], .folder entries)) ∧
      search.Wants (root 4094) entries [folder, file] ∧
      search.search disk (root 4094) =
        .ok ⟨[], [.folderShut ((root 4094).child folder) .nameTooLong]⟩ := by
  have hshut : Disk.checkPath ((root 4094).child folder) = .error .nameTooLong :=
    checkPath_child_root_of_lt (show 4093 + 1 < Disk.maxPath by decide) (by decide)
  exact ⟨isTree_top, find_root (by decide), wants_file _, search_eq_shut (by decide) hshut⟩

end LongPath

end RegionToggle
