import Mathlib.Data.List.Nodup
import RegionToggle.Discovery
import RegionToggle.Proofs.Descent

/-!
# What a search meets

What a search meets below a root is there: each entry that it takes for a file is in the tree, below
the folder that the root leads to, and is no folder. No entry is met twice.
-/

namespace RegionToggle

def Sight.names : Sight → Location
  | .leaf names => names
  | .shut names _ => names

@[simp] theorem Sight.names_under (name : Name) (sight : Sight) :
    (sight.under name).names = name :: sight.names := by
  cases sight <;> rfl

theorem Sight.under_injective (name : Name) : Function.Injective (Sight.under name) := by
  intro a b h
  cases a <;> cases b <;> simp_all [Sight.under]

theorem Sight.target?_eq_some_iff {judge : Location → Verdict} {sight : Sight}
    {names : Location} :
    sight.target? judge = some names ↔ sight = .leaf names ∧ judge names = .target := by
  cases sight with
  | shut names' fault => simp [Sight.target?]
  | leaf names' =>
    rw [Sight.target?, Option.ite_none_right_eq_some]
    constructor
    · rintro ⟨hj, h⟩
      obtain rfl := Option.some.inj h
      exact ⟨rfl, hj⟩
    · rintro ⟨h, hj⟩
      obtain rfl := Sight.leaf.inj h
      exact ⟨hj, rfl⟩

/-- The targets among what is met are the entries with that verdict. -/
theorem Sight.mem_filterMap_target?_iff {judge : Location → Verdict} {sights : List Sight}
    {names : Location} :
    names ∈ sights.filterMap (Sight.target? judge) ↔
      .leaf names ∈ sights ∧ judge names = .target := by
  rw [List.mem_filterMap]
  constructor
  · rintro ⟨sight, hm, ht⟩
    obtain ⟨rfl, hj⟩ := Sight.target?_eq_some_iff.mp ht
    exact ⟨hm, hj⟩
  · rintro ⟨hm, hj⟩
    exact ⟨_, hm, Sight.target?_eq_some_iff.mpr ⟨rfl, hj⟩⟩

theorem Sight.nodup_filterMap_target? {judge : Location → Verdict} {sights : List Sight}
    (h : sights.Nodup) : (sights.filterMap (Sight.target? judge)).Nodup := by
  refine h.filterMap fun a b names ha hb => ?_
  rw [Option.mem_def, Sight.target?_eq_some_iff] at ha hb
  rw [ha.1, hb.1]

namespace SearchOptions

variable {enters : Nat → Name → Bool} {budget depth : Nat} {folder : Path}
  {entries : List (Name × Node)} {names : Location}

def sightsAt (enters : Nat → Name → Bool) (budget depth : Nat) (folder : Path) :
    Name × Node → List Sight
  | (name, .folder inner) =>
    if enters depth name then
      (sights enters budget (depth + 1) (folder.child name) inner).map (Sight.under name)
    else []
  | (name, _) => [.leaf [name]]

/-- In a folder that opens, each entry is met by itself. -/
theorem sights_succ (enters : Nat → Name → Bool) (budget depth : Nat) (folder : Path)
    (entries : List (Name × Node)) :
    sights enters (budget + 1) depth folder entries =
      match Disk.checkPath folder with
      | .error fault => [.shut [] fault]
      | .ok () => entries.flatMap (sightsAt enters budget depth folder) := by
  rw [sights]
  cases Disk.checkPath folder with
  | error fault => rfl
  | ok _ =>
    refine congrArg (entries.flatMap ·) (funext fun (name, node) => ?_)
    cases node <;> rfl

/-- What is met at an entry has the name of the entry first. -/
theorem names_of_mem_sightsAt {entry : Name × Node} {sight : Sight}
    (h : sight ∈ sightsAt enters budget depth folder entry) :
    ∃ below, sight.names = entry.1 :: below := by
  obtain ⟨name, node⟩ := entry
  cases node with
  | file content => exact ⟨[], by rw [List.mem_singleton.mp h]; rfl⟩
  | link target => exact ⟨[], by rw [List.mem_singleton.mp h]; rfl⟩
  | folder inner =>
    rw [sightsAt] at h
    split at h
    · obtain ⟨below, -, rfl⟩ := List.mem_map.mp h
      exact ⟨below.names, Sight.names_under name below⟩
    · simp at h

/-- What a search takes for a file is in the tree, and is no folder. -/
theorem get?_of_leaf_mem_sights (ht : (Node.folder entries).isTree = true)
    (h : Sight.leaf names ∈ sights enters budget depth folder entries) :
    names ≠ [] ∧ ∃ node, (Node.folder entries).get? names = some node ∧
      ∀ inner, node ≠ .folder inner := by
  induction budget generalizing depth folder entries names with
  | zero => simp [sights] at h
  | succ budget ih =>
    rw [sights_succ] at h
    split at h
    · simp at h
    obtain ⟨⟨name, node⟩, he, hs⟩ := List.mem_flatMap.mp h
    have hlookup : entries.lookup name = some node :=
      Node.lookup_of_mem (Node.nodup_of_isTree ht) he
    cases node with
    | file content =>
      obtain rfl := Sight.leaf.inj (List.mem_singleton.mp hs)
      exact ⟨List.cons_ne_nil _ _, .file content, by simp [hlookup], by simp⟩
    | link target =>
      obtain rfl := Sight.leaf.inj (List.mem_singleton.mp hs)
      exact ⟨List.cons_ne_nil _ _, .link target, by simp [hlookup], by simp⟩
    | folder inner =>
      rw [sightsAt] at hs
      split at hs
      · obtain ⟨below, hb, hbelow⟩ := List.mem_map.mp hs
        cases below with
        | shut names' fault => simp [Sight.under] at hbelow
        | leaf names' =>
          obtain rfl := Sight.leaf.inj hbelow
          obtain ⟨-, node, hg, hn⟩ := ih (Node.isTree_of_mem ht he) hb
          refine ⟨List.cons_ne_nil _ _, node, ?_, hn⟩
          rw [Node.get?_folder_cons, hlookup, Option.bind_some, hg]
      · simp at hs

/-- Nothing is met twice. -/
theorem nodup_sights (ht : (Node.folder entries).isTree = true) :
    (sights enters budget depth folder entries).Nodup := by
  induction budget generalizing depth folder entries with
  | zero => simp [sights]
  | succ budget ih =>
    rw [sights_succ]
    split
    · exact List.nodup_singleton _
    rw [List.nodup_flatMap]
    constructor
    · intro entry he
      obtain ⟨name, node⟩ := entry
      cases node with
      | file content => exact List.nodup_singleton _
      | link target => exact List.nodup_singleton _
      | folder inner =>
        rw [sightsAt]
        split
        · exact (ih (Node.isTree_of_mem ht he)).map (Sight.under_injective name)
        · exact List.nodup_nil
    · have hnames := List.pairwise_map.mp (Node.nodup_of_isTree ht)
      refine hnames.imp fun {a b} hab => List.disjoint_left.mpr fun sight ha hb => ?_
      obtain ⟨below, h⟩ := names_of_mem_sightsAt ha
      obtain ⟨below', h'⟩ := names_of_mem_sightsAt hb
      exact hab (List.cons.inj (h.symm.trans h')).1

/-! ### The files that a search finds -/

/-- Whether a search has an entry for a target, by the names from the root down to it. -/
def IsTarget (options : SearchOptions) (root : Path) (names : Location) : Prop :=
  options.judge (Pattern.ofTexts options.targets) root names = .target

variable {options : SearchOptions} {disk : Disk} {root : Path} {found : Found}

/-- The folder right above a target has the configured name, by the path that leads to the target.
-/
theorem IsTarget.holder (h : options.IsTarget root names) :
    (holder? root names).bind Utf8.decode? = some options.subfolder := by
  rw [IsTarget, judge] at h
  split at h
  · assumption
  · simp at h

/-- What a search meets: entries of the folder that the root leads to, and the root itself if that
is a link. -/
theorem survey_eq_ok {sights : List Sight} (h : options.survey disk root = .ok sights) :
    ∃ base entries, disk.find .look root = .ok (base, .folder entries) ∧
      let below := SearchOptions.sights (options.enters (Pattern.ofTexts options.excludes))
        options.depth 1 root entries
      (sights = below ∨
        (sights = .leaf [] :: below ∧
          ∃ base target, disk.find .lookAtEntry root = .ok (base, .link target))) := by
  rw [survey] at h
  split at h
  · simp at h
  · next base entries hf =>
    refine ⟨base, entries, hf, ?_⟩
    split at h
    · next base' target hl => exact .inr ⟨(Except.ok.inj h).symm, base', target, hl⟩
    · exact .inl (Except.ok.inj h).symm
  · simp at h

theorem search_of_survey {sights : List Sight} (h : options.survey disk root = .ok sights) :
    options.search disk root = .ok (options.select root sights) := by
  rw [search, h]
  rfl

/-- Whether what names lead to from a root, which leads to the folder at `base`, is something that a
search takes for a file: an entry below that is no folder, or the root itself if that is a link. -/
def IsLeaf (disk : Disk) (root : Path) (base names : Location) : Prop :=
  (names = [] ∧ ∃ base target, disk.find .lookAtEntry root = .ok (base, .link target)) ∨
    (names ≠ [] ∧ ∃ node, disk.top.get? (base ++ names) = some node ∧
      ∀ entries, node ≠ .folder entries)

/-- What a search takes for a file is in the tree, and is met once. -/
theorem leaves_of_survey {sights : List Sight} (ht : disk.top.isTree = true)
    (h : options.survey disk root = .ok sights) :
    ∃ base entries, disk.find .look root = .ok (base, .folder entries) ∧ sights.Nodup ∧
      ∀ names, Sight.leaf names ∈ sights → IsLeaf disk root base names := by
  obtain ⟨base, entries, hf, hsights⟩ := survey_eq_ok h
  have hbase := Disk.get?_of_find hf
  have htree : (Node.folder entries).isTree = true := Node.isTree_of_get? ht hbase
  have hbelow : ∀ names, Sight.leaf names ∈ SearchOptions.sights
      (options.enters (Pattern.ofTexts options.excludes)) options.depth 1 root entries →
        IsLeaf disk root base names := by
    intro names hm
    obtain ⟨hne, node, hg, hn⟩ := get?_of_leaf_mem_sights htree hm
    exact .inr ⟨hne, node, by rw [Node.get?_append, hbase, Option.bind_some, hg], hn⟩
  refine ⟨base, entries, hf, ?_⟩
  rcases hsights with rfl | ⟨rfl, hlink⟩
  · exact ⟨nodup_sights htree, hbelow⟩
  · constructor
    · refine List.nodup_cons.mpr ⟨fun hm => ?_, nodup_sights htree⟩
      exact absurd rfl (get?_of_leaf_mem_sights htree hm).1
    · intro names hm
      rcases List.mem_cons.mp hm with hnil | hm
      · exact .inl ⟨Sight.leaf.inj hnil, hlink⟩
      · exact hbelow names hm

/-- The files that a search finds are targets in the tree, each once. -/
theorem search_eq_ok (ht : disk.top.isTree = true) (h : options.search disk root = .ok found) :
    ∃ base entries, disk.find .look root = .ok (base, .folder entries) ∧
      ∃ leaves : List Location, found.files = leaves.map root.descend ∧ leaves.Nodup ∧
        ∀ names ∈ leaves, options.IsTarget root names ∧ IsLeaf disk root base names := by
  rw [search] at h
  cases hs : options.survey disk root with
  | error problem => simp [hs, Except.map] at h
  | ok sights =>
    rw [hs] at h
    obtain rfl : options.select root sights = found := Except.ok.inj h
    obtain ⟨base, entries, hf, hnodup, hleaf⟩ := leaves_of_survey ht hs
    let judge := options.judge (Pattern.ofTexts options.targets) root
    let targets := sights.filterMap (Sight.target? judge)
    have hperm : (targets.mergeSort precedes).Perm targets := List.mergeSort_perm _ _
    have htargets : targets.Nodup := Sight.nodup_filterMap_target? hnodup
    refine ⟨base, entries, hf, (targets.mergeSort precedes).take options.limit, rfl, ?_, ?_⟩
    · exact (hperm.nodup_iff.mpr htargets).sublist (List.take_sublist _ _)
    · intro names hm
      have hmem : names ∈ targets := hperm.mem_iff.mp (List.mem_of_mem_take hm)
      obtain ⟨hsight, hj⟩ := Sight.mem_filterMap_target?_iff.mp hmem
      exact ⟨hj, hleaf names hsight⟩

end SearchOptions

/-! ### A target of a default search -/

namespace Sample

def folder : Name := Utf8.encode ".vscode".toList

def file : Name := Utf8.encode "settings.json".toList

def search : SearchOptions := {}

theorem decode?_folder : Utf8.decode? folder = some ".vscode".toList := Utf8.decode?_encode _

theorem decode?_file : Utf8.decode? file = some "settings.json".toList := Utf8.decode?_encode _

theorem length_folder : folder.length = 7 := by decide +kernel

theorem length_file : file.length = 13 := by decide +kernel

theorem isProper_names : ∀ name ∈ [folder, file], Name.isProper name = true := by decide +kernel

/-- Where the default search meets the settings below a root and nothing else, it finds them. -/
theorem select_eq (root : Path) :
    search.select root [.leaf [folder, file]] = ⟨[root.descend [folder, file]], []⟩ := by
  have hjudge : search.judge (Pattern.ofTexts search.targets) root [folder, file] = .target := by
    have hholder : SearchOptions.holder? root [folder, file] = some folder := rfl
    have hown : SearchOptions.ownName? root [folder, file] = some file := rfl
    rw [SearchOptions.judge, hholder, hown]
    decide +kernel
  have hlimit : search.limit = 999 + 1 := by decide
  simp [SearchOptions.select, Sight.target?, Sight.warning?, hjudge, hlimit]

end Sample

end RegionToggle
