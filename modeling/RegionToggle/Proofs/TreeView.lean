import Mathlib.Data.List.Nodup
import RegionToggle.Disk.Access

/-!
# A tree seen entry by entry

At a location stands a file, a link or a folder. As an entry, a file or link is all that it is, and
a folder is the names in it, so that the entries tell apart what writing a file changes from what it
leaves: the entry of that file, and no other. A tree that a system can hold has names in it that
lead somewhere, and no two of one name in one folder.
-/

namespace RegionToggle

inductive Entry where
  | file (content : Bytes)
  | link (target : Path)
  | folder (names : List Name)
  deriving DecidableEq, Repr

namespace Node

def entry : Node → Entry
  | .file content => .file content
  | .link target => .link target
  | .folder entries => .folder (entries.map Prod.fst)

def entryAt? (node : Node) (location : Location) : Option Entry := (node.get? location).map entry

@[simp] theorem get?_nil (node : Node) : node.get? [] = some node := rfl

@[simp] theorem get?_file_cons (content : Bytes) (name : Name) (rest : Location) :
    (Node.file content).get? (name :: rest) = none := rfl

@[simp] theorem get?_link_cons (target : Path) (name : Name) (rest : Location) :
    (Node.link target).get? (name :: rest) = none := rfl

@[simp] theorem get?_folder_cons (entries : List (Name × Node)) (name : Name) (rest : Location) :
    (Node.folder entries).get? (name :: rest) = (entries.lookup name).bind (get? rest) := rfl

/-- A location behind another one is looked up from there. -/
theorem get?_append (node : Node) (front rest : Location) :
    node.get? (front ++ rest) = (node.get? front).bind (get? rest) := by
  induction front generalizing node with
  | nil => rfl
  | cons name more ih =>
    cases node with
    | file content => rfl
    | link target => rfl
    | folder entries =>
      rw [List.cons_append, get?_folder_cons, get?_folder_cons, Option.bind_assoc]
      cases entries.lookup name with
      | none => rfl
      | some child => exact ih child

/-- Only in a folder is there anything further down. -/
theorem exists_folder_of_get?_append {node below : Node} {front : Location} {name : Name}
    {rest : Location} (h : node.get? (front ++ name :: rest) = some below) :
    ∃ entries, node.get? front = some (.folder entries) := by
  rw [get?_append, Option.bind_eq_some_iff] at h
  obtain ⟨above, ha, hb⟩ := h
  cases above with
  | file content => simp at hb
  | link target => simp at hb
  | folder entries => exact ⟨entries, ha⟩

/-- Below what is no folder there is nothing. -/
theorem eq_nil_of_get? {node found : Node} {location : Location}
    (h : ∀ entries, node ≠ .folder entries) (hf : node.get? location = some found) :
    location = [] := by
  cases location with
  | nil => rfl
  | cons name rest =>
    have hf' : node.get? ([] ++ name :: rest) = some found := hf
    obtain ⟨entries, he⟩ := exists_folder_of_get?_append hf'
    exact absurd (Option.some.inj he) (h entries)

theorem entryAt?_eq_file_iff {node : Node} {location : Location} {content : Bytes} :
    node.entryAt? location = some (.file content) ↔ node.get? location = some (.file content) := by
  rw [entryAt?, Option.map_eq_some_iff]
  constructor
  · rintro ⟨found, hf, he⟩
    cases found <;> simp_all [entry]
  · intro h
    exact ⟨_, h, rfl⟩

theorem map_fst_setEntry {name : Name} {old : Node} (new : Node) {entries : List (Name × Node)}
    (h : entries.lookup name = some old) :
    (setEntry name new entries).map Prod.fst = entries.map Prod.fst := by
  induction entries with
  | nil => simp at h
  | cons first more ih =>
    obtain ⟨firstName, node⟩ := first
    by_cases hn : firstName = name
    · simp [setEntry, hn]
    · have hb : (name == firstName) = false := by simpa using Ne.symm hn
      simp only [List.lookup_cons, hb] at h
      simp [setEntry, hn, ih h]

/-- Writing a file changes the entry of that file and no other. -/
theorem entryAt?_put_file {node : Node} {location : Location} {old : Bytes} (new : Bytes)
    (h : node.get? location = some (.file old)) (other : Location) :
    (node.put location (.file new)).entryAt? other =
      if other = location then some (.file new) else node.entryAt? other := by
  induction location generalizing node other with
  | nil =>
    obtain rfl : node = .file old := Option.some.inj h
    cases other with
    | nil => rfl
    | cons name rest => rfl
  | cons name rest ih =>
    cases node with
    | file content => simp at h
    | link target => simp at h
    | folder entries =>
      rw [get?_folder_cons, Option.bind_eq_some_iff] at h
      obtain ⟨child, hc, hr⟩ := h
      have hput : (Node.folder entries).put (name :: rest) (.file new) =
          .folder (setEntry name (child.put rest (.file new)) entries) := by
        simp only [put, hc]
      rw [hput]
      cases other with
      | nil => simp [entryAt?, entry, map_fst_setEntry _ hc]
      | cons first more =>
        by_cases hn : first = name
        · subst hn
          have hchild := ih hr more
          simp only [entryAt?, get?_folder_cons, lookup_setEntry_self, hc, Option.bind_some,
            List.cons.injEq, true_and] at hchild ⊢
          exact hchild
        · simp [entryAt?, lookup_setEntry_of_ne hn, hn]

/-! ### Trees that a system can hold -/

mutual

/-- Whether a node and all nodes below it meet a condition. -/
def everywhere (p : Node → Bool) : Node → Bool
  | .file content => p (.file content)
  | .link target => p (.link target)
  | .folder entries => p (.folder entries) && everywhereIn p entries

def everywhereIn (p : Node → Bool) : List (Name × Node) → Bool
  | [] => true
  | (_, node) :: more => node.everywhere p && everywhereIn p more

end

theorem everywhere_folder_iff {p : Node → Bool} {entries : List (Name × Node)} :
    (Node.folder entries).everywhere p = true ↔
      p (.folder entries) = true ∧ ∀ entry ∈ entries, entry.2.everywhere p = true := by
  have hin : everywhereIn p entries = true ↔ ∀ entry ∈ entries, entry.2.everywhere p = true := by
    induction entries with
    | nil => simp [everywhereIn]
    | cons first more ih => simp [everywhereIn, ih]
  rw [everywhere, Bool.and_eq_true, hin]

theorem mem_of_lookup {name : Name} {node : Node} {entries : List (Name × Node)}
    (h : entries.lookup name = some node) : (name, node) ∈ entries := by
  obtain ⟨front, back, rfl, -⟩ := List.lookup_eq_some_iff.mp h
  simp

/-- A condition that is met everywhere is met from any location on. -/
theorem everywhere_of_get? {p : Node → Bool} {node found : Node} {location : Location}
    (h : node.everywhere p = true) (hf : node.get? location = some found) :
    found.everywhere p = true := by
  induction location generalizing node with
  | nil =>
    obtain rfl : node = found := Option.some.inj hf
    exact h
  | cons name rest ih =>
    cases node with
    | file content => simp at hf
    | link target => simp at hf
    | folder entries =>
      rw [get?_folder_cons, Option.bind_eq_some_iff] at hf
      obtain ⟨child, hc, hr⟩ := hf
      exact ih ((everywhere_folder_iff.mp h).2 _ (mem_of_lookup hc)) hr

end Node

/-- Whether a string of bytes can name an entry: it leads somewhere, is one segment without a NUL in
it, and not too long. -/
def Name.isProper (name : Name) : Bool :=
  !name.isEmpty && name != Path.here && name != Path.above && !name.contains Path.slash &&
    !name.contains 0 && decide (name.length ≤ Disk.maxName)

namespace Node

/-- Whether a node is no folder or one with proper names in it, each of them once. -/
def isTidy : Node → Bool
  | .folder entries =>
    (entries.map Prod.fst).all Name.isProper && decide (entries.map Prod.fst).Nodup
  | _ => true

/-- Whether a tree is one that a system can hold. -/
def isTree (node : Node) : Bool := node.everywhere isTidy

def isNoLink : Node → Bool
  | .link _ => false
  | _ => true

def isLinkFree (node : Node) : Bool := node.everywhere isNoLink

theorem isTree_of_get? {node found : Node} {location : Location} (h : node.isTree = true)
    (hf : node.get? location = some found) : found.isTree = true :=
  everywhere_of_get? h hf

theorem get?_ne_link {node : Node} (h : node.isLinkFree = true) (location : Location)
    (target : Path) : node.get? location ≠ some (.link target) := by
  intro hl
  have hn : (Node.link target).everywhere isNoLink = true := everywhere_of_get? h hl
  exact absurd hn (by simp [everywhere, isNoLink])

theorem isTree_of_mem {entries : List (Name × Node)} {entry : Name × Node}
    (h : (Node.folder entries).isTree = true) (he : entry ∈ entries) : entry.2.isTree = true :=
  (everywhere_folder_iff.mp h).2 entry he

theorem isProper_of_mem {entries : List (Name × Node)} {entry : Name × Node}
    (h : (Node.folder entries).isTree = true) (he : entry ∈ entries) :
    entry.1.isProper = true := by
  have ht := (everywhere_folder_iff.mp h).1
  rw [isTidy, Bool.and_eq_true] at ht
  exact List.all_eq_true.mp ht.1 _ (List.mem_map_of_mem he)

theorem nodup_of_isTree {entries : List (Name × Node)} (h : (Node.folder entries).isTree = true) :
    (entries.map Prod.fst).Nodup := by
  have ht := (everywhere_folder_iff.mp h).1
  rw [isTidy, Bool.and_eq_true] at ht
  exact of_decide_eq_true ht.2

/-- Where no name stands twice, each entry of a folder is what its name leads to. -/
theorem lookup_of_mem {entries : List (Name × Node)} {name : Name} {node : Node}
    (h : (entries.map Prod.fst).Nodup) (he : (name, node) ∈ entries) :
    entries.lookup name = some node := by
  obtain ⟨front, back, rfl⟩ := List.append_of_mem he
  refine List.lookup_eq_some_iff.mpr ⟨front, back, rfl, fun entry hf => ?_⟩
  rw [List.map_append, List.nodup_append] at h
  have hne := h.2.2 entry.1 (List.mem_map_of_mem hf) name (by simp)
  simpa using hne.symm

/-- The names on the way to anything in a tree are proper. -/
theorem isProper_of_get? {node found : Node} {location : Location} (h : node.isTree = true)
    (hf : node.get? location = some found) : ∀ name ∈ location, name.isProper = true := by
  induction location generalizing node with
  | nil => simp
  | cons first rest ih =>
    cases node with
    | file content => simp at hf
    | link target => simp at hf
    | folder entries =>
      rw [get?_folder_cons, Option.bind_eq_some_iff] at hf
      obtain ⟨child, hc, hr⟩ := hf
      have hm := mem_of_lookup hc
      intro name hname
      rcases List.mem_cons.mp hname with rfl | hname
      · exact isProper_of_mem h hm
      · exact ih (isTree_of_mem h hm) hr name hname

end Node

end RegionToggle
