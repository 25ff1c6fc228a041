import RegionToggle.Proofs.TreeView

/-!
# Paths that go down from a root

A path that goes down from a root by proper names has the segments of the root, and then the names.
Where the root ends in a slash, an empty segment at its end makes room for the first name.
-/

namespace RegionToggle

namespace Path

theorem split_ne_nil (bytes : Bytes) : split bytes ≠ [] := by
  cases bytes with
  | nil => simp [split]
  | cons b rest =>
    rw [split]
    split
    · simp
    · split <;> simp

/-- A slash divides the segments in front of it from those behind it. -/
theorem split_append_slash (front rest : Bytes) :
    split (front ++ slash :: rest) = split front ++ split rest := by
  induction front with
  | nil => simp [split]
  | cons b front ih =>
    by_cases hb : b = slash
    · simp [split, hb, ih]
    · cases hs : split front with
      | nil => exact absurd hs (split_ne_nil front)
      | cons segment more => simp [split, hb, ih, hs]

theorem split_of_slash_not_mem {bytes : Bytes} (h : slash ∉ bytes) : split bytes = [bytes] := by
  induction bytes with
  | nil => rfl
  | cons b rest ih =>
    rw [List.mem_cons, not_or] at h
    simp [split, Ne.symm h.1, ih h.2]

/-- The segments that a path puts in front of names further down. -/
def stem (p : Path) : List Bytes :=
  if p.bytes.getLast? = some slash then p.segments.dropLast else p.segments

/-- The segments of a path are its stem, with an empty one behind it if the path ends in a slash. -/
theorem segments_eq_stem_append (p : Path) :
    p.segments = p.stem ++ [] ∨ p.segments = p.stem ++ [[]] := by
  rw [stem]
  split
  · next h =>
    obtain ⟨front, hf⟩ := List.getLast?_eq_some_iff.mp h
    right
    rw [segments, hf, split_append_slash]
    simp [split]
  · exact .inl (List.append_nil _).symm

end Path

namespace Name

variable {name : Name}

theorem isProper_iff :
    name.isProper = true ↔ name ≠ [] ∧ name ≠ Path.here ∧ name ≠ Path.above ∧
      Path.slash ∉ name ∧ 0 ∉ name ∧ name.length ≤ Disk.maxName := by
  simp [isProper, and_assoc]

theorem ne_nil_of_isProper (h : name.isProper = true) : name ≠ [] := (isProper_iff.mp h).1

theorem slash_not_mem_of_isProper (h : name.isProper = true) : Path.slash ∉ name :=
  (isProper_iff.mp h).2.2.2.1

theorem nul_not_mem_of_isProper (h : name.isProper = true) : 0 ∉ name :=
  (isProper_iff.mp h).2.2.2.2.1

/-- A proper name leads further down. -/
theorem not_staysHere_of_isProper (h : name.isProper = true) : Path.staysHere name = false := by
  obtain ⟨hne, hh, -⟩ := isProper_iff.mp h
  simp [Path.staysHere, hne, hh]

end Name

namespace Path

variable {p : Path} {name : Name} {names : List Name}

/-- One name further, a path has its bytes, at most one slash, and the name. -/
theorem bytes_child (h : p.bytes ≠ []) (name : Name) :
    (p.bytes.getLast? = some slash ∧ (p.child name).bytes = p.bytes ++ name) ∨
      (p.bytes.getLast? ≠ some slash ∧ (p.child name).bytes = p.bytes ++ slash :: name) := by
  rw [child]
  cases hl : p.bytes.getLast? with
  | none => exact absurd (List.getLast?_eq_none_iff.mp hl) h
  | some last =>
    by_cases hs : last = slash
    · simp [hs]
    · simp [hs]

theorem bytes_child_ne_nil (h : p.bytes ≠ []) (name : Name) : (p.child name).bytes ≠ [] := by
  rcases bytes_child h name with ⟨-, hb⟩ | ⟨-, hb⟩ <;> simp [hb, h]

theorem segments_child (h : p.bytes ≠ []) (hn : name.isProper = true) :
    (p.child name).segments = p.stem ++ [name] := by
  have hname := split_of_slash_not_mem (Name.slash_not_mem_of_isProper hn)
  rcases bytes_child h name with ⟨hl, hb⟩ | ⟨hl, hb⟩
  · obtain ⟨front, hf⟩ := List.getLast?_eq_some_iff.mp hl
    rw [stem, if_pos hl, segments, segments, hb, hf, List.append_assoc, List.singleton_append,
      split_append_slash, split_append_slash, hname]
    simp [split]
  · rw [stem, if_neg hl, segments, segments, hb, split_append_slash, hname]

theorem stem_child (h : p.bytes ≠ []) (hn : name.isProper = true) :
    (p.child name).stem = (p.child name).segments := by
  have hlast : (p.child name).bytes.getLast? ≠ some slash := by
    have hne := Name.ne_nil_of_isProper hn
    have hs : name.getLast? ≠ some slash := fun he =>
      Name.slash_not_mem_of_isProper hn (List.mem_of_getLast? he)
    rcases bytes_child h name with ⟨-, hb⟩ | ⟨-, hb⟩
    · rwa [hb, List.getLast?_append_of_ne_nil _ hne]
    · rwa [hb, ← List.singleton_append, ← List.append_assoc,
        List.getLast?_append_of_ne_nil _ hne]
  rw [stem, if_neg hlast]

/-- Some names further, a path has the segments of its stem, and the names. -/
theorem segments_descend (h : p.bytes ≠ []) (hne : names ≠ [])
    (hn : ∀ name ∈ names, name.isProper = true) : (p.descend names).segments = p.stem ++ names := by
  induction names generalizing p with
  | nil => exact absurd rfl hne
  | cons name more ih =>
    have hname := hn name List.mem_cons_self
    change ((p.child name).descend more).segments = _
    cases more with
    | nil => exact segments_child h hname
    | cons next rest =>
      have hmore : ∀ n ∈ next :: rest, Name.isProper n = true := fun n hm =>
        hn n (List.mem_cons_of_mem _ hm)
      rw [ih (bytes_child_ne_nil h name) (List.cons_ne_nil _ _) hmore, stem_child h hname,
        segments_child h hname, List.append_assoc, List.singleton_append]

/-- The steps of a path some names further are its own steps, and the names. -/
theorem steps_descend (h : p.bytes ≠ []) (hn : ∀ name ∈ names, name.isProper = true) :
    (p.descend names).steps = p.steps ++ names := by
  cases names with
  | nil => exact (List.append_nil _).symm
  | cons first more =>
    have hstem : p.steps = p.stem.filter fun segment => !staysHere segment := by
      rw [steps]
      rcases segments_eq_stem_append p with hs | hs
      · rw [hs, List.append_nil]
      · rw [hs, List.filter_append]
        exact List.append_nil _
    have hnames : (first :: more).filter (fun segment => !staysHere segment) = first :: more := by
      refine List.filter_eq_self.mpr fun name hm => ?_
      rw [Name.not_staysHere_of_isProper (hn name hm)]
      rfl
    rw [steps, segments_descend h (List.cons_ne_nil _ _) hn, List.filter_append, ← hstem, hnames]

/-- Some names further, a path has its bytes, and more that are slashes or come from the names. -/
theorem bytes_descend (h : p.bytes ≠ []) (names : List Name) :
    ∃ more, (p.descend names).bytes = p.bytes ++ more ∧
      ∀ b ∈ more, b = slash ∨ ∃ name ∈ names, b ∈ name := by
  induction names generalizing p with
  | nil => exact ⟨[], (List.append_nil _).symm, by simp⟩
  | cons name rest ih =>
    obtain ⟨more, hm, hb⟩ := ih (bytes_child_ne_nil h name)
    change ∃ more, ((p.child name).descend rest).bytes = p.bytes ++ more ∧ _
    rw [hm]
    rcases bytes_child h name with ⟨-, hc⟩ | ⟨-, hc⟩
    · refine ⟨name ++ more, by rw [hc, List.append_assoc], fun b hmem => ?_⟩
      rcases List.mem_append.mp hmem with hin | hin
      · exact .inr ⟨name, List.mem_cons_self, hin⟩
      · exact (hb b hin).imp_right fun ⟨n, hn, hbn⟩ => ⟨n, List.mem_cons_of_mem _ hn, hbn⟩
    · refine ⟨slash :: name ++ more, by rw [hc, List.append_assoc], fun b hmem => ?_⟩
      rcases List.mem_append.mp hmem with hin | hin
      · rcases List.mem_cons.mp hin with rfl | hin
        · exact .inl rfl
        · exact .inr ⟨name, List.mem_cons_self, hin⟩
      · exact (hb b hin).imp_right fun ⟨n, hn, hbn⟩ => ⟨n, List.mem_cons_of_mem _ hn, hbn⟩

theorem length_le_descend (h : p.bytes ≠ []) (names : List Name) :
    p.bytes.length ≤ (p.descend names).bytes.length := by
  obtain ⟨more, hm, -⟩ := bytes_descend h names
  rw [hm, List.length_append]
  exact Nat.le_add_right _ _

/-- No NUL comes into a path with names. -/
theorem nul_not_mem_descend (h : p.bytes ≠ []) (hz : 0 ∉ p.bytes)
    (hn : ∀ name ∈ names, name.isProper = true) : 0 ∉ (p.descend names).bytes := by
  obtain ⟨more, hm, hb⟩ := bytes_descend h names
  rw [hm, List.mem_append, not_or]
  refine ⟨hz, fun hmem => ?_⟩
  rcases hb 0 hmem with hs | ⟨name, hname, hin⟩
  · exact absurd hs (by decide)
  · exact Name.nul_not_mem_of_isProper (hn name hname) hin

theorem isAbsolute_descend (h : p.bytes ≠ []) (names : List Name) :
    (p.descend names).isAbsolute = p.isAbsolute := by
  obtain ⟨more, hm, -⟩ := bytes_descend h names
  rw [isAbsolute, isAbsolute, hm, List.head?_append_of_ne_nil _ h]

end Path

namespace Disk

variable {path : Path}

theorem checkPath_eq_ok_iff :
    checkPath path = .ok () ↔
      0 ∉ path.bytes ∧ path.bytes ≠ [] ∧ path.bytes.length ≤ maxPath := by
  rw [checkPath]
  split
  · simp_all
  · split
    · simp_all
    · split <;> simp_all

/-- Names further down a path that the system takes can only be too many. -/
theorem checkPath_descend (h : checkPath path = .ok ()) {names : List Name}
    (hn : ∀ name ∈ names, name.isProper = true) :
    checkPath (path.descend names) =
      if maxPath < (path.descend names).bytes.length then .error .nameTooLong else .ok () := by
  obtain ⟨hz, hne, -⟩ := checkPath_eq_ok_iff.mp h
  obtain ⟨more, hm, -⟩ := Path.bytes_descend hne names
  have hzero := Path.nul_not_mem_descend hne hz hn
  have hnonempty : (path.descend names).bytes ≠ [] := by simp [hm, hne]
  simp [checkPath, hzero, hnonempty]

end Disk

end RegionToggle
