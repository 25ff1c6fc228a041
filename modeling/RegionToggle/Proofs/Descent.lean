import RegionToggle.Proofs.Stride

/-!
# Walking down from a root

A path that goes down from a folder by names that the tree has there leads where the names say, in
whatever way the path is followed, provided that it is not too long and does not end in a link that
is followed. Where there are no links, the name that a path ends in is that of the folder it leads
to.
-/

namespace RegionToggle.Disk

variable {disk : Disk} {approach : Approach} {links : Nat} {folder base : Location}
  {segment : Bytes} {rest rest' front tail segments : List Bytes} {names : List Name}
  {entries : List (Name × Node)} {node : Node}

/-- A stride that goes on or follows a link does so in front of other segments, too, unless these
are all empty. -/
theorem stride_eq_of_not_ends (h : ∀ result, disk.stride .look folder segment rest ≠ .ends result)
    (hr : rest'.all List.isEmpty = false) :
    disk.stride approach folder segment rest' = disk.stride .look folder segment rest := by
  have hnonempty : rest'.isEmpty = false := by
    cases rest' with
    | nil => simp at hr
    | cons s more => rfl
  cases hs : disk.stride .look folder segment rest with
  | ends result => exact absurd hs (h result)
  | goesOn next =>
    rcases stride_goesOn_cases hs with ⟨hstay, rfl⟩ | ⟨rfl, rfl⟩ | ⟨hstay, ha, hl, rfl, _, hg⟩
    · exact stride_of_staysHere hstay
    · exact stride_above
    · rw [stride_name hstay ha (.inr (.inr hr)) hl, hg]
  | follows target =>
    obtain ⟨hstay, ha, hl, hg⟩ := stride_follows_cases hs
    rw [stride_name hstay ha (.inr (.inr hr)) hl, hg]
    simp [hnonempty]

/-- A walk to a folder goes on from there, if what is added leads on. Empty segments at its end make
no difference. -/
theorem walk_append (ht : ∀ s ∈ tail, s = []) (hr : rest.all List.isEmpty = false)
    (h : disk.walk .look links folder (front ++ tail) = .ok (.found base (.folder entries))) :
    ∃ links', disk.walk approach links folder (front ++ rest) =
      disk.walk approach links' base rest := by
  have happend : ∀ front : List Bytes, (front ++ rest).all List.isEmpty = false := by simp [hr]
  generalize hseg : front ++ tail = segments at h
  induction links, folder, segments using walk_induction disk .look generalizing front tail with
  | nil links folder =>
    obtain ⟨rfl, -⟩ := List.append_eq_nil_iff.mp hseg
    rw [walk_nil] at h
    cases hg : disk.top.get? folder with
    | none => simp [hg] at h
    | some node =>
      simp only [hg, Except.ok.injEq, Place.found.injEq] at h
      exact ⟨links, by rw [h.1, List.nil_append]⟩
  | ends links folder segment more result hs =>
    rw [walk_cons, hs] at h
    subst h
    rcases stride_ends_cases hs with ⟨hp, -⟩ | ⟨node, hp, -, hn⟩
    · simp at hp
    · exact absurd (Place.found.inj hp).2.symm (hn entries)
  | goesOn links folder segment more next hs ih =>
    rw [walk_cons, hs] at h
    cases front with
    | nil =>
      -- an empty segment at the end
      rw [List.nil_append] at hseg
      subst hseg
      obtain rfl : segment = [] := ht segment List.mem_cons_self
      rw [stride_of_staysHere rfl, Stride.goesOn.injEq] at hs
      subst hs
      exact ih (fun s hm => ht s (List.mem_cons_of_mem _ hm)) rfl h
    | cons first front =>
      rw [List.cons_append, List.cons.injEq] at hseg
      obtain ⟨rfl, hmore⟩ := hseg
      obtain ⟨links', hw⟩ := ih ht hmore h
      have hstride : disk.stride approach folder first (front ++ rest) = .goesOn next :=
        (stride_eq_of_not_ends (by simp [hs]) (happend front)).trans hs
      refine ⟨links', ?_⟩
      rw [List.cons_append, walk_cons, hstride]
      exact hw
  | loops folder segment more target hs =>
    rw [walk_cons, hs] at h
    simp at h
  | follows links folder segment more target hs ih =>
    rw [walk_cons, hs] at h
    cases front with
    | nil =>
      rw [List.nil_append] at hseg
      subst hseg
      obtain rfl : segment = [] := ht segment List.mem_cons_self
      rw [stride_of_staysHere rfl] at hs
      simp at hs
    | cons first front =>
      rw [List.cons_append, List.cons.injEq] at hseg
      obtain ⟨rfl, hmore⟩ := hseg
      have hfront : (target.segments ++ front) ++ tail = target.segments ++ more := by
        rw [List.append_assoc, hmore]
      obtain ⟨links', hw⟩ := ih ht hfront h
      have hstride : disk.stride approach folder first (front ++ rest) = .follows target :=
        (stride_eq_of_not_ends (by simp [hs]) (happend front)).trans hs
      refine ⟨links', ?_⟩
      rw [List.cons_append, walk_cons, hstride]
      rw [List.append_assoc] at hw
      exact hw

/-- Names that the tree has below a folder lead to what it has there. -/
theorem walk_names (hg : disk.top.get? (base ++ names) = some node) (hne : names ≠ [])
    (hn : ∀ name ∈ names, name.isProper = true)
    (hl : approach.followsLast = true → ∀ target, node ≠ .link target) :
    disk.walk approach links base names = .ok (.found (base ++ names) node) := by
  induction names generalizing base with
  | nil => exact absurd rfl hne
  | cons name more ih =>
    obtain ⟨-, -, ha, -, -, hlen⟩ := Name.isProper_iff.mp (hn name List.mem_cons_self)
    have hstay := Name.not_staysHere_of_isProper (hn name List.mem_cons_self)
    have hmore : ∀ n ∈ more, Name.isProper n = true := fun n hm =>
      hn n (List.mem_cons_of_mem _ hm)
    have hbase : base ++ name :: more = (base ++ [name]) ++ more := by simp
    cases more with
    | nil =>
      rw [walk_cons, stride_name hstay ha (.inr (.inl rfl)) hlen, hg]
      cases node with
      | folder entries =>
        change disk.walk approach links (base ++ [name]) [] = _
        rw [walk_nil, hg]
      | file content => rfl
      | link target =>
        cases hf : approach.followsLast with
        | false => simp
        | true => exact absurd rfl (hl hf target)
    | cons next rest =>
      have hnext := Name.ne_nil_of_isProper (hmore next List.mem_cons_self)
      obtain ⟨entries, hfolder⟩ := Node.exists_folder_of_get?_append (hbase ▸ hg)
      have hall : (next :: rest).all List.isEmpty = false := by simp [hnext]
      rw [walk_cons, stride_name hstay ha (.inr (.inr hall)) hlen, hfolder, hbase]
      exact ih (hbase ▸ hg) (List.cons_ne_nil _ _) hmore

/-- Without links a walk to a folder ends where its last step says, or where it starts if there is
no step. -/
theorem getLast?_of_walk (hfree : disk.top.isLinkFree = true)
    (h : disk.walk .look links folder segments = .ok (.found base (.folder entries))) :
    let steps := segments.filter fun s => !Path.staysHere s
    (steps = [] → base = folder) ∧
      ∀ name, Path.nameOf? steps = some name → base.getLast? = some name := by
  induction links, folder, segments using walk_induction disk .look with
  | nil links folder =>
    rw [walk_nil] at h
    cases hg : disk.top.get? folder with
    | none => simp [hg] at h
    | some node =>
      simp only [hg, Except.ok.injEq, Place.found.injEq] at h
      simp [Path.nameOf?, h.1]
  | ends links folder segment more result hs =>
    rw [walk_cons, hs] at h
    subst h
    rcases stride_ends_cases hs with ⟨hp, -⟩ | ⟨node, hp, -, hn⟩
    · simp at hp
    · exact absurd (Place.found.inj hp).2.symm (hn entries)
  | goesOn links folder segment more next hs ih =>
    rw [walk_cons, hs] at h
    obtain ⟨hstart, hname⟩ := ih h
    have hfilter : (segment :: more).filter (fun s => !Path.staysHere s) =
        (if Path.staysHere segment then [] else [segment]) ++
          more.filter fun s => !Path.staysHere s := by
      cases hstay : Path.staysHere segment <;> simp [hstay]
    rw [hfilter]
    generalize (more.filter fun s => !Path.staysHere s) = steps at hstart hname ⊢
    rcases stride_goesOn_cases hs with ⟨hstay, rfl⟩ | ⟨rfl, rfl⟩ | ⟨hstay, -, -, rfl, -⟩
    · rw [if_pos hstay]
      exact ⟨hstart, hname⟩
    · rw [if_neg (by decide)]
      refine ⟨fun hnil => absurd hnil (by simp), fun name hn => ?_⟩
      cases steps with
      | nil => simp [Path.nameOf?, Option.filter_some] at hn
      | cons step steps => exact hname name hn
    · rw [if_neg (by simp [hstay])]
      refine ⟨fun hnil => absurd hnil (by simp), fun name hn => ?_⟩
      cases steps with
      | nil =>
        rw [hstart rfl, List.getLast?_concat]
        exact (Option.filter_eq_some_iff.mp hn).1
      | cons step steps => exact hname name hn
  | loops folder segment more target hs =>
    exact absurd (stride_follows_cases hs).2.2.2 (Node.get?_ne_link hfree _ _)
  | follows links folder segment more target hs ih =>
    exact absurd (stride_follows_cases hs).2.2.2 (Node.get?_ne_link hfree _ _)

/-! ### Paths below a root -/

variable {root : Path}

theorem get?_of_locate {path : Path} {place : Place}
    (h : disk.locate approach path = .ok place) : disk.top.get? place.location = place.node? := by
  rw [locate] at h
  split at h
  · simp at h
  · exact get?_of_walk h

/-- A path that leads to a location leads to what the tree has there. -/
theorem eq_found_of_locate {path : Path} {place : Place}
    (h : disk.locate approach path = .ok place)
    (hg : disk.top.get? place.location = some node) : place = .found place.location node :=
  Place.eq_found ((get?_of_locate h).symm.trans hg)

theorem find_eq_ok_iff_locate {path : Path} {location : Location} :
    disk.find approach path = .ok (location, node) ↔
      disk.locate approach path = .ok (.found location node) := by
  rw [find]
  cases disk.locate approach path with
  | error fault => simp
  | ok place => cases place <;> simp

theorem find_eq_ok_iff {path : Path} {location : Location} :
    disk.find approach path = .ok (location, node) ↔
      checkPath path = .ok () ∧
        disk.walk approach maxLinks (start disk.here path) path.segments =
          .ok (.found location node) := by
  rw [find_eq_ok_iff_locate, locate]
  cases checkPath path <;> simp

/-- A path that goes nowhere leads to where it starts. -/
theorem find_of_staysHere {path : Path} (hc : checkPath path = .ok ())
    (hs : start disk.here path = base) (hg : disk.top.get? base = some node)
    (hstay : ∀ segment ∈ path.segments, Path.staysHere segment = true) :
    disk.find approach path = .ok (base, node) := by
  refine find_eq_ok_iff.mpr ⟨hc, ?_⟩
  rw [hs, walk_of_staysHere hstay, walk_nil, hg]

/-- What a path leads to is in the tree. -/
theorem get?_of_find {path : Path} {location : Location}
    (h : disk.find approach path = .ok (location, node)) : disk.top.get? location = some node :=
  get?_of_locate (find_eq_ok_iff_locate.mp h)

/-- Without links a folder has the name that a path to it ends in. -/
theorem getLast?_of_find (hfree : disk.top.isLinkFree = true)
    (h : disk.find .look root = .ok (base, .folder entries)) {name : Name}
    (hn : root.name? = some name) : base.getLast? = some name :=
  (getLast?_of_walk hfree (find_eq_ok_iff.mp h).2).2 name hn

/-- A path below a root leads to what the tree has there, unless it is too long. -/
theorem locate_descend (ht : disk.top.isTree = true)
    (hb : disk.find .look root = .ok (base, .folder entries))
    (hg : disk.top.get? (base ++ names) = some node) (hne : names ≠ [])
    (hl : approach.followsLast = true → ∀ target, node ≠ .link target) :
    disk.locate approach (root.descend names) =
      if maxPath < (root.descend names).bytes.length then .error .nameTooLong
      else .ok (.found (base ++ names) node) := by
  have hn : ∀ name ∈ names, name.isProper = true := fun name hname =>
    Node.isProper_of_get? ht hg name (List.mem_append_right _ hname)
  obtain ⟨hc, hw⟩ := find_eq_ok_iff.mp hb
  have hroot : root.bytes ≠ [] := (checkPath_eq_ok_iff.mp hc).2.1
  have hall : names.all List.isEmpty = false := by
    cases names with
    | nil => exact absurd rfl hne
    | cons name more => simp [Name.ne_nil_of_isProper (hn name List.mem_cons_self)]
  have hwalk : disk.walk approach maxLinks (start disk.here (root.descend names))
      (root.descend names).segments = .ok (.found (base ++ names) node) := by
    rw [Path.segments_descend hroot hne hn, start, Path.isAbsolute_descend hroot, ← start]
    have htail : ∃ tail : List Bytes, root.segments = root.stem ++ tail ∧ ∀ s ∈ tail, s = [] := by
      rcases root.segments_eq_stem_append with h | h
      · exact ⟨[], h, by simp⟩
      · exact ⟨[[]], h, by simp⟩
    obtain ⟨tail, hsegments, hempty⟩ := htail
    rw [hsegments] at hw
    obtain ⟨links', happend⟩ :
        ∃ links', disk.walk approach maxLinks (start disk.here root) (root.stem ++ names) =
          disk.walk approach links' base names :=
      walk_append hempty hall hw
    rw [happend]
    exact walk_names hg hne hn hl
  rw [locate, checkPath_descend hc hn]
  by_cases hlong : maxPath < (root.descend names).bytes.length
  · rw [if_pos hlong, if_pos hlong]
  · rw [if_neg hlong, if_neg hlong]
    exact hwalk

end RegionToggle.Disk
