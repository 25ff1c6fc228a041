import RegionToggle.Proofs.PathSegments

/-!
# Following a path, stride by stride

Following a path is a matter of one segment at a time: the walk goes on from some folder, follows a
link, or ends. Where it leads hangs on the shape of the tree alone, that is on all but what is in
its files, and a path that leads somewhere when a file may be made there leads there anyway.
-/

namespace RegionToggle

/-- What becomes of a walk at one segment. -/
inductive Stride where
  | ends (result : Except Fault Place)
  | goesOn (folder : Location)
  | follows (target : Path)

def Place.location : Place → Location
  | .found location _ => location
  | .vacant location => location

/-- The node that a path leads to, unless the place is free. -/
def Place.node? : Place → Option Node
  | .found _ node => some node
  | .vacant _ => none

/-- A place with something there is found where it is. -/
theorem Place.eq_found {place : Place} {node : Node} (h : place.node? = some node) :
    place = .found place.location node := by
  cases place with
  | vacant location => simp [node?] at h
  | found location node' => rw [Option.some.inj h]; rfl

namespace Disk

/-- The stride of a walk over a segment, with the segments behind it. -/
def stride (disk : Disk) (approach : Approach) (folder : Location) (segment : Bytes)
    (rest : List Bytes) : Stride :=
  if Path.staysHere segment then .goesOn folder
  else if segment == Path.above then .goesOn folder.dropLast
  else if approach.makes && !rest.isEmpty && rest.all List.isEmpty then .ends (.error .isDirectory)
  else if maxName < segment.length then .ends (.error .nameTooLong)
  else
    match disk.top.get? (folder ++ [segment]) with
    | none =>
      .ends (if rest.isEmpty then .ok (.vacant (folder ++ [segment])) else .error .noEntry)
    | some (.folder _) => .goesOn (folder ++ [segment])
    | some (.file content) =>
      .ends (if rest.isEmpty then .ok (.found (folder ++ [segment]) (.file content))
        else .error .notDirectory)
    | some (.link target) =>
      if rest.isEmpty && !approach.followsLast then
        .ends (.ok (.found (folder ++ [segment]) (.link target)))
      else .follows target

variable {disk : Disk} {approach : Approach} {links : Nat} {folder : Location} {segment : Bytes}
  {rest segments : List Bytes}

theorem walk_nil (disk : Disk) (approach : Approach) (links : Nat) (folder : Location) :
    disk.walk approach links folder [] =
      match disk.top.get? folder with
      | some node => .ok (.found folder node)
      | none => .error .noEntry := by
  unfold walk
  cases disk.top.get? folder <;> rfl

/-- A walk takes the stride over its first segment, and goes on accordingly. -/
theorem walk_cons (disk : Disk) (approach : Approach) (links : Nat) (folder : Location)
    (segment : Bytes) (rest : List Bytes) :
    disk.walk approach links folder (segment :: rest) =
      match disk.stride approach folder segment rest with
      | .ends result => result
      | .goesOn next => disk.walk approach links next rest
      | .follows target =>
        match links with
        | 0 => .error .linkLoop
        | links + 1 =>
          disk.walk approach links (start folder target) (target.segments ++ rest) := by
  rw [walk, stride, Path.staysHere]
  split
  · rfl
  split
  · rfl
  split
  · rfl
  split
  · rfl
  cases hg : disk.top.get? (folder ++ [segment]) with
  | none => cases hr : rest.isEmpty <;> simp [hg]
  | some node =>
    cases node with
    | folder entries => simp [hg]
    | file content => cases hr : rest.isEmpty <;> simp [hg]
    | link target =>
      cases hr : rest.isEmpty && !approach.followsLast with
      | false => cases links <;> simp [hg]
      | true => simp [hg]

/-- Induction on a walk: over its strides, and over the links that it follows. -/
@[elab_as_elim]
theorem walk_induction (disk : Disk) (approach : Approach)
    {motive : Nat → Location → List Bytes → Prop}
    (nil : ∀ links folder, motive links folder [])
    (ends : ∀ links folder segment rest result,
      disk.stride approach folder segment rest = .ends result →
        motive links folder (segment :: rest))
    (goesOn : ∀ links folder segment rest next,
      disk.stride approach folder segment rest = .goesOn next → motive links next rest →
        motive links folder (segment :: rest))
    (loops : ∀ folder segment rest target,
      disk.stride approach folder segment rest = .follows target →
        motive 0 folder (segment :: rest))
    (follows : ∀ links folder segment rest target,
      disk.stride approach folder segment rest = .follows target →
        motive links (start folder target) (target.segments ++ rest) →
          motive (links + 1) folder (segment :: rest))
    (links : Nat) (folder : Location) (segments : List Bytes) : motive links folder segments :=
  match segments with
  | [] => nil links folder
  | segment :: rest =>
    match hs : disk.stride approach folder segment rest with
    | .ends result => ends links folder segment rest result hs
    | .goesOn next =>
      goesOn links folder segment rest next hs
        (walk_induction disk approach nil ends goesOn loops follows links next rest)
    | .follows target =>
      match links with
      | 0 => loops folder segment rest target hs
      | links + 1 =>
        follows links folder segment rest target hs
          (walk_induction disk approach nil ends goesOn loops follows links (start folder target)
            (target.segments ++ rest))
  termination_by (links, segments.length)

/-! ### Strides in one tree -/

theorem stride_of_staysHere (h : Path.staysHere segment = true) :
    disk.stride approach folder segment rest = .goesOn folder := by
  rw [stride, if_pos h]

/-- A walk over segments that lead nowhere stays where it is. -/
theorem walk_of_staysHere (h : ∀ segment ∈ segments, Path.staysHere segment = true) :
    disk.walk approach links folder segments = disk.walk approach links folder [] := by
  induction segments with
  | nil => rfl
  | cons segment rest ih =>
    rw [walk_cons, stride_of_staysHere (h segment List.mem_cons_self)]
    exact ih fun s hs => h s (List.mem_cons_of_mem _ hs)

theorem stride_above : disk.stride approach folder Path.above rest = .goesOn folder.dropLast := by
  rw [stride, if_neg (by decide), if_pos (by decide)]

/-- The stride over a segment that is a name is settled by what has that name in the folder. -/
theorem stride_name (hs : Path.staysHere segment = false) (ha : segment ≠ Path.above)
    (hm : approach.makes = false ∨ rest = [] ∨ rest.all List.isEmpty = false)
    (hl : segment.length ≤ maxName) :
    disk.stride approach folder segment rest =
      match disk.top.get? (folder ++ [segment]) with
      | none =>
        .ends (if rest.isEmpty then .ok (.vacant (folder ++ [segment])) else .error .noEntry)
      | some (.folder _) => .goesOn (folder ++ [segment])
      | some (.file content) =>
        .ends (if rest.isEmpty then .ok (.found (folder ++ [segment]) (.file content))
          else .error .notDirectory)
      | some (.link target) =>
        if rest.isEmpty && !approach.followsLast then
          .ends (.ok (.found (folder ++ [segment]) (.link target)))
        else .follows target := by
  have hm' : ¬ (approach.makes && !rest.isEmpty && rest.all List.isEmpty) = true := by
    rcases hm with hm | hm | hm <;> simp [hm]
  rw [stride, if_neg (by simp [hs]), if_neg (by simpa using ha), if_neg hm',
    if_neg (Nat.not_lt.mpr hl)]

/-- A walk goes on from where it is, from the folder above, or from one with the name of the
segment. -/
theorem stride_goesOn_cases {next : Location}
    (h : disk.stride approach folder segment rest = .goesOn next) :
    (Path.staysHere segment = true ∧ next = folder) ∨
    (segment = Path.above ∧ next = folder.dropLast) ∨
    (Path.staysHere segment = false ∧ segment ≠ Path.above ∧ segment.length ≤ maxName ∧
      next = folder ++ [segment] ∧
      ∃ entries, disk.top.get? (folder ++ [segment]) = some (.folder entries)) := by
  rw [stride] at h
  split at h
  · next hs => exact .inl ⟨hs, (Stride.goesOn.inj h).symm⟩
  next hs =>
  split at h
  · next ha => exact .inr (.inl ⟨eq_of_beq ha, (Stride.goesOn.inj h).symm⟩)
  next ha =>
  split at h
  · simp at h
  split at h
  · simp at h
  next hl =>
  cases hg : disk.top.get? (folder ++ [segment]) with
  | none => simp [hg] at h
  | some node =>
    cases node with
    | file content => simp [hg] at h
    | link target => cases hr : rest.isEmpty && !approach.followsLast <;> simp [hg, hr] at h
    | folder entries =>
      simp only [hg, Stride.goesOn.injEq] at h
      exact .inr (.inr ⟨by simpa using hs, by simpa using ha, by omega, h.symm, entries, rfl⟩)

/-- A walk follows a link that has the name of the segment. -/
theorem stride_follows_cases {target : Path}
    (h : disk.stride approach folder segment rest = .follows target) :
    Path.staysHere segment = false ∧ segment ≠ Path.above ∧ segment.length ≤ maxName ∧
      disk.top.get? (folder ++ [segment]) = some (.link target) := by
  rw [stride] at h
  split at h
  · simp at h
  next hs =>
  split at h
  · simp at h
  next ha =>
  split at h
  · simp at h
  split at h
  · simp at h
  next hl =>
  cases hg : disk.top.get? (folder ++ [segment]) with
  | none => simp [hg] at h
  | some node =>
    cases node with
    | folder entries => simp [hg] at h
    | file content => simp [hg] at h
    | link target' =>
      cases hr : rest.isEmpty && !approach.followsLast <;> simp [hg, hr] at h
      exact ⟨by simpa using hs, by simpa using ha, by omega, by rw [h]⟩

/-- A walk ends at a free name, or at something that has the name of the segment and is no folder.
-/
theorem stride_ends_cases {place : Place}
    (h : disk.stride approach folder segment rest = .ends (.ok place)) :
    (place = .vacant (folder ++ [segment]) ∧ disk.top.get? (folder ++ [segment]) = none) ∨
    ∃ node, place = .found (folder ++ [segment]) node ∧
      disk.top.get? (folder ++ [segment]) = some node ∧ ∀ entries, node ≠ .folder entries := by
  rw [stride] at h
  split at h
  · simp at h
  split at h
  · simp at h
  split at h
  · simp at h
  split at h
  · simp at h
  cases hg : disk.top.get? (folder ++ [segment]) with
  | none =>
    cases hr : rest.isEmpty <;> simp [hg, hr] at h
    exact .inl ⟨h.symm, rfl⟩
  | some node =>
    cases node with
    | folder entries => simp [hg] at h
    | file content =>
      cases hr : rest.isEmpty <;> simp [hg, hr] at h
      exact .inr ⟨_, h.symm, rfl, by simp⟩
    | link target =>
      cases hr : rest.isEmpty && !approach.followsLast <;> simp [hg, hr] at h
      exact .inr ⟨_, h.symm, rfl, by simp⟩

/-- Where a walk leads to something, the tree has it there; where it leads to a free place, the tree
has nothing there. -/
theorem get?_of_walk {place : Place}
    (h : disk.walk approach links folder segments = .ok place) :
    disk.top.get? place.location = place.node? := by
  induction links, folder, segments using walk_induction disk approach with
  | nil links folder =>
    rw [walk_nil] at h
    cases hg : disk.top.get? folder with
    | none => simp [hg] at h
    | some node =>
      simp only [hg, Except.ok.injEq] at h
      rw [← h]
      exact hg
  | ends links folder segment rest result hs =>
    rw [walk_cons, hs] at h
    subst h
    rcases stride_ends_cases hs with ⟨rfl, hg⟩ | ⟨node, rfl, hg, -⟩
    · exact hg
    · exact hg
  | goesOn links folder segment rest next hs ih =>
    rw [walk_cons, hs] at h
    exact ih h
  | loops folder segment rest target hs =>
    rw [walk_cons, hs] at h
    simp at h
  | follows links folder segment rest target hs ih =>
    rw [walk_cons, hs] at h
    exact ih h

/-- If a file may be made at the end, a stride is what it would be anyway, or an error. -/
theorem stride_makes (disk : Disk) (followsLast : Bool) (folder : Location) (segment : Bytes)
    (rest : List Bytes) :
    disk.stride ⟨followsLast, true⟩ folder segment rest = .ends (.error .isDirectory) ∨
      disk.stride ⟨followsLast, true⟩ folder segment rest =
        disk.stride ⟨followsLast, false⟩ folder segment rest := by
  cases hm : !rest.isEmpty && rest.all List.isEmpty with
  | false => simp [stride, hm]
  | true =>
    rw [stride, stride]
    split
    · exact .inr rfl
    split
    · exact .inr rfl
    · exact .inl (by simp [hm])

/-- Where a walk leads on which a file may be made, it leads anyway. -/
theorem walk_look_of_walk_write {place : Place}
    (h : disk.walk .write links folder segments = .ok place) :
    disk.walk .look links folder segments = .ok place := by
  have hmakes : ∀ folder segment rest,
      disk.stride .write folder segment rest = .ends (.error .isDirectory) ∨
        disk.stride .write folder segment rest = disk.stride .look folder segment rest :=
    stride_makes disk true
  induction links, folder, segments using walk_induction disk .write with
  | nil links folder =>
    rw [walk_nil] at h ⊢
    exact h
  | ends links folder segment rest result hs =>
    rw [walk_cons, hs] at h
    subst h
    rcases hmakes folder segment rest with he | he
    · simp [hs] at he
    · rw [walk_cons, ← he, hs]
  | goesOn links folder segment rest next hs ih =>
    rw [walk_cons, hs] at h
    rcases hmakes folder segment rest with he | he
    · simp [hs] at he
    · rw [walk_cons, ← he, hs]
      exact ih h
  | loops folder segment rest target hs =>
    rw [walk_cons, hs] at h
    simp at h
  | follows links folder segment rest target hs ih =>
    rw [walk_cons, hs] at h
    rcases hmakes folder segment rest with he | he
    · simp [hs] at he
    · rw [walk_cons, ← he, hs]
      exact ih h

end Disk

/-! ### Trees of one shape -/

/-- An entry without what is in it, if it is a file. -/
def Entry.outline : Entry → Entry
  | .file _ => .file []
  | .link target => .link target
  | .folder names => .folder names

namespace Disk

/-- Whether two disks are the same but for what is in their files. -/
structure Alike (disk disk' : Disk) : Prop where
  here : disk'.here = disk.here
  outline : ∀ location,
    (disk'.top.entryAt? location).map Entry.outline = (disk.top.entryAt? location).map Entry.outline

variable {disk disk' disk'' : Disk} {approach : Approach} {links : Nat} {folder : Location}
  {segment : Bytes} {rest segments : List Bytes}

theorem Alike.refl (disk : Disk) : Alike disk disk := ⟨rfl, fun _ => rfl⟩

theorem Alike.trans (h : Alike disk disk') (h' : Alike disk' disk'') : Alike disk disk'' :=
  ⟨h'.here.trans h.here, fun location => (h'.outline location).trans (h.outline location)⟩

/-- In disks of one shape, a location has nothing, a folder, a file, or one and the same link. -/
theorem Alike.get?_cases (h : Alike disk disk') (location : Location) :
    (disk.top.get? location = none ∧ disk'.top.get? location = none) ∨
    (∃ entries entries', disk.top.get? location = some (.folder entries) ∧
      disk'.top.get? location = some (.folder entries')) ∨
    (∃ content content', disk.top.get? location = some (.file content) ∧
      disk'.top.get? location = some (.file content')) ∨
    ∃ target, disk.top.get? location = some (.link target) ∧
      disk'.top.get? location = some (.link target) := by
  have ho := h.outline location
  rw [Node.entryAt?, Node.entryAt?] at ho
  cases hg : disk.top.get? location with
  | none =>
    cases hg' : disk'.top.get? location with
    | none => exact .inl ⟨rfl, rfl⟩
    | some node' => simp [hg, hg'] at ho
  | some node =>
    cases hg' : disk'.top.get? location with
    | none => simp [hg, hg'] at ho
    | some node' => cases node <;> cases node' <;> simp_all [Node.entry, Entry.outline]

/-- In disks of one shape, a file stands where a file stands. -/
theorem Alike.get?_file (h : Alike disk disk') {location : Location} {content : Bytes}
    (hg : disk.top.get? location = some (.file content)) :
    ∃ content', disk'.top.get? location = some (.file content') := by
  rcases h.get?_cases location with ⟨hn, -⟩ | ⟨_, _, hn, -⟩ | ⟨_, content', -, hn⟩ | ⟨_, hn, -⟩
  · simp [hg] at hn
  · simp [hg] at hn
  · exact ⟨content', hn⟩
  · simp [hg] at hn

/-- Strides in disks of one shape differ at most in what is in the file that they end at. -/
theorem Alike.stride_cases (h : Alike disk disk') (approach : Approach) (folder : Location)
    (segment : Bytes) (rest : List Bytes) :
    disk'.stride approach folder segment rest = disk.stride approach folder segment rest ∨
      ∃ location content content',
        disk.stride approach folder segment rest = .ends (.ok (.found location (.file content))) ∧
        disk'.stride approach folder segment rest =
          .ends (.ok (.found location (.file content'))) := by
  simp only [stride]
  split
  · exact .inl rfl
  split
  · exact .inl rfl
  split
  · exact .inl rfl
  split
  · exact .inl rfl
  rcases h.get?_cases (folder ++ [segment]) with ⟨hg, hg'⟩ | ⟨_, _, hg, hg'⟩ | ⟨_, _, hg, hg'⟩ |
    ⟨_, hg, hg'⟩
  · exact .inl (by rw [hg, hg'])
  · exact .inl (by rw [hg, hg'])
  · rw [hg, hg']
    cases hr : rest.isEmpty with
    | false => exact .inl rfl
    | true => exact .inr ⟨_, _, _, rfl, rfl⟩
  · exact .inl (by rw [hg, hg'])

/-- In disks of one shape walks lead to one and the same location, or fail alike. -/
theorem Alike.walk (h : Alike disk disk') :
    (disk'.walk approach links folder segments).map Place.location =
      (disk.walk approach links folder segments).map Place.location := by
  induction links, folder, segments using walk_induction disk approach with
  | nil links folder =>
    rw [walk_nil, walk_nil]
    rcases h.get?_cases folder with ⟨hg, hg'⟩ | ⟨_, _, hg, hg'⟩ | ⟨_, _, hg, hg'⟩ | ⟨_, hg, hg'⟩ <;>
      rw [hg, hg'] <;> rfl
  | ends links folder segment rest result hs =>
    rw [walk_cons, walk_cons, hs]
    rcases h.stride_cases approach folder segment rest with he | ⟨_, _, _, he, he'⟩
    · rw [he, hs]
    · rw [hs] at he
      rw [he', Stride.ends.inj he]
      rfl
  | goesOn links folder segment rest next hs ih =>
    rw [walk_cons, walk_cons, hs]
    rcases h.stride_cases approach folder segment rest with he | ⟨_, _, _, he, -⟩
    · rw [he, hs]
      exact ih
    · simp [hs] at he
  | loops folder segment rest target hs =>
    rw [walk_cons, walk_cons, hs]
    rcases h.stride_cases approach folder segment rest with he | ⟨_, _, _, he, -⟩
    · rw [he, hs]
    · simp [hs] at he
  | follows links folder segment rest target hs ih =>
    rw [walk_cons, walk_cons, hs]
    rcases h.stride_cases approach folder segment rest with he | ⟨_, _, _, he, -⟩
    · rw [he, hs]
      exact ih
    · simp [hs] at he

end Disk

end RegionToggle
