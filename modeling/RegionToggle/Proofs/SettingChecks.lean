import Mathlib.Data.List.Basic
import RegionToggle.Settings.Basic

/-!
# Checks of settings

A setting that is asked for is checked by itself. The check lets the proper values pass, as they are
read, and refuses all others. None that it refuses is read as the standard value. So there is a
warning exactly if what is asked for is not used, and exactly if it is not proper. In particular a
settled token is not blank and keeps to one line, whatever a draft asks for.
-/

namespace RegionToggle

namespace Text

/-- A text that can be a marker or a token: it has something in it, keeps to one line, and is
short. -/
def IsShortLine (t : Text) : Prop :=
  t.isAllBlank = false ∧ '\n' ∉ t ∧ '\r' ∉ t ∧ (Utf8.encode t).length ≤ 64

instance (t : Text) : Decidable t.IsShortLine := inferInstanceAs (Decidable (_ ∧ _))

structure IsFolderName (t : Text) : Prop where
  ne_nil : t ≠ []
  ne_here : t ≠ ".".toList
  ne_above : t ≠ "..".toList
  slash_not_mem : '/' ∉ t
  backslash_not_mem : '\\' ∉ t

end Text

/-- The choice of one setting: what is asked for, which values are proper, how they are read, the
standard value, and the value that is used. -/
structure Choice where
  {α β : Type}
  asked? : Option α
  proper : α → Prop
  read? : α → Option β
  standard : β
  used : β

namespace Choice

/-- What is asked for is used. -/
def Adopted (c : Choice) : Prop := ∀ x, c.asked? = some x → c.read? x = some c.used

def Proper (c : Choice) : Prop := ∀ x, c.asked? = some x → c.proper x

/-- What is used is what is asked for, as it is read, if that is proper, and else the standard
value. -/
def Grounded (c : Choice) : Prop :=
  (∃ x, c.asked? = some x ∧ c.proper x ∧ c.read? x = some c.used) ∨
    ((∀ x, c.asked? = some x → ¬ c.proper x) ∧ c.used = c.standard)

end Choice

namespace SettingsDraft

/-! ### One check -/

section Check

variable {α β γ : Type}

/-- A check that lets the proper values pass as they are read, up to how the result is viewed, and
refuses no value that is read as the standard one. -/
structure Checks (check : α → Except SettingsWarning β) (proper : α → Prop)
    (read? : α → Option γ) (view : β → γ) (standard : β) : Prop where
  of_ok : ∀ x y, check x = .ok y → proper x ∧ read? x = some (view y)
  of_error : ∀ x w, check x = .error w → ¬ proper x ∧ read? x ≠ some (view standard)

variable {check : α → Except SettingsWarning β} {proper : α → Prop} {read? : α → Option γ}
  {view : β → γ} {standard : β}

theorem adopt_cases (standard : β) (check : α → Except SettingsWarning β) (asked? : Option α) :
    (asked? = none ∧ adopt standard check asked? = (standard, [])) ∨
    (∃ x y, asked? = some x ∧ check x = .ok y ∧ adopt standard check asked? = (y, [])) ∨
    ∃ x w, asked? = some x ∧ check x = .error w ∧
      adopt standard check asked? = (standard, [w]) := by
  cases asked? with
  | none => exact .inl ⟨rfl, rfl⟩
  | some x =>
    cases h : check x with
    | ok y => exact .inr (.inl ⟨x, y, rfl, h, by rw [adopt, h]⟩)
    | error w => exact .inr (.inr ⟨x, w, rfl, h, by rw [adopt, h]⟩)

def checked (check : α → Except SettingsWarning β) (proper : α → Prop) (read? : α → Option γ)
    (view : β → γ) (standard : β) (asked? : Option α) : Choice :=
  ⟨asked?, proper, read?, view standard, view (adopt standard check asked?).1⟩

variable (h : Checks check proper read? view standard) (asked? : Option α)

include h

theorem Checks.grounded : (checked check proper read? view standard asked?).Grounded := by
  show (∃ x, asked? = some x ∧ proper x ∧ read? x = some (view (adopt standard check asked?).1)) ∨
    ((∀ x, asked? = some x → ¬ proper x) ∧ view (adopt standard check asked?).1 = view standard)
  rcases adopt_cases standard check asked? with
    ⟨rfl, ha⟩ | ⟨x, y, rfl, hy, ha⟩ | ⟨x, w, rfl, hw, ha⟩
  · exact .inr ⟨by simp, by rw [ha]⟩
  · obtain ⟨hp, hr⟩ := h.of_ok x y hy
    exact .inl ⟨x, rfl, hp, by rw [ha, hr]⟩
  · exact .inr ⟨by simpa using (h.of_error x w hw).1, by rw [ha]⟩

/-- There is no warning exactly if what is asked for is used. -/
theorem Checks.adopted_iff :
    (adopt standard check asked?).2 = [] ↔
      (checked check proper read? view standard asked?).Adopted := by
  show _ ↔ ∀ x, asked? = some x → read? x = some (view (adopt standard check asked?).1)
  rcases adopt_cases standard check asked? with
    ⟨rfl, ha⟩ | ⟨x, y, rfl, hy, ha⟩ | ⟨x, w, rfl, hw, ha⟩
  · simp [ha]
  · simpa [ha] using (h.of_ok x y hy).2
  · simpa [ha] using (h.of_error x w hw).2

/-- There is no warning exactly if what is asked for is proper. -/
theorem Checks.proper_iff :
    (adopt standard check asked?).2 = [] ↔
      (checked check proper read? view standard asked?).Proper := by
  show _ ↔ ∀ x, asked? = some x → proper x
  rcases adopt_cases standard check asked? with
    ⟨rfl, ha⟩ | ⟨x, y, rfl, hy, ha⟩ | ⟨x, w, rfl, hw, ha⟩
  · simp [ha]
  · simpa [ha] using (h.of_ok x y hy).1
  · simpa [ha] using (h.of_error x w hw).1

end Check

/-- What a check refuses is nothing that it lets pass. -/
theorem not_of_error {α β : Type} {check : α → Except SettingsWarning β} {p : Prop} {x : α}
    {w : SettingsWarning} (hw : check x = .error w) (h : p → ∃ y, check x = .ok y) : ¬ p := by
  intro hp
  obtain ⟨y, hy⟩ := h hp
  rw [hw] at hy
  exact absurd hy (by simp)

/-- A check that lets a value pass as it is if it is proper, the standard one among them. -/
theorem checks_of_iff {α : Type} {check : α → Except SettingsWarning α} {proper : α → Prop}
    {standard : α} (h : ∀ x y, check x = .ok y ↔ y = x ∧ proper x) (hs : proper standard) :
    Checks check proper some id standard where
  of_ok x y hy := by
    obtain ⟨rfl, hp⟩ := (h x y).mp hy
    exact ⟨hp, rfl⟩
  of_error x w hw := by
    have hx : ¬ proper x := not_of_error hw fun hp => ⟨x, (h x x).mpr ⟨rfl, hp⟩⟩
    refine ⟨hx, fun he => hx ?_⟩
    rw [Option.some.inj he]
    exact hs

/-- What comes of a check that lets only proper values pass is proper. -/
theorem proper_adopt {α : Type} {check : α → Except SettingsWarning α} {proper : α → Prop}
    {standard : α} (h : ∀ x y, check x = .ok y ↔ y = x ∧ proper x) (hs : proper standard)
    (asked? : Option α) : proper (adopt standard check asked?).1 := by
  rcases adopt_cases standard check asked? with ⟨-, ha⟩ | ⟨x, y, -, hy, ha⟩ | ⟨x, w, -, -, ha⟩
  · rwa [ha]
  · obtain ⟨rfl, hp⟩ := (h x y).mp hy
    rwa [ha]
  · rwa [ha]

/-- A check that looks a value up lets exactly the values pass that it finds. -/
theorem checks_of_found {α β γ : Type} {check : α → Except SettingsWarning β} {proper : α → Prop}
    {find? : α → Option β} {read? : α → Option γ} {view : β → γ} {standard : β}
    (h : ∀ x y, check x = .ok y ↔ find? x = some y)
    (hfind : ∀ x, (find? x).isSome = true ↔ proper x)
    (hread : ∀ x y, find? x = some y → read? x = some (view y))
    (hs : ∀ x, read? x = some (view standard) → proper x) :
    Checks check proper read? view standard where
  of_ok x y hy := by
    have hf := (h x y).mp hy
    exact ⟨(hfind x).mp (Option.isSome_of_eq_some hf), hread x y hf⟩
  of_error x w hw := by
    have hx : ¬ proper x := by
      refine not_of_error hw fun hp => ?_
      obtain ⟨y, hf⟩ := Option.isSome_iff_exists.mp ((hfind x).mpr hp)
      exact ⟨y, (h x y).mpr hf⟩
    exact ⟨hx, fun he => hx (hs x he)⟩

/-! ### The checks -/

theorem ite_error_eq_ok_iff {α : Type} {p : Prop} [Decidable p] {x y : α} {w : SettingsWarning} :
    (if p then Except.ok x else .error w) = .ok y ↔ y = x ∧ p := by
  by_cases hp : p <;> simp [hp, eq_comm]

theorem isFolderName_iff {name : Text} : isFolderName name = true ↔ name.IsFolderName := by
  constructor
  · intro h
    simp only [isFolderName, Bool.and_eq_true, Bool.not_eq_true', bne_iff_ne, ne_eq,
      List.isEmpty_eq_false_iff, List.contains_eq_mem, decide_eq_false_iff_not] at h
    obtain ⟨⟨⟨⟨hne, hhere⟩, habove⟩, hslash⟩, hback⟩ := h
    exact ⟨hne, hhere, habove, hslash, hback⟩
  · rintro ⟨hne, hhere, habove, hslash, hback⟩
    simp only [isFolderName, Bool.and_eq_true, Bool.not_eq_true', bne_iff_ne, ne_eq,
      List.isEmpty_eq_false_iff, List.contains_eq_mem, decide_eq_false_iff_not]
    exact ⟨⟨⟨⟨hne, hhere⟩, habove⟩, hslash⟩, hback⟩

theorem checkSubfolder_eq_ok_iff {name name' : Text} :
    checkSubfolder name = .ok name' ↔ name' = name ∧ name.IsFolderName := by
  rw [checkSubfolder, ite_error_eq_ok_iff, isFolderName_iff]

theorem checkTargets_eq_ok_iff {patterns patterns' : List Text} :
    checkTargets patterns = .ok patterns' ↔ patterns' = patterns ∧ patterns ≠ [] := by
  rw [checkTargets, ← ite_not, ite_error_eq_ok_iff, List.isEmpty_iff]

theorem checkDepth_eq_ok_iff {depth depth' : Nat} :
    checkDepth depth = .ok depth' ↔ depth' = depth ∧ 1 ≤ depth ∧ depth ≤ 64 := by
  rw [checkDepth, ite_error_eq_ok_iff, SearchOptions.depthCap]

theorem checkFiles_eq_ok_iff {files files' : Nat} :
    checkFiles files = .ok files' ↔ files' = files ∧ 1 ≤ files ∧ files ≤ 100000 := by
  rw [checkFiles, ite_error_eq_ok_iff, SearchOptions.filesCap]

theorem checkLine_eq_ok_iff {setting : LineSetting} {value value' : Text} :
    checkLine setting value = .ok value' ↔
      value' = value ∧ value.IsShortLine := by
  rw [checkLine, Text.IsShortLine, ← SettingsWarning.lineLimit]
  split
  · next h =>
    refine iff_of_false (by simp) ?_
    rintro ⟨-, hblank, hlf, hcr, -⟩
    simp [hblank, hlf, hcr] at h
  · next h =>
    simp only [Bool.or_eq_true, List.contains_iff_mem, not_or, Bool.not_eq_true] at h
    obtain ⟨⟨hblank, hlf⟩, hcr⟩ := h
    split
    · next hlong => simp [Nat.not_le.mpr hlong]
    · next hshort => simp [hblank, hlf, hcr, Nat.not_lt.mp hshort, eq_comm]

theorem isFolderName_standard : ({} : SearchOptions).subfolder.IsFolderName :=
  isFolderName_iff.mp (by decide)

theorem isShortLine_opening : Dialect.standardOpening.IsShortLine := by decide

theorem isShortLine_closing : Dialect.standardClosing.IsShortLine := by decide

theorem isShortLine_token : Dialect.standardToken.IsShortLine := by decide

/-- The names that policies go by, and what they stand for. -/
def policyTable : List (Text × OutsidePolicy) :=
  [("preserve".toList, .preserve), ("uncomment".toList, .uncomment), ("label".toList, .labelMatch),
    ("label_match".toList, .labelMatch)]

def levelNames : List Text :=
  ["error".toList, "warn".toList, "info".toList, "debug".toList, "trace".toList]

theorem policyOfName?_eq_lookup (name : Text) :
    OutsidePolicy.ofName? name = policyTable.lookup name.trim.lower := by
  rw [OutsidePolicy.ofName?, policyTable]
  split_ifs with hpreserve huncomment hlabel
  · simp [hpreserve]
  · simp [huncomment, List.lookup_cons]
  · rcases hlabel with hlabel | hmatch
    · simp [hlabel, List.lookup_cons]
    · simp [hmatch, List.lookup_cons]
  · obtain ⟨hlabel, hmatch⟩ := not_or.mp hlabel
    simp only [List.lookup_cons, beq_eq_false_iff_ne.mpr hpreserve,
      beq_eq_false_iff_ne.mpr huncomment, beq_eq_false_iff_ne.mpr hlabel,
      beq_eq_false_iff_ne.mpr hmatch, List.lookup_nil]

theorem isSome_policy_iff {name : Text} :
    (policyTable.lookup name).isSome = true ↔ name ∈ policyTable.map Prod.fst := by
  simp only [List.lookup_isSome_iff, List.mem_map, beq_iff_eq, eq_comm (a := name)]

theorem isSome_level_iff {name : Text} :
    (LogLevel.ofName? name).isSome = true ↔ name.lower ∈ levelNames := by
  have hnames : levelNames = LogLevel.all.map LogLevel.name := rfl
  rw [hnames, List.mem_map, LogLevel.ofName?, List.find?_isSome]
  simp only [beq_iff_eq]

theorem name_of_ofName? {name : Text} {level : LogLevel}
    (h : LogLevel.ofName? name = some level) : level.name = name.lower := by
  simpa using List.find?_some h

theorem checkPolicy_eq_ok_iff {name : Text} {policy : OutsidePolicy} :
    checkPolicy name = .ok policy ↔ policyTable.lookup name.trim.lower = some policy := by
  rw [checkPolicy, policyOfName?_eq_lookup]
  cases policyTable.lookup name.trim.lower <;> simp

theorem checkLevel_eq_ok_iff {name : Text} {level? : Option LogLevel} :
    checkLevel name = .ok level? ↔ (LogLevel.ofName? name).map some = some level? := by
  rw [checkLevel]
  cases LogLevel.ofName? name <;> simp

theorem checks_policy : Checks checkPolicy (·.trim.lower ∈ policyTable.map Prod.fst)
    (policyTable.lookup ·.trim.lower) id OutsidePolicy.preserve :=
  checks_of_found (fun _ _ => checkPolicy_eq_ok_iff) (fun _ => isSome_policy_iff)
    (fun _ _ h => h)
    (fun _ h => isSome_policy_iff.mp (Option.isSome_of_eq_some h))

theorem checks_level : Checks checkLevel (·.lower ∈ levelNames) (fun name => some (some name.lower))
    (Option.map LogLevel.name) none := by
  refine checks_of_found (fun _ _ => checkLevel_eq_ok_iff) (fun name => ?_)
    (fun name level? h => ?_) (fun name h => absurd h (by simp))
  · rw [Option.isSome_map, isSome_level_iff]
  · obtain ⟨level, hn, rfl⟩ := Option.map_eq_some_iff.mp h
    rw [Option.map_some, name_of_ofName? hn]

theorem checks_subfolder :
    Checks checkSubfolder Text.IsFolderName some id ({} : SearchOptions).subfolder :=
  checks_of_iff (fun _ _ => checkSubfolder_eq_ok_iff) isFolderName_standard

theorem checks_targets :
    Checks checkTargets (· ≠ []) some id ({} : SearchOptions).targets :=
  checks_of_iff (fun _ _ => checkTargets_eq_ok_iff) (by decide)

theorem checks_depth :
    Checks checkDepth (fun n => 1 ≤ n ∧ n ≤ 64) some id ({} : SearchOptions).maxDepth :=
  checks_of_iff (fun _ _ => checkDepth_eq_ok_iff) (by decide)

theorem checks_files :
    Checks checkFiles (fun n => 1 ≤ n ∧ n ≤ 100000) some id ({} : SearchOptions).maxFiles :=
  checks_of_iff (fun _ _ => checkFiles_eq_ok_iff) (by decide)

theorem checks_line (setting : LineSetting) {standard : Text} (hs : standard.IsShortLine) :
    Checks (checkLine setting) Text.IsShortLine some id standard :=
  checks_of_iff (fun _ _ => checkLine_eq_ok_iff) hs

/-! ### The settled token -/

theorem isShortLine_token_settle (draft : SettingsDraft) :
    draft.settle.settings.dialect.token.IsShortLine :=
  proper_adopt (fun _ _ => checkLine_eq_ok_iff) isShortLine_token draft.token?

theorem lf_not_mem_token_settle (draft : SettingsDraft) :
    '\n' ∉ draft.settle.settings.dialect.token :=
  draft.isShortLine_token_settle.2.1

end SettingsDraft

end RegionToggle
