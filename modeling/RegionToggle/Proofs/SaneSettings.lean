import Mathlib.Data.List.Infix
import RegionToggle.Proofs.SettingChecks

/-!
# Sane settings

Whatever a draft asks for, settling it gives sane settings. Each setting is the one asked for, as it
is read, or the standard one, and there is a warning exactly if something that was asked for is not
used. For most settings this is a matter of one check. The markers have to fit each other as well,
and a pair that does not fit is not the standard pair.
-/

namespace RegionToggle

/-- Two texts one of which occurs in the other. -/
def Text.Overlap (t u : Text) : Prop := u <:+: t ∨ t <:+: u

structure Settings.Sane (s : Settings) : Prop where
  subfolder : s.search.subfolder.IsFolderName
  targets : s.search.targets ≠ []
  maxDepth : 1 ≤ s.search.maxDepth ∧ s.search.maxDepth ≤ 64
  maxFiles : 1 ≤ s.search.maxFiles ∧ s.search.maxFiles ≤ 100000
  opening : s.dialect.opening.IsShortLine
  closing : s.dialect.closing.IsShortLine
  apart : ¬ s.dialect.opening.Overlap s.dialect.closing
  token : s.dialect.token.IsShortLine

namespace SettingsDraft

/-! ### The markers -/

/-- The marker or token that is used if nothing else is in its way: the one asked for if it is a
short line, else the standard one. -/
def usable (standard : Text) (asked? : Option Text) : Text :=
  (asked?.filter fun t => decide t.IsShortLine).getD standard

theorem adopt_checkLine (setting : LineSetting) (standard : Text) (asked? : Option Text) :
    (adopt standard (checkLine setting) asked?).1 = usable standard asked? := by
  rcases adopt_cases standard (checkLine setting) asked? with
    ⟨rfl, ha⟩ | ⟨x, y, rfl, hy, ha⟩ | ⟨x, w, rfl, hw, ha⟩
  · rw [ha]
    rfl
  · obtain ⟨rfl, hp⟩ := checkLine_eq_ok_iff.mp hy
    rw [ha, usable, Option.filter_some_pos (by simpa using hp), Option.getD_some]
  · have hp : ¬ x.IsShortLine :=
      not_of_error hw fun hp => ⟨x, checkLine_eq_ok_iff.mpr ⟨rfl, hp⟩⟩
    rw [ha, usable, Option.filter_some_neg (by simpa using hp), Option.getD_none]

/-- The opening text that a draft comes to, before the markers are checked against each other. -/
def usableOpening (draft : SettingsDraft) : Text := usable Dialect.standardOpening draft.opening?

def usableClosing (draft : SettingsDraft) : Text := usable Dialect.standardClosing draft.closing?

/-- Whether the markers that a draft comes to do not fit each other. -/
def MarkersOverlap (draft : SettingsDraft) : Prop :=
  draft.usableOpening.Overlap draft.usableClosing

instance (draft : SettingsDraft) : Decidable draft.MarkersOverlap :=
  inferInstanceAs (Decidable (_ ∨ _))

theorem overlaps_iff {opening closing : Text} :
    overlaps opening closing = true ↔ opening.Overlap closing := by
  rw [overlaps, Bool.or_eq_true, Text.occurs_iff_infix, Text.occurs_iff_infix, Text.Overlap]

theorem not_overlap_standard : ¬ Dialect.standardOpening.Overlap Dialect.standardClosing := by
  rw [← overlaps_iff]
  decide

theorem settleMarkers_usable (draft : SettingsDraft) :
    settleMarkers draft.usableOpening draft.usableClosing =
      if draft.MarkersOverlap then
        ((Dialect.standardOpening, Dialect.standardClosing),
          [.overlap draft.usableOpening draft.usableClosing])
      else ((draft.usableOpening, draft.usableClosing), []) := by
  rw [settleMarkers]
  by_cases h : draft.MarkersOverlap
  · rw [if_pos h, if_pos (overlaps_iff.mpr h)]
  · rw [if_neg h, if_neg (mt overlaps_iff.mp h)]

theorem settleMarkers_settle (draft : SettingsDraft) :
    settleMarkers (adopt Dialect.standardOpening (checkLine .opening) draft.opening?).1
        (adopt Dialect.standardClosing (checkLine .closing) draft.closing?).1 =
      settleMarkers draft.usableOpening draft.usableClosing := by
  rw [adopt_checkLine, adopt_checkLine]
  rfl

/-- Markers that overlap fall back together. -/
theorem markers_settle (draft : SettingsDraft) :
    (draft.settle.settings.dialect.opening, draft.settle.settings.dialect.closing) =
      if draft.MarkersOverlap then (Dialect.standardOpening, Dialect.standardClosing)
      else (draft.usableOpening, draft.usableClosing) := by
  have h : (draft.settle.settings.dialect.opening, draft.settle.settings.dialect.closing) =
      (settleMarkers draft.usableOpening draft.usableClosing).1 :=
    congrArg Prod.fst (settleMarkers_settle draft)
  rw [h, settleMarkers_usable]
  split <;> rfl

theorem markers_settle_of_overlap {draft : SettingsDraft} (h : draft.MarkersOverlap) :
    draft.settle.settings.dialect.opening = Dialect.standardOpening ∧
      draft.settle.settings.dialect.closing = Dialect.standardClosing := by
  have hm := draft.markers_settle
  rw [if_pos h] at hm
  exact Prod.mk.inj hm

theorem markers_settle_of_not_overlap {draft : SettingsDraft} (h : ¬ draft.MarkersOverlap) :
    draft.settle.settings.dialect.opening =
        (adopt Dialect.standardOpening (checkLine .opening) draft.opening?).1 ∧
      draft.settle.settings.dialect.closing =
        (adopt Dialect.standardClosing (checkLine .closing) draft.closing?).1 := by
  have hm := draft.markers_settle
  rw [if_neg h] at hm
  rw [adopt_checkLine, adopt_checkLine]
  exact Prod.mk.inj hm

theorem usable_eq_standard {standard : Text} {asked? : Option Text}
    (h : ∀ x, asked? = some x → x = standard) : usable standard asked? = standard := by
  cases asked? with
  | none => rfl
  | some x =>
    obtain rfl := h x rfl
    by_cases hx : x.IsShortLine
    · rw [usable, Option.filter_some_pos (by simpa using hx), Option.getD_some]
    · rw [usable, Option.filter_some_neg (by simpa using hx), Option.getD_none]

/-- A pair that overlaps is not the standard one, so one of the markers was asked for. -/
theorem not_overlap_of_standard {draft : SettingsDraft}
    (ho : ∀ x, draft.opening? = some x → x = Dialect.standardOpening)
    (hc : ∀ x, draft.closing? = some x → x = Dialect.standardClosing) :
    ¬ draft.MarkersOverlap := by
  rw [MarkersOverlap, usableOpening, usableClosing, usable_eq_standard ho, usable_eq_standard hc]
  exact not_overlap_standard

/-- No warning is left about the markers: each passes its check, and they fit each other. -/
def MarkersStand (draft : SettingsDraft) : Prop :=
  (adopt Dialect.standardOpening (checkLine .opening) draft.opening?).2 = [] ∧
    (adopt Dialect.standardClosing (checkLine .closing) draft.closing?).2 = [] ∧
    ¬ draft.MarkersOverlap

/-! ### All settings -/

def openingChoice (draft : SettingsDraft) : Choice :=
  ⟨draft.opening?, fun t => t.IsShortLine ∧ ¬ draft.MarkersOverlap, some, Dialect.standardOpening,
    draft.settle.settings.dialect.opening⟩

def closingChoice (draft : SettingsDraft) : Choice :=
  ⟨draft.closing?, fun t => t.IsShortLine ∧ ¬ draft.MarkersOverlap, some, Dialect.standardClosing,
    draft.settle.settings.dialect.closing⟩

/-- How settings were chosen, one by one, as a draft asks for them. -/
def choices (draft : SettingsDraft) (s : Settings) : List Choice :=
  let standard : Settings := {}
  [⟨draft.subfolder?, Text.IsFolderName, some, standard.search.subfolder, s.search.subfolder⟩,
    ⟨draft.targets?, (· ≠ []), some, standard.search.targets, s.search.targets⟩,
    ⟨draft.excludes?, fun _ => True, some, standard.search.excludes, s.search.excludes⟩,
    ⟨draft.skipsTopSubfolder?, fun _ => True, some, standard.search.skipsTopSubfolder,
      s.search.skipsTopSubfolder⟩,
    ⟨draft.maxDepth?, fun n => 1 ≤ n ∧ n ≤ 64, some, standard.search.maxDepth,
      s.search.maxDepth⟩,
    ⟨draft.maxFiles?, fun n => 1 ≤ n ∧ n ≤ 100000, some, standard.search.maxFiles,
      s.search.maxFiles⟩,
    ⟨draft.opening?, fun t => t.IsShortLine ∧ ¬ draft.MarkersOverlap, some,
      standard.dialect.opening, s.dialect.opening⟩,
    ⟨draft.closing?, fun t => t.IsShortLine ∧ ¬ draft.MarkersOverlap, some,
      standard.dialect.closing, s.dialect.closing⟩,
    ⟨draft.token?, Text.IsShortLine, some, standard.dialect.token, s.dialect.token⟩,
    ⟨draft.outside?, (·.trim.lower ∈ policyTable.map Prod.fst), (policyTable.lookup ·.trim.lower),
      standard.outside, s.outside⟩,
    ⟨draft.logLevel?, (·.lower ∈ levelNames), fun name => some (some name.lower),
      standard.logLevel?.map LogLevel.name, s.logLevel?.map LogLevel.name⟩]

theorem warnings_settle_eq_nil_iff (draft : SettingsDraft) :
    draft.settle.warnings = [] ↔
      (adopt ({} : SearchOptions).subfolder checkSubfolder draft.subfolder?).2 = [] ∧
      (adopt ({} : SearchOptions).targets checkTargets draft.targets?).2 = [] ∧
      (adopt ({} : SearchOptions).maxDepth checkDepth draft.maxDepth?).2 = [] ∧
      (adopt ({} : SearchOptions).maxFiles checkFiles draft.maxFiles?).2 = [] ∧
      draft.MarkersStand ∧
      (adopt Dialect.standardToken (checkLine .token) draft.token?).2 = [] ∧
      (adopt OutsidePolicy.preserve checkPolicy draft.outside?).2 = [] ∧
      (adopt none checkLevel draft.logLevel?).2 = [] := by
  have hmarkers : (settleMarkers draft.usableOpening draft.usableClosing).2 = [] ↔
      ¬ draft.MarkersOverlap := by
    rw [settleMarkers_usable]
    split <;> simp_all
  rw [MarkersStand, ← hmarkers, ← settleMarkers_settle]
  simp only [settle, List.append_eq_nil_iff, and_assoc]

/-- What there is a warning about, setting by setting: the markers are the only two settings that
are not checked each by itself. -/
theorem warnings_settle_eq_nil_iff_forall (draft : SettingsDraft) {P : Choice → Prop}
    (hchecked : ∀ {α β γ : Type} {check : α → Except SettingsWarning β} {proper : α → Prop}
      {read? : α → Option γ} {view : β → γ} {standard : β},
      Checks check proper read? view standard → ∀ asked? : Option α,
        ((adopt standard check asked?).2 = [] ↔
          P (checked check proper read? view standard asked?)))
    (hfree : ∀ {α : Type} (asked? : Option α) (standard : α),
      P ⟨asked?, fun _ => True, some, standard, asked?.getD standard⟩)
    (hmarkers : draft.MarkersStand ↔ P draft.openingChoice ∧ P draft.closingChoice) :
    draft.settle.warnings = [] ↔ ∀ c ∈ draft.choices draft.settle.settings, P c := by
  have hsubfolder := hchecked checks_subfolder draft.subfolder?
  have htargets := hchecked checks_targets draft.targets?
  have hdepth := hchecked checks_depth draft.maxDepth?
  have hfiles := hchecked checks_files draft.maxFiles?
  have htoken := hchecked (checks_line .token isShortLine_token) draft.token?
  have houtside := hchecked checks_policy draft.outside?
  have hlevel := hchecked checks_level draft.logLevel?
  rw [warnings_settle_eq_nil_iff, hsubfolder, htargets, hdepth, hfiles, hmarkers, htoken, houtside,
    hlevel]
  simp only [choices, List.forall_mem_cons]
  constructor
  · rintro ⟨h1, h2, h5, h6, ⟨h7, h8⟩, h9, h10, h11⟩
    exact ⟨h1, h2, hfree _ _, hfree _ _, h5, h6, h7, h8, h9, h10, h11, by simp⟩
  · rintro ⟨h1, h2, -, -, h5, h6, h7, h8, h9, h10, h11, -⟩
    exact ⟨h1, h2, h5, h6, ⟨h7, h8⟩, h9, h10, h11⟩

theorem markers_adopted_iff (draft : SettingsDraft) :
    draft.MarkersStand ↔ draft.openingChoice.Adopted ∧ draft.closingChoice.Adopted := by
  by_cases h : draft.MarkersOverlap
  · refine iff_of_false (fun hall => hall.2.2 h) ?_
    rintro ⟨ho, hc⟩
    obtain ⟨hopening, hclosing⟩ := markers_settle_of_overlap h
    refine not_overlap_of_standard (fun x hx => ?_) (fun x hx => ?_) h
    · rw [← hopening]
      exact Option.some.inj (ho x hx)
    · rw [← hclosing]
      exact Option.some.inj (hc x hx)
  · obtain ⟨hopening, hclosing⟩ := markers_settle_of_not_overlap h
    rw [MarkersStand, and_iff_left h, (checks_line .opening isShortLine_opening).adopted_iff,
      (checks_line .closing isShortLine_closing).adopted_iff]
    simp only [Choice.Adopted, openingChoice, closingChoice, checked, hopening, hclosing, id]

theorem markers_proper_iff (draft : SettingsDraft) :
    draft.MarkersStand ↔ draft.openingChoice.Proper ∧ draft.closingChoice.Proper := by
  by_cases h : draft.MarkersOverlap
  · refine iff_of_false (fun hall => hall.2.2 h) ?_
    rintro ⟨ho, hc⟩
    exact not_overlap_of_standard (fun x hx => absurd h (ho x hx).2)
      (fun x hx => absurd h (hc x hx).2) h
  · rw [MarkersStand, and_iff_left h, (checks_line .opening isShortLine_opening).proper_iff,
      (checks_line .closing isShortLine_closing).proper_iff]
    simp only [Choice.Proper, openingChoice, closingChoice, checked, h, not_false_eq_true,
      and_true]

/-! ### Settled settings -/

theorem grounded_getD {α : Type} (asked? : Option α) (standard : α) :
    (⟨asked?, fun _ => True, some, standard, asked?.getD standard⟩ : Choice).Grounded := by
  cases asked? with
  | none => exact .inr ⟨by simp, rfl⟩
  | some x => exact .inl ⟨x, rfl, trivial, rfl⟩

theorem grounded_markers (draft : SettingsDraft) :
    draft.openingChoice.Grounded ∧ draft.closingChoice.Grounded := by
  by_cases h : draft.MarkersOverlap
  · obtain ⟨hopening, hclosing⟩ := markers_settle_of_overlap h
    exact ⟨.inr ⟨fun _ _ hp => hp.2 h, hopening⟩, .inr ⟨fun _ _ hp => hp.2 h, hclosing⟩⟩
  · obtain ⟨hopening, hclosing⟩ := markers_settle_of_not_overlap h
    have ho := (checks_line .opening isShortLine_opening).grounded draft.opening?
    have hc := (checks_line .closing isShortLine_closing).grounded draft.closing?
    simp only [Choice.Grounded, openingChoice, closingChoice, checked, hopening, hclosing, h,
      not_false_eq_true, and_true] at ho hc ⊢
    exact ⟨ho, hc⟩

theorem grounded_settle (draft : SettingsDraft) :
    ∀ c ∈ draft.choices draft.settle.settings, c.Grounded := by
  simp only [choices, List.forall_mem_cons]
  exact ⟨checks_subfolder.grounded _, checks_targets.grounded _, grounded_getD _ _,
    grounded_getD _ _, checks_depth.grounded _, checks_files.grounded _,
    draft.grounded_markers.1, draft.grounded_markers.2,
    (checks_line .token isShortLine_token).grounded _, checks_policy.grounded _,
    checks_level.grounded _, by simp⟩

theorem sane_settle (draft : SettingsDraft) : draft.settle.settings.Sane where
  subfolder := proper_adopt (fun _ _ => checkSubfolder_eq_ok_iff) isFolderName_standard _
  targets := proper_adopt (fun _ _ => checkTargets_eq_ok_iff) (by decide) _
  maxDepth := proper_adopt (fun _ _ => checkDepth_eq_ok_iff) (by decide) _
  maxFiles := proper_adopt (fun _ _ => checkFiles_eq_ok_iff) (by decide) _
  opening := by
    by_cases h : draft.MarkersOverlap
    · rw [(markers_settle_of_overlap h).1]
      exact isShortLine_opening
    · rw [(markers_settle_of_not_overlap h).1]
      exact proper_adopt (fun _ _ => checkLine_eq_ok_iff) isShortLine_opening _
  closing := by
    by_cases h : draft.MarkersOverlap
    · rw [(markers_settle_of_overlap h).2]
      exact isShortLine_closing
    · rw [(markers_settle_of_not_overlap h).2]
      exact proper_adopt (fun _ _ => checkLine_eq_ok_iff) isShortLine_closing _
  apart := by
    by_cases h : draft.MarkersOverlap
    · rw [(markers_settle_of_overlap h).1, (markers_settle_of_overlap h).2]
      exact not_overlap_standard
    · rw [(markers_settle_of_not_overlap h).1, (markers_settle_of_not_overlap h).2,
        adopt_checkLine, adopt_checkLine]
      exact h
  token := draft.isShortLine_token_settle

theorem logLevel_settle (draft : SettingsDraft) :
    draft.settle.settings.logLevel?.map LogLevel.name =
      (draft.logLevel?.map Text.lower).filter (· ∈ levelNames) := by
  have h : (∃ name, draft.logLevel? = some name ∧ name.lower ∈ levelNames ∧
        some (some name.lower) = some (draft.settle.settings.logLevel?.map LogLevel.name)) ∨
      (∀ name, draft.logLevel? = some name → name.lower ∉ levelNames) ∧
        draft.settle.settings.logLevel?.map LogLevel.name = none :=
    checks_level.grounded draft.logLevel?
  rcases h with ⟨name, hasked, hname, hused⟩ | ⟨hnot, hused⟩
  · rw [← Option.some.inj hused, hasked, Option.map_some,
      Option.filter_some_pos (by simpa using hname)]
  · rw [hused, eq_comm, Option.filter_eq_none_iff]
    intro _ hlower
    obtain ⟨name, hasked, rfl⟩ := Option.map_eq_some_iff.mp hlower
    simpa using hnot name hasked

/-- Whatever a draft asks for, the settings are sane, and the log level is the one of five names
that is asked for, in any case, or there is none. Each setting is the one asked for, as it is read,
if that is proper, and else the standard one, and markers that overlap fall back together. There is
no warning exactly if everything that is asked for is used, which is so exactly if everything that
is asked for is proper and the markers do not overlap. -/
theorem settle_adopts_or_warns (draft : SettingsDraft) :
    let settings := draft.settle.settings
    settings.Sane ∧
      settings.logLevel?.map LogLevel.name =
        (draft.logLevel?.map Text.lower).filter (· ∈ levelNames) ∧
      (∀ c ∈ draft.choices settings, c.Grounded) ∧
      (settings.dialect.opening, settings.dialect.closing) =
        (if draft.MarkersOverlap then (Dialect.standardOpening, Dialect.standardClosing)
        else (draft.usableOpening, draft.usableClosing)) ∧
      (draft.settle.warnings = [] ↔ ∀ c ∈ draft.choices settings, c.Adopted) ∧
      (draft.settle.warnings = [] ↔ ∀ c ∈ draft.choices settings, c.Proper) := by
  refine ⟨sane_settle draft, logLevel_settle draft, grounded_settle draft, markers_settle draft,
    ?_, ?_⟩
  · apply warnings_settle_eq_nil_iff_forall draft Checks.adopted_iff ?_ draft.markers_adopted_iff
    intro α asked? standard x hx
    show some x = some (asked?.getD standard)
    rw [show asked? = some x from hx, Option.getD_some]
  · apply warnings_settle_eq_nil_iff_forall draft Checks.proper_iff ?_ draft.markers_proper_iff
    exact fun _ _ _ _ => trivial

/-- The name of a policy is read without the blanks around it and in any case. -/
example :
    ({ outside? := some " Label\t".toList } : SettingsDraft).settle =
      ⟨{ outside := .labelMatch }, []⟩ := by
  decide

/-- An opening text that fits by itself but not with the standard closing text. -/
example :
    ({ opening? := some Dialect.commonMark } : SettingsDraft).settle =
      ⟨{}, [.overlap Dialect.commonMark Dialect.standardClosing]⟩ := by
  decide

end SettingsDraft

end RegionToggle
