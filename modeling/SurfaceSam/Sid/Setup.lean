import SurfaceSam.Sid.Device

/-!
# Setting up the integration device

What the operations of the driver change, also when the functions they call fail: requests that
set a mode, the attribute, and what is asked of ACPI.
-/

namespace SurfaceSam

open Devlib

/-! ### What is set -/

/-- A mode of the EC. -/
def SamPerfMode (m : ℤ) : Prop := 1 ≤ m ∧ m ≤ 4
  deriving Decidable

/-- A parameter: a mode, or `SID_PARAM_PERF_MODE_AS_IS`. -/
def SidParamPerfMode (m : ℤ) : Prop := 0 ≤ m ∧ m ≤ 4
  deriving Decidable

/-- The requests are those that set one of the modes. -/
structure SurfaceSamSid.Sound (s : SurfaceSamSid) : Prop where
  paramInit : SidParamPerfMode s.paramPerfModeInit
  paramExit : SidParamPerfMode s.paramPerfModeExit
  sent : ∀ r ∈ s.sent, ∃ m, SamPerfMode m ∧ r.1 = perfModeSetRqst m

/-- The lid of the device has this event. -/
def SidDeviceInfo.hasGpe (info : SidDeviceInfo) (gpe : UInt32) : Bool :=
  info.lidDevice.any fun lid => lid.gpeNumber == gpe

namespace SurfaceSamSid

variable {s t u : SurfaceSamSid} {kstrtoint : List UInt8 → Except ℤ ℤ} {info : SidDeviceInfo}

lemma sound_static : static.Sound := by
  refine ⟨by decide, by decide, fun r hr => ?_⟩
  cases hr

/-- Requests for modes are made, and nothing else changes but the attribute. -/
structure Sets (s t : SurfaceSamSid) : Prop where
  paramInit : t.paramPerfModeInit = s.paramPerfModeInit
  paramExit : t.paramPerfModeExit = s.paramPerfModeExit
  drvdata : t.drvdata = s.drvdata
  gpes : t.gpes = s.gpes
  sent : ∃ added, t.sent = s.sent ++ added ∧
    ∀ r ∈ added, ∃ m, SamPerfMode m ∧ r.1 = perfModeSetRqst m

lemma Sets.refl (s : SurfaceSamSid) : Sets s s where
  paramInit := rfl
  paramExit := rfl
  drvdata := rfl
  gpes := rfl
  sent := ⟨[], (List.append_nil _).symm, by simp⟩

lemma Sets.trans (h : Sets s t) (h' : Sets t u) : Sets s u where
  paramInit := h'.paramInit.trans h.paramInit
  paramExit := h'.paramExit.trans h.paramExit
  drvdata := h'.drvdata.trans h.drvdata
  gpes := h'.gpes.trans h.gpes
  sent := by
    obtain ⟨added, hsent, hadded⟩ := h.sent
    obtain ⟨added', hsent', hadded'⟩ := h'.sent
    refine ⟨added ++ added', by rw [hsent', hsent, List.append_assoc], fun r hr => ?_⟩
    rcases List.mem_append.mp hr with hr | hr
    · exact hadded r hr
    · exact hadded' r hr

/-- The attribute is created or removed. -/
lemma Sets.withAttr (h : Sets s t) (attr : Bool) : Sets s { t with perfModeAttr := attr } :=
  ⟨h.paramInit, h.paramExit, h.drvdata, h.gpes, h.sent⟩

lemma Sets.sound (h : Sets s t) (hs : s.Sound) : t.Sound where
  paramInit := h.paramInit ▸ hs.paramInit
  paramExit := h.paramExit ▸ hs.paramExit
  sent := by
    intro r hr
    obtain ⟨added, hsent, hadded⟩ := h.sent
    rw [hsent] at hr
    rcases List.mem_append.mp hr with hr | hr
    · exact hs.sent r hr
    · exact hadded r hr

lemma surfaceSamPerfModeSet_sets (perfMode status : ℤ) (s : SurfaceSamSid) :
    Sets s (s.surfaceSamPerfModeSet perfMode status).2 ∧
      (s.surfaceSamPerfModeSet perfMode status).2.perfModeAttr = s.perfModeAttr := by
  unfold surfaceSamPerfModeSet
  split_ifs with hrange
  · exact ⟨.refl s, rfl⟩
  · refine ⟨⟨rfl, rfl, rfl, rfl, [_], rfl, fun r hr => ?_⟩, rfl⟩
    cases List.mem_singleton.mp hr
    exact ⟨perfMode, by unfold SamPerfMode; omega, rfl⟩

lemma surfaceSamPerfModeSet_mode {m : ℤ} (hm : SamPerfMode m) (status : ℤ) :
    s.surfaceSamPerfModeSet m status =
      (status, { s with sent := s.sent ++ [(perfModeSetRqst m, status)] }) := by
  unfold SamPerfMode at hm
  unfold surfaceSamPerfModeSet
  rw [if_neg (by omega)]

/-- The attribute is there exactly after a setup that succeeds. -/
lemma sidPerfModeSetup_sets (env : SidProbeEnv) (info : SidDeviceInfo)
    (hattr : s.perfModeAttr = false) :
    Sets s (s.sidPerfModeSetup env info).2 ∧
      ((s.sidPerfModeSetup env info).2.perfModeAttr = true ↔
        (s.sidPerfModeSetup env info).1 = 0 ∧ info.hasPerfMode = true) := by
  unfold sidPerfModeSetup
  cases hmode : info.hasPerfMode with
  | false => exact ⟨.refl s, by simp [hattr]⟩
  | true =>
    simp only [Bool.not_true, Bool.false_eq_true, if_false, and_true]
    by_cases hconsumer : env.consumerRegister = 0
    swap
    · rw [if_pos hconsumer]
      refine ⟨.refl s, iff_of_false (by simp [hattr]) ?_⟩
      split_ifs
      · simp
      · exact hconsumer
    rw [if_neg (not_not_intro hconsumer)]
    -- the state behind the initial mode
    obtain ⟨r, hr, hsets, hsame⟩ : ∃ r, r = (if s.paramPerfModeInit ≠ 0 then
        s.surfaceSamPerfModeSet s.paramPerfModeInit env.rqstInit else (0, s)) ∧
        Sets s r.2 ∧ r.2.perfModeAttr = s.perfModeAttr := by
      refine ⟨_, rfl, ?_⟩
      split_ifs
      · exact surfaceSamPerfModeSet_sets _ _ s
      · exact ⟨.refl s, rfl⟩
    rw [← hr]
    by_cases hstatus : r.1 = 0
    swap
    · simp only [if_pos hstatus]
      exact ⟨hsets, iff_of_false (by simp [hsame, hattr]) hstatus⟩
    simp only [if_neg (not_not_intro hstatus)]
    by_cases hsysfs : env.sysfsCreateFile = 0
    swap
    · simp only [if_pos hsysfs]
      obtain ⟨hexit, hsame'⟩ := surfaceSamPerfModeSet_sets r.2.paramPerfModeExit env.rqstExit r.2
      exact ⟨hsets.trans hexit, iff_of_false (by simp [hsame', hsame, hattr]) hsysfs⟩
    simp only [if_neg (not_not_intro hsysfs)]
    exact ⟨hsets.withAttr true, by simp⟩

lemma sidPerfModeRemove_sets (rqstExit : ℤ) (info : SidDeviceInfo)
    (hattr : info.hasPerfMode = false → s.perfModeAttr = false) :
    Sets s (s.sidPerfModeRemove rqstExit info) ∧
      (s.sidPerfModeRemove rqstExit info).perfModeAttr = false := by
  unfold sidPerfModeRemove
  cases hmode : info.hasPerfMode with
  | false => exact ⟨.refl s, hattr hmode⟩
  | true =>
    simp only [Bool.not_true, Bool.false_eq_true, if_false]
    obtain ⟨hexit, hsame⟩ := surfaceSamPerfModeSet_sets s.paramPerfModeExit rqstExit
      { s with perfModeAttr := false }
    exact ⟨((Sets.refl s).withAttr false).trans hexit, hsame⟩

/-! ### What wakes the machine -/

/-- Only what has been asked of ACPI changes. -/
structure AsksAcpi (s t : SurfaceSamSid) : Prop where
  paramInit : t.paramPerfModeInit = s.paramPerfModeInit
  paramExit : t.paramPerfModeExit = s.paramPerfModeExit
  drvdata : t.drvdata = s.drvdata
  perfModeAttr : t.perfModeAttr = s.perfModeAttr
  sent : t.sent = s.sent

lemma AsksAcpi.sound (h : AsksAcpi s t) (hs : s.Sound) : t.Sound where
  paramInit := h.paramInit ▸ hs.paramInit
  paramExit := h.paramExit ▸ hs.paramExit
  sent := h.sent ▸ hs.sent

lemma sidLidEnableWakeup_same (info : SidDeviceInfo) (enable : Bool) (acpi : ℤ)
    (s : SurfaceSamSid) : AsksAcpi s (s.sidLidEnableWakeup info enable acpi).2 := by
  unfold sidLidEnableWakeup
  cases info.lidDevice with
  | none => exact ⟨rfl, rfl, rfl, rfl, rfl⟩
  | some lid =>
    dsimp only
    split_ifs
    · exact ⟨rfl, rfl, rfl, rfl, rfl⟩
    · exact ⟨rfl, rfl, rfl, rfl, rfl⟩

lemma wake_sidLidEnableWakeup (info : SidDeviceInfo) (enable : Bool) (acpi : ℤ)
    (s : SurfaceSamSid) (gpe : UInt32) : (s.sidLidEnableWakeup info enable acpi).2.gpes.wake gpe =
      if info.hasGpe gpe ∧ acpi = 0 then enable else s.gpes.wake gpe := by
  unfold sidLidEnableWakeup SidDeviceInfo.hasGpe
  cases info.lidDevice with
  | none => simp
  | some lid =>
    dsimp only
    by_cases hacpi : acpi = 0
    · rw [if_neg (not_not_intro hacpi)]
      by_cases hgpe : gpe = lid.gpeNumber
      · simp [AcpiGpes.acpiSetGpeWakeMask, hgpe, hacpi]
      · have hne : ¬lid.gpeNumber = gpe := fun h => hgpe h.symm
        simp [AcpiGpes.acpiSetGpeWakeMask, hgpe, hne]
    · simp [hacpi]

lemma status_sidLidEnableWakeup (info : SidDeviceInfo) (enable : Bool) (acpi : ℤ)
    (s : SurfaceSamSid) : (s.sidLidEnableWakeup info enable acpi).1 = 0 ↔
      info.lidDevice = none ∨ acpi = 0 := by
  unfold sidLidEnableWakeup
  cases info.lidDevice with
  | none => simp
  | some lid =>
    dsimp only
    by_cases hacpi : acpi = 0
    · simp [hacpi]
    · simp [hacpi]

lemma refs_sidLidEnableWakeup (info : SidDeviceInfo) (enable : Bool) (acpi : ℤ)
    (s : SurfaceSamSid) :
    (s.sidLidEnableWakeup info enable acpi).2.gpes.refs = s.gpes.refs := by
  unfold sidLidEnableWakeup
  cases info.lidDevice with
  | none => rfl
  | some lid =>
    dsimp only
    split_ifs
    · rfl
    · rfl

/-- What the setup of the lid asks of ACPI; where it succeeds, it has one more reference to the
event. -/
structure LidSetup (s : SurfaceSamSid) (info : SidDeviceInfo) (r : ℤ × SurfaceSamSid) : Prop
    extends AsksAcpi s r.2 where
  wake : ∀ gpe, r.2.gpes.wake gpe = true → s.gpes.wake gpe = true
  refs : ∀ gpe, s.gpes.refs gpe ≤ r.2.gpes.refs gpe
  ref : ∀ gpe, r.1 = 0 → info.hasGpe gpe = true → s.gpes.refs gpe < r.2.gpes.refs gpe

lemma LidSetup.failed {info : SidDeviceInfo} {g : AcpiGpes} (hwake : g.wake = s.gpes.wake)
    (hrefs : g.refs = s.gpes.refs) : LidSetup s info (-efault, { s with gpes := g }) where
  toAsksAcpi := ⟨rfl, rfl, rfl, rfl, rfl⟩
  wake gpe h := hwake ▸ h
  refs gpe := Nat.le_of_eq (congrFun hrefs gpe).symm
  ref gpe h := by simp at h

lemma sidLidDeviceSetup_lid (env : SidProbeEnv) (info : SidDeviceInfo) (s : SurfaceSamSid) :
    LidSetup s info (s.sidLidDeviceSetup env info) := by
  unfold sidLidDeviceSetup
  cases hlid : info.lidDevice with
  | none =>
    refine ⟨⟨rfl, rfl, rfl, rfl, rfl⟩, fun _ h => h, fun _ => Nat.le_refl _, fun gpe _ h => ?_⟩
    simp [SidDeviceInfo.hasGpe, hlid] at h
  | some lid =>
    dsimp only
    split_ifs
    · exact .failed rfl rfl
    · exact .failed rfl rfl
    · exact .failed (g := s.gpes.acpiSetupGpeForWake lid.gpeNumber) rfl rfl
    · obtain ⟨s₁, hs₁⟩ : ∃ s₁ : SurfaceSamSid, s₁ = { s with
          gpes := (s.gpes.acpiSetupGpeForWake lid.gpeNumber).acpiEnableGpe lid.gpeNumber } :=
        ⟨_, rfl⟩
      have hrefs (gpe : UInt32) : s₁.gpes.refs gpe =
          if gpe = lid.gpeNumber then s.gpes.refs gpe + 1 else s.gpes.refs gpe := by
        rw [hs₁]
        by_cases hgpe : gpe = lid.gpeNumber
        · simp [AcpiGpes.acpiEnableGpe, AcpiGpes.acpiSetupGpeForWake, hgpe]
        · simp [AcpiGpes.acpiEnableGpe, AcpiGpes.acpiSetupGpeForWake, hgpe]
      change LidSetup s info (sidLidEnableWakeup info false env.acpiSetGpeWakeMask { s with
        gpes := (s.gpes.acpiSetupGpeForWake lid.gpeNumber).acpiEnableGpe lid.gpeNumber })
      rw [← hs₁]
      have hsame := sidLidEnableWakeup_same info false env.acpiSetGpeWakeMask s₁
      refine ⟨⟨?_, ?_, ?_, ?_, ?_⟩, fun gpe h => ?_, fun gpe => ?_, fun gpe _ hgpe => ?_⟩
      · rw [hsame.paramInit, hs₁]
      · rw [hsame.paramExit, hs₁]
      · rw [hsame.drvdata, hs₁]
      · rw [hsame.perfModeAttr, hs₁]
      · rw [hsame.sent, hs₁]
      · rw [wake_sidLidEnableWakeup] at h
        split_ifs at h
        rw [hs₁] at h
        exact h
      · rw [refs_sidLidEnableWakeup, hrefs]
        split_ifs
        · exact Nat.le_succ _
        · exact Nat.le_refl _
      · rw [refs_sidLidEnableWakeup, hrefs, if_pos]
        · exact Nat.lt_succ_self _
        · simp only [SidDeviceInfo.hasGpe, hlid, Option.any_some, beq_iff_eq] at hgpe
          exact hgpe.symm

/-! ### Binding -/

/-- What a probe leaves behind, when the driver has not been bound. -/
structure Probed (s : SurfaceSamSid) (env : SidProbeEnv) (r : ℤ × SurfaceSamSid) : Prop where
  sound : s.Sound → r.2.Sound
  attr : r.2.perfModeAttr = true ↔
    r.1 = 0 ∧ ∃ info, r.2.drvdata = some info ∧ info.hasPerfMode = true
  drvdata : r.1 = 0 → ∃ entry, dmiFirstMatch env.dmi dmiLidDeviceTable = some entry ∧
    r.2.drvdata = some entry.driverData
  wake : ∀ gpe, r.2.gpes.wake gpe = true → s.gpes.wake gpe = true
  refs : ∀ gpe, s.gpes.refs gpe ≤ r.2.gpes.refs gpe
  ref : ∀ gpe, r.1 = 0 → r.2.drvdata.any (fun info => info.hasGpe gpe) = true →
    s.gpes.refs gpe < r.2.gpes.refs gpe

lemma surfaceSamSidProbe_probed (env : SidProbeEnv) (hattr : s.perfModeAttr = false) :
    Probed s env (s.surfaceSamSidProbe env) := by
  unfold surfaceSamSidProbe
  cases hentry : dmiFirstMatch env.dmi dmiLidDeviceTable with
  | none =>
    exact ⟨fun hs => hs, iff_of_false (by simp [hattr]) (by simp), fun h => by simp at h,
      fun _ h => h, fun _ => Nat.le_refl _, fun _ h => by simp at h⟩
  | some entry =>
    obtain ⟨s₁, hs₁⟩ : ∃ s₁ : SurfaceSamSid, s₁ = { s with drvdata := some entry.driverData } :=
      ⟨_, rfl⟩
    have hsound : s.Sound → s₁.Sound := by
      intro hs
      rw [hs₁]
      exact ⟨hs.paramInit, hs.paramExit, hs.sent⟩
    have hgpes : s₁.gpes = s.gpes := by rw [hs₁]
    have hdata : s₁.drvdata = some entry.driverData := by rw [hs₁]
    have hattr₁ : s₁.perfModeAttr = false := by rw [hs₁, hattr]
    dsimp only
    rw [← hs₁]
    obtain ⟨hsets, hmode⟩ := sidPerfModeSetup_sets env entry.driverData hattr₁
    generalize s₁.sidPerfModeSetup env entry.driverData = r₁ at hsets hmode ⊢
    have hdata₁ : r₁.2.drvdata = some entry.driverData := hsets.drvdata.trans hdata
    have hgpes₁ : r₁.2.gpes = s.gpes := hsets.gpes.trans hgpes
    by_cases hstatus : r₁.1 = 0
    swap
    · rw [if_pos hstatus]
      refine ⟨fun hs => hsets.sound (hsound hs), ?_, fun h => absurd h hstatus, fun gpe h => ?_,
        fun gpe => ?_, fun _ h => absurd h hstatus⟩
      · exact iff_of_false (fun h => hstatus (hmode.mp h).1) fun h => hstatus h.1
      · exact hgpes₁ ▸ h
      · exact Nat.le_of_eq (by rw [hgpes₁])
    rw [if_neg (not_not_intro hstatus)]
    have hlid := sidLidDeviceSetup_lid env entry.driverData r₁.2
    generalize r₁.2.sidLidDeviceSetup env entry.driverData = r₂ at hlid ⊢
    have hdata₂ : r₂.2.drvdata = some entry.driverData := hlid.drvdata.trans hdata₁
    have hmode₂ : r₂.2.perfModeAttr = true ↔ entry.driverData.hasPerfMode = true := by
      rw [hlid.perfModeAttr, hmode]
      exact and_iff_right hstatus
    have hwake (gpe : UInt32) (h : r₂.2.gpes.wake gpe = true) : s.gpes.wake gpe = true :=
      hgpes₁ ▸ hlid.wake gpe h
    have hrefs (gpe : UInt32) : s.gpes.refs gpe ≤ r₂.2.gpes.refs gpe := hgpes₁ ▸ hlid.refs gpe
    by_cases hstatus₂ : r₂.1 = 0
    · rw [if_neg (not_not_intro hstatus₂)]
      refine ⟨fun hs => hlid.sound (hsets.sound (hsound hs)), ?_, fun _ => ⟨entry, hentry, hdata₂⟩,
        hwake, hrefs, fun gpe _ hgpe => ?_⟩
      · dsimp only
        rw [hmode₂, hdata₂]
        simp
      · rw [hdata₂] at hgpe
        exact hgpes₁ ▸ hlid.ref gpe hstatus₂ hgpe
    · rw [if_pos hstatus₂]
      have hnone : entry.driverData.hasPerfMode = false → r₂.2.perfModeAttr = false := by
        intro h
        rw [← Bool.not_eq_true, hmode₂, h]
        exact Bool.false_ne_true
      obtain ⟨hremove, hattr₂⟩ := sidPerfModeRemove_sets env.rqstExit entry.driverData hnone
      refine ⟨fun hs => hremove.sound (hlid.sound (hsets.sound (hsound hs))), ?_,
        fun h => absurd h hstatus₂, fun gpe h => hwake gpe (hremove.gpes ▸ h), fun gpe => ?_,
        fun _ h => absurd h hstatus₂⟩
      · exact iff_of_false (by simp [hattr₂]) fun h => hstatus₂ h.1
      · exact hremove.gpes ▸ hrefs gpe

/-- A device without performance modes gets no request, and no driver data of another device. -/
lemma surfaceSamSidProbe_other (env : SidProbeEnv)
    (hother : ∀ entry, dmiFirstMatch env.dmi dmiLidDeviceTable = some entry →
      entry.driverData.hasPerfMode = false) (s : SurfaceSamSid) :
    (s.surfaceSamSidProbe env).2.sent = s.sent ∧
      ((s.surfaceSamSidProbe env).2.drvdata = s.drvdata ∨
        ∃ info, (s.surfaceSamSidProbe env).2.drvdata = some info ∧ info.hasPerfMode = false) := by
  unfold surfaceSamSidProbe
  cases hentry : dmiFirstMatch env.dmi dmiLidDeviceTable with
  | none => exact ⟨rfl, .inl rfl⟩
  | some entry =>
    have hmode := hother entry hentry
    have hremove (s : SurfaceSamSid) : s.sidPerfModeRemove env.rqstExit entry.driverData = s := by
      rw [sidPerfModeRemove, hmode]
      rfl
    obtain ⟨s₁, hs₁⟩ : ∃ s₁ : SurfaceSamSid, s₁ = { s with drvdata := some entry.driverData } :=
      ⟨_, rfl⟩
    have hsetup : s₁.sidPerfModeSetup env entry.driverData = (0, s₁) := by
      rw [sidPerfModeSetup, hmode]
      rfl
    have hlid := sidLidDeviceSetup_lid env entry.driverData s₁
    dsimp only
    rw [← hs₁, hsetup, hremove, if_neg (not_not_intro rfl)]
    dsimp only
    have hsent : (s₁.sidLidDeviceSetup env entry.driverData).2.sent = s.sent := by
      rw [hlid.sent, hs₁]
    have hdata : (s₁.sidLidDeviceSetup env entry.driverData).2.drvdata = some entry.driverData := by
      rw [hlid.drvdata, hs₁]
    split_ifs
    · exact ⟨hsent, .inr ⟨_, hdata, hmode⟩⟩
    · exact ⟨hsent, .inr ⟨_, hdata, hmode⟩⟩

end SurfaceSamSid

/-- Only one of the devices has performance modes. -/
lemma dmiFirstMatch_hasPerfMode {dmi : DmiStrings} {entry : DmiSystemId}
    (h : dmiFirstMatch dmi dmiLidDeviceTable = some entry)
    (hmode : entry.driverData.hasPerfMode = true) :
    dmi .productName = some "Surface Book 2" := by
  have hmatch : entry.dmiMatches dmi = true := List.find?_some h
  have hmem : entry ∈ dmiLidDeviceTable := List.mem_of_find?_eq_some h
  simp only [dmiLidDeviceTable, List.mem_cons, List.not_mem_nil, or_false] at hmem
  rcases hmem with rfl | rfl | rfl | rfl | rfl | rfl | rfl | rfl
  case inr.inr.inr.inr.inr.inl =>
    simp only [DmiSystemId.dmiMatches, List.all_cons, Bool.and_eq_true, beq_iff_eq] at hmatch
    exact hmatch.2.1
  all_goals cases hmode

end SurfaceSam
