import SurfaceSam.Devlib.Simulation
import SurfaceSam.Devlib.Trace
import SurfaceSam.Sid.Setup

/-!
# Runs of the integration device

Binding and unbinding the driver, suspending and resuming the machine, and writing the module
parameters and the sysfs attribute, in any order that the kernel allows.
-/

namespace SurfaceSam

open Devlib

/-- `bound` tells whether the last probe has succeeded and has not been removed. -/
structure SidSystem where
  sid : SurfaceSamSid
  bound : Bool
  suspended : Bool

inductive SidAction where
  | paramInit (val : List UInt8)
  | paramExit (val : List UInt8)
  | probe (env : SidProbeEnv)
  | remove (rqstExit acpi : ℤ)
  | suspend (acpi : ℤ)
  | resume (acpi : ℤ)
  | store (data : List UInt8) (rqst : ℤ)

/-- Something is written, to a parameter or the attribute. -/
def SidAction.writes : SidAction → Bool
  | paramInit _ => true
  | paramExit _ => true
  | store _ _ => true
  | _ => false

namespace SidSystem

def static : SidSystem := ⟨.static, false, false⟩

variable (kstrtoint : List UInt8 → Except ℤ ℤ)

def paramInit (val : List UInt8) (s : SurfaceSamSid) : SurfaceSamSid :=
  match SurfaceSamSid.paramPerfModeSet kstrtoint val with
  | .error _ => s
  | .ok perfMode => { s with paramPerfModeInit := perfMode }

def paramExit (val : List UInt8) (s : SurfaceSamSid) : SurfaceSamSid :=
  match SurfaceSamSid.paramPerfModeSet kstrtoint val with
  | .error _ => s
  | .ok perfMode => { s with paramPerfModeExit := perfMode }

/-- A suspend that fails is called off. The attribute can be written as long as it exists. -/
def step (s : SidSystem) : SidAction → Option SidSystem
  | .paramInit val => some { s with sid := paramInit kstrtoint val s.sid }
  | .paramExit val => some { s with sid := paramExit kstrtoint val s.sid }
  | .probe env =>
    if s.bound then none
    else
      let (status, sid) := s.sid.surfaceSamSidProbe env
      some { s with sid := sid, bound := decide (status = 0) }
  | .remove rqstExit acpi =>
    if s.bound && !s.suspended then
      (s.sid.surfaceSamSidRemove rqstExit acpi).map fun sid => { s with sid := sid, bound := false }
    else none
  | .suspend acpi =>
    if s.bound && !s.suspended then
      (s.sid.surfaceSamSidSuspend acpi).map fun (r : ℤ × SurfaceSamSid) =>
        { s with sid := r.2, suspended := decide (r.1 = 0) }
    else none
  | .resume acpi =>
    if s.suspended then
      (s.sid.surfaceSamSidResume acpi).map fun r => { s with sid := r.2, suspended := false }
    else none
  | .store data rqst =>
    if s.sid.perfModeAttr then some { s with sid := (s.sid.perfModeStore kstrtoint data rqst).2 }
    else none

end SidSystem

/-! ### Every run -/

namespace SidSystem

variable {kstrtoint : List UInt8 → Except ℤ ℤ} {s t : SidSystem} {a : SidAction}

/-- The attribute is there while the driver is bound to a device with performance modes, and the
machine is suspended only while the driver is bound. -/
structure Inv (s : SidSystem) : Prop where
  sound : s.sid.Sound
  attr : s.sid.perfModeAttr = true ↔
    s.bound = true ∧ ∃ info, s.sid.drvdata = some info ∧ info.hasPerfMode = true
  entry : s.bound = true → ∃ dmi entry, dmiFirstMatch dmi dmiLidDeviceTable = some entry ∧
    s.sid.drvdata = some entry.driverData
  suspended : s.suspended = true → s.bound = true

lemma inv_static : static.Inv := by
  refine ⟨SurfaceSamSid.sound_static, by simp [static, SurfaceSamSid.static], ?_, ?_⟩
  · intro h
    cases h
  · intro h
    cases h

lemma paramPerfModeSet_range {val : List UInt8} {m : ℤ}
    (h : SurfaceSamSid.paramPerfModeSet kstrtoint val = .ok m) : SidParamPerfMode m := by
  unfold SurfaceSamSid.paramPerfModeSet at h
  cases hval : kstrtoint val with
  | error status =>
    rw [hval] at h
    cases h
  | ok m' =>
    rw [hval] at h
    dsimp only at h
    split_ifs at h with hrange
    cases h
    unfold SidParamPerfMode
    omega

lemma Inv.withSid {sid : SurfaceSamSid} (h : s.Inv) (hsound : sid.Sound)
    (hattr : sid.perfModeAttr = s.sid.perfModeAttr) (hdata : sid.drvdata = s.sid.drvdata) :
    Inv { s with sid := sid } where
  sound := hsound
  attr := by
    dsimp only
    rw [hattr, hdata]
    exact h.attr
  entry := by
    dsimp only
    rw [hdata]
    exact h.entry
  suspended := h.suspended

lemma Inv.attr_false (h : s.Inv) (hbound : ¬s.bound = true) : s.sid.perfModeAttr = false := by
  rw [← Bool.not_eq_true, h.attr]
  exact fun hb => hbound hb.1

/-- A device without performance modes has no attribute. -/
lemma Inv.attr_none (h : s.Inv) {info : SidDeviceInfo} (hinfo : s.sid.drvdata = some info)
    (hnone : info.hasPerfMode = false) : s.sid.perfModeAttr = false := by
  rw [← Bool.not_eq_true, h.attr]
  rintro ⟨-, info', hinfo', hmode⟩
  cases hinfo.symm.trans hinfo'
  cases hnone.symm.trans hmode

inductive Step (s : SidSystem) : SidAction → SidSystem → Prop
  | written {a : SidAction} (writes : a.writes = true) (sid : SurfaceSamSid)
    (sound : s.sid.Sound → sid.Sound) (attr : sid.perfModeAttr = s.sid.perfModeAttr)
    (drvdata : sid.drvdata = s.sid.drvdata) (gpes : sid.gpes = s.sid.gpes)
    (sent : sid.sent = s.sid.sent ∨ s.sid.perfModeAttr = true) : Step s a { s with sid := sid }
  | probe (env : SidProbeEnv) (unbound : ¬s.bound = true) : Step s (.probe env) { s with
      sid := (s.sid.surfaceSamSidProbe env).2
      bound := decide ((s.sid.surfaceSamSidProbe env).1 = 0) }
  | remove (rqstExit acpi : ℤ) {info : SidDeviceInfo} (bound : s.bound = true)
    (awake : s.suspended = false) (drvdata : s.sid.drvdata = some info) :
    Step s (.remove rqstExit acpi) { s with
      sid := { (s.sid.sidPerfModeRemove rqstExit info).sidLidDeviceRemove info acpi with
        drvdata := none }
      bound := false }
  | suspend (acpi : ℤ) {info : SidDeviceInfo} (bound : s.bound = true)
    (awake : s.suspended = false) (drvdata : s.sid.drvdata = some info) :
    Step s (.suspend acpi) { s with
      sid := (s.sid.sidLidEnableWakeup info true acpi).2
      suspended := decide ((s.sid.sidLidEnableWakeup info true acpi).1 = 0) }
  | resume (acpi : ℤ) {info : SidDeviceInfo} (suspended : s.suspended = true)
    (drvdata : s.sid.drvdata = some info) : Step s (.resume acpi) { s with
      sid := (s.sid.sidLidEnableWakeup info false acpi).2
      suspended := false }

lemma step_cases (h : s.step kstrtoint a = some t) : Step s a t := by
  cases a with
  | paramInit val =>
    cases h
    unfold paramInit
    cases hval : SurfaceSamSid.paramPerfModeSet kstrtoint val with
    | error status => exact .written rfl s.sid (fun hs => hs) rfl rfl rfl (.inl rfl)
    | ok m =>
      exact .written rfl _ (fun hs => ⟨paramPerfModeSet_range hval, hs.paramExit, hs.sent⟩) rfl rfl
        rfl (.inl rfl)
  | paramExit val =>
    cases h
    unfold paramExit
    cases hval : SurfaceSamSid.paramPerfModeSet kstrtoint val with
    | error status => exact .written rfl s.sid (fun hs => hs) rfl rfl rfl (.inl rfl)
    | ok m =>
      exact .written rfl _ (fun hs => ⟨hs.paramInit, paramPerfModeSet_range hval, hs.sent⟩) rfl rfl
        rfl (.inl rfl)
  | probe env =>
    simp only [step] at h
    split_ifs at h with hbound
    cases h
    exact .probe env hbound
  | remove rqstExit acpi =>
    simp only [step] at h
    split_ifs at h with hguard
    obtain ⟨sid, hsid, rfl⟩ := Option.map_eq_some_iff.mp h
    obtain ⟨info, hinfo, rfl⟩ := Option.map_eq_some_iff.mp hsid
    rw [Bool.and_eq_true, Bool.not_eq_true'] at hguard
    exact .remove rqstExit acpi hguard.1 hguard.2 hinfo
  | suspend acpi =>
    simp only [step] at h
    split_ifs at h with hguard
    obtain ⟨r, hr, rfl⟩ := Option.map_eq_some_iff.mp h
    obtain ⟨info, hinfo, rfl⟩ := Option.map_eq_some_iff.mp hr
    rw [Bool.and_eq_true, Bool.not_eq_true'] at hguard
    exact .suspend acpi hguard.1 hguard.2 hinfo
  | resume acpi =>
    simp only [step] at h
    split_ifs at h with hsuspended
    obtain ⟨r, hr, rfl⟩ := Option.map_eq_some_iff.mp h
    obtain ⟨info, hinfo, rfl⟩ := Option.map_eq_some_iff.mp hr
    exact .resume acpi hsuspended hinfo
  | store data rqst =>
    simp only [step] at h
    split_ifs at h with hattr
    cases h
    unfold SurfaceSamSid.perfModeStore
    cases hval : kstrtoint data with
    | error status => exact .written rfl s.sid (fun hs => hs) rfl rfl rfl (.inl rfl)
    | ok m =>
      obtain ⟨hsets, hsame⟩ := SurfaceSamSid.surfaceSamPerfModeSet_sets m rqst s.sid
      dsimp only
      split_ifs
      · exact .written rfl _ hsets.sound hsame hsets.drvdata hsets.gpes (.inr hattr)
      · exact .written rfl _ hsets.sound hsame hsets.drvdata hsets.gpes (.inr hattr)

/-- What removing the driver does. -/
lemma Inv.removed (h : s.Inv) (rqstExit acpi : ℤ) {info : SidDeviceInfo}
    (hinfo : s.sid.drvdata = some info) :
    ((s.sid.sidPerfModeRemove rqstExit info).sidLidDeviceRemove info acpi).Sound ∧
      ((s.sid.sidPerfModeRemove rqstExit info).sidLidDeviceRemove info acpi).perfModeAttr =
        false := by
  obtain ⟨hsets, hattr⟩ := SurfaceSamSid.sidPerfModeRemove_sets rqstExit info (h.attr_none hinfo)
  have hsame := SurfaceSamSid.sidLidEnableWakeup_same info false acpi
    (s.sid.sidPerfModeRemove rqstExit info)
  exact ⟨hsame.sound (hsets.sound h.sound), hsame.perfModeAttr.trans hattr⟩

lemma Inv.step (h : s.Inv) (hstep : Step s a t) : t.Inv := by
  cases hstep with
  | written _ sid hsound hattr hdata hgpes hsent => exact h.withSid (hsound h.sound) hattr hdata
  | probe env hbound =>
    have hprobed := SurfaceSamSid.surfaceSamSidProbe_probed env (h.attr_false hbound)
    refine ⟨hprobed.sound h.sound, ?_, ?_, fun hs => absurd (h.suspended hs) hbound⟩
    · rw [decide_eq_true_iff]
      exact hprobed.attr
    · intro hb
      obtain ⟨entry, hentry, hdata⟩ := hprobed.drvdata (of_decide_eq_true hb)
      exact ⟨env.dmi, entry, hentry, hdata⟩
  | remove rqstExit acpi hbound hawake hinfo =>
    obtain ⟨hsound, hattr⟩ := h.removed rqstExit acpi hinfo
    refine ⟨⟨hsound.paramInit, hsound.paramExit, hsound.sent⟩, iff_of_false ?_ ?_, ?_, ?_⟩
    · exact fun h => by cases hattr.symm.trans h
    · exact fun h => by cases h.1
    · exact fun h => by cases h
    · exact fun h => by cases hawake.symm.trans h
  | @suspend acpi info hbound hawake hinfo =>
    have hsame := SurfaceSamSid.sidLidEnableWakeup_same info true acpi s.sid
    have hnext := h.withSid (hsame.sound h.sound) hsame.perfModeAttr hsame.drvdata
    exact ⟨hnext.sound, hnext.attr, hnext.entry, fun _ => hbound⟩
  | @resume acpi info hsuspended hinfo =>
    have hsame := SurfaceSamSid.sidLidEnableWakeup_same info false acpi s.sid
    have hnext := h.withSid (hsame.sound h.sound) hsame.perfModeAttr hsame.drvdata
    exact ⟨hnext.sound, hnext.attr, hnext.entry, fun h => by cases h⟩

lemma Inv.reached {C : SidSystem → SidAction → Prop}
    (h : Machine.Reaches (SidSystem.step kstrtoint) C .static s) : s.Inv :=
  h.invariant inv_static fun _ _ _ hinv _ hstep => hinv.step (step_cases hstep)

/-! ### Waking by the lid -/

end SidSystem

/-- ACPI does what a resume asks for. -/
def SidAction.restores : SidAction → Bool
  | .resume acpi => acpi == 0
  | _ => true

namespace SidSystem

variable {kstrtoint : List UInt8 → Except ℤ ℤ} {s t : SidSystem} {a : SidAction}

/-- The event of the lid wakes the machine while it is suspended, and no other event does. -/
def WakesByLid (s : SidSystem) : Prop :=
  ∀ gpe, s.sid.gpes.wake gpe = true ↔
    s.suspended = true ∧ s.sid.drvdata.any (fun info => info.hasGpe gpe) = true

lemma WakesByLid.awake (h : s.WakesByLid) (hawake : s.suspended = false) (gpe : UInt32) :
    s.sid.gpes.wake gpe = false := by
  rw [← Bool.not_eq_true, h gpe, hawake]
  exact fun hs => Bool.false_ne_true hs.1

lemma WakesByLid.step (h : s.WakesByLid) (hinv : s.Inv) (ha : a.restores = true)
    (hstep : Step s a t) : t.WakesByLid := by
  intro gpe
  cases hstep with
  | written _ sid _ _ hdata hgpes _ =>
    dsimp only
    rw [hdata, hgpes]
    exact h gpe
  | probe env hbound =>
    have hawake : s.suspended = false := by
      rw [← Bool.not_eq_true]
      exact fun hs => hbound (hinv.suspended hs)
    have hprobed := SurfaceSamSid.surfaceSamSidProbe_probed env (hinv.attr_false hbound)
    refine iff_of_false (fun hwake => ?_) fun hs => Bool.false_ne_true (hawake.symm.trans hs.1)
    exact Bool.false_ne_true ((h.awake hawake gpe).symm.trans (hprobed.wake gpe hwake))
  | @remove rqstExit acpi info hbound hawake hinfo =>
    refine iff_of_false (fun hwake => ?_) fun hs => Bool.false_ne_true (hawake.symm.trans hs.1)
    obtain ⟨hsets, -⟩ :=
      SurfaceSamSid.sidPerfModeRemove_sets rqstExit info (hinv.attr_none hinfo)
    have hwake' := (SurfaceSamSid.wake_sidLidEnableWakeup info false acpi
      (s.sid.sidPerfModeRemove rqstExit info) gpe).symm.trans hwake
    split_ifs at hwake'
    rw [hsets.gpes, h.awake hawake gpe] at hwake'
    cases hwake'
  | @suspend acpi info hbound hawake hinfo =>
    have hsame := SurfaceSamSid.sidLidEnableWakeup_same info true acpi s.sid
    dsimp only
    rw [SurfaceSamSid.wake_sidLidEnableWakeup, h.awake hawake gpe, hsame.drvdata, hinfo,
      decide_eq_true_iff, SurfaceSamSid.status_sidLidEnableWakeup, Option.any_some]
    by_cases hgpe : info.hasGpe gpe = true
    · have hlid : info.lidDevice ≠ none := by
        intro hnone
        simp [SidDeviceInfo.hasGpe, hnone] at hgpe
      simp [hgpe, hlid]
    · simp [hgpe]
  | @resume acpi info hsuspended hinfo =>
    have hacpi : acpi = 0 := beq_iff_eq.mp ha
    refine iff_of_false (fun hwake => ?_) fun hs => by cases hs.1
    have hwake' := (SurfaceSamSid.wake_sidLidEnableWakeup info false acpi s.sid gpe).symm.trans
      hwake
    split_ifs at hwake' with hgpe
    have hlid := ((h gpe).mp hwake').2
    rw [hinfo, Option.any_some] at hlid
    exact hgpe ⟨hlid, hacpi⟩

lemma wakesByLid_static : static.WakesByLid :=
  fun _ => iff_of_false Bool.false_ne_true fun h => Bool.false_ne_true h.1

end SidSystem

/-- Whatever is written to the parameters and to the attribute, and however often the driver is
bound and unbound with whatever failures: the parameters are modes or 0, every request that sets a
mode sets one of the four, and the attribute is there exactly while the driver is bound to a
device with performance modes. -/
theorem sid_setsModes (kstrtoint : List UInt8 → Except ℤ ℤ) (s : SidSystem)
    (h : Machine.Reaches (SidSystem.step kstrtoint) (fun _ _ => True) .static s) :
    SidParamPerfMode s.sid.paramPerfModeInit ∧ SidParamPerfMode s.sid.paramPerfModeExit ∧
      (∀ r ∈ s.sid.sent, ∃ m, SamPerfMode m ∧ r.1 = perfModeSetRqst m) ∧
      (s.sid.perfModeAttr = true ↔ s.bound = true ∧
        ∃ info, s.sid.drvdata = some info ∧ info.hasPerfMode = true) := by
  have hinv := SidSystem.Inv.reached h
  exact ⟨hinv.sound.paramInit, hinv.sound.paramExit, hinv.sound.sent, hinv.attr⟩

/-- The strings of a Surface Book 2. -/
def surfaceBook2 : DmiStrings
  | .sysVendor => some "Microsoft Corporation"
  | .productName => some "Surface Book 2"
  | .productSku => none

/-- All goes well. -/
def goodSidProbe : SidProbeEnv := ⟨surfaceBook2, 0, 0, 0, 0, 0, 0, 0, 0⟩

/-- `kstrtoint` on texts of one decimal digit. -/
def kstrtointDigit (val : List UInt8) : Except ℤ ℤ :=
  let d := val.headD 0
  if (val.drop 1 = [] ∨ val.drop 1 = [10]) ∧ 48 ≤ d ∧ d ≤ 57 then .ok (d.toNat - 48)
  else .error (-einval)

/-- Mode 2 to begin with, then 3, and the machine is suspended. -/
def suspendedBook2 : List SidAction :=
  [.paramInit [50, 10], .probe goodSidProbe, .store [51, 10] 0, .suspend 0]

/-- A mode that there is not is refused. -/
theorem sid_setsModes_refused : ∃ s, Machine.run (SidSystem.step kstrtointDigit) .static
    (suspendedBook2 ++ [.resume 0, .store [53, 10] 0]) = some s ∧ s.sid.sent.length = 2 ∧
      (∀ r ∈ s.sid.sent, ∃ m, SamPerfMode m ∧ r.1 = perfModeSetRqst m) ∧ s.bound = true := by
  obtain ⟨s, hs, hvalues⟩ := Option.map_eq_some_iff.mp
    (show (Machine.run (SidSystem.step kstrtointDigit) .static
      (suspendedBook2 ++ [.resume 0, .store [53, 10] 0])).map
        (fun s => (s.sid.sent.length, s.bound)) = some (2, true) by decide +kernel)
  have hreached := Machine.reaches_of_run (C := fun _ _ => True) hs
    (Machine.Trace.meets_of_forall (D := fun _ => True) fun _ _ => trivial)
  obtain ⟨-, -, hsent, -⟩ := sid_setsModes kstrtointDigit s hreached
  exact ⟨s, hs, congrArg Prod.fst hvalues, hsent, congrArg Prod.snd hvalues⟩

/-- As long as ACPI does what each resume asks for, the machine is woken by the lid of the device
while it is suspended, and by no event otherwise, also when a probe has failed or the driver has
been unbound. -/
theorem sid_wakesByLid (kstrtoint : List UInt8 → Except ℤ ℤ) (s : SidSystem)
    (h : Machine.Reaches (SidSystem.step kstrtoint) (fun _ a => a.restores = true) .static s) :
    s.WakesByLid := by
  have hboth : s.Inv ∧ s.WakesByLid := by
    refine h.invariant (I := fun s => s.Inv ∧ s.WakesByLid)
      ⟨SidSystem.inv_static, SidSystem.wakesByLid_static⟩ ?_
    rintro t a u ⟨hinv, hwakes⟩ ha hstep
    have hcases := SidSystem.step_cases hstep
    exact ⟨hinv.step hcases, hwakes.step hinv ha hcases⟩
  exact hboth.2

theorem sid_wakesByLid_suspended : ∃ s,
    Machine.run (SidSystem.step kstrtointDigit) .static suspendedBook2 = some s ∧
      s.WakesByLid ∧ s.sid.gpes.wake 0x17 = true := by
  obtain ⟨s, hs, hwake⟩ := Option.map_eq_some_iff.mp
    (show (Machine.run (SidSystem.step kstrtointDigit) .static suspendedBook2).map
      (fun s => s.sid.gpes.wake 0x17) = some true by decide +kernel)
  have hreached := Machine.reaches_of_run (C := fun _ a => SidAction.restores a = true) hs
    (Machine.Trace.meets_of_forall (D := fun a => SidAction.restores a = true) (by decide))
  exact ⟨s, hs, sid_wakesByLid kstrtointDigit s hreached, hwake⟩

/-! ### What a device is left with -/

/-- A probe on a device that is no Surface Book 2. -/
def SidAction.other : SidAction → Bool
  | .probe env => env.dmi .productName != some "Surface Book 2"
  | _ => true

namespace SidSystem

variable {kstrtoint : List UInt8 → Except ℤ ℤ} {s t : SidSystem} {a : SidAction}

/-- The driver has not been bound to a device with performance modes. -/
structure Other (s : SidSystem) : Prop where
  inv : s.Inv
  sent : s.sid.sent = []
  drvdata : ∀ info, s.sid.drvdata = some info → info.hasPerfMode = false

lemma Other.attr (h : s.Other) : s.sid.perfModeAttr = false := by
  rw [← Bool.not_eq_true, h.inv.attr]
  rintro ⟨-, info, hinfo, hmode⟩
  cases (h.drvdata info hinfo).symm.trans hmode

lemma Other.step (h : s.Other) (ha : a.other = true) (hstep : Step s a t) : t.Other := by
  have hinv := h.inv.step hstep
  cases hstep with
  | written _ sid _ _ hdata _ hsent =>
    refine ⟨hinv, ?_, ?_⟩
    · exact (hsent.resolve_right fun hattr => by cases h.attr.symm.trans hattr).trans h.sent
    · dsimp only
      rw [hdata]
      exact h.drvdata
  | probe env _ =>
    have hname : env.dmi .productName ≠ some "Surface Book 2" := bne_iff_ne.mp ha
    have hentry (entry : DmiSystemId) (hmatch : dmiFirstMatch env.dmi dmiLidDeviceTable = some entry) :
        entry.driverData.hasPerfMode = false := by
      rw [← Bool.not_eq_true]
      exact fun hmode => hname (dmiFirstMatch_hasPerfMode hmatch hmode)
    obtain ⟨hsent, hdata⟩ := s.sid.surfaceSamSidProbe_other env hentry
    refine ⟨hinv, hsent.trans h.sent, fun info hinfo => ?_⟩
    rcases hdata with hdata | ⟨info', hdata, hmode⟩
    · exact h.drvdata info (hdata.symm.trans hinfo)
    · cases hdata.symm.trans hinfo
      exact hmode
  | @remove rqstExit acpi info _ _ hinfo =>
    refine ⟨hinv, ?_, fun info hinfo => by cases hinfo⟩
    have hremove : s.sid.sidPerfModeRemove rqstExit info = s.sid := by
      rw [SurfaceSamSid.sidPerfModeRemove, h.drvdata info hinfo]
      rfl
    have hsame := SurfaceSamSid.sidLidEnableWakeup_same info false acpi s.sid
    dsimp only
    rw [hremove]
    exact hsame.sent.trans h.sent
  | @suspend acpi info _ _ _ =>
    have hsame := SurfaceSamSid.sidLidEnableWakeup_same info true acpi s.sid
    exact ⟨hinv, hsame.sent.trans h.sent, fun info hinfo =>
      h.drvdata info (hsame.drvdata.symm.trans hinfo)⟩
  | @resume acpi info _ _ =>
    have hsame := SurfaceSamSid.sidLidEnableWakeup_same info false acpi s.sid
    exact ⟨hinv, hsame.sent.trans h.sent, fun info hinfo =>
      h.drvdata info (hsame.drvdata.symm.trans hinfo)⟩

lemma other_static : static.Other := ⟨inv_static, rfl, fun info hinfo => by cases hinfo⟩

end SidSystem

/-- On all other devices the EC is left alone: no request is made, whatever the parameters say, and
there is no attribute to make one. -/
theorem sid_otherDevices (kstrtoint : List UInt8 → Except ℤ ℤ) (s : SidSystem)
    (h : Machine.Reaches (SidSystem.step kstrtoint) (fun _ a => a.other = true) .static s) :
    s.sid.sent = [] ∧ s.sid.perfModeAttr = false := by
  have hother : s.Other := h.invariant SidSystem.other_static
    fun _ _ _ hother ha hstep => hother.step ha (SidSystem.step_cases hstep)
  exact ⟨hother.sent, hother.attr⟩

/-- A Surface Laptop, with a mode to begin with. -/
theorem sid_otherDevices_laptop :
    let laptop : DmiStrings := Function.update surfaceBook2 .productName (some "Surface Laptop")
    ∃ s, Machine.run (SidSystem.step kstrtointDigit) .static
        [.paramInit [50, 10], .probe { goodSidProbe with dmi := laptop }] = some s ∧
      s.bound = true ∧ s.sid.sent = [] ∧ s.sid.perfModeAttr = false := by
  intro laptop
  obtain ⟨s, hs, hbound⟩ := Option.map_eq_some_iff.mp
    (show (Machine.run (SidSystem.step kstrtointDigit) .static
      [.paramInit [50, 10], .probe { goodSidProbe with dmi := laptop }]).map
        (fun s => s.bound) = some true by decide +kernel)
  have hreached := Machine.reaches_of_run (C := fun _ a => SidAction.other a = true) hs
    (Machine.Trace.meets_of_forall (D := fun a => SidAction.other a = true) (by decide +kernel))
  exact ⟨s, hs, hbound, sid_otherDevices kstrtointDigit s hreached⟩

namespace SidSystem

variable {kstrtoint : List UInt8 → Except ℤ ℤ} {s t : SidSystem} {a : SidAction}
  {acts : List SidAction}

/-- The event of the lid, if the action binds the driver. -/
def binds (s : SidSystem) : SidAction → List UInt32
  | .probe env =>
    let r := s.sid.surfaceSamSidProbe env
    if r.1 = 0 then
      ((r.2.drvdata.bind fun info => info.lidDevice).map fun lid => lid.gpeNumber).toList
    else []
  | _ => []

lemma count_binds_le (h : s.Inv) (hstep : Step s a t) (gpe : UInt32) :
    s.sid.gpes.refs gpe + (s.binds a).count gpe ≤ t.sid.gpes.refs gpe := by
  cases hstep with
  | written hwrites sid _ _ _ hgpes _ =>
    dsimp only
    rw [hgpes]
    cases a with
    | probe env => cases hwrites
    | _ => exact Nat.le_refl _
  | probe env hbound =>
    have hprobed := SurfaceSamSid.surfaceSamSidProbe_probed env (h.attr_false hbound)
    simp only [binds]
    split_ifs with hstatus
    · have hlt := hprobed.ref gpe hstatus
      cases hdata : (s.sid.surfaceSamSidProbe env).2.drvdata with
      | none => exact hprobed.refs gpe
      | some info =>
        rw [hdata] at hlt
        cases hlid : info.lidDevice with
        | none =>
          rw [Option.bind_some, hlid]
          exact hprobed.refs gpe
        | some lid =>
          rw [Option.bind_some, hlid]
          by_cases hgpe : lid.gpeNumber = gpe
          · have hstep := hlt (by simp [SidDeviceInfo.hasGpe, hlid, hgpe])
            simp [hgpe]
            omega
          · have hle := hprobed.refs gpe
            simp [hgpe]
            exact hle
    · exact hprobed.refs gpe
  | @remove rqstExit acpi info _ _ hinfo =>
    obtain ⟨hsets, -⟩ := SurfaceSamSid.sidPerfModeRemove_sets rqstExit info (h.attr_none hinfo)
    have hrefs := SurfaceSamSid.refs_sidLidEnableWakeup info false acpi
      (s.sid.sidPerfModeRemove rqstExit info)
    rw [hsets.gpes] at hrefs
    exact Nat.le_of_eq (congrFun hrefs gpe).symm
  | @suspend acpi info _ _ _ =>
    exact Nat.le_of_eq (congrFun (SurfaceSamSid.refs_sidLidEnableWakeup info true acpi s.sid) gpe).symm
  | @resume acpi info _ _ =>
    exact Nat.le_of_eq (congrFun (SurfaceSamSid.refs_sidLidEnableWakeup info false acpi s.sid) gpe).symm

lemma count_shown_le (h : s.Inv) (hrun : Machine.run (SidSystem.step kstrtoint) s acts = some t)
    (gpe : UInt32) :
    s.sid.gpes.refs gpe + (Machine.shown (SidSystem.step kstrtoint) binds s acts).count gpe ≤
      t.sid.gpes.refs gpe := by
  induction acts generalizing s with
  | nil =>
    cases hrun
    exact Nat.le_refl _
  | cons a acts ih =>
    obtain ⟨u, hstep, hrest⟩ := Option.bind_eq_some_iff.mp hrun
    have hcases := step_cases hstep
    have hfirst := count_binds_le h hcases gpe
    have hlater := ih (h.step hcases) hrest
    rw [Machine.shown_cons hstep, List.count_append]
    omega

end SidSystem

/-- Each time that the driver is bound, one more reference enables the event of the lid, and none of
them is ever given back. -/
theorem sid_gpeRefs (kstrtoint : List UInt8 → Except ℤ ℤ) (acts : List SidAction) (s : SidSystem)
    (hrun : Machine.run (SidSystem.step kstrtoint) .static acts = some s) (gpe : UInt32) :
    (Machine.shown (SidSystem.step kstrtoint) SidSystem.binds .static acts).count gpe ≤
      s.sid.gpes.refs gpe := by
  have hcount := SidSystem.count_shown_le SidSystem.inv_static hrun gpe
  omega

/-- The driver has been bound and unbound twice. -/
theorem sid_gpeRefs_twice :
    let cycle : List SidAction := [.probe goodSidProbe, .remove 0 0]
    ∃ s, Machine.run (SidSystem.step kstrtointDigit) .static (cycle ++ cycle) = some s ∧
      2 ≤ s.sid.gpes.refs 0x17 := by
  intro cycle
  obtain ⟨s, hs⟩ := Option.isSome_iff_exists.mp
    (show (Machine.run (SidSystem.step kstrtointDigit) .static (cycle ++ cycle)).isSome = true by
      decide +kernel)
  refine ⟨s, hs, ?_⟩
  have hcount : (Machine.shown (SidSystem.step kstrtointDigit) SidSystem.binds .static
      (cycle ++ cycle)).count 0x17 = 2 := by decide +kernel
  exact hcount ▸ sid_gpeRefs kstrtointDigit (cycle ++ cycle) s hs 0x17

/-! ### Modes that are read back -/

/-- The bytes of a word make the word again. -/
lemma getUnalignedLe32_put (v : UInt32) :
    getUnalignedLe32 v.toUInt8 (v >>> 8).toUInt8 (v >>> 16).toUInt8 (v >>> 24).toUInt8 =
      if v.toNat < 2147483648 then (v.toNat : ℤ) else v.toNat - 4294967296 := by
  have hlt := v.toNat_lt
  have hsum : v.toUInt8.toNat + 256 * (v >>> 8).toUInt8.toNat + 65536 * (v >>> 16).toUInt8.toNat +
      16777216 * (v >>> 24).toUInt8.toNat = v.toNat := by
    simp [Nat.shiftRight_eq_div_pow]
    omega
  unfold getUnalignedLe32
  rw [hsum]

/-- The EC answers with the mode of a request, and four more bytes. -/
lemma surfaceSamPerfModeGet_set {m : ℤ} (hm : SamPerfMode m) {rest : List UInt8}
    (hrest : rest.length = 4) {rqst : SurfaceSamSshRqst → ℤ × List UInt8}
    (hrqst : rqst perfModeGetRqst = (0, (perfModeSetRqst m).pld.slice 0 4 ++ rest)) :
    surfaceSamPerfModeGet rqst = m := by
  have hnat : ((UInt32.ofInt m).toNat : ℤ) = m := by
    unfold SamPerfMode at hm
    rw [UInt32.ofInt, UInt32.toNat_ofNat']
    omega
  have hbytes : (perfModeSetRqst m).pld.slice 0 4 = putUnalignedLe32 (UInt32.ofInt m) :=
    Memory.slice_memcpy_same _ 0 (putUnalignedLe32 (UInt32.ofInt m))
  obtain ⟨b4, b5, b6, b7, rfl⟩ : ∃ b4 b5 b6 b7, rest = [b4, b5, b6, b7] :=
    List.length_eq_four.mp hrest
  rw [surfaceSamPerfModeGet, hrqst, hbytes]
  refine (getUnalignedLe32_put (UInt32.ofInt m)).trans ?_
  have hlt : (UInt32.ofInt m).toNat < 2147483648 := by
    unfold SamPerfMode at hm
    omega
  rw [if_pos hlt, hnat]

/-- If the EC answers with the mode of a request that has been made, the attribute reads as the
number of this mode, and writing what has been read makes the same request again. -/
theorem sid_modeReadBack (kstrtoint : List UInt8 → Except ℤ ℤ)
    (hkstrtoint : ∀ m, SamPerfMode m → kstrtoint (decimal m.toNat ++ [10]) = .ok m)
    (s : SidSystem) (h : Machine.Reaches (SidSystem.step kstrtoint) (fun _ _ => True) .static s)
    (r : SurfaceSamSshRqst × ℤ) (hr : r ∈ s.sid.sent) (rest : List UInt8)
    (hrest : rest.length = 4) (rqst : SurfaceSamSshRqst → ℤ × List UInt8)
    (hrqst : rqst perfModeGetRqst = (0, r.1.pld.slice 0 4 ++ rest)) :
    ∃ m, SamPerfMode m ∧ r.1 = perfModeSetRqst m ∧
      SurfaceSamSid.perfModeShow rqst = .ok (decimal m.toNat ++ [10]) ∧
      ∀ status, (s.sid.perfModeStore kstrtoint (decimal m.toNat ++ [10]) status).2.sent =
        s.sid.sent ++ [(r.1, status)] := by
  obtain ⟨m, hm, hmade⟩ := (SidSystem.Inv.reached h).sound.sent r hr
  have hget : surfaceSamPerfModeGet rqst = m :=
    surfaceSamPerfModeGet_set hm hrest (hmade ▸ hrqst)
  have hrange : 1 ≤ m ∧ m ≤ 4 := hm
  refine ⟨m, hm, hmade, ?_, fun status => ?_⟩
  · rw [SurfaceSamSid.perfModeShow, hget, if_neg (by omega)]
  · unfold SurfaceSamSid.perfModeStore
    rw [hkstrtoint m hm, hmade]
    dsimp only
    rw [SurfaceSamSid.surfaceSamPerfModeSet_mode hm]
    dsimp only
    split_ifs
    · rfl
    · rfl

theorem sid_modeReadBack_three : ∃ s r,
    Machine.run (SidSystem.step kstrtointDigit) .static suspendedBook2 = some s ∧
      r ∈ s.sid.sent ∧ ∃ m, r.1 = perfModeSetRqst m ∧
        SurfaceSamSid.perfModeShow (fun _ => (0, r.1.pld.slice 0 4 ++ [0, 0, 0, 0])) =
          .ok (decimal m.toNat ++ [10]) ∧
        (s.sid.perfModeStore kstrtointDigit (decimal m.toNat ++ [10]) 0).2.sent =
          s.sid.sent ++ [(r.1, 0)] := by
  obtain ⟨s, hs, hlen⟩ := Option.map_eq_some_iff.mp
    (show (Machine.run (SidSystem.step kstrtointDigit) .static suspendedBook2).map
      (fun s => s.sid.sent.length) = some 2 by decide +kernel)
  have hreached := Machine.reaches_of_run (C := fun _ _ => True) hs
    (Machine.Trace.meets_of_forall (D := fun _ => True) fun _ _ => trivial)
  have hdigits : ∀ m, SamPerfMode m → kstrtointDigit (decimal m.toNat ++ [10]) = .ok m := by
    rintro m ⟨hlow, hhigh⟩
    obtain rfl | rfl | rfl | rfl : m = 1 ∨ m = 2 ∨ m = 3 ∨ m = 4 := by omega
    all_goals rfl
  obtain ⟨r, hr⟩ := List.exists_mem_of_length_pos (l := s.sid.sent) (by omega)
  obtain ⟨m, -, hmade, hshow, hstore⟩ :=
    sid_modeReadBack kstrtointDigit hdigits s hreached r hr [0, 0, 0, 0] rfl
      (fun _ => (0, r.1.pld.slice 0 4 ++ [0, 0, 0, 0])) rfl
  exact ⟨s, r, hs, hr, m, hmade, hshow, hstore 0⟩

end SurfaceSam
