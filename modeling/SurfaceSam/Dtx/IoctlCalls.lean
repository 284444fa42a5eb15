import SurfaceSam.Devlib.Mutex
import SurfaceSam.Devlib.Simulation
import SurfaceSam.Dtx.Ioctl

/-!
# Commands that overlap

The calls of `surface_dtx_ioctl` have the effects and the results of the device without a
mutex, in the order in which they give the mutex back. While the device is not active they make
no request.
-/

namespace SurfaceSam

open Devlib

namespace DtxIoctlSystem

variable {s t : DtxIoctlSystem} {i j : ℕ} {call : IoctlCall} {a : DtxAction}

/-! ### The mutex -/

def holds (s : DtxIoctlSystem) (i : ℕ) : Bool := (s.calls i).any fun call => call.stage.holds

/-- The result of a call that has returned. -/
def result (s : DtxIoctlSystem) (i : ℕ) : Option IoctlResult :=
  (s.calls i).bind fun call => call.stage.result

/-- The request of the call that has the mutex. -/
def pending (s : DtxIoctlSystem) : List (ℕ × SurfaceSamSshRqst) :=
  match s.lock with
  | none => []
  | some i => (((s.calls i).bind fun call => call.stage.pending).map (Prod.mk i)).toList

end DtxIoctlSystem

/-- What a call knows under the mutex. -/
def IoctlStage.Ok (cmd : UInt32) (active : Bool) : IoctlStage → Prop
  | requesting rqst => active = true ∧ ioctlRqst cmd = some rqst
  | unlocking rqst env result => surfaceDtxIoctl cmd env active = (rqst, result)
  | _ => True

lemma IoctlStage.ok_of_not_holds {stage : IoctlStage} (h : stage.holds = false) (cmd : UInt32)
    (active : Bool) : stage.Ok cmd active := by
  cases stage with
  | requesting rqst => cases h
  | unlocking rqst env result => cases h
  | _ => trivial

namespace DtxIoctlSystem

variable {s t : DtxIoctlSystem} {i j : ℕ} {call : IoctlCall} {a : DtxAction}

/-- The mutex belongs to the call that is behind its lock, and nothing changes below it. -/
structure Inv (s : DtxIoctlSystem) : Prop where
  owned : Mutex.Owned s.lock s.holds
  fresh : ∀ i, s.nextCall ≤ i → s.calls i = none
  stages : ∀ i call, s.calls i = some call → call.stage.Ok call.cmd s.sys.dev.active

lemma inv_static : static.Inv where
  owned := by
    intro i
    exact iff_of_false Bool.false_ne_true fun h => Option.some_ne_none i h.symm
  fresh _ _ := rfl
  stages := by
    intro i call hcall
    cases hcall

lemma holds_eq (hcall : s.calls i = some call) : s.holds i = call.stage.holds := by
  rw [holds, hcall]
  rfl

/-- Binding and unbinding need the mutex, and nothing else changes whether the device is
active. -/
lemma active_of_locked {sys : DtxSystem} (hallows : s.allows a = true)
    (hstep : s.sys.step a = some sys) (hlock : s.lock ≠ none) :
    sys.dev.active = s.sys.dev.active := by
  have hlocks (h : (!a.locks || s.lock.isNone) = true) : a.locks = false := by
    cases hlock' : s.lock with
    | none => exact absurd hlock' hlock
    | some i => simpa [hlock'] using h
  cases a with
  | probe env =>
    cases hstep
    exact DtxAction.active_of_not_locks (hlocks hallows)
  | remove => cases hlocks hallows
  | _ => exact DtxSystem.active_same rfl hstep

/-- A call gets to another stage. -/
lemma Inv.setStage (h : s.Inv) (hcall : s.calls i = some call) {stage : IoctlStage}
    {lock : Option ℕ} (sent : List (ℕ × SurfaceSamSshRqst))
    (hmove : Mutex.Move i s.lock call.stage.holds lock stage.holds)
    (hok : stage.Ok call.cmd s.sys.dev.active) :
    Inv { s.setStage i call stage with lock := lock, sent := sent } where
  owned := by
    apply h.owned.move (p := i)
    · have hnew : holds { s.setStage i call stage with lock := lock, sent := sent } i =
          stage.holds := holds_eq (calls_setStage stage)
      rw [hnew, holds_eq hcall]
      exact hmove
    · intro j hj
      exact congrArg (Option.any fun call => call.stage.holds) (calls_setStage_of_ne stage hj)
  fresh := by
    intro j hj
    have hne : j ≠ i := by
      rintro rfl
      rw [h.fresh j hj] at hcall
      cases hcall
    exact (calls_setStage_of_ne stage hne).trans (h.fresh j hj)
  stages := by
    intro j call' hcall'
    by_cases hj : j = i
    · subst hj
      cases (calls_setStage stage).symm.trans hcall'
      exact hok
    · exact h.stages j call' ((calls_setStage_of_ne stage hj).symm.trans hcall')

lemma Inv.step {b : DtxIoctlAction} (h : s.Inv) (hstep : Step s b t) : t.Inv := by
  cases hstep with
  | @sys a sys hallows hsys =>
    refine ⟨h.owned, h.fresh, fun i call hcall => ?_⟩
    have hok := h.stages i call hcall
    by_cases hholds : call.stage.holds = true
    · have hlock := (h.owned i).mp ((holds_eq hcall).trans hholds)
      have hactive := active_of_locked hallows hsys (by rw [hlock]; exact Option.some_ne_none i)
      dsimp only
      rw [hactive]
      exact hok
    · exact IoctlStage.ok_of_not_holds (Bool.eq_false_iff.mpr hholds) _ _
  | @begun c cmd hc =>
    have hne {j : ℕ} {call : IoctlCall} (hcall : s.calls j = some call) : j ≠ s.nextCall := by
      rintro rfl
      rw [h.fresh s.nextCall (Nat.le_refl _)] at hcall
      cases hcall
    refine ⟨?_, ?_, ?_⟩
    · refine h.owned.move (p := s.nextCall) ?_ ?_
      · have hold : s.holds s.nextCall = false := by
          rw [holds, h.fresh s.nextCall (Nat.le_refl _)]
          rfl
        have hnew : holds { s with
            calls := Function.update s.calls s.nextCall (some ⟨c, cmd, .entered⟩)
            nextCall := s.nextCall + 1 } s.nextCall = false := by
          rw [holds_eq (Function.update_self ..)]
          rfl
        rw [hold, hnew]
        exact .keep _ _
      · intro j hj
        exact congrArg (Option.any fun call : IoctlCall => call.stage.holds)
          (Function.update_of_ne hj _ _)
    · intro j hj
      have hj' : s.nextCall + 1 ≤ j := hj
      exact (Function.update_of_ne (by omega) _ _).trans (h.fresh j (by omega))
    · intro j call hcall
      by_cases hj : j = s.nextCall
      · subst hj
        cases (Function.update_self ..).symm.trans hcall
        trivial
      · exact h.stages j call ((Function.update_of_ne hj _ _).symm.trans hcall)
  | @interrupted i call hcall hstage =>
    refine h.setStage hcall s.sent ?_ trivial
    rw [hstage]
    exact .keep _ _
  | @locked i call hcall hstage hfree =>
    refine h.setStage hcall s.sent ?_ trivial
    rw [hstage, hfree]
    exact .acquire
  | @entered i call hcall hstage =>
    obtain ⟨env, result, hresult, heq⟩ | ⟨rqst, hactive, hrqst, heq⟩ := s.enterIoctl_cases i call
    · rw [heq]
      refine h.setStage hcall s.sent ?_ (hresult env)
      rw [hstage]
      exact .keep _ _
    · rw [heq]
      refine h.setStage hcall _ ?_ ⟨hactive, hrqst⟩
      rw [hstage]
      exact .keep _ _
  | @replied i call rqst env hcall hstage =>
    have hok := h.stages i call hcall
    rw [hstage] at hok
    refine h.setStage hcall s.sent ?_ ?_
    · rw [hstage]
      exact .keep _ _
    · change surfaceDtxIoctl call.cmd env s.sys.dev.active = _
      rw [surfaceDtxIoctl, hok.1, hok.2]
      rfl
  | @unlocked i call rqst env result hcall hstage =>
    refine h.setStage hcall s.sent ?_ trivial
    rw [hstage]
    exact .release _

/-! ### One step for each call -/

/-- The calls and the device are those of the device without a mutex, which makes a request at the
unlock of its call. -/
structure Refines (s : DtxIoctlSystem) (a : DtxAtomic) : Prop where
  active : a.active = s.sys.dev.active
  sent : s.sent = a.sent ++ s.pending
  result : ∀ i, a.result i = s.result i

lemma refines_static : static.Refines .start := ⟨rfl, rfl, fun _ => rfl⟩

lemma pending_none (h : s.lock = none) : s.pending = [] := by
  rw [pending, h]

lemma pending_some (hlock : s.lock = some i) (hcall : s.calls i = some call) :
    s.pending = (call.stage.pending.map (Prod.mk i)).toList := by
  rw [pending, hlock]
  dsimp only
  rw [hcall]
  rfl

/-- Only the call that has the mutex counts. -/
lemma pending_congr (hlock : t.lock = s.lock)
    (hcalls : ∀ i, s.lock = some i → t.calls i = s.calls i) : t.pending = s.pending := by
  unfold pending
  rw [hlock]
  cases hholder : s.lock with
  | none => rfl
  | some i =>
    dsimp only
    rw [hcalls i hholder]

lemma result_eq (hcall : s.calls i = some call) : s.result i = call.stage.result := by
  rw [result, hcall]
  rfl

/-- A call gets to another stage. -/
lemma Refines.setStage {u u' : DtxAtomic} {stage : IoctlStage} (href : s.Refines u)
    (ht : t.calls = (s.setStage i call stage).calls) (hsys : t.sys = s.sys)
    (hactive : u'.active = u.active) (hresult : u'.result = Function.update u.result i stage.result)
    (hsent : t.sent = u'.sent ++ t.pending) : t.Refines u' where
  active := by rw [hactive, hsys, href.active]
  sent := hsent
  result := by
    intro j
    rw [hresult, DtxIoctlSystem.result, ht]
    by_cases hj : j = i
    · subst hj
      rw [Function.update_self, calls_setStage]
      rfl
    · rw [Function.update_of_ne hj, calls_setStage_of_ne stage hj, href.result j]
      rfl

/-- A call that has the mutex gets to another stage, and does not return yet. -/
lemma Refines.under {u : DtxAtomic} {stage : IoctlStage} (href : s.Refines u)
    (hcall : s.calls i = some call) (hnone : call.stage.result = none)
    (ht : t.calls = (s.setStage i call stage).calls) (hsys : t.sys = s.sys)
    (hlock : t.lock = some i) (hresult : stage.result = none)
    (hsent : t.sent = u.sent ++ (stage.pending.map (Prod.mk i)).toList) : t.Refines u := by
  apply href.setStage ht hsys rfl
  · have hold : u.result i = none := by rw [href.result i, result_eq hcall, hnone]
    rw [hresult, ← hold, Function.update_eq_self]
  · rw [pending_some hlock (ht ▸ calls_setStage stage)]
    exact hsent

/-- Probe and remove leave the device as their label says. -/
lemma active_label {sys : DtxSystem} {u : DtxAtomic} (hactive : u.active = s.sys.dev.active)
    (hstep : s.sys.step a = some sys) :
    Machine.run DtxAtomic.step u (s.label (.sys a)) = some { u with active := sys.dev.active } := by
  have hsame (h : sys.dev.active = s.sys.dev.active) : some u = some { u with
      active := sys.dev.active } := by
    rw [h, ← hactive]
  cases a with
  | probe env =>
    cases hstep
    simp only [label]
    split_ifs with hlocks
    · rw [DtxAction.active_of_locks hlocks]
      rfl
    · exact hsame (DtxAction.active_of_not_locks (Bool.eq_false_iff.mpr hlocks))
  | remove =>
    cases hstep
    rw [DtxAction.active_remove]
    rfl
  | _ => exact hsame (DtxSystem.active_same rfl hstep)

lemma simulates : Machine.Simulates DtxIoctlSystem.step DtxAtomic.step label Inv Refines := by
  intro s b t u hinv href hstep
  have hcases := step_cases hstep
  refine ⟨hinv.step hcases, ?_⟩
  -- a call without the mutex is not the one whose request is pending
  have hholder {i : ℕ} {call : IoctlCall} (hcall : s.calls i = some call)
      (hholds : call.stage.holds = true) : s.lock = some i :=
    (hinv.owned i).mp ((holds_eq hcall).trans hholds)
  cases hcases with
  | @sys a sys hallows hsys =>
    exact ⟨_, active_label href.active hsys, rfl, href.sent, href.result⟩
  | @begun c cmd hc =>
    have hfresh := hinv.fresh s.nextCall (Nat.le_refl _)
    refine ⟨u, rfl, href.active, ?_, ?_⟩
    · refine href.sent.trans (congrArg (u.sent ++ ·) (Eq.symm ?_))
      refine pending_congr (s := s) rfl fun i hlock => ?_
      have hne : i ≠ s.nextCall := by
        rintro rfl
        have hholds := (hinv.owned _).mpr hlock
        rw [holds, hfresh] at hholds
        cases hholds
      exact Function.update_of_ne hne _ _
    · intro i
      rw [href.result i]
      by_cases hi : i = s.nextCall
      · subst hi
        simp [result, hfresh, IoctlStage.result]
      · simp [result, Function.update_of_ne hi]
  | @interrupted i call hcall hstage =>
    have hnone : u.result i = none := by
      rw [href.result i, result_eq hcall, hstage]
      rfl
    refine ⟨u.setResult i ⟨-eintr, none⟩, ?_, href.setStage rfl rfl rfl rfl ?_⟩
    · simp only [label, Machine.run, DtxAtomic.step, hnone]
      rfl
    · refine href.sent.trans (congrArg (u.sent ++ ·) (Eq.symm ?_))
      refine pending_congr (s := s) rfl fun j hlock => ?_
      have hne : j ≠ i := by
        rintro rfl
        have hholds := (hinv.owned j).mpr hlock
        rw [holds_eq hcall, hstage] at hholds
        cases hholds
      exact calls_setStage_of_ne _ hne
  | @locked i call hcall hstage hfree =>
    refine ⟨u, rfl, href.under hcall (by rw [hstage]; rfl) rfl rfl rfl rfl ?_⟩
    have hsent := href.sent
    rw [pending_none hfree] at hsent
    exact hsent
  | @entered i call hcall hstage =>
    have hlock : s.lock = some i := hholder hcall (by rw [hstage]; rfl)
    have hsent := href.sent
    rw [pending_some hlock hcall, hstage] at hsent
    obtain ⟨env, result, hresult, heq⟩ | ⟨rqst, hactive, hrqst, heq⟩ := s.enterIoctl_cases i call
    · rw [heq]
      exact ⟨u, rfl, href.under hcall (by rw [hstage]; rfl) rfl rfl hlock rfl hsent⟩
    · rw [heq]
      refine ⟨u, rfl, href.under hcall (by rw [hstage]; rfl) rfl rfl hlock rfl ?_⟩
      dsimp only
      rw [hsent]
      simp [IoctlStage.pending]
  | @replied i call rqst env hcall hstage =>
    have hlock : s.lock = some i := hholder hcall (by rw [hstage]; rfl)
    have hsent := href.sent
    rw [pending_some hlock hcall, hstage] at hsent
    exact ⟨u, rfl, href.under hcall (by rw [hstage]; rfl) rfl rfl hlock rfl hsent⟩
  | @unlocked i call rqst env result hcall hstage =>
    have hlock : s.lock = some i := hholder hcall (by rw [hstage]; rfl)
    have hsent := href.sent
    rw [pending_some hlock hcall, hstage] at hsent
    have hnone : u.result i = none := by
      rw [href.result i, result_eq hcall, hstage]
      rfl
    have hatomic : surfaceDtxIoctl call.cmd env u.active = (rqst, result) := by
      have hok := hinv.stages i call hcall
      rw [hstage] at hok
      rw [href.active]
      exact hok
    have hlabel : s.label (.unlock i) = [.ioctl i call.cmd env] := by
      obtain ⟨client, cmd, stage⟩ := call
      cases hstage
      simp only [label, hcall]
    refine ⟨{ u.setResult i result with sent := u.sent ++ (rqst.map (Prod.mk i)).toList }, ?_,
      href.setStage rfl rfl rfl rfl ?_⟩
    · rw [hlabel]
      simp only [Machine.run, DtxAtomic.step, hnone, hatomic]
      rfl
    · rw [pending_none rfl, List.append_nil]
      exact hsent

end DtxIoctlSystem

/-- A run of calls that overlap is a run of calls one after the other: the same calls return the
same results, and the same requests are made in the same order, each by the command of its call
while the device is active. -/
theorem dtxIoctl_atomic (acts : List DtxIoctlAction) (s : DtxIoctlSystem)
    (hrun : Machine.run DtxIoctlSystem.step .static acts = some s) :
    ∃ a, Machine.run DtxAtomic.step .start
        (Machine.shown DtxIoctlSystem.step DtxIoctlSystem.label .static acts) = some a ∧
      s.Refines a := by
  obtain ⟨-, a, ha, hrefines⟩ := DtxIoctlSystem.simulates.run DtxIoctlSystem.inv_static
    DtxIoctlSystem.refines_static hrun
  exact ⟨a, ha, hrefines⟩

/-- Two calls on one file: the second gets the mutex first. -/
theorem dtxIoctl_atomic_overlapping :
    let acts : List DtxIoctlAction := [.sys (.probe goodDtxProbe), .sys (.open true),
      .ioctl 0 DtxCmd.getOpmode, .ioctl 0 DtxCmd.latchOpen, .lock 1, .enter 1,
      .reply 1 ⟨(0, []), true⟩, .unlock 1, .lock 0, .enter 0, .reply 0 ⟨(0, [2]), true⟩, .unlock 0]
    let calls : List DtxAtomicAction := [.activate, .ioctl 1 DtxCmd.latchOpen ⟨(0, []), true⟩,
      .ioctl 0 DtxCmd.getOpmode ⟨(0, [2]), true⟩]
    ∃ s a, Machine.run DtxIoctlSystem.step .static acts = some s ∧
      Machine.run DtxAtomic.step .start calls = some a ∧ s.Refines a ∧
      s.result 0 = some ⟨0, some 2⟩ ∧ s.sent.map Prod.fst = [1, 0] := by
  intro acts calls
  obtain ⟨s, hs⟩ : ∃ s, Machine.run DtxIoctlSystem.step .static acts = some s := ⟨_, rfl⟩
  obtain ⟨a, ha, hrefines⟩ := dtxIoctl_atomic acts s hs
  refine ⟨s, a, hs, ha, hrefines, ?_, ?_⟩
  · cases hs
    rfl
  · cases hs
    rfl

/-! ### While the device is not active -/

/-- The action gets a probe to the mutex, which makes the device active. -/
def DtxIoctlAction.activates : DtxIoctlAction → Bool
  | .sys (.probe env) => (DtxAction.probe env).locks
  | _ => false

/-- The call has not looked at the device yet. -/
def IoctlStage.early : IoctlStage → Bool
  | entered => true
  | locked => true
  | _ => false

/-- Where a call that comes too late can be. -/
def IoctlStage.Late : IoctlStage → Prop
  | requesting _ => False
  | unlocking rqst _ result => rqst = none ∧ result = ⟨-enodev, none⟩
  | returned result => result = ⟨-enodev, none⟩ ∨ result = ⟨-eintr, none⟩
  | _ => True

lemma IoctlStage.late_of_early {stage : IoctlStage} (h : stage.early = true) : stage.Late := by
  cases stage with
  | entered => trivial
  | locked => trivial
  | _ => cases h

namespace DtxIoctlSystem

variable {s t u : DtxIoctlSystem} {i : ℕ}

/-- What holds while the device is not active, from the state `s` on. -/
structure Inactive (s t : DtxIoctlSystem) : Prop where
  inv : t.Inv
  inactive : t.sys.dev.active = false
  sent : t.sent = s.sent
  late : ∀ i call, t.calls i = some call →
    (∀ call, s.calls i = some call → call.stage.early = true) → call.stage.Late

lemma Inactive.setStage {call : IoctlCall} {stage : IoctlStage} (h : Inactive s t) (hinv : u.Inv)
    (hcall : t.calls i = some call) (hu : u.calls = (t.setStage i call stage).calls)
    (hsys : u.sys = t.sys) (hsent : u.sent = t.sent)
    (hlate : call.stage.Late → stage.Late) : Inactive s u where
  inv := hinv
  inactive := by rw [hsys, h.inactive]
  sent := hsent.trans h.sent
  late := by
    intro j call' hcall' hearly
    rw [hu] at hcall'
    by_cases hj : j = i
    · subst hj
      cases (calls_setStage stage).symm.trans hcall'
      exact hlate (h.late j call hcall hearly)
    · exact h.late j call' ((calls_setStage_of_ne stage hj).symm.trans hcall') hearly

lemma Inactive.step {b : DtxIoctlAction} (h : Inactive s t) (hb : b.activates = false)
    (hstep : Step t b u) : Inactive s u := by
  have hinv := h.inv.step hstep
  cases hstep with
  | @sys a sys hallows hsys =>
    refine ⟨hinv, ?_, h.sent, h.late⟩
    cases a with
    | probe env =>
      cases hsys
      exact (DtxAction.active_of_not_locks hb).trans h.inactive
    | remove =>
      cases hsys
      exact DtxAction.active_remove
    | _ => exact (DtxSystem.active_same rfl hsys).trans h.inactive
  | @begun c cmd hc =>
    refine ⟨hinv, h.inactive, h.sent, fun j call hcall hearly => ?_⟩
    by_cases hj : j = t.nextCall
    · subst hj
      cases (Function.update_self ..).symm.trans hcall
      trivial
    · exact h.late j call ((Function.update_of_ne hj _ _).symm.trans hcall) hearly
  | @interrupted i call hcall hstage =>
    exact h.setStage hinv hcall rfl rfl rfl fun _ => .inr rfl
  | @locked i call hcall hstage hfree => exact h.setStage hinv hcall rfl rfl rfl fun _ => trivial
  | @entered i call hcall hstage =>
    have henter : t.enterIoctl i call =
        t.setStage i call (.unlocking none ⟨(0, []), true⟩ ⟨-enodev, none⟩) := by
      rw [enterIoctl, h.inactive]
      rfl
    rw [henter] at hinv ⊢
    exact h.setStage hinv hcall rfl rfl rfl fun _ => ⟨rfl, rfl⟩
  | @replied i call rqst env hcall hstage =>
    refine h.setStage hinv hcall rfl rfl rfl fun hlate => ?_
    rw [hstage] at hlate
    cases hlate
  | @unlocked i call rqst env result hcall hstage =>
    refine h.setStage hinv hcall rfl rfl rfl fun hlate => ?_
    rw [hstage] at hlate
    exact .inl hlate.2

lemma Inv.inactive (h : s.Inv) (hinactive : s.sys.dev.active = false) : Inactive s s where
  inv := h
  inactive := hinactive
  sent := rfl
  late _ _ hcall hearly := IoctlStage.late_of_early (hearly _ hcall)

lemma Inv.reached {C : DtxIoctlSystem → DtxIoctlAction → Prop}
    (h : Machine.Reaches DtxIoctlSystem.step C .static s) : s.Inv :=
  h.invariant inv_static fun _ _ _ hinv _ hstep => hinv.step (step_cases hstep)

end DtxIoctlSystem

/-- While the device is not active, until a probe gets to the mutex, no request is made for the open
files, none is under way, and every call that has not looked at the device before gets `-ENODEV`,
or is interrupted before it gets the mutex; nothing is put to its user. -/
theorem dtxIoctl_inactive (s t : DtxIoctlSystem)
    (hs : Machine.Reaches DtxIoctlSystem.step (fun _ _ => True) .static s)
    (hinactive : s.sys.dev.active = false)
    (ht : Machine.Reaches DtxIoctlSystem.step (fun _ b => b.activates = false) s t) :
    t.sent = s.sent ∧
      (∀ i call rqst, t.calls i = some call → call.stage ≠ .requesting rqst) ∧
      ∀ i result, (∀ call, s.calls i = some call → call.stage.early = true) →
        t.result i = some result → result = ⟨-enodev, none⟩ ∨ result = ⟨-eintr, none⟩ := by
  have hquiet : DtxIoctlSystem.Inactive s t :=
    ht.invariant ((DtxIoctlSystem.Inv.reached hs).inactive hinactive)
      fun _ _ _ hquiet hb hstep => hquiet.step hb (DtxIoctlSystem.step_cases hstep)
  refine ⟨hquiet.sent, ?_, ?_⟩
  · intro i call rqst hcall hstage
    have hok := hquiet.inv.stages i call hcall
    rw [hstage] at hok
    cases hok.1.symm.trans hquiet.inactive
  · intro i result hearly hresult
    obtain ⟨call, hcall, hstage⟩ := Option.bind_eq_some_iff.mp hresult
    have hlate := hquiet.late i call hcall hearly
    cases hcase : call.stage with
    | returned result' =>
      rw [hcase] at hstage hlate
      cases hstage
      exact hlate
    | _ =>
      rw [hcase] at hstage
      cases hstage

/-- A call that waits for the mutex while the driver is removed. -/
theorem dtxIoctl_inactive_waiting :
    let bound : List DtxIoctlAction := [.sys (.probe goodDtxProbe), .sys (.open true),
      .ioctl 0 DtxCmd.getOpmode, .ioctl 0 DtxCmd.latchOpen, .lock 1, .enter 1,
      .reply 1 ⟨(0, []), true⟩, .unlock 1, .sys .remove]
    ∃ s t, Machine.run DtxIoctlSystem.step .static bound = some s ∧
      Machine.run DtxIoctlSystem.step s [.lock 0, .enter 0, .unlock 0] = some t ∧
      t.sent = s.sent ∧ (t.result 0 = some ⟨-enodev, none⟩ ∨ t.result 0 = some ⟨-eintr, none⟩) := by
  intro bound
  obtain ⟨s, hs⟩ : ∃ s, Machine.run DtxIoctlSystem.step .static bound = some s := ⟨_, rfl⟩
  have hreached := Machine.reaches_of_run (C := fun _ _ => True) hs
    (Machine.Trace.meets_of_forall (D := fun _ => True) fun _ _ => trivial)
  obtain ⟨t, ht⟩ : ∃ t, Machine.run DtxIoctlSystem.step s [.lock 0, .enter 0, .unlock 0] =
      some t := by
    cases hs
    exact ⟨_, rfl⟩
  obtain ⟨hsent, -, hresult⟩ := dtxIoctl_inactive s t hreached (by cases hs; rfl)
    (Machine.reaches_of_run ht
      (Machine.Trace.meets_of_forall (D := fun b : DtxIoctlAction => b.activates = false)
        (by decide)))
  refine ⟨s, t, hs, ht, hsent, ?_⟩
  have hreturned : t.result 0 = some ⟨-enodev, none⟩ := by
    cases hs
    cases ht
    rfl
  have hearly : ∀ call, s.calls 0 = some call → call.stage.early = true := by
    cases hs
    intro call hcall
    cases hcall
    rfl
  exact (hresult 0 _ hearly hreturned).imp (fun h => hreturned.trans (congrArg some h))
    fun h => hreturned.trans (congrArg some h)

end SurfaceSam
