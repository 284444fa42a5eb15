import SurfaceSam.Drivers.System
import SurfaceSam.Ec.HandlerTable
import SurfaceSam.Ec.Resources

/-!
# What there is

What the threads hold says what there is: which drivers are registered, which handlers stand in
the handler table of the EC, and which objects have not been released. Every call of a script keeps
to this, whatever it returns, and so does everything that others do with the EC.
-/

namespace SurfaceSam

open Devlib

/-! ### The EC without its driver -/

/-- There is no EC, and no probe is under way. -/
def SshSystem.Unprobed (s : SshSystem) : Prop := s.dev.state = .uninitialized ∧ s.probes = []

section Unprobed

variable {E : SshEnv}

lemma EcCall.run_uninitialized {d : SshDevice} {c : EcCall} {r : ℤ × SshDevice}
    (h : c.run E d = some r) (hc : (EcAction.call c).probes = false)
    (hstate : d.state = .uninitialized) : r.2.state = .uninitialized := by
  cases hlock : d.lock with
  | true =>
    obtain hr | ⟨_, _, _, _, -, -, hr⟩ := EcCall.run_held hlock h
    · rw [hr]
      exact hstate
    · rw [hr]
      exact hstate
  | false =>
    cases c with
    | consumerRegister link =>
      change d.surfaceSamSshConsumerRegister link = some r at h
      rw [SshDevice.consumerRegister_eq hlock, if_pos hstate] at h
      cases h
      exact hstate
    | enableEventSource tc unknown rqid o =>
      change d.eventSource E 0x0b tc unknown rqid o = some r at h
      rw [SshDevice.eventSource_eq hlock, if_pos hstate, Option.some_inj] at h
      rw [← h]
      split_ifs
      · exact hstate
      · exact hstate
    | disableEventSource tc unknown rqid o =>
      change d.eventSource E 0x0c tc unknown rqid o = some r at h
      rw [SshDevice.eventSource_eq hlock, if_pos hstate, Option.some_inj] at h
      rw [← h]
      split_ifs
      · exact hstate
      · exact hstate
    | setDelayedEventHandler rqid fn delay data =>
      change d.changeHandler rqid fn delay data = some r at h
      rw [SshDevice.changeHandler_eq hlock, if_pos hstate, Option.some_inj] at h
      rw [← h]
      split_ifs
      · exact hstate
      · exact hstate
    | removeEventHandler rqid =>
      change d.changeHandler rqid none none none = some r at h
      rw [SshDevice.changeHandler_eq hlock, if_pos hstate, Option.some_inj] at h
      rw [← h]
      split_ifs
      · exact hstate
      · exact hstate
    | rqst rqst result o =>
      change d.surfaceSamSshRqst E rqst result o = some r at h
      rw [SshDevice.rqst_eq hlock, if_pos hstate] at h
      cases h
      exact hstate
    | suspend o =>
      change d.surfaceSamSshSuspend E o = some r at h
      rw [SshDevice.suspend_eq hlock, if_pos hstate] at h
      cases h
      exact hstate
    | resume o =>
      change d.surfaceSamSshResume E o = some r at h
      rw [SshDevice.resume_eq hlock, if_pos hstate] at h
      cases h
      exact hstate
    | probe env serdev => cases hc
    | remove serdev o =>
      change (d.surfaceSamSshRemove E serdev o).map _ = some r at h
      rw [SshDevice.remove_eq hlock, if_pos hstate] at h
      cases h
      exact hstate

/-- Without a probe, it stays so. -/
lemma SshSystem.Unprobed.step {s t : SshSystem} {a : EcAction} (h : s.Unprobed)
    (hstep : s.step E a = some t) (ha : a.probes = false) : t.Unprobed := by
  obtain ⟨hstate, hprobes⟩ := h
  cases a with
  | call c =>
    obtain ⟨r, hr, rfl⟩ := Option.map_eq_some_iff.mp hstep
    exact ⟨EcCall.run_uninitialized hr ha hstate, hprobes⟩
  | receive l =>
    cases hstep
    exact ⟨hstate, hprobes⟩
  | probeAlloc env serdev => cases ha
  | probeSetup i =>
    obtain ⟨_, _, _, _, hi, -, -⟩ := step_probeSetup hstep
    rw [hprobes] at hi
    cases hi
  | probeUnwind i =>
    obtain ⟨_, hi, -⟩ := step_probeUnwind hstep
    rw [hprobes] at hi
    cases hi

lemma EcAction.spares_of_ofOthers {a : EcAction} (ha : a.ofOthers = true) (i : ℕ) (c : EcCall)
    (hc : a = .call c) : c.Spares i := by
  rintro rqid fn delay data rfl
  subst hc
  cases ha

end Unprobed

/-! ### What there is -/

/-- An object that is held has not been released, all others have been, once. -/
structure Slot.Ok (s : Slot) (p : Prop) : Prop where
  held : p → ∃ n, s.cur = some n ∧ s.ledger.Owns [n]
  free : ¬p → s.ledger.Owns []

/-- The input devices of the DTX driver: only those that have been registered are unregistered. -/
structure Slot.Fresh (s : Slot) : Prop where
  cur : ∀ n, s.cur = some n → n < s.ledger.next
  released : ∀ n, s.ledger.next ≤ n → s.ledger.released n = 0

lemma Slot.Fresh.releasePtr {s : Slot} (h : s.Fresh) :
    Slot.Fresh { s with ledger := s.ledger.releasePtr s.cur } := by
  cases hcur : s.cur with
  | none => exact ⟨fun n hn => (by cases hn), h.released⟩
  | some m =>
    have hm := h.cur m hcur
    refine ⟨fun n hn => ?_, fun n hn => ?_⟩
    · cases hn
      exact hm
    · exact (Function.update_of_ne (Nat.ne_of_gt (Nat.lt_of_lt_of_le hm hn)) _ _).trans
        (h.released n hn)

lemma SamEventSource.isEvent (e : SamEventSource) : samRqidIsEvent e.rqid = true := by
  cases e with
  | vhf => rfl
  | pwr => rfl
  | temp => rfl
  | dtx => rfl

lemma SamEventSource.entry_lt (e : SamEventSource) : e.entry < samNumEventTypes := by
  cases e with
  | vhf => decide
  | pwr => decide
  | temp => decide
  | dtx => decide

namespace SamWorld

variable {K : SamKernel} {E : SshEnv} {w : SamWorld} {has : SamToken → Prop}

def handlerEntry (K : SamKernel) (w : SamWorld) (e : SamEventSource) :
    KPtr × KPtr × Option (SurfaceSamSshEvent → ℕ) := (handlerFn e, w.handlerData K e, handlerDelay K e)

/-- What there is when `has` tells what is held. -/
structure Sound (K : SamKernel) (w : SamWorld) (has : SamToken → Prop) : Prop where
  driver : ∀ d, has (.driver d) ↔ w.registered d = true
  ec : w.ec.Inv
  unprobed : w.registered .ssh = false → w.ec.Unprobed
  table : ∀ i, w.ec.dev.handler i = none ∨
    ∃ e : SamEventSource, e.entry = i ∧ has (.handler e) ∧ w.ec.dev.entry i = w.handlerEntry K e
  slot : ∀ o, o ≠ .dtxInput → (w.slot o).Ok (has (.object o))
  inputs : (w.slot .dtxInput).Fresh
  input : has (.object .dtxInput) → (w.slot .dtxInput).cur = w.probed
  probed : has .dtxProbed → ∃ n, w.probed = some n ∧ n < (w.slot .dtxInput).ledger.next ∧
    (w.slot .dtxInput).ledger.released n = 0
  active : has .dtxActive → w.active = true
  hid : has .hidAdded ↔ w.hidAdded = true
  bound : has .vhfBound → w.driverData = (w.slot .vhfDrvdata).cur
  unbound : ¬has .vhfBound → w.driverData = none

/-! ### Calls of the EC -/

section Ec

variable {ec : SshSystem} {a : EcAction}

/-- A step of the EC by which the handler table goes on to fit. -/
lemma Sound.step_ec (h : w.Sound K has) (hstep : w.ec.step E a = some ec)
    (hprobes : a.probes = true → w.registered .ssh = true)
    (htable : ∀ i, ec.dev.handler i = none ∨
      ∃ e : SamEventSource, e.entry = i ∧ has (.handler e) ∧ ec.dev.entry i = w.handlerEntry K e) :
    { w with ec := ec }.Sound K has :=
  { h with
    ec := h.ec.step hstep
    unprobed := fun hreg => (h.unprobed hreg).step hstep
      (Bool.eq_false_iff.mpr fun ha => by rw [hprobes ha] at hreg; cases hreg)
    table := htable }

/-- An entry that is kept or emptied goes on to fit. -/
lemma Sound.table_kept (h : w.Sound K has) {i : ℕ}
    (hkept : ec.dev.entry i = w.ec.dev.entry i ∨ ec.dev.handler i = none) :
    ec.dev.handler i = none ∨
      ∃ e : SamEventSource, e.entry = i ∧ has (.handler e) ∧ ec.dev.entry i = w.handlerEntry K e := by
  cases hkept with
  | inl heq =>
    have hhandler : ec.dev.handler i = w.ec.dev.handler i := congrArg Prod.fst heq
    rw [heq, hhandler]
    exact h.table i
  | inr hnone => exact .inl hnone

lemma Sound.others (h : w.Sound K has) (hstep : w.ec.step E a = some ec)
    (hothers : a.ofOthers = true) (hprobes : a.probes = true → w.registered .ssh = true) :
    { w with ec := ec }.Sound K has :=
  h.step_ec hstep hprobes fun i =>
    h.table_kept (SshSystem.step_entry hstep (EcAction.spares_of_ofOthers hothers i))

lemma ecCall_some {c : EcCall} {v : ℤ} {w' : SamWorld} (h : w.ecCall E c = some (v, w')) :
    ∃ dev, c.run E w.ec.dev = some (v, dev) ∧
      w.ec.step E (.call c) = some { w.ec with dev := dev } ∧
      w' = { w with ec := { w.ec with dev := dev } } := by
  obtain ⟨r, hr, heq⟩ := Option.map_eq_some_iff.mp h
  cases heq
  refine ⟨r.2, hr, ?_, rfl⟩
  change (c.run E w.ec.dev).map _ = _
  rw [hr]
  rfl

/-- A call of the EC that sets no handler. -/
lemma Sound.spares (h : w.Sound K has) {c : EcCall} {v : ℤ} {w' : SamWorld}
    (hcall : w.ecCall E c = some (v, w')) (hspares : ∀ i, c.Spares i)
    (hc : (EcAction.call c).probes = false) : w'.Sound K has := by
  obtain ⟨dev, -, hstep, rfl⟩ := ecCall_some hcall
  refine h.step_ec hstep (fun ha => by rw [hc] at ha; cases ha) fun i => h.table_kept ?_
  refine SshSystem.step_entry hstep fun c' hc' => ?_
  cases hc'
  exact hspares i

lemma Sound.hold_handler (h : w.Sound K has) (e : SamEventSource) :
    w.Sound K (Function.update has (.handler e) True) :=
  { h with
    table := fun i => (h.table i).imp_right fun ⟨e', he, hhas, hentry⟩ => by
      refine ⟨e', he, ?_, hentry⟩
      rw [Function.update_apply]
      split_ifs
      exact hhas }

lemma Sound.setEventHandler (h : w.Sound K has) {e : SamEventSource} {v : ℤ} {w' : SamWorld}
    (hcall : w.ecCall E (.setDelayedEventHandler e.rqid (handlerFn e) (handlerDelay K e)
      (w.handlerData K e)) = some (v, w')) :
    w'.Sound K (if v = 0 then Function.update has (.handler e) True else has) := by
  obtain ⟨dev, hrun, hstep, rfl⟩ := ecCall_some hcall
  have hentry (i : ℕ) : dev.entry i =
      if i = e.entry ∧ v = 0 then w.handlerEntry K e else w.ec.dev.entry i :=
    SshDevice.changeHandler_entry hrun
  split_ifs with hv
  · refine (h.hold_handler e).step_ec hstep (fun ha => by cases ha) fun i => ?_
    by_cases hi : i = e.entry
    · refine .inr ⟨e, hi.symm, ?_, (hentry i).trans (if_pos ⟨hi, hv⟩)⟩
      rw [Function.update_self]
      trivial
    · exact (h.hold_handler e).table_kept (.inl ((hentry i).trans (if_neg fun hset => hi hset.1)))
  · exact h.step_ec hstep (fun ha => by cases ha) fun i =>
      h.table_kept (.inl ((hentry i).trans (if_neg fun hset => hv hset.2)))

lemma Sound.removeEventHandler (h : w.Sound K has) {e : SamEventSource} {v : ℤ} {w' : SamWorld}
    (hcall : w.ecCall E (.removeEventHandler e.rqid) = some (v, w')) :
    w'.Sound K (Function.update has (.handler e) False) := by
  have hkept : w'.Sound K has := h.spares hcall (fun i => by rintro _ _ _ _ ⟨⟩) rfl
  obtain ⟨dev, hrun, -, rfl⟩ := ecCall_some hcall
  have hclear : dev.handler e.entry = none := by
    have hvacant : w.ec.dev.Vacant e.entry := fun hstate =>
      ((h.ec.uninitialized hstate).1 e.entry e.entry_lt).1
    exact SshDevice.removeEventHandler_clear hrun e.isEvent hvacant
  exact { hkept with
    table := fun i => (hkept.table i).elim .inl fun ⟨e', he, hhas, hentry⟩ => by
      by_cases heq : e' = e
      · subst heq he
        exact .inl hclear
      · refine .inr ⟨e', he, ?_, hentry⟩
        rw [Function.update_of_ne fun h => heq (SamToken.handler.inj h)]
        exact hhas }

end Ec

/-! ### Registering and unregistering drivers -/

lemma Sound.driverRegister (h : w.Sound K has) (d : SamDriver) :
    { w with registered := Function.update w.registered d true }.Sound K
      (Function.update has (.driver d) True) :=
  { h with
    driver := fun d' => by
      dsimp only
      by_cases hd : d' = d
      · subst hd
        simp
      · rw [Function.update_of_ne hd, Function.update_of_ne fun h => hd (SamToken.driver.inj h)]
        exact h.driver d'
    unprobed := fun hreg => by
      apply h.unprobed
      dsimp only at hreg
      rw [Function.update_apply] at hreg
      split_ifs at hreg
      exact hreg }

lemma Sound.driverUnregister (h : w.Sound K has) {d : SamDriver} {idle : SamThread → Bool}
    (hunbound : w.unbound idle d = true) :
    { w with registered := Function.update w.registered d false }.Sound K
      (Function.update has (.driver d) False) :=
  { h with
    driver := fun d' => by
      dsimp only
      by_cases hd : d' = d
      · subst hd
        simp
      · rw [Function.update_of_ne hd, Function.update_of_ne fun h => hd (SamToken.driver.inj h)]
        exact h.driver d'
    unprobed := fun hreg => by
      by_cases hd : SamDriver.ssh = d
      · subst hd
        obtain ⟨hstate, hprobes⟩ := (Bool.and_eq_true _ _).mp hunbound
        exact ⟨of_decide_eq_true hstate, List.isEmpty_iff.mp hprobes⟩
      · apply h.unprobed
        dsimp only at hreg
        rw [Function.update_of_ne hd] at hreg
        exact hreg }

/-! ### Objects -/

/-- An object but an input device is created or destroyed. The pointer to the driver data of the
VHF driver does not change while a handler gets it. -/
lemma Sound.setSlot (h : w.Sound K has) {o : SamObject} (ho : o ≠ .dtxInput) {s : Slot} {p : Prop}
    (hs : s.Ok p) (hcur : o = .vhfDrvdata → s.cur = (w.slot o).cur ∨ ¬has .vhfBound)
    (hneeds : has (.handler .vhf) → has .vhfBound) :
    { w with slot := Function.update w.slot o s }.Sound K (Function.update has (.object o) p) := by
  have hinput : Function.update w.slot o s .dtxInput = w.slot .dtxInput :=
    Function.update_of_ne (Ne.symm ho) ..
  have hkept : has .vhfBound →
      (Function.update w.slot o s .vhfDrvdata).cur = (w.slot .vhfDrvdata).cur := by
    intro hbound
    by_cases hdrv : SamObject.vhfDrvdata = o
    · subst hdrv
      rw [Function.update_self]
      exact (hcur rfl).resolve_right (not_not.mpr hbound)
    · rw [Function.update_of_ne hdrv]
  exact { h with
    table := fun i => (h.table i).imp_right fun ⟨e, he, hhas, hentry⟩ => by
      refine ⟨e, he, hhas, hentry.trans ?_⟩
      cases e with
      | vhf => exact congrArg (fun data => (_, data, _)) (hkept (hneeds hhas)).symm
      | pwr => rfl
      | temp => rfl
      | dtx => rfl
    slot := fun o' ho' => by
      dsimp only
      by_cases heq : o' = o
      · subst heq
        rw [Function.update_self, Function.update_self]
        exact hs
      · rw [Function.update_of_ne heq, Function.update_of_ne fun h => heq (SamToken.object.inj h)]
        exact h.slot o' ho'
    inputs := by
      dsimp only
      rw [hinput]
      exact h.inputs
    input := by
      dsimp only
      rw [hinput, Function.update_of_ne fun h => ho (SamToken.object.inj h).symm]
      exact h.input
    probed := by
      dsimp only
      rw [hinput]
      exact h.probed
    bound := fun hbound => (h.bound hbound).trans (hkept hbound).symm }

lemma Sound.create (h : w.Sound K has) {o : SamObject} (ho : o ≠ .dtxInput)
    (hfresh : ¬has (.object o)) (hdrv : o = .vhfDrvdata → ¬has .vhfBound)
    (hneeds : has (.handler .vhf) → has .vhfBound) :
    (w.created o).Sound K (Function.update has (.object o) True) := by
  have hs : Slot.Ok ⟨(w.slot o).ledger.alloc.2, some (w.slot o).ledger.alloc.1⟩ True :=
    ⟨fun _ => ⟨_, rfl, ((h.slot o ho).free hfresh).alloc⟩, fun hfalse => absurd trivial hfalse⟩
  have hset := h.setSlot ho hs (fun heq => .inr (hdrv heq)) hneeds
  unfold created
  dsimp only
  rw [if_neg ho, if_neg ho]
  exact hset

lemma Sound.failed (h : w.Sound K has) (o : SamObject) (allocated : Bool) :
    (w.failed o allocated).Sound K has := by
  unfold SamWorld.failed
  split_ifs
  · exact { h with }
  · exact h

/-- What is destroyed is what is held. -/
lemma Sound.released (h : w.Sound K has) {o : SamObject} (ho : o ≠ .dtxInput)
    (hheld : has (.object o)) :
    Slot.Ok { w.slot o with ledger := (w.slot o).ledger.releasePtr (w.slot o).cur } False := by
  obtain ⟨n, hcur, howns⟩ := (h.slot o ho).held hheld
  rw [hcur]
  exact ⟨fun hfalse => hfalse.elim, fun _ => howns.release⟩

lemma Sound.destroy (h : w.Sound K has) {o : SamObject} (ho : o ≠ .dtxInput) (hhid : o ≠ .vhfHid)
    (hheld : has (.object o)) (hneeds : has (.handler .vhf) → has .vhfBound) :
    (w.destroyed o).Sound K (Function.update has (.object o) False) := by
  have hset := h.setSlot ho (h.released ho hheld) (fun _ => .inl rfl) hneeds
  unfold destroyed
  dsimp only
  rw [if_neg hhid]
  exact hset

lemma Sound.destroyHid (h : w.Sound K has) (hheld : has (.object .vhfHid))
    (hneeds : has (.handler .vhf) → has .vhfBound) :
    (w.destroyed .vhfHid).Sound K
      (Function.update (Function.update has .hidAdded False) (.object .vhfHid) False) := by
  have hremoved : { w with hidAdded := false }.Sound K (Function.update has .hidAdded False) :=
    { h with hid := by simp }
  exact hremoved.setSlot (by decide) (h.released (by decide) hheld) (fun _ => .inl rfl) hneeds

/-! ### The input device -/

lemma Sound.createInput (h : w.Sound K has) (hnone : ¬has (.object .dtxInput)) :
    (w.created .dtxInput).Sound K (Function.update has .dtxProbed True) :=
  { h with
    slot := fun o ho => by
      have hslot : (w.created .dtxInput).slot o = w.slot o := Function.update_of_ne ho ..
      rw [hslot]
      exact h.slot o ho
    inputs := ⟨fun n hn => Nat.lt_succ_of_lt (h.inputs.cur n hn),
      fun n hn => h.inputs.released n (Nat.le_of_succ_le hn)⟩
    input := fun hinput => absurd hinput hnone
    probed := fun _ => ⟨_, rfl, Nat.lt_succ_self _, h.inputs.released _ (Nat.le_refl _)⟩ }

lemma Sound.destroyInput (h : w.Sound K has) :
    (w.destroyed .dtxInput).Sound K (Function.update (Function.update
      (Function.update has .dtxActive False) (.object .dtxInput) False) .dtxProbed False) :=
  { h with
    slot := fun o ho => by
      have hslot : (w.destroyed .dtxInput).slot o = w.slot o := Function.update_of_ne ho ..
      rw [hslot, Function.update_of_ne (by simp), Function.update_of_ne (by simpa using ho),
        Function.update_of_ne (by simp)]
      exact h.slot o ho
    inputs := h.inputs.releasePtr
    input := fun hinput => hinput.elim
    probed := fun hprobed => hprobed.elim
    active := fun hactive => hactive.elim }

lemma Sound.activate (h : w.Sound K has) (hprobed : has .dtxProbed) :
    { w with
      active := true
      slot := Function.update w.slot .dtxInput { w.slot .dtxInput with cur := w.probed } }.Sound K
      (Function.update (Function.update has .dtxActive True) (.object .dtxInput) True) :=
  { h with
    slot := fun o ho => by
      dsimp only
      rw [Function.update_of_ne ho, Function.update_of_ne (by simpa using ho),
        Function.update_of_ne (by simp)]
      exact h.slot o ho
    inputs := by
      obtain ⟨n, hn, hlt, -⟩ := h.probed hprobed
      refine ⟨fun m hm => ?_, h.inputs.released⟩
      cases hn.symm.trans hm
      exact hlt
    input := fun _ => rfl
    active := fun _ => rfl }

/-! ### All calls -/

section Perform

variable {o : SamObject}

lemma takes_create (o : SamObject) : samHoldings.takes (.create o) = [] := by
  cases o with
  | _ => rfl

lemma gives_create (ho : o ≠ .dtxInput) : samHoldings.gives (.create o) = [.object o] := by
  cases o with
  | dtxInput => exact absurd rfl ho
  | _ => rfl

lemma demands_destroy (ho : o ≠ .dtxInput) : samHoldings.demands (.destroy o) = [.object o] := by
  cases o with
  | dtxInput => exact absurd rfl ho
  | _ => rfl

lemma takes_destroy (ho : o ≠ .dtxInput) (hhid : o ≠ .vhfHid) :
    samHoldings.takes (.destroy o) = [.object o] := by
  cases o with
  | dtxInput => exact absurd rfl ho
  | vhfHid => exact absurd rfl hhid
  | _ => rfl

variable {c : SamCall} {v : ℤ} {has' : SamToken → Prop} {w' : SamWorld} {idle : SamThread → Bool}
  {env : CallEnv}

/-- A call that fails acquires nothing, and a call that succeeds what it is made for. -/
lemma Sound.perform (h : w.Sound K has)
    (hneeds : ∀ t u, has t → u ∈ samHoldings.needs t → has u)
    (hmoves : samHoldings.Moves c v has has')
    (hcall : w.perform K E idle env c = some (v, w')) : w'.Sound K has' := by
  have hvhf : has (.handler .vhf) → has .vhfBound := fun hhas => hneeds _ _ hhas (by decide)
  cases c with
  | driverRegister d =>
    simp only [SamWorld.perform] at hcall
    split_ifs at hcall with hstatus
    · cases hcall
      rw [hmoves.same rfl (.inr hstatus)]
      exact h
    · cases hcall
      rw [hmoves.given rfl rfl]
      exact h.driverRegister d
  | driverUnregister d =>
    simp only [SamWorld.perform] at hcall
    split_ifs at hcall with hunbound
    cases hcall
    rw [hmoves.taken rfl]
    exact h.driverUnregister hunbound
  | consumerRegister =>
    rw [hmoves.same rfl (.inl rfl)]
    exact h.spares hcall (fun i => by rintro _ _ _ _ ⟨⟩) rfl
  | setEventHandler e =>
    have hset := h.setEventHandler hcall
    split_ifs at hset with hv
    · rw [hmoves.given rfl hv]
      exact hset
    · rw [hmoves.same rfl (.inr hv)]
      exact hset
  | removeEventHandler e =>
    rw [hmoves.taken rfl]
    exact h.removeEventHandler hcall
  | enableEventSource e =>
    have hkept : w'.Sound K has := h.spares hcall (fun i => by rintro _ _ _ _ ⟨⟩) rfl
    by_cases hv : v = 0
    · rw [hmoves.given rfl hv]
      exact { hkept with }
    · rw [hmoves.same rfl (.inr hv)]
      exact hkept
  | disableEventSource e =>
    have hkept : w'.Sound K has := h.spares hcall (fun i => by rintro _ _ _ _ ⟨⟩) rfl
    rw [hmoves.taken rfl]
    exact { hkept with }
  | create o =>
    simp only [SamWorld.perform] at hcall
    split_ifs at hcall with hstatus
    · cases hcall
      rw [hmoves.same (takes_create o) (.inr hstatus)]
      exact h.failed o env.allocated
    · cases hcall
      have habsent := hmoves.absent
      by_cases ho : o = .dtxInput
      · subst ho
        rw [hmoves.given rfl rfl]
        refine h.createInput fun hinput => ?_
        exact habsent .dtxProbed (by decide) (hneeds _ _ hinput (by decide))
      · rw [hmoves.given (takes_create o) rfl]
        rw [gives_create ho] at habsent ⊢
        refine h.create ho (habsent _ List.mem_cons_self) (fun hdrv => ?_) hvhf
        subst hdrv
        exact habsent .vhfBound (by decide)
  | destroy o =>
    simp only [SamWorld.perform, Option.some_inj] at hcall
    cases hcall
    rw [hmoves.taken rfl]
    have hdemands := hmoves.demands
    by_cases ho : o = .dtxInput
    · subst ho
      exact h.destroyInput
    · rw [demands_destroy ho] at hdemands
      have hheld := hdemands _ List.mem_cons_self
      by_cases hhid : o = .vhfHid
      · subst hhid
        exact h.destroyHid hheld hvhf
      · rw [takes_destroy ho hhid]
        exact h.destroy ho hhid hheld hvhf
  | hidAddDevice =>
    simp only [SamWorld.perform] at hcall
    split_ifs at hcall with hstatus
    · cases hcall
      rw [hmoves.same rfl (.inr hstatus)]
      exact h
    · cases hcall
      rw [hmoves.given rfl rfl]
      exact { h with hid := ⟨fun _ => rfl, fun _ => trivial⟩ }
  | setDrvdata =>
    simp only [SamWorld.perform, Option.some_inj] at hcall
    cases hcall
    rw [hmoves.given rfl rfl]
    exact { h with bound := fun _ => rfl, unbound := fun hnot => absurd trivial hnot }
  | clearDrvdata =>
    simp only [SamWorld.perform, Option.some_inj] at hcall
    cases hcall
    rw [hmoves.taken rfl]
    exact { h with bound := fun hfalse => hfalse.elim, unbound := fun _ => rfl }
  | activate =>
    simp only [SamWorld.perform] at hcall
    split_ifs at hcall with hactive
    · cases hcall
      rw [hmoves.same rfl (.inr (by decide))]
      exact h
    · cases hcall
      rw [hmoves.given rfl rfl]
      exact h.activate (hmoves.demands _ (by decide))
  | deactivate =>
    simp only [SamWorld.perform, Option.some_inj] at hcall
    cases hcall
    rw [hmoves.taken rfl]
    exact { h with active := fun hfalse => hfalse.elim }

end Perform

end SamWorld

/-! ### Runs -/

namespace SamModule

variable {K : SamKernel} {E : SshEnv} {s t : SamModule} {held : SamThread → List SamToken}

/-- What the threads hold fits to where they are and to what there is; a driver that is not
registered has no device. -/
structure Inv (K : SamKernel) (s : SamModule) (held : SamThread → List SamToken) : Prop where
  crew : samHoldings.Crew SamThread.script s.place held
  sound : s.world.Sound K (samHoldings.Has held)
  bound : ∀ i d, i.driver = some d → (s.place i).isIdle = false → s.world.registered d = true

lemma inv_static : static.Inv K fun _ => [] where
  crew := Holdings.crew_idle SamThread.script
  sound :=
    { driver := fun d => ⟨fun h => absurd h List.not_mem_nil, fun h => by cases h⟩
      ec := SshSystem.inv_static
      unprobed := fun _ => ⟨rfl, rfl⟩
      table := fun i => .inl rfl
      slot := fun o _ => ⟨fun h => absurd h List.not_mem_nil, fun _ => Ledger.owns_empty⟩
      inputs := ⟨fun n hn => (by cases hn), fun _ _ => rfl⟩
      input := fun h => absurd h List.not_mem_nil
      probed := fun h => absurd h List.not_mem_nil
      active := fun h => absurd h List.not_mem_nil
      hid := ⟨fun h => absurd h List.not_mem_nil, fun h => by cases h⟩
      bound := fun h => absurd h List.not_mem_nil
      unbound := fun _ => rfl }
  bound i d _ h := by cases h

/-- A driver is unregistered only by its own call, when no device is bound to it. -/
lemma registered_perform {c : SamCall} {v : ℤ} {has has' : SamToken → Prop} {w w' : SamWorld}
    {idle : SamThread → Bool} {env : CallEnv} {d : SamDriver} (h : w.Sound K has)
    (h' : w'.Sound K has') (hmoves : samHoldings.Moves c v has has')
    (hcall : w.perform K E idle env c = some (v, w')) (hreg : w.registered d = true) :
    w'.registered d = true ∨ w.unbound idle d = true := by
  by_cases hc : c = .driverUnregister d
  · subst hc
    simp only [SamWorld.perform] at hcall
    split_ifs at hcall with hunbound
    exact .inr hunbound
  · refine .inl ((h'.driver d).mp ((hmoves.iff _).mpr (.inl ⟨(h.driver d).mpr hreg, ?_⟩)))
    cases c with
    | driverUnregister d' => simpa [samHoldings, eq_comm] using hc
    | destroy o =>
      cases o with
      | _ => simp [samHoldings]
    | _ => simp [samHoldings]

lemma unbound_thread {w : SamWorld} {idle : SamThread → Bool} {i : SamThread} {d : SamDriver}
    (hd : i.driver = some d) (h : w.unbound idle d = true) : idle i = true := by
  cases i with
  | module => cases hd
  | san =>
    cases hd
    exact h
  | vhf =>
    cases hd
    exact h
  | dtx =>
    cases hd
    exact h

/-- A thread begins its setup or its teardown. -/
lemma Inv.goTo (h : s.Inv K held) {i : SamThread} {p : Place SamCall}
    (hcrew : samHoldings.Crew SamThread.script (Function.update s.place i p) held)
    (hreg : ∀ d, i.driver = some d → s.world.registered d = true) : (s.goTo i p).Inv K held where
  crew := hcrew
  sound := h.sound
  bound j d hd hidle := by
    by_cases hj : j = i
    · subst hj
      exact hreg d hd
    · refine h.bound j d hd ?_
      change (Function.update s.place i p j).isIdle = false at hidle
      rw [Function.update_of_ne hj] at hidle
      exact hidle

/-- Once the DTX driver is bound, its device is active. -/
lemma Inv.teardown_eq (h : s.Inv K held) {i : SamThread} (hdone : (s.place i).isDone = true) :
    s.teardown i = i.script.teardown := by
  unfold teardown
  refine if_neg fun ⟨hdtx, hinactive⟩ => ?_
  subst hdtx
  have hcleans := h.crew.cleans hdone
  have hheld : samHoldings.Has held .dtxActive := hcleans.1.2.2.1 .dtxActive (by decide)
  rw [h.sound.active hheld] at hinactive
  cases hinactive

lemma Inv.call (h : s.Inv K held) {i : SamThread} {env : CallEnv} {c : SamCall} {v : ℤ}
    {w : SamWorld} (hnext : (s.place i).next = some c)
    (hcall : s.world.perform K E (fun i => (s.place i).isIdle) env c = some (v, w)) :
    ∃ held', Inv K ({ s with world := w }.goTo i ((s.place i).after v)) held' := by
  obtain ⟨held', hcrew, hmoves⟩ := h.crew.call hnext v
  have hsound : w.Sound K (samHoldings.Has held') :=
    h.sound.perform (fun _ _ ht hu => h.crew.needs ht hu) hmoves hcall
  refine ⟨held', hcrew, hsound, fun j d hd hidle => ?_⟩
  -- a thread that makes a call is not idle
  have hbusy : (s.place j).isIdle = false := by
    by_cases hj : j = i
    · subst hj
      cases hplace : s.place j with
      | idle status =>
        rw [hplace] at hnext
        cases hnext
      | _ => rfl
    · change (Function.update s.place i _ j).isIdle = false at hidle
      rw [Function.update_of_ne hj] at hidle
      exact hidle
  have hreg := registered_perform h.sound hsound hmoves hcall (h.bound j d hd hbusy)
  refine hreg.resolve_right fun hunbound => ?_
  have hidle' := unbound_thread hd hunbound
  rw [hbusy] at hidle'
  cases hidle'

lemma Inv.step (h : s.Inv K held) {a : SamAction} (hstep : s.step K E a = some t) :
    ∃ held', t.Inv K held' := by
  cases a with
  | setUp i =>
    simp only [SamModule.step] at hstep
    split_ifs at hstep with hgo
    cases hstep
    refine ⟨held, h.goTo (h.crew.setUp (sound_script i) hgo.1) fun d hd => ?_⟩
    have hmay := hgo.2
    unfold mayBind at hmay
    rw [hd] at hmay
    exact hmay
  | call i env =>
    obtain ⟨c, hnext, hrest⟩ := Option.bind_eq_some_iff.mp hstep
    obtain ⟨⟨v, w⟩, hcall, hend⟩ := Option.bind_eq_some_iff.mp hrest
    cases hend
    exact h.call hnext hcall
  | takeDown i =>
    simp only [SamModule.step] at hstep
    split_ifs at hstep with hdone
    cases hstep
    rw [h.teardown_eq hdone]
    refine ⟨held, h.goTo (h.crew.takeDown hdone 0) fun d hd => h.bound i d hd ?_⟩
    rw [Place.isDone_iff.mp hdone]
    rfl
  | ec a =>
    simp only [SamModule.step] at hstep
    split_ifs at hstep with hmay
    obtain ⟨ec, hec, rfl⟩ := Option.map_eq_some_iff.mp hstep
    exact ⟨held, h.crew, h.sound.others hec hmay.1 hmay.2, h.bound⟩

lemma reaches_inv {C : SamModule → SamAction → Prop}
    (h : Machine.Reaches (SamModule.step K E) C .static s) : ∃ held, s.Inv K held := by
  refine h.invariant (I := fun s => ∃ held, s.Inv K held) ⟨_, inv_static⟩ fun _ _ _ hs _ hstep => ?_
  obtain ⟨held, hinv⟩ := hs
  exact hinv.step hstep

end SamModule

end SurfaceSam
