import SurfaceSam.Devlib.Trace
import SurfaceSam.Drivers.Ownership

/-!
# What the handlers work on

In every run, with any failures, the handlers in the table of the EC are those of drivers that are
bound, and what they work on is there. A driver that is not bound has left nothing behind, and
neither has the module once it is unloaded.
-/

namespace SurfaceSam

open Devlib

lemma Slot.Ok.live_iff {s : Slot} {p : Prop} (h : s.Ok p) : s.Live ↔ p := by
  by_cases hp : p
  · obtain ⟨n, hcur, howns⟩ := h.held hp
    have hlive := howns.live List.mem_cons_self
    exact iff_of_true ⟨n, hcur, hlive.1, hlive.2⟩ hp
  · refine iff_of_false (fun ⟨n, _, hlt, hzero⟩ => ?_) hp
    rw [(h.free hp).all_released hlt] at hzero
    cases hzero

lemma SamEventSource.entry_inj {e e' : SamEventSource} (h : e.entry = e'.entry) : e = e' := by
  cases e with
  | _ =>
    cases e' with
    | _ => first | rfl | exact absurd h (by decide)

/-- What the handler of an event works on is there. Those of the SAN driver only get the device. -/
def SamWorld.Serves (w : SamWorld) : SamEventSource → Prop
  | .vhf => (w.slot .vhfDrvdata).Live ∧ w.driverData = (w.slot .vhfDrvdata).cur ∧
    (w.slot .vhfHid).Live ∧ w.hidAdded = true
  | .pwr => True
  | .temp => True
  | .dtx => (w.slot .dtxInput).Live ∧ (w.slot .dtxInput).cur = w.probed

namespace SamModule

variable {K : SamKernel} {E : SshEnv} {s : SamModule} {held : SamThread → List SamToken}

/-- A handler that is registered has what it works on. -/
lemma Inv.serves (h : s.Inv K held) {e : SamEventSource} (hheld : samHoldings.Has held (.handler e)) :
    s.world.Serves e := by
  have hneeds {x : SamToken} (hx : x ∈ samHoldings.needs (.handler e)) : samHoldings.Has held x :=
    h.crew.needs hheld hx
  cases e with
  | vhf =>
    refine ⟨?_, ?_, ?_, ?_⟩
    · exact (h.sound.slot .vhfDrvdata (by decide)).live_iff.mpr (hneeds (by decide))
    · exact h.sound.bound (hneeds (by decide))
    · exact (h.sound.slot .vhfHid (by decide)).live_iff.mpr (hneeds (by decide))
    · exact h.sound.hid.mp (hneeds (by decide))
  | pwr => trivial
  | temp => trivial
  | dtx =>
    have hinput : samHoldings.Has held (.object .dtxInput) := hneeds (by decide)
    have hcur := h.sound.input hinput
    obtain ⟨n, hn, hlt, hlive⟩ := h.sound.probed (h.crew.needs hinput (by decide))
    exact ⟨⟨n, hcur.trans hn, hlt, hlive⟩, hcur⟩

lemma Inv.not_has (h : s.Inv K held) {x : SamToken} (hidle : (s.place x.thread).isIdle = true) :
    ¬samHoldings.Has held x :=
  h.crew.not_has hidle

/-- The handlers of a driver without a device are not in the table. -/
lemma Inv.handler_none (h : s.Inv K held) {e : SamEventSource}
    (hidle : (s.place e.thread).isIdle = true) : s.world.ec.dev.handler e.entry = none := by
  obtain hnone | ⟨e', he, hheld, -⟩ := h.sound.table e.entry
  · exact hnone
  · cases SamEventSource.entry_inj he
    exact absurd hheld (h.not_has hidle)

end SamModule

/-- Its devices, and no delays. -/
def samKernel : SamKernel := ⟨some 0, some 1, fun _ => 0, fun _ => 0⟩

/-- Nothing fails but requests, which are not answered. -/
def unanswered : CallEnv := ⟨0, true, true, fun _ => ⟨[], 0⟩⟩

/-- The module is loaded and the EC probed. -/
def loadModule : List SamAction :=
  .setUp .module :: List.replicate 5 (.call .module unanswered) ++ [.ec (.call (.probe goodProbe 0))]

/-- Then so many calls of the VHF driver are made. -/
def bindVhf (n : ℕ) : List SamAction :=
  loadModule ++ .setUp .vhf :: List.replicate n (.call .vhf unanswered)

open SamModule

/-- In every run, a handler in the table of the EC is that of a driver which is registered and has
been bound or is being bound, and what it works on is there. While the handler of its operation
region is installed, so is the driver data of the SAN driver. -/
theorem samModule_callbacks {K : SamKernel} {E : SshEnv} {s : SamModule}
    (hreach : Machine.Reaches (SamModule.step K E) (fun _ _ => True) .static s) :
    (∀ i, s.world.ec.dev.handler i ≠ none → ∃ (e : SamEventSource) (d : SamDriver),
      e.entry = i ∧ s.world.ec.dev.entry i = s.world.handlerEntry K e ∧
      e.thread.driver = some d ∧ s.world.registered d = true ∧
      (s.place e.thread).isIdle = false ∧ s.world.Serves e) ∧
    ((s.world.slot .sanOpreg).Live → (s.world.slot .sanDrvdata).Live) := by
  obtain ⟨held, h⟩ := reaches_inv hreach
  refine ⟨fun i hi => ?_, fun hlive => ?_⟩
  · obtain ⟨e, he, hheld, hentry⟩ := (h.sound.table i).resolve_left hi
    have hbusy : (s.place e.thread).isIdle = false :=
      Bool.eq_false_iff.mpr fun hidle => h.not_has (x := .handler e) hidle hheld
    obtain ⟨d, hd⟩ : ∃ d, e.thread.driver = some d := by
      cases e with
      | _ => exact ⟨_, rfl⟩
    exact ⟨e, d, he, hentry, hd, h.bound _ d hd hbusy, hbusy, h.serves hheld⟩
  · have hopreg := (h.sound.slot .sanOpreg (by decide)).live_iff.mp hlive
    exact (h.sound.slot .sanDrvdata (by decide)).live_iff.mpr (h.crew.needs hopreg (by decide))

/-- The VHF driver has registered its handler, and is going to enable its events. -/
theorem samModule_callbacks_vhf : ∃ s,
    Machine.Reaches (SamModule.step samKernel kernelEnv) (fun _ _ => True) .static s ∧
      s.world.ec.dev.handler SamEventSource.vhf.entry = vhfEventHandlerFn ∧ s.world.Serves .vhf := by
  obtain ⟨s, hs, hhandler⟩ := Option.map_eq_some_iff.mp
    (show (Machine.run (SamModule.step samKernel kernelEnv) .static (bindVhf 6)).map
        (fun s => s.world.ec.dev.handler SamEventSource.vhf.entry) = some vhfEventHandlerFn by
      decide +kernel)
  have hreach := Machine.reaches_of_run (C := fun _ _ => True) hs
    (Machine.Trace.meets_of_forall fun _ _ => trivial)
  obtain ⟨e, -, he, -, -, -, -, hserves⟩ := (samModule_callbacks hreach).1 SamEventSource.vhf.entry
    (by rw [hhandler]; exact Option.some_ne_none _)
  cases SamEventSource.entry_inj he
  exact ⟨s, hreach, hhandler, hserves⟩

/-- In every run, a driver without a device, be it that none has been bound, that binding it has
failed, at whatever step, or that it has been unbound, has no handler in the table, and has
released all that it has created, once. Left out are the input devices of the DTX driver, and the
arrays that `san_consumers_link` does not free when it fails, which are no objects of their own. -/
theorem samModule_unbound {K : SamKernel} {E : SshEnv} {s : SamModule} {i : SamThread}
    (hreach : Machine.Reaches (SamModule.step K E) (fun _ _ => True) .static s)
    (hidle : (s.place i).isIdle = true) :
    (∀ e : SamEventSource, e.thread = i → s.world.ec.dev.handler e.entry = none) ∧
    (∀ o : SamObject, o.thread = i → o ≠ .dtxInput →
      ∀ n < (s.world.slot o).ledger.next, (s.world.slot o).ledger.released n = 1) ∧
    (i = .vhf → s.world.driverData = none ∧ s.world.hidAdded = false) := by
  obtain ⟨held, h⟩ := reaches_inv hreach
  refine ⟨fun e he => ?_, fun o ho hinput n hn => ?_, fun hi => ?_⟩
  · subst he
    exact h.handler_none hidle
  · subst ho
    exact ((h.sound.slot o hinput).free (h.not_has hidle)).all_released hn
  · subst hi
    refine ⟨h.sound.unbound (h.not_has hidle), Bool.eq_false_iff.mpr fun hadded => ?_⟩
    exact h.not_has (x := .hidAdded) hidle (h.sound.hid.mpr hadded)

/-- The events cannot be enabled, and the probe is undone: the HID device is destroyed. -/
theorem samModule_unbound_failed : ∃ s,
    Machine.Reaches (SamModule.step samKernel kernelEnv) (fun _ _ => True) .static s ∧
      (s.world.slot .vhfHid).ledger.next = 1 ∧ (s.world.slot .vhfHid).ledger.released 0 = 1 ∧
      s.world.driverData = none := by
  obtain ⟨s, hs, hplace⟩ := Option.map_eq_some_iff.mp
    (show (Machine.run (SamModule.step samKernel kernelEnv) .static (bindVhf 11)).map
        (fun s => ((s.place .vhf).isIdle, (s.world.slot .vhfHid).ledger.next)) = some (true, 1) by
      decide +kernel)
  obtain ⟨hidle, hnext⟩ := Prod.mk.inj hplace
  have hreach := Machine.reaches_of_run (C := fun _ _ => True) hs
    (Machine.Trace.meets_of_forall fun _ _ => trivial)
  obtain ⟨-, hreleased, hvhf⟩ := samModule_unbound hreach hidle
  refine ⟨s, hreach, hnext, hreleased .vhfHid rfl (by decide) 0 ?_, (hvhf rfl).1⟩
  rw [hnext]
  exact Nat.one_pos

/-- In every run, while the module is not loaded, be it that loading it has failed, at whatever
step, or that it has been unloaded, none of its drivers is registered or has a device, the EC is
uninitialized with no probe under way and no handler in its table, and all that its probes have
allocated has been released, once. -/
theorem samModule_unloaded {K : SamKernel} {E : SshEnv} {s : SamModule}
    (hreach : Machine.Reaches (SamModule.step K E) (fun _ _ => True) .static s)
    (hidle : (s.place .module).isIdle = true) :
    (∀ d, s.world.registered d = false) ∧ (∀ i, (s.place i).isIdle = true) ∧
    s.world.ec.dev.state = .uninitialized ∧ s.world.ec.probes = [] ∧
    (∀ i, s.world.ec.dev.handler i = none) ∧
    ∀ r < s.world.ec.dev.ledger.next, s.world.ec.dev.ledger.released r = 1 := by
  obtain ⟨held, h⟩ := reaches_inv hreach
  have hreg (d : SamDriver) : s.world.registered d = false :=
    Bool.eq_false_iff.mpr fun hreg =>
      h.not_has (x := .driver d) hidle ((h.sound.driver d).mpr hreg)
  have hplaces (i : SamThread) : (s.place i).isIdle = true := by
    cases hi : i.driver with
    | none =>
      cases i with
      | module => exact hidle
      | _ => cases hi
    | some d =>
      refine Bool.of_not_eq_false fun hbusy => ?_
      have hd := h.bound i d hi hbusy
      rw [hreg d] at hd
      cases hd
  obtain ⟨hstate, hprobes⟩ := h.sound.unprobed (hreg .ssh)
  refine ⟨hreg, hplaces, hstate, hprobes, fun i => ?_, fun r hr => ?_⟩
  · obtain hnone | ⟨e, -, hheld, -⟩ := h.sound.table i
    · exact hnone
    · exact absurd hheld (h.not_has (hplaces e.thread))
  · have howns := (h.sound.ec.uninitialized hstate).2
    rw [hprobes] at howns
    exact howns.all_released hr

/-- The EC is removed and the module unloaded: the five things it had allocated are released. -/
theorem samModule_unloaded_exit : ∃ s,
    Machine.Reaches (SamModule.step samKernel kernelEnv) (fun _ _ => True) .static s ∧
      s.world.ec.dev.ledger.next = 5 ∧ ∀ r < 5, s.world.ec.dev.ledger.released r = 1 := by
  let acts := loadModule ++ .ec (.call (.remove 0 unanswered.schedule)) :: .takeDown .module ::
    List.replicate 5 (.call .module unanswered)
  obtain ⟨s, hs, hplace⟩ := Option.map_eq_some_iff.mp
    (show (Machine.run (SamModule.step samKernel kernelEnv) .static acts).map
        (fun s => ((s.place .module).isIdle, s.world.ec.dev.ledger.next)) = some (true, 5) by
      decide +kernel)
  obtain ⟨hidle, hnext⟩ := Prod.mk.inj hplace
  have hreach := Machine.reaches_of_run (C := fun _ _ => True) hs
    (Machine.Trace.meets_of_forall fun _ _ => trivial)
  obtain ⟨-, -, -, -, -, hreleased⟩ := samModule_unloaded hreach hidle
  rw [hnext] at hreleased
  exact ⟨s, hreach, hnext, hreleased⟩

end SurfaceSam
