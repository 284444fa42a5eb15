import SurfaceSam.Drivers.Scripts

/-!
# The module with its drivers

The scripts of the module and of its drivers, run at the same time, one call at a time, on the EC
and on what they set up. Meanwhile the EC is probed, used and removed by others, and any call may
fail.
-/

namespace SurfaceSam

open Devlib

/-- An object that can be set up again and again: all that have been created, by number, and the
pointer to the last one. -/
structure Slot where
  ledger : Ledger
  cur : KPtr

/-- The object that `cur` points to has been created and not destroyed. -/
def Slot.Live (s : Slot) : Prop := ∃ n, s.cur = some n ∧ n < s.ledger.next ∧ s.ledger.released n = 0

/-- `probed` is the input device that the probe of the DTX driver has registered, `driverData` that
of the platform device of the VHF driver, `leaked` the number of arrays that `san_consumers_link`
has not freed when it failed. -/
structure SamWorld where
  ec : SshSystem
  registered : SamDriver → Bool
  slot : SamObject → Slot
  hidAdded : Bool
  driverData : KPtr
  active : Bool
  probed : KPtr
  leaked : ℕ

/-- What a call depends on: the status of the kernel function that it stands for, whether a device
link can be added, whether a `san_consumers_link` that fails has got its array before, and the
schedule of a request. -/
structure CallEnv where
  status : ℤ
  link : Bool
  allocated : Bool
  schedule : Schedule SshLine

/-- The devices of the SAN and the DTX driver, which their event handlers get, and the delay
functions. -/
structure SamKernel where
  sanDev : KPtr
  dtxDev : KPtr
  sanEvtPowerDelay : SurfaceSamSshEvent → ℕ
  vhfEventDelay : SurfaceSamSshEvent → ℕ

/-- The functions `vhf_event_handler` and `surface_dtx_evt_dtx`. -/
def vhfEventHandlerFn : KPtr := some 3
def surfaceDtxEvtDtxFn : KPtr := some 4

namespace SamWorld

variable (K : SamKernel) (w : SamWorld)

/-! ### What the calls do -/

/-- The handler of an event, -/
def handlerFn : SamEventSource → KPtr
  | .vhf => vhfEventHandlerFn
  | .pwr => sanEvtPowerFn
  | .temp => sanEvtThermalFn
  | .dtx => surfaceDtxEvtDtxFn

/-- its delay function, -/
def handlerDelay : SamEventSource → Option (SurfaceSamSshEvent → ℕ)
  | .vhf => some K.vhfEventDelay
  | .pwr => some K.sanEvtPowerDelay
  | .temp => none
  | .dtx => none

/-- and what it gets: that of the VHF driver a part of the driver data. -/
def handlerData : SamEventSource → KPtr
  | .vhf => (w.slot .vhfDrvdata).cur
  | .pwr => K.sanDev
  | .temp => K.sanDev
  | .dtx => K.dtxDev

def ecCall (E : SshEnv) (c : EcCall) : Option (ℤ × SamWorld) :=
  (c.run E w.ec.dev).map fun r => (r.1, { w with ec := { w.ec with dev := r.2 } })

/-- The input device of a probe is not yet that of the device. -/
def created (o : SamObject) : SamWorld :=
  let s := w.slot o
  let (n, ledger) := s.ledger.alloc
  { w with
    slot := Function.update w.slot o ⟨ledger, if o = .dtxInput then s.cur else some n⟩
    probed := if o = .dtxInput then some n else w.probed }

/-- What cannot be created leaves nothing behind, except for the links to the consumers. -/
def failed (o : SamObject) (allocated : Bool) : SamWorld :=
  if o = .sanConsumers ∧ allocated then { w with leaked := w.leaked + 1 } else w

/-- Destroying the HID device removes it. -/
def destroyed (o : SamObject) : SamWorld :=
  let s := w.slot o
  { w with
    slot := Function.update w.slot o { s with ledger := s.ledger.releasePtr s.cur }
    hidAdded := if o = .vhfHid then false else w.hidAdded }

/-- No device is bound to a driver; `idle` tells which of them are not. The SID driver handles no
events. -/
def unbound (idle : SamThread → Bool) : SamDriver → Bool
  | .ssh => decide (w.ec.dev.state = .uninitialized) && w.ec.probes.isEmpty
  | .san => idle .san
  | .vhf => idle .vhf
  | .dtx => idle .dtx
  | .sid => true

/-- One call. Unregistering a driver waits until its devices are unbound. -/
def perform (E : SshEnv) (idle : SamThread → Bool) (env : CallEnv) :
    SamCall → Option (ℤ × SamWorld)
  | .driverRegister d => some (
    if env.status ≠ 0 then (env.status, w)
    else (0, { w with registered := Function.update w.registered d true }))
  | .driverUnregister d =>
    if w.unbound idle d then
      some (0, { w with registered := Function.update w.registered d false })
    else none
  | .consumerRegister => w.ecCall E (.consumerRegister env.link)
  | .setEventHandler e => w.ecCall E
    (.setDelayedEventHandler e.rqid (handlerFn e) (handlerDelay K e) (handlerData K w e))
  | .removeEventHandler e => w.ecCall E (.removeEventHandler e.rqid)
  | .enableEventSource e => w.ecCall E (.enableEventSource e.tc 0x01 e.rqid env.schedule)
  | .disableEventSource e => w.ecCall E (.disableEventSource e.tc 0x01 e.rqid env.schedule)
  | .create o => some (
    if env.status ≠ 0 then (env.status, w.failed o env.allocated) else (0, w.created o))
  | .destroy o => some (0, w.destroyed o)
  | .hidAddDevice => some (
    if env.status ≠ 0 then (env.status, w) else (0, { w with hidAdded := true }))
  | .setDrvdata => some (0, { w with driverData := (w.slot .vhfDrvdata).cur })
  | .clearDrvdata => some (0, { w with driverData := none })
  | .activate => some (
    if w.active then (-enodev, w)
    else (0, { w with
      active := true
      slot := Function.update w.slot .dtxInput { w.slot .dtxInput with cur := w.probed } }))
  | .deactivate => some (0, { w with active := false })

end SamWorld

/-! ### Runs -/

/-- What others do with the EC: event handlers and sources are matters of the drivers. -/
def EcAction.ofOthers : EcAction → Bool
  | .call (.setDelayedEventHandler _ _ _ _) => false
  | .call (.removeEventHandler _) => false
  | .call (.enableEventSource _ _ _ _) => false
  | .call (.disableEventSource _ _ _ _) => false
  | _ => true

/-- The driver of the EC begins to probe. -/
def EcAction.probes : EcAction → Bool
  | .call (.probe _ _) => true
  | .probeAlloc _ _ => true
  | _ => false

/-- The module is loaded or a driver bound, with `setUp`, and unloaded or unbound again, with
`takeDown`. -/
inductive SamAction where
  | setUp (t : SamThread)
  | call (t : SamThread) (env : CallEnv)
  | takeDown (t : SamThread)
  | ec (a : EcAction)

structure SamModule where
  world : SamWorld
  place : SamThread → Place SamCall

namespace SamModule

/-- Before the module is loaded. -/
def static : SamModule where
  world := ⟨.static, fun _ => false, fun _ => ⟨.empty, none⟩, false, none, false, none, 0⟩
  place := fun _ => .idle 0

/-- Devices are bound to registered drivers. -/
def mayBind (s : SamModule) (t : SamThread) : Bool := t.driver.all s.world.registered

/-- The calls of unbinding; that of the DTX driver does nothing if the device is not active. -/
def teardown (s : SamModule) (t : SamThread) : List SamCall :=
  if t = .dtx ∧ s.world.active = false then [] else t.script.teardown

def goTo (s : SamModule) (t : SamThread) (p : Place SamCall) : SamModule :=
  { s with place := Function.update s.place t p }

def step (K : SamKernel) (E : SshEnv) (s : SamModule) : SamAction → Option SamModule
  | .setUp t =>
    if (s.place t).isIdle ∧ s.mayBind t then some (s.goTo t (.ofSetup t.script.setup [])) else none
  | .call t env => do
    let c ← (s.place t).next
    let (v, world) ← s.world.perform K E (fun t => (s.place t).isIdle) env c
    return { s with world }.goTo t ((s.place t).after v)
  | .takeDown t =>
    if (s.place t).isDone then some (s.goTo t (.ofCleanup 0 (s.teardown t))) else none
  | .ec a =>
    if a.ofOthers ∧ (a.probes → s.world.registered .ssh) then
      (SshSystem.step E s.world.ec a).map fun ec => { s with world := { s.world with ec } }
    else none

end SamModule

end SurfaceSam
