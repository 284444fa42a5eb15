import SurfaceSam.Devlib.Ledger
import SurfaceSam.Devlib.Schedules
import SurfaceSam.Lifecycle.Stages
import SurfaceSam.Ssh.Probe
import SurfaceSam.Ssh.Request

/-!
# The operations of the EC

`struct sam_ssh_ec` with its mutex, and every function of the driver that takes it. An
operation is a partial function of the device: it has no result while another thread, or an
operation that never gave it back, holds the mutex. What other functions return is an
argument, and the requests of an operation follow a schedule.
-/

namespace SurfaceSam

open Devlib

@[simp] def eperm : ℤ := 1
@[simp] def enxio : ℤ := 6
@[simp] def enomem : ℤ := 12
@[simp] def efault : ℤ := 14
@[simp] def ebusy : ℤ := 16
@[simp] def enodev : ℤ := 19
@[simp] def eprobeDefer : ℤ := 517

/-- `SAM_NUM_EVENT_TYPES`. -/
@[simp] def samNumEventTypes : ℕ := (1 <<< surfaceSamSshRqidEventBits) - 1

/-- `static struct sam_ssh_ec ssh_ec`; `ec` is the part of it that requests work on, with the
delay functions of the handler table. Buffers and workqueues are given by their numbers in
the ledger of all allocations. `opened` tells which serial devices are open. -/
structure SshDevice where
  lock : Bool
  state : SshEcState
  serdev : KPtr
  ec : SamSshEc
  writerData : KPtr
  fifoData : KPtr
  evalPtr : KPtr
  evalCap : ℕ
  queueAck : KPtr
  queueEvt : KPtr
  handler : ℕ → KPtr
  handlerData : ℕ → KPtr
  opened : ℕ → Bool
  ledger : Ledger

/-- Its static initializer, when nothing has been allocated. -/
def SshDevice.static : SshDevice where
  lock := false
  state := .uninitialized
  serdev := none
  ec := sshEc
  writerData := none
  fifoData := none
  evalPtr := none
  evalCap := 0
  queueAck := none
  queueEvt := none
  handler := fun _ => none
  handlerData := fun _ => none
  opened := fun _ => false
  ledger := .empty

namespace SshDevice

/-! ### The mutex -/

def surfaceSamSshAcquire (d : SshDevice) : Option SshDevice :=
  if d.lock then none else some { d with lock := true }

def surfaceSamSshRelease (d : SshDevice) : SshDevice := { d with lock := false }

/-- The value is false where the source returns NULL. -/
def surfaceSamSshAcquireInit (d : SshDevice) : Option (Bool × SshDevice) := do
  let d ← d.surfaceSamSshAcquire
  if d.state = .uninitialized then return (false, d.surfaceSamSshRelease)
  else return (true, d)

/-- `link` tells whether `device_link_add` succeeds. -/
def surfaceSamSshConsumerRegister (link : Bool) (d : SshDevice) : Option (ℤ × SshDevice) := do
  let (init, d) ← d.surfaceSamSshAcquireInit
  if !init then return (-enxio, d)
  else if !link then return (-efault, d)
  else return (0, d.surfaceSamSshRelease)

/-! ### Requests -/

section Requests

variable (E : SshEnv)

/-- `surface_sam_ssh_rqst_unlocked` on the device. -/
def request (rqst : SurfaceSamSshRqst) (result : Option SurfaceSamSshBuf) (o : Schedule SshLine)
    (d : SshDevice) : ℤ × SshDevice :=
  let r := Prog.complete (SshLine.step E) (surfaceSamSshRqstUnlocked E rqst result) o d.ec
  (r.1.1, { d with ec := r.2 })

def surfaceSamSshRqst (rqst : SurfaceSamSshRqst) (result : Option SurfaceSamSshBuf)
    (o : Schedule SshLine) (d : SshDevice) : Option (ℤ × SshDevice) := do
  let (init, d) ← d.surfaceSamSshAcquireInit
  if !init then return (-enxio, d)
  else if d.state = .suspended then return (-eperm, d.surfaceSamSshRelease)
  else
    let (status, d) := d.request E rqst result o
    return (status, d.surfaceSamSshRelease)

/-- The request that enables or disables an event source. -/
def eventSourceRqst (cid tc unknown : UInt8) (rqid : UInt16) : SurfaceSamSshRqst where
  tc := 0x01
  iid := 0x00
  cid := cid
  snc := 0x01
  cdl := 0x04
  pld := fun i => [tc, unknown, lowByte rqid, highByte rqid].getD i 0

/-- `surface_sam_ssh_enable_event_source` and `surface_sam_ssh_disable_event_source` differ in
the command id. -/
def eventSource (cid tc unknown : UInt8) (rqid : UInt16) (o : Schedule SshLine) (d : SshDevice) :
    Option (ℤ × SshDevice) := do
  -- only allow RQIDs that lie within event spectrum
  if !samRqidIsEvent rqid then return (-einval, d)
  else
    let (init, d) ← d.surfaceSamSshAcquireInit
    if !init then return (-enxio, d)
    else if d.state = .suspended then return (-eperm, d.surfaceSamSshRelease)
    else
      let (status, d) := d.request E (eventSourceRqst cid tc unknown rqid) (some controlBuf) o
      return (status, d.surfaceSamSshRelease)

def surfaceSamSshEnableEventSource (tc unknown : UInt8) (rqid : UInt16) (o : Schedule SshLine) :
    SshDevice → Option (ℤ × SshDevice) :=
  eventSource E 0x0b tc unknown rqid o

def surfaceSamSshDisableEventSource (tc unknown : UInt8) (rqid : UInt16) (o : Schedule SshLine) :
    SshDevice → Option (ℤ × SshDevice) :=
  eventSource E 0x0c tc unknown rqid o

def surfaceSamSshEcResume (o : Schedule SshLine) : SshDevice → ℤ × SshDevice :=
  request E (controlRqst 0x16) (some controlBuf) o

def surfaceSamSshEcSuspend (o : Schedule SshLine) : SshDevice → ℤ × SshDevice :=
  request E (controlRqst 0x15) (some controlBuf) o

def surfaceSamSshSuspend (o : Schedule SshLine) (d : SshDevice) : Option (ℤ × SshDevice) := do
  let (init, d) ← d.surfaceSamSshAcquireInit
  if !init then return (0, d)
  else
    let (status, d) := d.surfaceSamSshEcSuspend E o
    return (status, { d with state := .suspended }.surfaceSamSshRelease)

def surfaceSamSshResume (o : Schedule SshLine) (d : SshDevice) : Option (ℤ × SshDevice) := do
  let (init, d) ← d.surfaceSamSshAcquireInit
  if !init then return (0, d)
  else
    let (status, d) := { d with state := .initialized }.surfaceSamSshEcResume E o
    return (status, d.surfaceSamSshRelease)

end Requests

/-! ### Event handlers -/

/-- Sets entry `i` of the handler table. -/
def setHandler (i : ℕ) (fn : KPtr) (delay : Option (SurfaceSamSshEvent → ℕ)) (data : KPtr)
    (d : SshDevice) : SshDevice :=
  { d with
    ec := { d.ec with events := { d.ec.events with
      handler := Function.update d.ec.events.handler i ⟨delay⟩ } }
    handler := Function.update d.handler i fn
    handlerData := Function.update d.handlerData i data }

/-- Setting and removing an entry differ in what is stored. -/
def changeHandler (rqid : UInt16) (fn : KPtr) (delay : Option (SurfaceSamSshEvent → ℕ))
    (data : KPtr) (d : SshDevice) : Option (ℤ × SshDevice) := do
  if !samRqidIsEvent rqid then return (-einval, d)
  else
    let (init, d) ← d.surfaceSamSshAcquireInit
    if !init then return (-enxio, d)
    else
      -- 0 is not a valid event RQID
      return (0, (d.setHandler (rqid.toNat - 1) fn delay data).surfaceSamSshRelease)

def surfaceSamSshSetDelayedEventHandler (rqid : UInt16) (fn : KPtr)
    (delay : Option (SurfaceSamSshEvent → ℕ)) (data : KPtr) :
    SshDevice → Option (ℤ × SshDevice) :=
  changeHandler rqid fn delay data

/-- Flushing `queue_evt` afterwards is a matter of the work items. -/
def surfaceSamSshRemoveEventHandler (rqid : UInt16) : SshDevice → Option (ℤ × SshDevice) :=
  changeHandler rqid none none none

/-- "remove event handlers". -/
def clearHandlers (d : SshDevice) : SshDevice :=
  { d with
    ec := { d.ec with events := { d.ec.events with
      handler := fun i => if i < samNumEventTypes then ⟨none⟩ else d.ec.events.handler i } }
    handler := fun i => if i < samNumEventTypes then none else d.handler i
    handlerData := fun i => if i < samNumEventTypes then none else d.handlerData i }

/-! ### Probe -/

/-- What `surface_sam_ssh_probe` allocates. -/
structure ProbeBufs where
  writeBuf : ℕ
  readBuf : ℕ
  evalBuf : ℕ
  queueAck : ℕ
  queueEvt : ℕ
  deriving DecidableEq, Repr

/-- How the functions called by probe end; `true` is a successful allocation. -/
structure ProbeEnv where
  checkDma : ℤ
  writeBuf : Bool
  readBuf : Bool
  evalBuf : Bool
  queueAck : Bool
  queueEvt : Bool
  serdevDeviceOpen : ℤ
  walkResources : ℤ
  resume : Schedule SshLine
  sysfsRegister : ℤ

def errReadBuf (b : ProbeBufs) (l : Ledger) : Ledger := l.release b.writeBuf
def errEvalBuf (b : ProbeBufs) (l : Ledger) : Ledger := errReadBuf b (l.release b.readBuf)
def errAckq (b : ProbeBufs) (l : Ledger) : Ledger := errEvalBuf b (l.release b.evalBuf)
def errEvtq (b : ProbeBufs) (l : Ledger) : Ledger := errAckq b (l.release b.queueAck)
def errBusy (b : ProbeBufs) (l : Ledger) : Ledger := errEvtq b (l.release b.queueEvt)

/-- Up to "set up EC". -/
def probeAlloc (env : ProbeEnv) (l : Ledger) : Except ℤ ProbeBufs × Ledger :=
  -- ensure DMA is ready before we set up the device
  if env.checkDma ≠ 0 then (.error env.checkDma, l)
  else if !env.writeBuf then (.error (-enomem), l)
  else
    let (writeBuf, l) := l.alloc
    let b : ProbeBufs := ⟨writeBuf, 0, 0, 0, 0⟩
    if !env.readBuf then (.error (-enomem), errReadBuf b l)
    else
      let (readBuf, l) := l.alloc
      let b := { b with readBuf }
      if !env.evalBuf then (.error (-enomem), errEvalBuf b l)
      else
        let (evalBuf, l) := l.alloc
        let b := { b with evalBuf }
        if !env.queueAck then (.error (-enomem), errAckq b l)
        else
          let (queueAck, l) := l.alloc
          let b := { b with queueAck }
          if !env.queueEvt then (.error (-enomem), errEvtq b l)
          else
            let (queueEvt, l) := l.alloc
            (.ok { b with queueEvt }, l)

def serdevDeviceOpen (serdev : ℕ) (d : SshDevice) : SshDevice :=
  { d with opened := Function.update d.opened serdev true }

def serdevDeviceClose (serdev : ℕ) (d : SshDevice) : SshDevice :=
  { d with opened := Function.update d.opened serdev false }

/-- The assignments of "set up EC". -/
def probeInit (serdev : ℕ) (b : ProbeBufs) (d : SshDevice) : SshDevice :=
  { d with
    serdev := some serdev
    ec := (initializeReceiver d.ec (fun _ => 0)).ec
    writerData := some b.writeBuf
    fifoData := some b.readBuf
    evalPtr := some b.evalBuf
    evalCap := sshEvalBufLen
    queueAck := some b.queueAck
    queueEvt := some b.queueEvt
    state := .initialized }

def errOpen (d : SshDevice) : SshDevice :=
  { d with state := .uninitialized }.surfaceSamSshRelease

def errDevinit (serdev : ℕ) (d : SshDevice) : SshDevice := (d.serdevDeviceClose serdev).errOpen

section Probe

variable (E : SshEnv)

/-- The part of probe that holds the mutex. -/
def probeSetup (env : ProbeEnv) (serdev : ℕ) (b : ProbeBufs) (d : SshDevice) :
    Option (ℤ × SshDevice) := do
  let d ← d.surfaceSamSshAcquire
  if d.state ≠ .uninitialized then return (-ebusy, d.surfaceSamSshRelease)
  else
    let d := d.probeInit serdev b
    if env.serdevDeviceOpen ≠ 0 then return (env.serdevDeviceOpen, d.errOpen)
    else
      let d := d.serdevDeviceOpen serdev
      if env.walkResources ≠ 0 then return (env.walkResources, d.errDevinit serdev)
      else
        let (status, d) := d.surfaceSamSshEcResume E env.resume
        if status ≠ 0 then return (status, d.errDevinit serdev)
        else if env.sysfsRegister ≠ 0 then return (env.sysfsRegister, d.errDevinit serdev)
        else return (0, d.surfaceSamSshRelease)

def surfaceSamSshProbe (env : ProbeEnv) (serdev : ℕ) (d : SshDevice) : Option (ℤ × SshDevice) := do
  match probeAlloc env d.ledger with
  | (.error status, l) => return (status, { d with ledger := l })
  | (.ok b, l) =>
    let (status, d) ← probeSetup E env serdev b { d with ledger := l }
    if status ≠ 0 then return (status, { d with ledger := errBusy b d.ledger })
    else return (0, d)

/-! ### Remove -/

def destroyWorkqueues (d : SshDevice) : SshDevice :=
  { d with ledger := (d.ledger.releasePtr d.queueAck).releasePtr d.queueEvt }

/-- "free writer". -/
def freeWriter (d : SshDevice) : SshDevice :=
  { d with
    ledger := d.ledger.releasePtr d.writerData
    writerData := none
    ec := { d.ec with writer := [] } }

/-- "free receiver". -/
def freeReceiver (d : SshDevice) : SshDevice :=
  { d with
    ledger := (d.ledger.releasePtr d.fifoData).releasePtr d.evalPtr
    fifoData := none
    evalPtr := none
    evalCap := 0
    ec := { d.ec with receiver := { d.ec.receiver with state := .discard, fifo := ⟨0, []⟩ } } }

/-- What remove does after the control request. -/
def teardown (serdev : ℕ) (d : SshDevice) : SshDevice :=
  let d := d.clearHandlers
  -- set device to deinitialized state
  let d := { d with state := .uninitialized, serdev := none }
  (d.serdevDeviceClose serdev).destroyWorkqueues.freeWriter.freeReceiver

def surfaceSamSshRemove (serdev : ℕ) (o : Schedule SshLine) (d : SshDevice) : Option SshDevice := do
  let (init, d) ← d.surfaceSamSshAcquireInit
  if !init then return d
  else
    -- suspend EC and disable events
    let (_, d) := d.surfaceSamSshEcSuspend E o
    return (d.teardown serdev).surfaceSamSshRelease

end Probe

end SshDevice

end SurfaceSam
