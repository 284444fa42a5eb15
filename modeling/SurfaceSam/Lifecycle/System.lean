import SurfaceSam.Devlib.Machine
import SurfaceSam.Lifecycle.Stages

/-!
# The driver between probe and removal

A step of the system is a step of one thread: one access to the shared fields of
`struct sam_ssh_ec`, one section under the events lock, or one call that may block. Work
items and callers are numbered in the order in which they come into being. The receive
callback holds `receiver.lock` while it runs; a request takes this lock as the receiver is
restarted and as it is discarded.

Of the kernel this assumes that `flush_workqueue` waits for the items queued or running
when it is called, that `destroy_workqueue` waits until its queue is empty and that the
queue takes no items from then on, that a delayed item gets to its queue when its timer
fires, that `sysfs_remove_bin_file` waits for running callbacks, and that no receive
callback runs after `serdev_device_close`.
-/

namespace SurfaceSam

open Devlib

/-- The threads that take the EC mutex. -/
inductive Party where
  | caller (k : ℕ)
  | handler (i : ℕ)
  | remove
  deriving DecidableEq

structure SshLife where
  lock : Option Party
  state : SshEcState
  serdev : KPtr
  handler : ℕ → SshEventSlot
  regs : ℕ
  attr : Bool
  port : Bool
  rx : RxStage
  works : ℕ
  work : ℕ → SshEventWork
  refcount : ℕ → ℕ
  freed : ℕ → ℕ
  ack : ℕ → AckStage
  evt : ℕ → EvtStage
  callers : ℕ
  caller : ℕ → CallerStage
  remove : RemoveStage
  removed : List ℕ

/-- After `surface_sam_ssh_probe`. -/
def SshLife.probed : SshLife where
  lock := none
  state := .initialized
  serdev := some 0
  handler _ := .null
  regs := 1
  attr := true
  port := true
  rx := .idle
  works := 0
  work _ := ⟨⟨0, 0, 0, 0, 0, []⟩, 0⟩
  refcount _ := 0
  freed _ := 0
  ack _ := .unqueued
  evt _ := .unqueued
  callers := 0
  caller _ := .returned
  remove := .idle
  removed := []

namespace SshLife

def setAck (s : SshLife) (i : ℕ) (stage : AckStage) : SshLife :=
  { s with ack := Function.update s.ack i stage }

def setEvt (s : SshLife) (i : ℕ) (stage : EvtStage) : SshLife :=
  { s with evt := Function.update s.evt i stage }

def setCaller (s : SshLife) (k : ℕ) (stage : CallerStage) : SshLife :=
  { s with caller := Function.update s.caller k stage }

/-- `refcount_dec_and_test` and `kfree`. -/
def put (s : SshLife) (i : ℕ) : SshLife :=
  { s with
    refcount := Function.update s.refcount i (s.refcount i - 1)
    freed := if s.refcount i = 1 then Function.update s.freed i (s.freed i + 1) else s.freed }

/-- The entry of an event in the handler table. -/
def slotOf (s : SshLife) (rqid : UInt16) : SshEventSlot := s.handler (rqid - 1).toNat

/-! ### Steps of the threads -/

def rxStep (s : SshLife) (ok : Bool) : Option SshLife :=
  match s.rx with
  | .idle => none
  | .evaluating _ .quiet => some { s with rx := .idle }
  -- the log entry names `dev`
  | .evaluating _ .logged => some { s with rx := .idle }
  | .evaluating _ (.event work) => some { s with rx := .handling s.serdev work }
  | .handling dev work =>
    if ok then
      some { s with
        works := s.works + 1
        work := Function.update s.work s.works work
        refcount := Function.update s.refcount s.works 2
        rx := .allocated s.works }
    else some { s with rx := .noMemory dev }
  | .noMemory _ => some { s with rx := .idle }
  | .allocated i => some { s.setAck i .queued with rx := .acked i }
  | .acked i =>
    let event := (s.work i).event
    let delay := match (s.slotOf event.rqid).delay with
      | some delayFn => delayFn event
      | none => 0
    some { s with rx := .delayed i delay }
  | .delayed i delay =>
    if delay = surfaceSamSshEventImmediate then
      some { s.setEvt i (.running .inline (.entered s.serdev)) with rx := .inline i }
    else some { s.setEvt i (if delay = 0 then .queued else .timer) with rx := .idle }
  | .inline i => if (s.evt i).isDone then some { s with rx := .idle } else none

def ackStep (s : SshLife) (i : ℕ) (status : ℤ) : Option SshLife :=
  match s.ack i with
  | .unqueued | .done => none
  | .queued =>
    -- `queue_ack` has a single worker
    if ∀ j < i, s.ack j = .done then some (s.setAck i (.entered s.serdev)) else none
  | .entered dev => some (s.setAck i (if s.state = .initialized then .checked dev else .handled))
  | .checked dev => some (s.setAck i (.debugging dev s.serdev))
  | .debugging dev _ => some (s.setAck i (.debugged dev))
  | .debugged dev => some (s.setAck i (.writing dev s.serdev))
  | .writing dev _ => some (s.setAck i (if 0 ≤ status then .handled else .failed dev))
  | .failed _ => some (s.setAck i .handled)
  | .handled => some ((s.put i).setAck i .done)

def evtHandlerStep (E : HandlerEnv) (s : SshLife) (i : ℕ) (status : ℤ) (c : EvtContext) :
    EvtPc → Option SshLife
  | .entered dev =>
    some (s.setEvt i (.running c (.fetched dev (s.slotOf (s.work i).event.rqid))))
  | .fetched dev slot =>
    match slot.handler with
    | some fn => some (s.setEvt i (.running c (.called dev slot (E.rqsts fn (s.work i).event))))
    | none => some (s.setEvt i (.running c (.unhandled dev)))
  | .unhandled _ => some (s.setEvt i (.running c .handled))
  | .called dev slot (n + 1) => some (s.setEvt i (.running c (.waiting dev slot n)))
  | .waiting dev slot n =>
    if s.lock = none then
      some { s.setEvt i (.running c (.locked dev slot n)) with lock := some (.handler i) }
    else none
  | .locked dev slot n =>
    -- the request waits for `receiver.lock`, for ever if the callback itself makes it
    if s.state = .initialized ∧ s.rx.holdsReceiver = true then none
    else some { s.setEvt i (.running c (.called dev slot n)) with lock := none }
  | .called dev _ 0 =>
    some (s.setEvt i (.running c (if status = 0 then .handled else .failed dev)))
  | .failed _ => some (s.setEvt i (.running c .handled))
  | .handled => some ((s.put i).setEvt i .done)

def evtStep (E : HandlerEnv) (s : SshLife) (i : ℕ) (status : ℤ) : Option SshLife :=
  match s.evt i with
  | .unqueued | .timer | .refused | .done => none
  | .queued => some (s.setEvt i (.running .worker (.entered s.serdev)))
  | .running c pc => s.evtHandlerStep E i status c pc

def timerStep (s : SshLife) (i : ℕ) : Option SshLife :=
  match s.evt i with
  | .timer => some (s.setEvt i (if s.remove.evtClosed then .refused else .queued))
  | _ => none

/-- What a call does with the EC once it has found it initialized. -/
def perform (s : SshLife) : Call → SshLife
  | .setDelayedEventHandler rqid fn delay data =>
    { s with
      handler := Function.update s.handler (rqid - 1).toNat ⟨⟨delay⟩, fn, data, s.regs⟩
      regs := s.regs + 1 }
  | .removeEventHandler rqid =>
    { s with handler := Function.update s.handler (rqid - 1).toNat .null }
  | .rqst | .rqstWrite _ => s
  | .suspend => { s with state := .suspended }
  | .resume => { s with state := .initialized }

def performed (s : SshLife) : Call → CallerStage
  | .removeEventHandler rqid => .cleared (s.slotOf rqid).reg
  | call => .leaving call

def callerStep (s : SshLife) (k : ℕ) : Option SshLife :=
  match s.caller k with
  | .entered call => some (s.setCaller k (if call.rejected then .returned else .waiting call))
  | .waiting call =>
    if s.lock = none then some { s.setCaller k (.locked call) with lock := some (.caller k) }
    else none
  | .locked call =>
    if s.state = .uninitialized then some (s.setCaller k (.leaving call))
    else if call.sends s.state = true ∧ s.rx.holdsReceiver = true then none
    else some ((s.perform call).setCaller k (s.performed call))
  | .leaving _ => some { s.setCaller k .returned with lock := none }
  | .cleared reg => some { s.setCaller k (.unlocked reg) with lock := none }
  | .unlocked reg => some (s.setCaller k (.flushing reg fun i => (s.evt i).onQueue))
  | .flushing reg items =>
    if ∀ i < s.works, items i = true → (s.evt i).isDone = true then
      some { s.setCaller k .returned with removed := reg :: s.removed }
    else none
  | .returned => none

def callStep (s : SshLife) (call : Call) : Option SshLife :=
  if call.isRqstWrite = true ∧ s.attr = false then none
  else some { s.setCaller s.callers (.entered call) with callers := s.callers + 1 }

def removeStep (s : SshLife) : Option SshLife :=
  match s.remove with
  | .idle => some { s with remove := .waiting }
  | .waiting =>
    if s.lock = none then some { s with remove := .locked, lock := some .remove } else none
  | .locked =>
    if s.state = .uninitialized then some { s with remove := .refused, lock := none }
    else some { s with remove := .sysfsUnregister, attr := false }
  | .sysfsUnregister =>
    if ∀ k < s.callers, (s.caller k).inSysfs = false then
      some { s with remove := .suspendRestart }
    else none
  | .suspendRestart =>
    if s.rx.holdsReceiver then none else some { s with remove := .suspendDiscard }
  | .suspendDiscard =>
    if s.rx.holdsReceiver then none
    else some { s with remove := .flushAck fun i => (s.ack i).onQueue }
  | .flushAck items =>
    if ∀ i < s.works, items i = true → s.ack i = .done then
      some { s with remove := .flushEvt fun i => (s.evt i).onQueue }
    else none
  | .flushEvt items =>
    if ∀ i < s.works, items i = true → (s.evt i).isDone = true then
      some { s with remove := .flushed }
    else none
  | .flushed => some { s with remove := .cleared, handler := fun _ => .null }
  | .cleared => some { s with remove := .uninitialized, state := .uninitialized }
  | .uninitialized => some { s with remove := .detached, serdev := none }
  | .detached => some { s with remove := .reflushAck fun i => (s.ack i).onQueue }
  | .reflushAck items =>
    if ∀ i < s.works, items i = true → s.ack i = .done then
      some { s with remove := .reflushEvt fun i => (s.evt i).onQueue }
    else none
  | .reflushEvt items =>
    if ∀ i < s.works, items i = true → (s.evt i).isDone = true then
      some { s with remove := .close }
    else none
  | .close =>
    match s.rx with
    | .idle => some { s with remove := .destroyAck, port := false }
    | _ => none
  | .destroyAck =>
    if ∀ i < s.works, (s.ack i).onQueue = false then some { s with remove := .destroyEvt }
    else none
  | .destroyEvt =>
    if ∀ i < s.works, (s.evt i).onQueue = false then some { s with remove := .destroyed }
    else none
  -- the port is closed, so that nobody has `receiver.lock`
  | .destroyed => some { s with remove := .returned, lock := none }
  | .returned | .refused => none

def receiveStep (s : SshLife) (input : RxInput) : Option SshLife :=
  match s.port, s.rx with
  | true, .idle => some { s with rx := .evaluating s.serdev input }
  | _, _ => none

end SshLife

/-! ### The system -/

inductive LifeAct where
  | receive (input : RxInput)
  /-- `ok` is the outcome of `kzalloc`. -/
  | rx (ok : Bool)
  | timer (i : ℕ)
  /-- `status` is the result of the write. -/
  | ack (i : ℕ) (status : ℤ)
  /-- `status` is the result of the handler. -/
  | evt (i : ℕ) (status : ℤ)
  | call (call : Call)
  | caller (k : ℕ)
  | remove

/-- A step of the receive callback, of a timer or of a work item. -/
def LifeAct.ofItem : LifeAct → Bool
  | receive _ | rx _ | timer _ | ack .. | evt .. => true
  | _ => false

def LifeAct.step (E : HandlerEnv) : Machine SshLife LifeAct
  | s, .receive input => s.receiveStep input
  | s, .rx ok => s.rxStep ok
  | s, .timer i => s.timerStep i
  | s, .ack i status => s.ackStep i status
  | s, .evt i status => s.evtStep E i status
  | s, .call c => s.callStep c
  | s, .caller k => s.callerStep k
  | s, .remove => s.removeStep

/-! ### Pieces of runs -/

namespace LifeAct

/-- `n` steps of a thread. -/
def times (n : ℕ) (a : LifeAct) : List LifeAct := List.replicate n a

/-- An event comes in, and the receive callback hands its event part over. -/
def dispatch (work : SshEventWork) : List LifeAct := .receive (.event work) :: times 5 (.rx true)

/-- A whole call, by the caller `k`. -/
def wholeCall (c : Call) (k : ℕ) : List LifeAct := .call c :: times 4 (.caller k)

end LifeAct

end SurfaceSam
