import Mathlib.Logic.Function.Basic
import Mathlib.Tactic.Common
import SurfaceSam.Ssh.Protocol

/-!
# Stages of the driver's threads

The receive callback, the work items of events, the callers of the driver and its removal
share `struct sam_ssh_ec`. Each of them is at a stage of its function, named after what it
has done last; a stage keeps what has been loaded up to there.
-/

namespace SurfaceSam

/-- A pointer; `none` is NULL. -/
abbrev KPtr := Option ℕ

inductive SshEcState where
  | uninitialized | initialized | suspended
  deriving DecidableEq, Repr

/-- An entry of `ec->events.handler`; `reg` numbers the registrations, for specifications. -/
structure SshEventSlot extends SshEventHandler where
  handler : KPtr
  data : KPtr
  reg : ℕ

def SshEventSlot.null : SshEventSlot := ⟨⟨none⟩, none, none, 0⟩

/-- How many requests a handler makes for an event. -/
structure HandlerEnv where
  rqsts : ℕ → SurfaceSamSshEvent → ℕ

/-! ### Work items -/

/-- `surface_sam_ssh_event_work_ack_handler`. -/
inductive AckStage where
  | unqueued
  | queued
  | entered (dev : KPtr)
  | checked (dev : KPtr)
  /-- `ec->serdev` has been loaded for `dev_dbg`. -/
  | debugging (dev serdev : KPtr)
  | debugged (dev : KPtr)
  /-- `ec->serdev` has been loaded for `serdev_device_write`. -/
  | writing (dev serdev : KPtr)
  | failed (dev : KPtr)
  | handled
  | done
  deriving DecidableEq

/-- The event part runs on a worker, or inside the receive callback. -/
inductive EvtContext where
  | worker | inline
  deriving DecidableEq

/-- `surface_sam_ssh_event_work_evt_handler`; `called` and what follows it is the handler
with the number of requests it still makes. -/
inductive EvtPc where
  | entered (dev : KPtr)
  | fetched (dev : KPtr) (slot : SshEventSlot)
  | unhandled (dev : KPtr)
  | called (dev : KPtr) (slot : SshEventSlot) (rqsts : ℕ)
  | waiting (dev : KPtr) (slot : SshEventSlot) (rqsts : ℕ)
  | locked (dev : KPtr) (slot : SshEventSlot) (rqsts : ℕ)
  | failed (dev : KPtr)
  | handled

inductive EvtStage where
  | unqueued
  /-- The timer of a delayed item is running. -/
  | timer
  | queued
  | running (context : EvtContext) (pc : EvtPc)
  /-- The timer has fired, but the queue is being destroyed and does not take the item. -/
  | refused
  | done

/-- The item is on the workqueue, or one of its workers runs it. -/
def AckStage.onQueue : AckStage → Bool
  | .unqueued | .done => false
  | _ => true

def EvtStage.onQueue : EvtStage → Bool
  | .queued | .running .worker _ => true
  | _ => false

def EvtStage.isDone : EvtStage → Bool
  | .done => true
  | _ => false

def EvtStage.isTimer : EvtStage → Bool
  | .timer => true
  | _ => false

/-- The receive callback runs the event part, or has run it. -/
def EvtStage.calledInline : EvtStage → Bool
  | .running .inline _ | .done => true
  | _ => false

/-- The handler has been called and has not returned. -/
def EvtStage.inHandler : EvtStage → Bool
  | .running _ (.called ..) | .running _ (.waiting ..) | .running _ (.locked ..) => true
  | _ => false

/-- The handler holds the EC mutex. -/
def EvtStage.holdsLock : EvtStage → Bool
  | .running _ (.locked ..) => true
  | _ => false

/-- The handler waits for the EC mutex. -/
def EvtStage.waitsForLock : EvtStage → Bool
  | .running _ (.waiting ..) => true
  | _ => false

/-- The event part has still to take the EC mutex, if `entry` is its entry in the handler
table and `rqsts` tells how many requests a handler makes for its event. -/
def EvtStage.needsLock (rqsts : SshEventSlot → ℕ) (entry : SshEventSlot) : EvtStage → Bool
  | .queued | .running _ (.entered _) => 0 < rqsts entry
  | .running _ (.fetched _ slot) => 0 < rqsts slot
  | .running _ (.called _ _ n) | .running _ (.locked _ _ n) => 0 < n
  | .running _ (.waiting ..) => true
  | _ => false

lemma EvtStage.needsLock_of_waits {rqsts : SshEventSlot → ℕ} {entry : SshEventSlot}
    {stage : EvtStage} (h : stage.waitsForLock = true) : stage.needsLock rqsts entry = true := by
  cases stage with
  | running c pc => cases pc <;> first | rfl | cases h
  | _ => cases h

/-- The handler that has been fetched and has not returned yet. -/
def EvtPc.slot : EvtPc → Option SshEventSlot
  | .fetched _ slot | .called _ slot _ | .waiting _ slot _ | .locked _ slot _ => some slot
  | _ => none

def SshEventSlot.isReg (slot : SshEventSlot) (reg : ℕ) : Bool :=
  slot.handler.isSome && slot.reg == reg

/-- The handler of the registration is about to be called or running. -/
def EvtStage.invokes (reg : ℕ) : EvtStage → Bool
  | .running _ pc => pc.slot.any (·.isReg reg)
  | _ => false

/-! ### The receive callback -/

/-- What one evaluation of `ssh_receive_buf` comes to: nothing that concerns the rest of
the driver, a log entry, or an event. -/
inductive RxInput where
  | quiet
  | logged
  | event (work : SshEventWork)

/-- `ssh_eval_buf` and `ssh_handle_event`. -/
inductive RxStage where
  | idle
  | evaluating (dev : KPtr) (input : RxInput)
  | handling (dev : KPtr) (work : SshEventWork)
  | noMemory (dev : KPtr)
  | allocated (i : ℕ)
  | acked (i : ℕ)
  | delayed (i delay : ℕ)
  | inline (i : ℕ)

/-- `receiver.lock` is held for as long as the callback runs. -/
def RxStage.holdsReceiver : RxStage → Bool
  | .idle => false
  | _ => true

/-- The item that is not yet with the event queue. -/
def RxStage.preparing : RxStage → Option ℕ
  | .allocated i | .acked i | .delayed i _ => some i
  | _ => none

def RxStage.inlineItem : RxStage → Option ℕ
  | .inline i => some i
  | _ => none

/-- The item whose event part is about to be called inline. -/
def RxStage.immediateItem : RxStage → Option ℕ
  | .delayed i delay => if delay = surfaceSamSshEventImmediate then some i else none
  | _ => none

def RxStage.item : RxStage → Option ℕ
  | .allocated i | .acked i | .delayed i _ | .inline i => some i
  | _ => none

/-! ### Callers -/

/-- The operations that take the EC mutex; `rqst` also stands for the others that only make
a request. `valid` tells whether the input of `rqst_write` passes its checks. -/
inductive Call where
  | setDelayedEventHandler (rqid : UInt16) (fn : KPtr)
      (delay : Option (SurfaceSamSshEvent → ℕ)) (data : KPtr)
  | removeEventHandler (rqid : UInt16)
  | rqst
  | rqstWrite (valid : Bool)
  | suspend
  | resume

/-- The call returns without taking the mutex. -/
def Call.rejected : Call → Bool
  | .setDelayedEventHandler rqid .. => !samRqidIsEvent rqid
  | .removeEventHandler rqid => !samRqidIsEvent rqid
  | .rqstWrite valid => !valid
  | _ => false

def Call.isRqstWrite : Call → Bool
  | .rqstWrite _ => true
  | _ => false

/-- The call makes a request in this state of the EC, for which it takes `receiver.lock`. -/
def Call.sends (state : SshEcState) : Call → Bool
  | .rqst | .rqstWrite _ => state = .initialized
  | .suspend | .resume => true
  | _ => false

inductive CallerStage where
  | entered (call : Call)
  | waiting (call : Call)
  | locked (call : Call)
  | leaving (call : Call)
  /-- `surface_sam_ssh_remove_event_handler` has cleared a registration. -/
  | cleared (reg : ℕ)
  | unlocked (reg : ℕ)
  /-- The flush waits for the items in `items`. -/
  | flushing (reg : ℕ) (items : ℕ → Bool)
  | returned

def CallerStage.holdsLock : CallerStage → Bool
  | .locked _ | .leaving _ | .cleared _ => true
  | _ => false

def CallerStage.waitsForLock : CallerStage → Bool
  | .waiting _ => true
  | _ => false

/-- The caller has not taken the mutex yet. -/
def CallerStage.needsLock : CallerStage → Bool
  | .entered call => !call.rejected
  | .waiting _ => true
  | _ => false

lemma CallerStage.needsLock_of_waits {stage : CallerStage} (h : stage.waitsForLock = true) :
    stage.needsLock = true := by
  cases stage <;> first | rfl | cases h

/-- `rqst_write` is running. -/
def CallerStage.inSysfs : CallerStage → Bool
  | .entered call | .waiting call | .locked call | .leaving call => call.isRqstWrite
  | _ => false

/-- The registration that is being removed. -/
def CallerStage.removing : CallerStage → Option ℕ
  | .cleared reg | .unlocked reg | .flushing reg _ => some reg
  | _ => none

/-- The registration whose flush is going on. -/
def CallerStage.flushed : CallerStage → Option ℕ
  | .flushing reg _ => some reg
  | _ => none

/-! ### Removal of the driver -/

/-- `surface_sam_ssh_remove`; the flushes keep the items they wait for. -/
inductive RemoveStage where
  | idle
  | waiting
  | locked
  | sysfsUnregister
  /-- `surface_sam_ssh_ec_suspend` is about to restart the receiver for its request. -/
  | suspendRestart
  /-- The request is over but for `ssh_receiver_discard`. -/
  | suspendDiscard
  | flushAck (items : ℕ → Bool)
  | flushEvt (items : ℕ → Bool)
  | flushed
  | cleared
  | uninitialized
  | detached
  | reflushAck (items : ℕ → Bool)
  | reflushEvt (items : ℕ → Bool)
  | close
  | destroyAck
  | destroyEvt
  | destroyed
  | returned
  /-- The EC was uninitialized already. -/
  | refused

namespace RemoveStage

/-- The order of the stages. -/
def rank : RemoveStage → ℕ
  | idle | refused => 0
  | waiting => 1
  | locked => 2
  | sysfsUnregister => 3
  | suspendRestart => 4
  | suspendDiscard => 5
  | flushAck _ => 6
  | flushEvt _ => 7
  | flushed => 8
  | cleared => 9
  | uninitialized => 10
  | detached => 11
  | reflushAck _ => 12
  | reflushEvt _ => 13
  | close => 14
  | destroyAck => 15
  | destroyEvt => 16
  | destroyed => 17
  | returned => 18

def holdsLock (r : RemoveStage) : Bool := 2 ≤ r.rank && r.rank ≤ 17

/-- `destroy_workqueue(queue_evt)` has been called. -/
def evtClosed (r : RemoveStage) : Bool := 16 ≤ r.rank

/-- The request to suspend the EC is under way. -/
def inSuspend : RemoveStage → Bool
  | suspendRestart | suspendDiscard => true
  | _ => false

/-- The next step waits for the receive callback: for `receiver.lock`, or in
`serdev_device_close`. -/
def awaitsRx : RemoveStage → Bool
  | suspendRestart | suspendDiscard | close => true
  | _ => false

/-- The next call flushes or destroys `queue_evt`. -/
def drainsEvt : RemoveStage → Bool
  | flushAck _ | reflushAck _ | destroyAck => true
  | _ => false

/-- The items that a flush of `queue_evt` waits for. -/
def flushItems : RemoveStage → ℕ → Bool
  | flushEvt items | reflushEvt items => items
  | _ => fun _ => false

lemma eq_returned {r : RemoveStage} (h : r.rank = 18) : r = .returned := by
  cases r <;> first | rfl | cases h

end RemoveStage

end SurfaceSam
