import SurfaceSam.Devlib.WaitQueue
import SurfaceSam.Dtx.Clients
import SurfaceSam.Dtx.ClientList
import SurfaceSam.Dtx.ReadOutcomes

/-!
# The wait queue of the detachment device

Reads and polls with the queue they wait on, step by step, and the wake-ups that are still to
come when an event has been pushed or the driver is unbound. Below the waits is the system
without a queue: a run of this one is a run of that.
-/

namespace SurfaceSam

open Devlib

def epollin : UInt32 := 0x001
def epollout : UInt32 := 0x004
def epollerr : UInt32 := 0x008
def epollhup : UInt32 := 0x010
def epollrdnorm : UInt32 := 0x040
def epollwrnorm : UInt32 := 0x100

namespace DtxSystem

/-- The mask that `surface_dtx_poll` returns. -/
def surfaceDtxPoll (client : ℕ) (s : DtxSystem) : UInt32 :=
  let mask := if s.dev.active then epollout ||| epollwrnorm else epollhup ||| epollerr
  if (s.ring client).isEmpty then mask else mask ||| epollin ||| epollrdnorm

end DtxSystem

/-- Who waits: a call of `surface_dtx_read`, or a poll. -/
inductive DtxWaiter where
  | read (r : ℕ)
  | poll (p : ℕ)
  deriving DecidableEq

/-- The entry of a read leaves the queue as it is woken, the one of a poll stays. -/
def DtxWaiter.autoremove : DtxWaiter → Bool
  | read _ => true
  | poll _ => false

/-- A poll of one file for some events, and what it has returned. -/
structure PollCall where
  client : ℕ
  events : UInt32
  returned : Option UInt32

/-- Errors are reported in any case. -/
def PollCall.filter (call : PollCall) : UInt32 := call.events ||| epollerr ||| epollhup

/-- `woken` tells which pushes have come to their wake-up; in `removing` the driver has been
unbound and its wake-up is to come. -/
structure DtxWaitSystem where
  sys : DtxSystem
  waitq : WaitQueue DtxWaiter
  polls : ℕ → Option PollCall
  nextPoll : ℕ
  woken : ℕ → Bool
  removing : Bool

/-- A wake-up goes through its loop for a number of `rounds`. -/
inductive DtxWaitAction where
  | sys (a : DtxAction)
  | wakePushed (p rounds : ℕ)
  | wakeRemoved (rounds : ℕ)
  | poll (c : ℕ) (events : UInt32) (interrupted : Bool)
  | prepare (w : DtxWaiter) (interrupted : Bool)
  | test (w : DtxWaiter)
  | resume (w : DtxWaiter)
  | interrupt (w : DtxWaiter)

namespace DtxWaitSystem

def static : DtxWaitSystem := ⟨.static, .empty, fun _ => none, 0, fun _ => false, false⟩

/-- A read is at `wait_event_interruptible`. -/
def isWaiting (s : DtxWaitSystem) (r : ℕ) : Bool :=
  (s.sys.reads r).any fun call => call.stage == .waiting

def isPolling (s : DtxWaitSystem) (client p : ℕ) : Bool :=
  (s.polls p).any fun call => call.client == client && call.returned.isNone

/-- The call is in its wait. -/
def waits (s : DtxWaitSystem) : DtxWaiter → Bool
  | .read r => s.isWaiting r
  | .poll p => (s.polls p).any fun call => call.returned.isNone

/-- The condition that it waits for. -/
def ready (s : DtxWaitSystem) : DtxWaiter → Bool
  | .read r => (s.sys.reads r).any fun call =>
    !(s.sys.ring call.client).isEmpty || !s.sys.dev.active
  | .poll p => (s.polls p).any fun call => s.sys.surfaceDtxPoll call.client &&& call.filter != 0

/-- The waits make the steps of a read at its wait. A file that is polled is not released, and
the driver is not bound or unbound while it is being unbound. -/
def allows (s : DtxWaitSystem) : DtxAction → Bool
  | .readStep r _ _ => !s.isWaiting r
  | .release c => !(List.range s.nextPoll).any (s.isPolling c)
  | .probe _ => !s.removing
  | .remove => !s.removing
  | _ => true

/-- The action gets to `init_waitqueue_head`. -/
def initializes (s : DtxWaitSystem) : DtxAction → Bool
  | .probe env => s.sys.dev.initializesList env
  | _ => false

/-- The action marks the device as inactive. -/
def removes (s : DtxWaitSystem) : DtxAction → Bool
  | .remove => s.sys.dev.active
  | _ => false

def sysStep (a : DtxAction) (s : DtxWaitSystem) : Option DtxWaitSystem :=
  if s.allows a then (s.sys.step a).map fun sys => { s with
    sys := sys
    waitq := if s.initializes a then s.waitq.initHead else s.waitq
    removing := s.removing || s.removes a }
  else none

def setPoll (p : ℕ) (call : PollCall) (s : DtxWaitSystem) : DtxWaitSystem :=
  { s with polls := Function.update s.polls p (some call) }

/-- The wait is over: its condition holds, or it has been interrupted. -/
def leave (w : DtxWaiter) (interrupted : Bool) (s : DtxWaitSystem) : Option DtxWaitSystem :=
  match w with
  | .read r =>
    (s.sys.readStep r (if interrupted then -erestartsys else 0) true).map fun sys =>
      { s with sys := sys }
  | .poll p => (s.polls p).map fun call => s.setPoll p { call with
      returned := some (s.sys.surfaceDtxPoll call.client &&& call.filter) }

/-- The entry is taken off the queue, unless a read has done so when it was interrupted. -/
def finish (w : DtxWaiter) (interrupted : Bool) (s : DtxWaitSystem) :
    Option (WaitQueue DtxWaiter) :=
  match w with
  | .read _ =>
    if interrupted && !s.ready w then some (s.waitq.setTask w .idle) else s.waitq.finishWait w
  | .poll _ => s.waitq.removeWaitQueue w

/-- The test of the condition that a read makes before it waits. -/
def enter (w : DtxWaiter) (s : DtxWaitSystem) : Option DtxWaitSystem :=
  match w with
  | .read r =>
    if s.isWaiting r then
      if s.ready w then s.leave w false
      else (s.waitq.initWaitEntry w).map fun waitq => { s with waitq := waitq }
    else none
  | .poll _ => none

/-- The test of the condition, before the wait and in every round of it. -/
def test (w : DtxWaiter) (s : DtxWaitSystem) : Option DtxWaitSystem :=
  match (s.waitq w).stage with
  | .out => s.enter w
  | .prepared interrupted =>
    if s.ready w || interrupted then
      (s.finish w interrupted).bind fun waitq => { s with waitq := waitq }.leave w interrupted
    else some { s with waitq := s.waitq.setTask w (s.waitq w).sleep }
  | _ => none

/-- A poll has been on the queue since it began. -/
def prepare (w : DtxWaiter) (interrupted : Bool) (s : DtxWaitSystem) :
    Option (WaitQueue DtxWaiter) :=
  match w with
  | .read _ => s.waitq.prepareToWaitEvent w interrupted
  | .poll _ => some (s.waitq.setTask w (.prepare interrupted))

/-- `wake_up_interruptible(&ddev->waitq)`. -/
def wakeUp (rounds : ℕ) (s : DtxWaitSystem) : Option DtxWaitSystem :=
  (s.waitq.wakeUp DtxWaiter.autoremove rounds).map fun waitq => { s with waitq := waitq }

/-- The loop of the push is over, and its wake-up is to come. -/
def pushed (s : DtxWaitSystem) (p : ℕ) : Bool :=
  (s.sys.pushes p).any fun call => call.cursor.isNone && !s.woken p

def step (s : DtxWaitSystem) : DtxWaitAction → Option DtxWaitSystem
  | .sys a => s.sysStep a
  | .wakePushed p rounds =>
    if s.pushed p then
      (s.wakeUp rounds).map fun t => { t with woken := Function.update t.woken p true }
    else none
  | .wakeRemoved rounds =>
    if s.removing then (s.wakeUp rounds).map fun t => { t with removing := false } else none
  | .poll c events interrupted =>
    -- `poll_wait` comes first in `surface_dtx_poll`
    if c ∈ s.sys.clients then
      (s.waitq.addWaitQueue (.poll s.nextPoll) interrupted).map fun waitq =>
        { s.setPoll s.nextPoll ⟨c, events, none⟩ with waitq := waitq, nextPoll := s.nextPoll + 1 }
    else none
  | .prepare w interrupted =>
    if (s.waitq w).stage = .entering then
      (s.prepare w interrupted).map fun waitq => { s with waitq := waitq }
    else none
  | .test w => s.test w
  | .resume w =>
    if (s.waitq w).stage = .asleep ∧ (s.waitq w).running = true then
      some { s with waitq := s.waitq.setTask w (s.waitq w).enter }
    else none
  | .interrupt w =>
    if (s.waitq w).stage = .asleep then
      some { s with waitq := s.waitq.setTask w (s.waitq w).wake }
    else none

/-- A wake-up is to come: of a push that is under way, or because the driver is unbound. -/
def WakeDue (s : DtxWaitSystem) : Prop :=
  s.removing = true ∨ ∃ p < s.sys.nextPush, s.woken p = false

instance (s : DtxWaitSystem) : Decidable s.WakeDue := inferInstanceAs (Decidable (_ ∨ _))

/-- A probe that gets as far as setting up the list and the queue does so while no file is
open. -/
def keeps (s : DtxWaitSystem) : DtxWaitAction → Bool
  | .sys a => a.keepsList s.sys
  | _ => true

end DtxWaitSystem

end SurfaceSam
