import SurfaceSam.Devlib.Trace
import SurfaceSam.Ec.Device
import SurfaceSam.Lifecycle.WorkItems
import SurfaceSam.Ssh.Encoding

/-!
# The use of a work item

An event is dispatched, acknowledged and handled by three threads that share its work
item. In every run in which they go on, each of them uses the item once, and it is freed
once, after its last use.
-/

namespace SurfaceSam

open Devlib

/-! ### Observations -/

/-- What a step does for the event of a work item, or with `ec->events.handler`. -/
inductive ItemObs where
  /-- `ssh_handle_event` has filled in the item that it got from `kzalloc`. -/
  | alloc (i : ℕ) (work : SshEventWork)
  /-- It reads the table entry `index` for the delay. -/
  | delay (i index : ℕ)
  /-- The ACK worker loads `ec->state`. -/
  | check (i : ℕ) (state : SshEcState)
  /-- The ACK worker calls `serdev_device_write` with the ACK for `seq`. -/
  | ack (i : ℕ) (serdev : KPtr) (seq : UInt8)
  /-- The event part reads the table entry `index` for the handler and its data. -/
  | fetch (i index : ℕ)
  | call (i fn : ℕ) (data : KPtr) (event : SurfaceSamSshEvent)

namespace SshLife

def obs (s : SshLife) : LifeAct → Option ItemObs
  | .rx ok =>
    match s.rx with
    | .handling _ work => if ok then some (.alloc s.works work) else none
    | .acked i => some (.delay i ((s.work i).event.rqid - 1).toNat)
    | _ => none
  | .ack i _ =>
    match s.ack i with
    | .entered _ => some (.check i s.state)
    | .writing _ serdev => some (.ack i serdev (s.work i).seq)
    | _ => none
  | .evt i _ =>
    match s.evt i with
    | .running _ (.entered _) => some (.fetch i ((s.work i).event.rqid - 1).toNat)
    | .running _ (.fetched _ slot) =>
      match slot.handler with
      | some fn => some (.call i fn slot.data (s.work i).event)
      | none => none
    | _ => none
  | _ => none

/-- A step that may read or write the work item `i`: any step of its timer, of its two
parts, and of the receive callback as long as the event part is not handed over. -/
def uses (s : SshLife) (i : ℕ) : LifeAct → Bool
  | .rx _ => s.rx.preparing = some i
  | .timer j | .ack j _ | .evt j _ => j = i
  | _ => false

end SshLife

/-- An evaluation on the receive path hands the event over. -/
def SshEventWork.Dispatched (D : SshEnv) (work : SshEventWork) : Prop :=
  ∃ ec mem size, (sshEval D ec mem size).2.events.queueAck = ec.events.queueAck ++ [work]

def RxInput.Dispatched (D : SshEnv) : RxInput → Prop
  | .quiet | .logged => True
  | .event work => work.Dispatched D

/-- The events that come in are the ones that the receive path hands over. -/
def LifeAct.Dispatched (D : SshEnv) : LifeAct → Prop
  | .receive input => input.Dispatched D
  | _ => True

/-- Only messages with an event id are handed over. -/
lemma SshEventWork.Dispatched.isEvent {D : SshEnv} {work : SshEventWork} (h : work.Dispatched D) :
    samRqidIsEvent work.event.rqid = true := by
  obtain ⟨ec, mem, size, hqueue⟩ := h
  have hstep := sshEval_step D ec mem size
  generalize (sshEval D ec mem size).2 = ec' at hstep hqueue
  have hsame (h : ec'.events.queueAck = ec.events.queueAck) : False := by
    have hlen := congrArg List.length (h.symm.trans hqueue)
    rw [List.length_append, List.length_singleton] at hlen
    omega
  cases hstep with
  | event hcmd hevent =>
    rw [SamSshEc.queueAck_dispatch] at hqueue
    split at hqueue
    · have hwork := List.append_cancel_left hqueue
      rw [← List.head_eq_of_cons_eq hwork]
      exact hevent
    · have hlen := congrArg List.length hqueue
      rw [List.length_append, List.length_singleton] at hlen
      omega
  | _ => exact (hsame rfl).elim

/-- The runs of the driver after its probe. -/
abbrev LifeTrace (D : SshEnv) (E : HandlerEnv) :=
  Machine.Trace (LifeAct.step E) (fun _ a => a.Dispatched D) SshLife.probed

/-! ### How far the parts of an item are -/

/-- What is left of the ACK part. -/
def AckStage.rank : AckStage → ℕ
  | unqueued => 9
  | queued => 8
  | entered _ => 7
  | checked _ => 6
  | debugging .. => 5
  | debugged _ => 4
  | writing .. => 3
  | failed _ => 2
  | handled => 1
  | done => 0

/-- What is left of the event part, apart from the requests of a handler. -/
def EvtStage.rank : EvtStage → ℕ
  | unqueued => 7
  | timer => 6
  | queued | refused => 5
  | running _ (.entered _) => 4
  | running _ (.fetched ..) => 3
  | running _ (.unhandled _) | running _ (.called ..) | running _ (.waiting ..)
  | running _ (.locked ..) => 2
  | running _ (.failed _) | running _ .handled => 1
  | done => 0

/-- What is left of the handler and of the end of the event part. -/
def EvtStage.rest : EvtStage → ℕ
  | running _ (.called _ _ n) => 3 * n
  | running _ (.locked _ _ n) => 3 * n + 1
  | running _ (.waiting _ _ n) => 3 * n + 2
  | running _ (.failed _) => 1
  | _ => 0

/-- The event part has been given to a worker, if its queue takes it, or the receive callback
runs it inline. -/
def EvtStage.started : EvtStage → Bool
  | queued | refused | running .. => true
  | _ => false

def RxStage.rank : RxStage → ℕ
  | allocated _ => 3
  | acked _ => 2
  | delayed .. => 1
  | _ => 0

/-- The event that the receive callback is about to hand over. -/
def RxStage.event : RxStage → Option SshEventWork
  | evaluating _ (.event work) | handling _ work => some work
  | _ => none

lemma AckStage.done_of_rank {stage : AckStage} (h : stage.rank = 0) : stage = .done := by
  cases stage <;> first | rfl | cases h

lemma AckStage.writing_of_rank {stage : AckStage} (h : stage.rank = 3) :
    ∃ dev serdev, stage = .writing dev serdev := by
  cases stage with
  | writing dev serdev => exact ⟨dev, serdev, rfl⟩
  | _ => cases h

lemma AckStage.rank_of_onQueue {stage : AckStage} (h : stage.onQueue = false) :
    stage.rank = 9 ∨ stage = .done := by
  cases stage <;> first | exact .inl rfl | exact .inr rfl | cases h

lemma EvtStage.isDone_iff {stage : EvtStage} : stage.isDone = true ↔ stage.rank = 0 := by
  cases stage with
  | running c pc => cases pc <;> exact iff_of_false nofun nofun
  | done => exact iff_of_true rfl rfl
  | _ => exact iff_of_false nofun nofun

lemma EvtStage.rank_of_not_started {stage : EvtStage} (h : stage.started = false) :
    stage.rank = 7 ∨ stage.isTimer = true ∨ stage.isDone = true := by
  cases stage <;> first | exact .inl rfl | exact .inr (.inl rfl) | exact .inr (.inr rfl) | cases h

namespace SshLife

variable {D : SshEnv} {E : HandlerEnv} {s t : SshLife} {a : LifeAct} {i : ℕ} {status : ℤ}

/-- How a step of the system changes the ACK part of an item: not at all, or the receive
callback queues it, or the part itself makes a step. -/
inductive AckChange (s : SshLife) (a : LifeAct) (t : SshLife) (i : ℕ) : Prop
  | same (heq : t.ack i = s.ack i)
  | submitted (hold : s.ack i = .unqueued) (hnew : t.ack i = .queued)
  | ran (status : ℤ) (ha : a = .ack i status) (hstep : s.ackStep i status = some t)

lemma WorksOk.ackChange (h : s.WorksOk) (hs : a.step E s = some t) (i : ℕ) :
    AckChange s a t i := by
  cases a with
  | receive input =>
    obtain ⟨-, -, rfl⟩ := receiveStep_cases hs
    exact .same rfl
  | rx ok =>
    revert hs
    change s.rxStep ok = some t → _
    fun_cases SshLife.rxStep s ok
    case case8 j hrx =>
      intro ht
      cases ht
      by_cases hij : i = j
      · subst hij
        have hunqueued : s.ack i = .unqueued :=
          (h.item i (h.rx i (by rw [hrx]; rfl))).ack.mpr hrx
        exact .submitted hunqueued ack_setAck
      · exact .same (ack_setAck_of_ne hij)
    all_goals
      intro ht
      cases ht <;> exact .same rfl
  | timer j =>
    obtain ⟨-, stage, -, rfl⟩ := timerStep_cases hs
    exact .same rfl
  | ack j status =>
    by_cases hij : i = j
    · subst hij
      exact .ran status rfl hs
    · cases ackStep_effect hs <;> exact .same (ack_setAck_of_ne hij)
  | evt j status => cases evtStep_effect hs <;> exact .same rfl
  | call c => exact .same (congrFun (callStep_items hs).ack i)
  | caller k => exact .same (congrFun (callerStep_items hs).ack i)
  | remove => exact .same (congrFun (removeStep_items hs).ack i)

/-- A step of the ACK part, stage by stage. -/
inductive AckMove (s : SshLife) : AckStage → AckStage → Prop
  | enter : AckMove s .queued (.entered s.serdev)
  | check (dev : KPtr) :
      AckMove s (.entered dev) (if s.state = .initialized then .checked dev else .handled)
  | debug (dev : KPtr) : AckMove s (.checked dev) (.debugging dev s.serdev)
  | debugged (dev serdev : KPtr) : AckMove s (.debugging dev serdev) (.debugged dev)
  | write (dev : KPtr) : AckMove s (.debugged dev) (.writing dev s.serdev)
  | written (dev serdev : KPtr) : AckMove s (.writing dev serdev) .handled
  | fail (dev serdev : KPtr) : AckMove s (.writing dev serdev) (.failed dev)
  | failed (dev : KPtr) : AckMove s (.failed dev) .handled
  | finish : AckMove s .handled .done

lemma ackStep_stages (h : s.ackStep i status = some t) : AckMove s (s.ack i) (t.ack i) := by
  revert h
  fun_cases ackStep s i status
  case case9 dev serdev hack =>
    intro ht
    cases ht
    rw [hack, ack_setAck]
    split
    · exact .written dev serdev
    · exact .fail dev serdev
  all_goals
    intro ht
    cases ht <;> rw [‹s.ack i = _›, ack_setAck] <;> constructor

lemma AckMove.rank_lt {old new : AckStage} (h : AckMove s old new) : new.rank < old.rank := by
  cases h with
  | check dev => split <;> exact Nat.lt_of_sub_eq_succ rfl
  | _ => exact Nat.lt_of_sub_eq_succ rfl

lemma AckChange.rank_le (h : AckChange s a t i) : (t.ack i).rank ≤ (s.ack i).rank := by
  cases h with
  | same heq => rw [heq]
  | submitted hold hnew =>
    rw [hold, hnew]
    exact Nat.le_succ 8
  | ran status ha hstep => exact (ackStep_stages hstep).rank_lt.le

/-- A step of the event part, stage by stage. -/
inductive EvtMove (E : HandlerEnv) (s : SshLife) (event : SurfaceSamSshEvent) :
    EvtStage → EvtStage → Prop
  | start : EvtMove E s event .queued (.running .worker (.entered s.serdev))
  | fetch (c : EvtContext) (dev : KPtr) :
      EvtMove E s event (.running c (.entered dev)) (.running c (.fetched dev (s.slotOf event.rqid)))
  | call (c : EvtContext) (dev : KPtr) (slot : SshEventSlot) (fn : ℕ) :
      EvtMove E s event (.running c (.fetched dev slot))
        (.running c (.called dev slot (E.rqsts fn event)))
  | none (c : EvtContext) (dev : KPtr) (slot : SshEventSlot) :
      EvtMove E s event (.running c (.fetched dev slot)) (.running c (.unhandled dev))
  | warn (c : EvtContext) (dev : KPtr) :
      EvtMove E s event (.running c (.unhandled dev)) (.running c .handled)
  | request (c : EvtContext) (dev : KPtr) (slot : SshEventSlot) (n : ℕ) :
      EvtMove E s event (.running c (.called dev slot (n + 1))) (.running c (.waiting dev slot n))
  | lock (c : EvtContext) (dev : KPtr) (slot : SshEventSlot) (n : ℕ) :
      EvtMove E s event (.running c (.waiting dev slot n)) (.running c (.locked dev slot n))
  | unlock (c : EvtContext) (dev : KPtr) (slot : SshEventSlot) (n : ℕ) :
      EvtMove E s event (.running c (.locked dev slot n)) (.running c (.called dev slot n))
  | returned (c : EvtContext) (dev : KPtr) (slot : SshEventSlot) :
      EvtMove E s event (.running c (.called dev slot 0)) (.running c .handled)
  | fail (c : EvtContext) (dev : KPtr) (slot : SshEventSlot) :
      EvtMove E s event (.running c (.called dev slot 0)) (.running c (.failed dev))
  | failed (c : EvtContext) (dev : KPtr) :
      EvtMove E s event (.running c (.failed dev)) (.running c .handled)
  | finish (c : EvtContext) : EvtMove E s event (.running c .handled) .done

lemma evtHandlerStep_stages {c : EvtContext} {pc : EvtPc}
    (h : s.evtHandlerStep E i status c pc = some t) :
    EvtMove E s (s.work i).event (.running c pc) (t.evt i) := by
  revert h
  fun_cases evtHandlerStep E s i status c pc
  case case10 =>
    intro ht
    cases ht
    rw [evt_setEvt]
    split
    · apply EvtMove.returned
    · apply EvtMove.fail
  all_goals
    intro ht
    cases ht <;> rw [show SshLife.evt _ i = _ from evt_setEvt] <;> constructor

lemma evtStep_stages (h : s.evtStep E i status = some t) :
    EvtMove E s (s.work i).event (s.evt i) (t.evt i) := by
  revert h
  fun_cases evtStep E s i status
  case case5 hevt =>
    intro ht
    cases ht
    rw [hevt, evt_setEvt]
    exact .start
  case case6 c pc hevt =>
    rw [hevt]
    exact evtHandlerStep_stages
  all_goals
    intro ht
    cases ht

/-- The order in which a worker gets on with an event part. -/
def evtOrder : ℕ × ℕ → ℕ × ℕ → Prop := Prod.Lex (· < ·) (· < ·)

lemma evtOrder_wf : WellFounded evtOrder := (Prod.lex Nat.lt_wfRel Nat.lt_wfRel).wf

lemma EvtMove.lt {event : SurfaceSamSshEvent} {old new : EvtStage}
    (h : EvtMove E s event old new) : evtOrder (new.rank, new.rest) (old.rank, old.rest) := by
  cases h with
  | request c dev slot n => exact .right 2 (Nat.lt_succ_self _)
  | lock c dev slot n => exact .right 2 (Nat.lt_succ_self _)
  | unlock c dev slot n => exact .right 2 (Nat.lt_succ_self _)
  | failed c dev => exact .right 1 Nat.zero_lt_one
  | _ => exact .left _ _ (Nat.lt_of_sub_eq_succ rfl)

lemma EvtMove.rank_le {event : SurfaceSamSshEvent} {old new : EvtStage}
    (h : EvtMove E s event old new) : new.rank ≤ old.rank := by
  cases h <;> exact Nat.le_of_sub_eq_zero rfl

lemma EvtChange.rank_le (h : EvtChange E s a t i) : (t.evt i).rank ≤ (s.evt i).rank := by
  cases h with
  | same heq => rw [heq]
  | submitted hold hnew =>
    rw [hold]
    rcases hnew with hnew | hnew | ⟨hnew, -⟩ <;> rw [hnew] <;> exact Nat.le_of_sub_eq_zero rfl
  | fired hold hnew =>
    rw [hold]
    rcases hnew with ⟨-, hnew⟩ | ⟨-, hnew⟩ <;>
    · rw [hnew]
      exact Nat.le_succ 5
  | ran status ha hstep => exact (evtStep_stages hstep).rank_le

lemma AckMove.onQueue {old new : AckStage} (h : AckMove s old new) :
    old.onQueue = true ∧ (new.onQueue = true ∨ new = .done) := by
  cases h with
  | check dev => split <;> exact ⟨rfl, .inl rfl⟩
  | finish => exact ⟨rfl, .inr rfl⟩
  | _ => exact ⟨rfl, .inl rfl⟩

/-- The stages in which an ACK is being sent come from the check of the EC state. -/
lemma AckMove.sending {old new : AckStage} (h : AckMove s old new)
    (hnew : 3 ≤ new.rank ∧ new.rank ≤ 6) :
    3 ≤ old.rank ∧ old.rank ≤ 6 ∨ (∃ dev, old = .entered dev) ∧ s.state = .initialized := by
  cases h with
  | check dev =>
    by_cases hstate : s.state = .initialized
    · exact .inr ⟨⟨dev, rfl⟩, hstate⟩
    · rw [if_neg hstate] at hnew
      exact absurd hnew.1 (by decide)
  | enter => exact absurd hnew.2 (Nat.lt_irrefl 6)
  | finish => exact absurd hnew.1 (by decide)
  | written dev serdev => exact absurd hnew.1 (by decide)
  | fail dev serdev => exact absurd hnew.1 (Nat.lt_irrefl 2)
  | failed dev => exact absurd hnew.1 (by decide)
  | _ => exact .inl ⟨Nat.le_of_sub_eq_zero rfl, Nat.le_of_sub_eq_zero rfl⟩

/-- Behind the check of the EC state there is that check. -/
lemma AckMove.checked {old new : AckStage} (h : AckMove s old new) (hnew : new.rank ≤ 6) :
    old.rank ≤ 6 ∨ ∃ dev, old = .entered dev := by
  cases h with
  | enter => exact absurd hnew (Nat.lt_irrefl 6)
  | check dev => exact .inr ⟨dev, rfl⟩
  | _ => exact .inl (Nat.le_of_sub_eq_zero rfl)

/-- An ACK that is being sent gets to the write. -/
lemma AckMove.to_write {old new : AckStage} (h : AckMove s old new)
    (hold : 4 ≤ old.rank ∧ old.rank ≤ 6) : 3 ≤ new.rank := by
  cases h with
  | enter => exact absurd hold.2 (by decide)
  | check dev => exact absurd hold.2 (Nat.lt_irrefl 6)
  | debug dev => exact Nat.le_of_sub_eq_zero rfl
  | debugged dev serdev => exact Nat.le_of_sub_eq_zero rfl
  | write dev => exact Nat.le_of_sub_eq_zero rfl
  | finish => exact absurd hold.1 (by decide)
  | written dev serdev => exact absurd hold.1 (Nat.lt_irrefl 3)
  | fail dev serdev => exact absurd hold.1 (Nat.lt_irrefl 3)
  | failed dev => exact absurd hold.1 (Nat.not_le_of_lt (Nat.lt_of_sub_eq_succ rfl))

lemma EvtMove.started {event : SurfaceSamSshEvent} {old new : EvtStage}
    (h : EvtMove E s event old new) :
    old.started = true ∧ (new.started = true ∨ new.isDone = true) := by
  cases h with
  | finish c => exact ⟨rfl, .inr rfl⟩
  | _ => exact ⟨rfl, .inl rfl⟩

/-- A fetched handler is the one in the table. -/
lemma EvtMove.fetched {event : SurfaceSamSshEvent} {old new : EvtStage} {c : EvtContext} {dev : KPtr}
    {slot : SshEventSlot} (h : EvtMove E s event old new)
    (hnew : new = .running c (.fetched dev slot)) :
    (∃ c dev, old = .running c (.entered dev)) ∧ slot = s.slotOf event.rqid := by
  cases h with
  | fetch c dev =>
    cases hnew
    exact ⟨⟨c, dev, rfl⟩, rfl⟩
  | _ => cases hnew

/-! ### The receive callback -/

/-- The receive callback gets on with the item that it prepares. -/
lemma rxStep_preparing {ok : Bool} (h : s.rxStep ok = some t) (hrx : s.rx.preparing = some i) :
    t.evt i ≠ .unqueued ∨ t.rx.preparing = some i ∧ t.rx.rank < s.rx.rank := by
  revert h
  fun_cases rxStep s ok
  case case8 j hj =>
    intro ht
    cases ht
    rw [hj] at hrx ⊢
    exact .inr ⟨hrx, Nat.le_refl 3⟩
  case case9 j hj event delay =>
    intro ht
    cases ht
    rw [hj] at hrx ⊢
    exact .inr ⟨hrx, Nat.le_refl 2⟩
  case case10 j hj =>
    intro ht
    cases ht
    rw [hj] at hrx
    cases hrx
    rw [show SshLife.evt _ i = _ from evt_setEvt]
    simp
  case case11 j delay hj hdelay =>
    intro ht
    cases ht
    rw [hj] at hrx
    cases hrx
    rw [show SshLife.evt _ i = _ from evt_setEvt]
    left
    split
    · simp
    · simp
  all_goals
    rw [‹s.rx = _›] at hrx
    cases hrx

/-- Only its own steps change the stage of a receive callback. -/
lemma step_rx (hs : a.step E s = some t) (ha : ∀ ok, a ≠ .rx ok) (hrx : s.rx ≠ .idle) :
    t.rx = s.rx := by
  cases a with
  | receive input => exact absurd (receiveStep_cases hs).2.1 hrx
  | rx ok => exact absurd rfl (ha ok)
  | timer j =>
    obtain ⟨-, stage, -, rfl⟩ := timerStep_cases hs
    rfl
  | ack j status => cases ackStep_effect hs <;> rfl
  | evt j status => cases evtStep_effect hs <;> rfl
  | call c => exact (callStep_items hs).rx
  | caller k => exact (callerStep_items hs).rx
  | remove => exact (removeStep_items hs).rx

/-- Items stay. -/
lemma step_born (hs : a.step E s = some t) (hi : i < s.works) : i < t.works := by
  cases a with
  | receive input =>
    obtain ⟨-, -, rfl⟩ := receiveStep_cases hs
    exact hi
  | rx ok =>
    revert hs
    change s.rxStep ok = some t → _
    fun_cases SshLife.rxStep s ok
    case case5 =>
      intro ht
      cases ht
      exact Nat.lt_succ_of_lt hi
    all_goals
      intro ht
      cases ht <;> exact hi
  | timer j =>
    obtain ⟨-, stage, -, rfl⟩ := timerStep_cases hs
    exact hi
  | ack j status => cases ackStep_effect hs <;> exact hi
  | evt j status => cases evtStep_effect hs <;> exact hi
  | call c => exact Nat.lt_of_lt_of_eq hi (callStep_items hs).works.symm
  | caller k => exact Nat.lt_of_lt_of_eq hi (callerStep_items hs).works.symm
  | remove => exact Nat.lt_of_lt_of_eq hi (removeStep_items hs).works.symm

/-! ### Request ids and the serial device -/

/-- Work items are made for events only. -/
structure EventsOk (s : SshLife) : Prop where
  work : ∀ i < s.works, samRqidIsEvent (s.work i).event.rqid = true
  rx : ∀ work, s.rx.event = some work → samRqidIsEvent work.event.rqid = true

lemma EventsOk.setRx {r : RxStage} (h : s.EventsOk) (hr : ∀ work, r.event = some work →
    samRqidIsEvent work.event.rqid = true) : EventsOk { s with rx := r } := ⟨h.work, hr⟩

lemma EventsOk.of_event_none (hrx : s.rx.event = none)
    (hwork : ∀ i < s.works, samRqidIsEvent (s.work i).event.rqid = true) : s.EventsOk := by
  refine ⟨hwork, fun work h => ?_⟩
  rw [hrx] at h
  cases h

lemma EventsOk.congr (h : s.EventsOk) (hworks : t.works = s.works) (hwork : t.work = s.work)
    (hrx : t.rx = s.rx) : t.EventsOk := by
  constructor
  · rw [hworks, hwork]
    exact h.work
  · rw [hrx]
    exact h.rx

lemma EventsOk.rxStep {ok : Bool} (h : s.EventsOk) (hs : s.rxStep ok = some t) : t.EventsOk := by
  revert hs
  fun_cases SshLife.rxStep s ok
  case case4 dev work hrx =>
    intro ht
    cases ht
    exact h.setRx fun work' hwork => h.rx work' (by rw [hrx]; exact hwork)
  case case5 dev work hrx hok =>
    intro ht
    cases ht
    have hwork := h.rx work (by rw [hrx]; rfl)
    refine .of_event_none rfl fun i hi => ?_
    dsimp only
    by_cases hnew : i = s.works
    · rw [hnew, Function.update_self]
      exact hwork
    · rw [Function.update_of_ne hnew]
      exact h.work i (Nat.lt_of_le_of_ne (Nat.le_of_lt_succ hi) hnew)
  all_goals
    intro ht
    cases ht <;> exact .of_event_none rfl h.work

lemma EventsOk.step (h : s.EventsOk) (ha : a.Dispatched D) (hs : a.step E s = some t) :
    t.EventsOk := by
  cases a with
  | receive input =>
    obtain ⟨-, -, rfl⟩ := receiveStep_cases hs
    apply h.setRx
    cases input with
    | event work =>
      intro work' hwork
      cases hwork
      exact SshEventWork.Dispatched.isEvent ha
    | _ => exact nofun
  | rx ok => exact h.rxStep hs
  | timer j =>
    obtain ⟨-, stage, -, rfl⟩ := timerStep_cases hs
    exact ⟨h.work, h.rx⟩
  | ack j status => cases ackStep_effect hs <;> exact ⟨h.work, h.rx⟩
  | evt j status => cases evtStep_effect hs <;> exact ⟨h.work, h.rx⟩
  | call c => exact h.congr (callStep_items hs).works (callStep_items hs).work (callStep_items hs).rx
  | caller k =>
    exact h.congr (callerStep_items hs).works (callerStep_items hs).work (callerStep_items hs).rx
  | remove =>
    exact h.congr (removeStep_items hs).works (removeStep_items hs).work (removeStep_items hs).rx

/-- The handler table has an entry for every event. -/
lemma EventsOk.index_lt (h : s.EventsOk) (hi : i < s.works) :
    ((s.work i).event.rqid - 1).toNat < samNumEventTypes := by
  have hevent := (samRqidIsEvent_iff _).mp (h.work i hi)
  have hone : (1 : UInt16) ≤ (s.work i).event.rqid := UInt16.le_iff_toNat_le.mpr hevent.1
  rw [UInt16.toNat_sub_of_le _ _ hone]
  change _ - 1 < 31
  omega

/-- The EC keeps its serial device or loses it. -/
lemma step_serdev (hs : a.step E s = some t) : t.serdev = s.serdev ∨ t.serdev = none := by
  cases a with
  | call c =>
    obtain ⟨-, rfl⟩ := callStep_cases hs
    exact .inl rfl
  | caller k =>
    left
    revert hs
    change s.callerStep k = some t → _
    fun_cases SshLife.callerStep s k
    case case6 call hcall hinit hreceiver =>
      intro ht
      cases ht
      cases call <;> rfl
    all_goals
      intro ht
      cases ht <;> rfl
  | remove =>
    revert hs
    change s.removeStep = some t → _
    fun_cases SshLife.removeStep s
    all_goals
      intro ht
      cases ht <;> first | exact .inl rfl | exact .inr rfl
  | _ => exact .inl (step_ec rfl hs).serdev

/-- An ACK goes to the serial device of the EC, as long as it has one. -/
def SerdevLoaded (s : SshLife) : Prop :=
  ∀ i dev serdev, s.ack i = .writing dev serdev → s.serdev ≠ none → serdev = s.serdev

lemma SerdevLoaded.step (hw : s.WorksOk) (h : s.SerdevLoaded) (hs : a.step E s = some t) :
    t.SerdevLoaded := by
  intro i dev serdev hwriting hpresent
  have hserdev : t.serdev = s.serdev := (step_serdev hs).resolve_right hpresent
  rw [hserdev] at hpresent ⊢
  cases hw.ackChange hs i with
  | same heq => exact h i dev serdev (heq.symm.trans hwriting) hpresent
  | submitted hold hnew =>
    rw [hnew] at hwriting
    cases hwriting
  | ran status ha hstep =>
    have hmove := ackStep_stages hstep
    rw [hwriting] at hmove
    generalize hold : s.ack i = old at hmove
    generalize hnew : AckStage.writing dev serdev = new at hmove
    cases hmove with
    | check dev => split at hnew <;> cases hnew
    | write dev =>
      cases hnew
      rfl
    | _ => cases hnew

end SshLife

end SurfaceSam
