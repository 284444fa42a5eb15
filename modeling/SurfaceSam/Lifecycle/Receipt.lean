import SurfaceSam.Lifecycle.WorkItems
import SurfaceSam.Ssh.Evaluation

/-!
# Receipt of an event

`ssh_handle_event` is one evaluation for the receiver, and several steps for the driver as
a whole. Undisturbed, the steps do what the evaluation does.
-/

namespace SurfaceSam

open Devlib

/-- The stage of an event part that has been handed over with this delay. -/
def EvtStage.handedOver (serdev : KPtr) (delay : ℕ) : EvtStage :=
  if delay = surfaceSamSshEventImmediate then .running .inline (.entered serdev)
  else if delay = 0 then .queued else .timer

/-- The receive callback gets an event; `ok` is the outcome of `kzalloc`. -/
def LifeAct.receipt (work : SshEventWork) (ok : Bool) : List LifeAct :=
  if ok then LifeAct.dispatch work
  else .receive (.event work) :: LifeAct.times 3 (.rx false)

namespace SshLife

variable {H : HandlerEnv} {s : SshLife} {ec : SamSshEc} {work : SshEventWork}

/-- The driver and the EC of the receive path have the same delay functions and events. -/
structure Agree (s : SshLife) (ec : SamSshEc) : Prop where
  handler : ∀ n, (s.handler n).toSshEventHandler = ec.events.handler n
  works : (List.range s.works).map s.work = ec.events.queueAck

/-- The item that the receive callback has got from `kzalloc`. -/
def alloc (s : SshLife) (work : SshEventWork) : SshLife :=
  { s with
    works := s.works + 1
    work := Function.update s.work s.works work
    refcount := Function.update s.refcount s.works 2 }

lemma works_alloc : (List.range (s.alloc work).works).map (s.alloc work).work =
    (List.range s.works).map s.work ++ [work] := by
  have hold : (List.range s.works).map (Function.update s.work s.works work) =
      (List.range s.works).map s.work := by
    apply List.map_congr_left
    intro i hi
    exact Function.update_of_ne (Nat.ne_of_lt (List.mem_range.mp hi)) ..
  change (List.range (s.works + 1)).map (Function.update s.work s.works work) = _
  rw [List.range_succ, List.map_append, hold, List.map_singleton, Function.update_self]

/-- The delay that the handler table says for an event. -/
def delayOf (s : SshLife) (event : SurfaceSamSshEvent) : ℕ :=
  match (s.slotOf event.rqid).delay with
  | some delayFn => delayFn event
  | none => 0

lemma Agree.delayOf (h : s.Agree ec) (event : SurfaceSamSshEvent) :
    s.delayOf event = ec.delayOf event := by
  unfold SshLife.delayOf slotOf
  rw [h.handler]
  rfl

/-- The item has been allocated, its ACK part is queued, and its delay is known. -/
def prepared (s : SshLife) (work : SshEventWork) : SshLife :=
  { (s.alloc work).setAck s.works .queued with rx := .delayed s.works (s.delayOf work.event) }

lemma receiveStep_idle {input : RxInput} (hport : s.port = true) (hrx : s.rx = .idle) :
    s.receiveStep input = some { s with rx := .evaluating s.serdev input } := by
  unfold receiveStep
  rw [hport, hrx]

/-- The receive callback up to the point where it hands over the event part. -/
lemma run_prepared (hport : s.port = true) (hrx : s.rx = .idle) :
    Machine.run (LifeAct.step H) s (.receive (.event work) :: LifeAct.times 4 (.rx true)) =
      some (s.prepared work) := by
  have hitem : (s.alloc work).work s.works = work := Function.update_self ..
  calc Machine.run (LifeAct.step H) s (.receive (.event work) :: LifeAct.times 4 (.rx true))
      = (s.receiveStep (.event work)).bind fun t =>
          Machine.run (LifeAct.step H) t (LifeAct.times 4 (.rx true)) := rfl
    _ = some { (s.alloc work).setAck s.works .queued with
          rx := .delayed s.works (s.delayOf ((s.alloc work).work s.works).event) } := by
        rw [receiveStep_idle hport hrx]
        rfl
    _ = some (s.prepared work) := by
        rw [hitem]
        rfl

/-- The event part is handed over with the delay that the table says. -/
lemma rxStep_delayed {i delay : ℕ} (hrx : s.rx = .delayed i delay) :
    ∃ t, s.rxStep true = some t ∧ t.evt i = .handedOver s.serdev delay ∧ t.ack = s.ack ∧
      t.handler = s.handler ∧ t.works = s.works ∧ t.work = s.work := by
  unfold rxStep EvtStage.handedOver
  rw [hrx]
  dsimp only
  by_cases hdelay : delay = surfaceSamSshEventImmediate
  · rw [if_pos hdelay, if_pos hdelay]
    exact ⟨_, rfl, evt_setEvt, rfl, rfl, rfl, rfl⟩
  · rw [if_neg hdelay, if_neg hdelay]
    exact ⟨_, rfl, evt_setEvt, rfl, rfl, rfl, rfl⟩

end SshLife

open SshLife LifeAct in
/-- An event that the receive callback gets while nothing else happens is treated as
`ssh_handle_event` treats it on the receive path: it becomes the next work item, its ACK
part is queued, and its event part goes where its delay says; or it is dropped. -/
theorem receipt_dispatch (E : SshEnv) (H : HandlerEnv) (ec : SamSshEc) (s : SshLife)
    (work : SshEventWork) (h : s.Agree ec) (hport : s.port = true) (hrx : s.rx = .idle) :
    ∃ t, Machine.run (LifeAct.step H) s (receipt work (E.kzalloc ec.events.allocs)) = some t ∧
      t.Agree (ec.dispatch E work) ∧
      (E.kzalloc ec.events.allocs = true → t.ack s.works = .queued ∧
        t.evt s.works = .handedOver s.serdev (ec.delayOf work.event)) := by
  have hqueue := ec.queueAck_dispatch (E := E) work
  have hhandler := ec.handler_dispatch (E := E) work
  by_cases halloc : E.kzalloc ec.events.allocs = true
  · rw [if_pos halloc] at hqueue
    obtain ⟨t, ht, hevt, hack, hhandlers, hworks, hwork⟩ :=
      rxStep_delayed (s := s.prepared work) rfl
    refine ⟨t, ?_, ⟨fun n => ?_, ?_⟩, fun _ => ⟨?_, ?_⟩⟩
    · rw [halloc]
      change Machine.run _ s ((.receive (.event work) :: times 4 (.rx true)) ++ [.rx true]) = _
      rw [Machine.run_append, run_prepared hport hrx, Option.bind_some]
      change ((s.prepared work).rxStep true).bind _ = some t
      rw [ht]
      rfl
    · rw [hhandlers, hhandler]
      exact h.handler n
    · rw [hworks, hwork, hqueue, ← h.works]
      exact works_alloc
    · rw [hack]
      exact ack_setAck
    · rw [hevt, h.delayOf]
      rfl
  · rw [if_neg halloc] at hqueue
    refine ⟨{ s with rx := .idle }, ?_, ⟨fun n => ?_, ?_⟩, fun h => absurd h halloc⟩
    · rw [eq_false_of_ne_true halloc]
      change (s.receiveStep (.event work)).bind _ = _
      rw [receiveStep_idle hport hrx]
      rfl
    · rw [hhandler]
      exact h.handler n
    · rw [hqueue]
      exact h.works

end SurfaceSam
