import SurfaceSam.Lifecycle.Locking

/-!
# Deadlocks of the removal

`surface_sam_ssh_remove` holds the EC mutex while it waits for running `rqst_write` calls,
for the event queue and for the receive callback, which holds `receiver.lock` over the
handlers that it calls. It does not deadlock if nobody it waits for has still to take the
mutex.
-/

namespace SurfaceSam

open Devlib

namespace SshLife

variable {E : HandlerEnv} {s t : SshLife} {i k : ℕ} {status : ℤ} {a : LifeAct}

/-- The removal cannot go on before the party has moved. -/
def WaitsFor (s : SshLife) : Party → Prop
  | .caller k => s.remove = .sysfsUnregister ∧ (s.caller k).inSysfs = true
  | .handler i => s.remove.flushItems i = true ∧ (s.evt i).isDone = false ∨
      s.remove.awaitsRx = true ∧ s.rx = .inline i ∨
      s.remove = .destroyEvt ∧ (s.evt i).onQueue = true
  | .remove => False

def WaitsForLock (s : SshLife) : Party → Prop
  | .caller k => (s.caller k).waitsForLock = true
  | .handler i => (s.evt i).waitsForLock = true
  | .remove => s.remove = .waiting

/-- The removal holds the mutex and waits for a party that waits for the mutex. -/
def Deadlock (s : SshLife) : Prop :=
  s.lock = some .remove ∧ ∃ p, s.WaitsFor p ∧ s.WaitsForLock p

/-! ### Who still needs the mutex -/

/-- The requests that the handler of an entry makes for an event. -/
def slotRqsts (E : HandlerEnv) (event : SurfaceSamSshEvent) (slot : SshEventSlot) : ℕ :=
  match slot.handler with
  | some fn => E.rqsts fn event
  | none => 0

/-- The event part has still to take the mutex, with the handler table as it is. -/
def handlerNeeds (E : HandlerEnv) (s : SshLife) (i : ℕ) : Bool :=
  (s.evt i).needsLock (slotRqsts E (s.work i).event) (s.slotOf (s.work i).event.rqid)

/-- The requests that the handler in the table makes for the event of an item. -/
def tableRqsts (E : HandlerEnv) (s : SshLife) (i : ℕ) : ℕ :=
  slotRqsts E (s.work i).event (s.slotOf (s.work i).event.rqid)

def needsLock (E : HandlerEnv) (s : SshLife) : Party → Bool
  | .caller k => (s.caller k).needsLock
  | .handler i => s.handlerNeeds E i
  | .remove => false

/-- Whatever call the removal makes, nobody it will wait for has still to take the mutex; and
while it suspends the EC, no handler that makes a request is called inline. -/
def LockClear (E : HandlerEnv) (s : SshLife) : LifeAct → Prop
  | .remove =>
    (s.remove.rank = 2 → ∀ k < s.callers, (s.caller k).inSysfs = true →
      (s.caller k).needsLock = false) ∧
    (s.remove.drainsEvt = true → ∀ i < s.works, (s.evt i).onQueue = true →
      s.handlerNeeds E i = false) ∧
    (s.remove.rank = 3 ∨ s.remove.rank = 13 → ∀ i ∈ s.rx.inlineItem, s.handlerNeeds E i = false)
  | .rx _ => s.remove.inSuspend = true → ∀ i ∈ s.rx.immediateItem, s.tableRqsts E i = 0
  | _ => True

instance (s : SshLife) : DecidablePred (s.LockClear E)
  | .remove => inferInstanceAs
      (Decidable ((s.remove.rank = 2 → _) ∧ (s.remove.drainsEvt = true → _) ∧
        (s.remove.rank = 3 ∨ s.remove.rank = 13 → _)))
  | .rx _ => inferInstanceAs (Decidable (s.remove.inSuspend = true → _))
  | .receive _ | .timer _ | .ack _ _ | .evt _ _ | .call _ | .caller _ => .isTrue trivial

lemma handlerNeeds_congr (hevt : t.evt i = s.evt i) (hwork : t.work i = s.work i)
    (hhandler : t.handler = s.handler) : t.handlerNeeds E i = s.handlerNeeds E i := by
  rw [handlerNeeds, handlerNeeds, slotOf, slotOf, hevt, hwork, hhandler]

lemma evtHandlerStep_needs {c : EvtContext} {pc : EvtPc} (hevt : s.evt i = .running c pc)
    (h : s.evtHandlerStep E i status c pc = some t)
    (hi : (t.evt i).needsLock (slotRqsts E (s.work i).event)
      (s.slotOf (s.work i).event.rqid) = true) : s.handlerNeeds E i = true := by
  unfold handlerNeeds
  rw [hevt]
  revert h
  fun_cases evtHandlerStep E s i status c pc
  case case2 dev slot fn hfn =>
    rintro ⟨⟩
    rw [evt_setEvt] at hi
    rw [EvtStage.needsLock, slotRqsts, hfn]
    exact hi
  case case10 dev slot =>
    rintro ⟨⟩
    rw [evt_setEvt] at hi
    split at hi <;> cases hi
  case case5 | case6 =>
    rintro ⟨⟩
    rfl
  all_goals
    rintro ⟨⟩ <;>
    · rw [show SshLife.evt _ i = _ from evt_setEvt] at hi
      first | exact hi | cases hi

/-- An event part needs the mutex after a step only if it did before. -/
lemma evtStep_needs (h : s.evtStep E i status = some t) (hi : t.handlerNeeds E i = true) :
    s.handlerNeeds E i = true := by
  have hhandler := (step_ec (a := .evt i status) rfl h).handler
  rw [handlerNeeds, slotOf, hhandler, (evtStep_effect h).work] at hi
  revert h
  fun_cases evtStep E s i status
  case case5 hevt =>
    rintro ⟨⟩
    rw [evt_setEvt] at hi
    unfold handlerNeeds
    rw [hevt]
    exact hi
  case case6 c pc hevt => exact fun h => evtHandlerStep_needs hevt h hi
  all_goals rintro ⟨⟩

/-! ### Flushes -/

/-- An event part is on its workqueue, or has been. -/
def Started (s : SshLife) (i : ℕ) : Prop :=
  (s.evt i).onQueue = true ∨ (s.evt i).isDone = true

lemma not_started (h : s.evt i = .unqueued ∨ s.evt i = .timer) : ¬ s.Started i := by
  unfold Started
  rcases h with h | h
  · rw [h]
    rintro (h | h) <;> cases h
  · rw [h]
    rintro (h | h) <;> cases h

lemma Started.step (hw : s.WorksOk) (h : s.Started i) (hs : a.step E s = some t) :
    t.Started i := by
  cases hw.evtChange hs i with
  | same heq => rwa [Started, heq]
  | submitted hold hnew => exact absurd h (not_started (.inl hold))
  | fired hold hnew => exact absurd h (not_started (.inr hold))
  | ran status ha hstep =>
    cases evtStep_effect hstep with
    | start hold => exact .inl (congrArg EvtStage.onQueue evt_setEvt)
    | run c pc pc' lock hold =>
      unfold Started at h
      rw [hold] at h
      unfold Started
      rw [show SshLife.evt _ i = _ from evt_setEvt]
      cases c <;> exact h
    | finish c hold => exact .inr (congrArg EvtStage.isDone evt_setEvt)

/-- A flush waits for items that have been queued, and nobody the removal waits for has
still to take the mutex. -/
structure WaitOk (E : HandlerEnv) (s : SshLife) : Prop where
  started : ∀ i, s.remove.flushItems i = true → s.Started i
  clear : ∀ p, s.WaitsFor p → s.needsLock E p = false

/-- A running `rqst_write` was running before, as the attribute is gone. -/
lemma step_inSysfs (hattr : s.attr = false) (hs : a.step E s = some t)
    (hk : (t.caller k).inSysfs = true) : (s.caller k).inSysfs = true ∧
      ((t.caller k).needsLock = true → (s.caller k).needsLock = true) := by
  cases a with
  | call c =>
    obtain ⟨hopen, rfl⟩ := callStep_cases hs
    by_cases hl : k = s.callers
    · rw [hl, show SshLife.caller _ s.callers = _ from caller_setCaller] at hk
      exact absurd ⟨hk, hattr⟩ hopen
    · rw [show SshLife.caller _ k = _ from caller_setCaller_of_ne hl] at hk ⊢
      exact ⟨hk, id⟩
  | caller l =>
    by_cases hl : k = l
    · subst hl
      revert hs
      change s.callerStep k = some t → _
      fun_cases SshLife.callerStep s k
      case case1 call hcaller =>
        rintro ⟨⟩
        rw [caller_setCaller] at hk ⊢
        rw [hcaller]
        by_cases hr : call.rejected = true
        · rw [if_pos hr] at hk
          cases hk
        · rw [if_neg hr] at hk
          exact ⟨hk, fun _ => by rw [CallerStage.needsLock, eq_false_of_ne_true hr]; rfl⟩
      case case6 call hcaller hstate hreceiver =>
        rintro ⟨⟩
        rw [caller_setCaller] at hk ⊢
        rw [hcaller]
        cases call <;> exact ⟨hk, fun h => by cases h⟩
      all_goals
        rintro ⟨⟩ <;>
        · rw [show SshLife.caller _ k = _ from caller_setCaller] at hk ⊢
          rw [‹s.caller k = _›]
          first | exact ⟨hk, fun h => by cases h⟩ | cases hk
    · rw [(callerStep_other hs).1 k hl] at hk ⊢
      exact ⟨hk, id⟩
  | remove =>
    rw [(removeStep_callers hs).2] at hk ⊢
    exact ⟨hk, id⟩
  | _ =>
    rw [(step_ec rfl hs).caller] at hk ⊢
    exact ⟨hk, id⟩

/-- The receive callback gets into an event part by calling it. -/
lemma rx_inline (hs : a.step E s = some t) (hrx : t.rx = .inline i) :
    s.rx = .inline i ∨ (∃ ok, a = .rx ok) ∧ s.rx = .delayed i surfaceSamSshEventImmediate ∧
      ∃ dev, t.evt i = .running .inline (.entered dev) := by
  cases a with
  | receive input =>
    obtain ⟨-, -, rfl⟩ := receiveStep_cases hs
    cases hrx
  | rx ok =>
    revert hs
    change s.rxStep ok = some t → _
    fun_cases SshLife.rxStep s ok
    case case10 hdelayed =>
      rintro ⟨⟩
      cases hrx
      exact .inr ⟨⟨ok, rfl⟩, hdelayed, _, evt_setEvt⟩
    all_goals
      rintro ⟨⟩ <;> cases hrx
  | timer j =>
    obtain ⟨-, stage, -, rfl⟩ := timerStep_cases hs
    exact .inl hrx
  | ack j status => cases ackStep_effect hs <;> exact .inl hrx
  | evt j status => cases evtStep_effect hs <;> exact .inl hrx
  | call c => exact .inl ((callStep_items hs).rx ▸ hrx)
  | caller k => exact .inl ((callerStep_items hs).rx ▸ hrx)
  | remove => exact .inl ((removeStep_items hs).rx ▸ hrx)

/-- A handler that is going to be called and makes requests is in the table. -/
lemma handlerNeeds_table (hevt : s.evt i = .queued ∨ ∃ c dev, s.evt i = .running c (.entered dev)) :
    s.handlerNeeds E i = true ↔ 0 < s.tableRqsts E i := by
  rw [handlerNeeds, tableRqsts]
  rcases hevt with hevt | ⟨c, dev, hevt⟩ <;>
  · rw [hevt, EvtStage.needsLock, decide_eq_true_iff]

/-- While the removal holds the mutex, an event part needs it because it did before, or
because it has just been handed over, with a handler in the table that makes requests. -/
lemma Ok.needs_step (h : s.Ok) (ha : a ≠ .remove) (hrank : 2 ≤ s.remove.rank)
    (hs : a.step E s = some t) (hi : t.handlerNeeds E i = true) :
    (s.handlerNeeds E i = true ∧ (t.evt i = s.evt i ∨ ∃ status, s.evtStep E i status = some t)) ∨
      (s.evt i = .unqueued ∨ s.evt i = .timer) ∧ 0 < s.tableRqsts E i := by
  have hhandler := h.step_handler ha hrank hs
  have htable (hlt : i < s.works) : t.tableRqsts E i = s.tableRqsts E i := by
    rw [tableRqsts, tableRqsts, slotOf, slotOf, step_work hs hlt, hhandler]
  cases h.works.evtChange hs i with
  | same heq =>
    have hlt : i < s.works := h.works.lt_of_evt fun hevt => by
      rw [handlerNeeds, heq, hevt] at hi
      cases hi
    rw [handlerNeeds_congr heq (step_work hs hlt) hhandler] at hi
    exact .inl ⟨hi, .inl heq⟩
  | submitted hold hnew hlt =>
    refine .inr ⟨.inl hold, ?_⟩
    rw [← htable hlt]
    rcases hnew with hnew | hnew | ⟨hnew, -⟩
    · exact (handlerNeeds_table (.inl hnew)).mp hi
    · rw [handlerNeeds, hnew] at hi
      cases hi
    · exact (handlerNeeds_table (.inr ⟨_, _, hnew⟩)).mp hi
  | fired hold hnew =>
    have hlt : i < s.works := h.works.lt_of_evt (by rw [hold]; exact nofun)
    refine .inr ⟨.inr hold, ?_⟩
    rw [← htable hlt]
    rcases hnew with ⟨-, hnew⟩ | ⟨-, hnew⟩
    · exact (handlerNeeds_table (.inl hnew)).mp hi
    · rw [handlerNeeds, hnew] at hi
      cases hi
  | ran status _ hstep => exact .inl ⟨evtStep_needs hstep hi, .inr ⟨status, hstep⟩⟩

/-- Once the table has been cleared, no handler in it makes requests. -/
lemma Ok.tableRqsts_null (h : s.Ok) (hrank : 9 ≤ s.remove.rank) : s.tableRqsts E i = 0 := by
  rw [tableRqsts, slotOf, h.progress.handlers hrank]
  rfl

lemma evtStep_onQueue (h : s.evtStep E i status = some t) (hi : (t.evt i).onQueue = true) :
    (s.evt i).onQueue = true := by
  cases evtStep_effect h with
  | start hold => rw [hold]; rfl
  | run c pc pc' lock hold =>
    rw [show SshLife.evt _ i = _ from evt_setEvt] at hi
    rw [hold]
    cases c <;> exact hi
  | finish c hold =>
    rw [evt_setEvt] at hi
    cases hi

lemma evtStep_not_done (h : s.evtStep E i status = some t) : (s.evt i).isDone = false := by
  cases evtStep_effect h with
  | start hold => rw [hold]; rfl
  | run c pc pc' lock hold => rw [hold]; rfl
  | finish c hold => rw [hold]; rfl

/-- The receive callback is waited for in the suspend request and as the port is closed. -/
lemma RemoveStage.awaitsRx_cases {r : RemoveStage} (h : r.awaitsRx = true) :
    r.inSuspend = true ∧ r.rank < 9 ∨ r.rank = 14 := by
  cases r <;> first | exact .inl ⟨rfl, by decide⟩ | exact .inr rfl | cases h

/-- A handler that has been called inline while the receive callback is waited for makes no
request. -/
lemma WaitOk.inline (h : s.Ok) (hwait : s.WaitOk E) (ha : a ≠ .remove) (hC : s.LockClear E a)
    (hs : a.step E s = some t) (hremove : s.remove.awaitsRx = true) (hrx : t.rx = .inline i) :
    t.handlerNeeds E i = false := by
  apply eq_false_of_ne_true
  intro hneeds
  have hrank : 2 ≤ s.remove.rank := by
    rcases RemoveStage.awaitsRx_cases hremove with ⟨hsuspend, -⟩ | hclose
    · cases hr : s.remove <;> rw [hr] at hsuspend <;> first | decide | cases hsuspend
    · omega
  rcases rx_inline hs hrx with hinline | ⟨⟨ok, rfl⟩, hdelayed, -⟩
  · -- it has been running before
    have hlt : i < s.works := h.works.rx i (by rw [hinline]; rfl)
    have hcalled := (h.works.item i hlt).called hinline
    rcases h.needs_step ha hrank hs hneeds with ⟨hold, -⟩ | ⟨hout, -⟩
    · have hclear := hwait.clear (.handler i) (.inr (.inl ⟨hremove, hinline⟩))
      rw [show s.needsLock E (.handler i) = true from hold] at hclear
      cases hclear
    · rcases hout with hout | hout <;>
      · rw [hout] at hcalled
        cases hcalled
  · have hunqueued := h.works.unqueued hdelayed
    rcases h.needs_step ha hrank hs hneeds with ⟨hold, -⟩ | ⟨-, hrqsts⟩
    · rw [handlerNeeds, hunqueued] at hold
      cases hold
    · rcases RemoveStage.awaitsRx_cases hremove with ⟨hsuspend, -⟩ | hclose
      · have hnone := hC hsuspend i (by rw [hdelayed]; rfl)
        omega
      · have hnone := h.tableRqsts_null (E := E) (i := i) (by omega)
        omega

lemma WaitOk.handler (h : s.Ok) (hwait : s.WaitOk E) (ha : a ≠ .remove) (hC : s.LockClear E a)
    (hs : a.step E s = some t) (hi : t.WaitsFor (.handler i)) : t.handlerNeeds E i = false := by
  unfold WaitsFor at hi
  rw [step_remove ha hs] at hi
  rcases hi with ⟨hitems, hdone⟩ | ⟨hremove, hrx⟩ | ⟨hremove, hqueue⟩
  · apply eq_false_of_ne_true
    intro hneeds
    have hrank : 2 ≤ s.remove.rank := by
      cases hr : s.remove <;> rw [hr] at hitems <;>
        first | cases hitems | simp [RemoveStage.rank]
    rcases h.needs_step ha hrank hs hneeds with ⟨hold, hsame⟩ | ⟨hout, -⟩
    · have hclear := hwait.clear (.handler i) (.inl ⟨hitems, ?_⟩)
      · rw [show s.needsLock E (.handler i) = true from hold] at hclear
        cases hclear
      · rcases hsame with heq | ⟨status, hstep⟩
        · rw [← heq]
          exact hdone
        · exact evtStep_not_done hstep
    · exact not_started hout (hwait.started i hitems)
  · exact hwait.inline h ha hC hs hremove hrx
  · apply eq_false_of_ne_true
    intro hneeds
    have hrank : s.remove.rank = 16 := by rw [hremove]; rfl
    rcases h.needs_step ha (by omega) hs hneeds with ⟨hold, hsame⟩ | ⟨-, hrqsts⟩
    · have hclear := hwait.clear (.handler i) (.inr (.inr ⟨hremove, ?_⟩))
      · rw [show s.needsLock E (.handler i) = true from hold] at hclear
        cases hclear
      · rcases hsame with heq | ⟨status, hstep⟩
        · rw [← heq]
          exact hqueue
        · exact evtStep_onQueue hstep hqueue
    · have hnone := h.tableRqsts_null (E := E) (i := i) (by omega)
      omega

/-- Running `rqst_write` calls are waited for as the attribute is unregistered. -/
lemma removeStep_waitsCaller (hs : s.removeStep = some t) (hp : t.WaitsFor (.caller k)) :
    s.remove.rank = 2 ∧ (s.caller k).inSysfs = true ∧ t.caller k = s.caller k := by
  obtain ⟨hsysfs, hk⟩ := hp
  rw [(removeStep_callers hs).2] at hk
  refine ⟨?_, hk, congrFun (removeStep_callers hs).2 k⟩
  revert hs
  fun_cases SshLife.removeStep s
  case case5 hremove hstate =>
    rw [hremove]
    exact fun _ => rfl
  all_goals
    rintro ⟨⟩ <;> cases hsysfs

/-- Event parts are waited for as `queue_evt` is flushed or destroyed, and inside the receive
callback as the EC is to be suspended or the port to be closed. -/
lemma removeStep_waitsHandler (hs : s.removeStep = some t) (hp : t.WaitsFor (.handler i)) :
    t.handlerNeeds E i = s.handlerNeeds E i ∧
      (s.remove.drainsEvt = true ∧ (s.evt i).onQueue = true ∨
        (s.remove.rank = 3 ∨ s.remove.rank = 13) ∧ s.rx = .inline i) := by
  revert hs
  fun_cases SshLife.removeStep s
  case case6 hremove _ =>
    rintro ⟨⟩
    rcases hp with ⟨h, -⟩ | ⟨-, hrx⟩ | ⟨h, -⟩
    · cases h
    · exact ⟨rfl, .inr ⟨.inl (by rw [hremove]; rfl), hrx⟩⟩
    · cases h
  case case22 items hremove _ =>
    rintro ⟨⟩
    rcases hp with ⟨h, -⟩ | ⟨-, hrx⟩ | ⟨h, -⟩
    · cases h
    · exact ⟨rfl, .inr ⟨.inr (by rw [hremove]; rfl), hrx⟩⟩
    · cases h
  case case9 hremove hfree =>
    -- `receiver.lock` is free now
    rintro ⟨⟩
    rcases hp with ⟨h, -⟩ | ⟨-, hrx⟩ | ⟨h, -⟩
    · cases h
    · rw [show s.rx = _ from hrx] at hfree
      exact absurd rfl hfree
    · cases h
  case case12 items hremove _ | case20 items hremove _ =>
    rintro ⟨⟩
    rcases hp with ⟨hqueue, -⟩ | ⟨h, -⟩ | ⟨h, -⟩
    · exact ⟨rfl, .inl ⟨by rw [hremove]; rfl, hqueue⟩⟩
    · cases h
    · cases h
  case case26 hremove _ =>
    rintro ⟨⟩
    rcases hp with ⟨h, -⟩ | ⟨h, -⟩ | ⟨-, hqueue⟩
    · cases h
    · cases h
    · exact ⟨rfl, .inl ⟨by rw [hremove]; rfl, hqueue⟩⟩
  all_goals
    rintro ⟨⟩ <;>
    · rcases hp with ⟨h, -⟩ | ⟨h, -⟩ | ⟨h, -⟩ <;> cases h

/-- Nothing is waited for after a step of the removal, or what its condition speaks about. -/
lemma removeStep_waits (hl : s.LockOk) (hw : s.WorksOk) (hC : s.LockClear E .remove)
    (hs : s.removeStep = some t) {p : Party} (hp : t.WaitsFor p) : t.needsLock E p = false := by
  obtain ⟨hsysfs, hdrain, hawait⟩ := hC
  cases p with
  | caller k =>
    obtain ⟨hrank, hk, hsame⟩ := removeStep_waitsCaller hs hp
    have hlt : k < s.callers := hl.lt_of_caller fun hret => by
      rw [hret] at hk
      cases hk
    rw [needsLock, hsame]
    exact hsysfs hrank k hlt hk
  | handler i =>
    obtain ⟨hsame, ⟨hdrains, hqueue⟩ | ⟨hrank, hrx⟩⟩ := removeStep_waitsHandler (E := E) hs hp
    · have hlt : i < s.works := hw.lt_of_evt fun hout => by
        rw [hout] at hqueue
        cases hqueue
      exact hsame.trans (hdrain hdrains i hlt hqueue)
    · exact hsame.trans (hawait hrank i (by rw [hrx]; rfl))
  | remove => rfl

/-- A flush starts with the items that are on the queue. -/
lemma removeStep_started (hs : s.removeStep = some t) (hi : t.remove.flushItems i = true) :
    t.Started i := by
  revert hs
  fun_cases SshLife.removeStep s
  all_goals
    rintro ⟨⟩ <;> first | exact .inl hi | cases hi

lemma WaitOk.step (h : s.Ok) (hwait : s.WaitOk E) (hC : s.LockClear E a)
    (hs : a.step E s = some t) : t.WaitOk E := by
  by_cases ha : a = .remove
  · subst ha
    exact ⟨fun i hi => removeStep_started hs hi,
      fun p hp => removeStep_waits h.lock h.works hC hs hp⟩
  · have hremove := step_remove ha hs
    refine ⟨fun i hi => ?_, fun p hp => ?_⟩
    · rw [hremove] at hi
      exact (hwait.started i hi).step h.works hs
    · cases p with
      | caller k =>
        obtain ⟨hsysfs, hk⟩ := hp
        rw [hremove] at hsysfs
        have hattr := h.progress.attr (by rw [hsysfs]; decide)
        obtain ⟨hk, hneeds⟩ := step_inSysfs hattr hs hk
        have hold : (s.caller k).needsLock = false := hwait.clear (.caller k) ⟨hsysfs, hk⟩
        apply eq_false_of_ne_true
        intro hnew
        rw [hneeds hnew] at hold
        cases hold
      | handler i => exact hwait.handler h ha hC hs hp
      | remove => rfl

lemma waitOk_probed : probed.WaitOk E := by
  refine ⟨nofun, fun p hp => ?_⟩
  cases p with
  | caller k => cases hp.1
  | handler i => rfl
  | remove => rfl

/-- Whoever waits for the mutex needs it. -/
lemma WaitOk.not_deadlock (h : s.WaitOk E) : ¬ s.Deadlock := by
  rintro ⟨-, p, hwaits, hlock⟩
  have hclear := h.clear p hwaits
  cases p with
  | caller k =>
    rw [needsLock, CallerStage.needsLock_of_waits hlock] at hclear
    cases hclear
  | handler i =>
    rw [needsLock, handlerNeeds, EvtStage.needsLock_of_waits hlock] at hclear
    cases hclear
  | remove => exact hwaits

end SshLife

/-- The requests of `surface_dtx_evt_dtx`: one to query the operation mode, after the base
has been connected. -/
def dtxRqsts (event : SurfaceSamSshEvent) : ℕ :=
  if event.cid = 0x0c ∧ event.len ≤ 2 then 1 else 0

open SshLife in
/-- In every run in which the removal never starts to wait for somebody who has still to take
the mutex, it does not deadlock. -/
theorem surfaceSamSshRemove_not_deadlock (E : HandlerEnv) (s : SshLife)
    (hreach : Machine.Reaches (LifeAct.step E) (LockClear E) probed s) : ¬ s.Deadlock := by
  have hinv : s.Ok ∧ s.WaitOk E := by
    refine hreach.invariant (I := fun s => s.Ok ∧ s.WaitOk E) ⟨ok_probed, waitOk_probed⟩
      fun t a u ht hC hs => ?_
    exact ⟨ht.1.step hs, ht.2.step ht.1 hC hs⟩
  exact hinv.2.not_deadlock

open LifeAct in
/-- A connection event has been handled before the driver is removed. -/
theorem surfaceSamSshRemove_not_deadlock_handled :
    ∃ s, Machine.run (LifeAct.step ⟨fun _ => dtxRqsts⟩) SshLife.probed
        (wholeCall (.setDelayedEventHandler 0x11 (some 1) none none) 0 ++
          dispatch ⟨⟨0x11, 0x11, 0, 0x0c, 1, [1]⟩, 7⟩ ++ times 7 (.ack 0 10) ++
          times 8 (.evt 0 0) ++ times 7 .remove) = some s ∧
      (s.evt 0).isDone = true ∧ s.remove.rank = 7 ∧ ¬ s.Deadlock := by
  generalize hacts : _ ++ _ ++ _ ++ _ ++ times 7 LifeAct.remove = acts
  have hrun : (Machine.run (LifeAct.step ⟨fun _ => dtxRqsts⟩) SshLife.probed acts).any
      (fun s => decide ((s.evt 0).isDone = true ∧ s.remove.rank = 7)) = true := by
    rw [← hacts]
    decide +kernel
  have hmeets : Machine.Meets (LifeAct.step ⟨fun _ => dtxRqsts⟩)
      (SshLife.LockClear ⟨fun _ => dtxRqsts⟩) SshLife.probed acts := by
    rw [← hacts]
    decide +kernel
  obtain ⟨s, hs, hprop⟩ := (Option.any_eq_true _ _).mp hrun
  obtain ⟨hdone, hrank⟩ := of_decide_eq_true hprop
  exact ⟨s, hs, hdone, hrank,
    surfaceSamSshRemove_not_deadlock _ s (Machine.reaches_of_run hs hmeets)⟩

open LifeAct in
/-- The worker of a connection event waits for the mutex, and the removal, which holds it,
waits for the worker. -/
theorem surfaceSamSshRemove_deadlock_connection :
    ∃ s, Machine.run (LifeAct.step ⟨fun _ => dtxRqsts⟩) SshLife.probed
        (wholeCall (.setDelayedEventHandler 0x11 (some 1) none none) 0 ++
          dispatch ⟨⟨0x11, 0x11, 0, 0x0c, 1, [1]⟩, 7⟩ ++ times 7 (.ack 0 10) ++
          times 7 .remove ++ times 4 (.evt 0 0)) = some s ∧ s.Deadlock := by
  have hrun : (Machine.run (LifeAct.step ⟨fun _ => dtxRqsts⟩) SshLife.probed
      (wholeCall (.setDelayedEventHandler 0x11 (some 1) none none) 0 ++
        dispatch ⟨⟨0x11, 0x11, 0, 0x0c, 1, [1]⟩, 7⟩ ++ times 7 (.ack 0 10) ++
        times 7 .remove ++ times 4 (.evt 0 0))).any
      (fun s => decide (s.lock = some .remove ∧ s.remove.flushItems 0 = true ∧
        (s.evt 0).isDone = false ∧ (s.evt 0).waitsForLock = true)) = true := by
    decide +kernel
  obtain ⟨s, hs, hprop⟩ := (Option.any_eq_true _ _).mp hrun
  obtain ⟨hlock, hitems, hdone, hwaits⟩ := of_decide_eq_true hprop
  exact ⟨s, hs, hlock, .handler 0, .inl ⟨hitems, hdone⟩, hwaits⟩

open LifeAct in
/-- The receive callback holds `receiver.lock` over a handler that waits for the mutex, and the
removal, which holds the mutex, waits for `receiver.lock` to make its suspend request. -/
theorem surfaceSamSshRemove_deadlock_receiver :
    ∃ s, Machine.run (LifeAct.step ⟨fun _ => dtxRqsts⟩) SshLife.probed
        (wholeCall (.setDelayedEventHandler 0x11 (some 1)
            (some fun _ => surfaceSamSshEventImmediate) none) 0 ++ times 4 .remove ++
          dispatch ⟨⟨0x11, 0x11, 0, 0x0c, 1, [1]⟩, 7⟩ ++ times 3 (.evt 0 0)) = some s ∧
      s.remove.inSuspend = true ∧ s.Deadlock := by
  have hrun : (Machine.run (LifeAct.step ⟨fun _ => dtxRqsts⟩) SshLife.probed
      (wholeCall (.setDelayedEventHandler 0x11 (some 1)
          (some fun _ => surfaceSamSshEventImmediate) none) 0 ++ times 4 .remove ++
        dispatch ⟨⟨0x11, 0x11, 0, 0x0c, 1, [1]⟩, 7⟩ ++ times 3 (.evt 0 0))).any
      (fun s => decide (s.lock = some .remove ∧ s.remove.inSuspend = true ∧
        s.remove.awaitsRx = true ∧ s.rx.inlineItem = some 0 ∧
        (s.evt 0).waitsForLock = true)) = true := by
    decide +kernel
  obtain ⟨s, hs, hprop⟩ := (Option.any_eq_true _ _).mp hrun
  obtain ⟨hlock, hsuspend, hawaits, hinline, hwaits⟩ := of_decide_eq_true hprop
  have hrx : s.rx = .inline 0 := by
    cases hrx : s.rx <;> rw [hrx] at hinline <;> cases hinline
    rfl
  exact ⟨s, hs, hsuspend, hlock, .handler 0, .inr (.inl ⟨hawaits, hrx⟩), hwaits⟩

end SurfaceSam
