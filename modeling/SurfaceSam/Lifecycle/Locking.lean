import SurfaceSam.Devlib.Mutex
import SurfaceSam.Lifecycle.WorkItems

/-!
# The EC mutex and the progress of the removal

The EC mutex is held by the thread that is in a section it guards, and what the removal has
done up to its stage stays done.
-/

namespace SurfaceSam

open Devlib

namespace SshLife

variable {E : HandlerEnv} {s t : SshLife} {i k : ℕ} {status : ℤ}

/-! ### The mutex -/

/-- The thread is between `mutex_lock` and `mutex_unlock`. -/
def holds (s : SshLife) : Party → Bool
  | .caller k => (s.caller k).holdsLock
  | .handler i => (s.evt i).holdsLock
  | .remove => s.remove.holdsLock

structure LockOk (s : SshLife) : Prop where
  owned : Mutex.Owned s.lock s.holds
  unborn : ∀ k, s.callers ≤ k → s.caller k = .returned

lemma holds_setCaller {stage : CallerStage} {q : Party} (h : q ≠ .caller k) :
    (s.setCaller k stage).holds q = s.holds q := by
  cases q with
  | caller l =>
    exact congrArg CallerStage.holdsLock (caller_setCaller_of_ne fun hl => h (congrArg _ hl))
  | handler i => rfl
  | remove => rfl

lemma evtHandlerStep_move {c : EvtContext} {pc : EvtPc} (hpc : s.evt i = .running c pc)
    (h : s.evtHandlerStep E i status c pc = some t) :
    Mutex.Move (.handler i) s.lock (s.evt i).holdsLock t.lock (t.evt i).holdsLock := by
  rw [hpc]
  revert h
  fun_cases evtHandlerStep E s i status c pc
  case case6 dev slot n hfree =>
    rintro ⟨⟩
    change Mutex.Move _ s.lock false (some (.handler i)) (EvtStage.holdsLock _)
    rw [hfree, evt_setEvt]
    exact .acquire
  case case9 dev slot n hreceiver =>
    rintro ⟨⟩
    change Mutex.Move _ s.lock true none (EvtStage.holdsLock _)
    rw [evt_setEvt]
    exact .release _
  case case10 dev slot =>
    rintro ⟨⟩
    rw [evt_setEvt]
    by_cases hstatus : status = 0
    · rw [if_pos hstatus]
      exact .keep s.lock false
    · rw [if_neg hstatus]
      exact .keep s.lock false
  all_goals
    rintro ⟨⟩ <;>
    · rw [evt_setEvt]
      exact .keep s.lock false

lemma evtStep_move (h : s.evtStep E i status = some t) :
    Mutex.Move (.handler i) s.lock (s.evt i).holdsLock t.lock (t.evt i).holdsLock := by
  revert h
  fun_cases evtStep E s i status
  case case5 hevt =>
    rintro ⟨⟩
    rw [hevt, evt_setEvt]
    exact .keep s.lock false
  case case6 c pc hevt => exact evtHandlerStep_move hevt
  all_goals rintro ⟨⟩

lemma EvtEffect.other (h : s.EvtEffect i t) {j : ℕ} (hj : j ≠ i) : t.evt j = s.evt j := by
  cases h <;> exact evt_setEvt_of_ne hj

lemma LockOk.evt (h : s.LockOk) (hs : s.evtStep E i status = some t) : t.LockOk := by
  have hec := step_ec (a := .evt i status) rfl hs
  constructor
  · apply h.owned.move (evtStep_move hs)
    intro q hq
    cases q with
    | handler j =>
      exact congrArg EvtStage.holdsLock ((evtStep_effect hs).other fun hj => hq (congrArg _ hj))
    | caller k => exact congrArg (fun f => (f k).holdsLock) hec.caller
    | remove => exact congrArg RemoveStage.holdsLock hec.remove
  · rw [hec.callers, hec.caller]
    exact h.unborn

lemma holdsLock_performed (call : Call) : (s.performed call).holdsLock = true := by
  cases call <;> rfl

/-- A call changes neither the mutex nor another thread. -/
lemma perform_rest (call : Call) :
    (s.perform call).lock = s.lock ∧ (s.perform call).callers = s.callers ∧
      (s.perform call).caller = s.caller ∧ (s.perform call).remove = s.remove := by
  cases call <;> exact ⟨rfl, rfl, rfl, rfl⟩

lemma callerStep_move (h : s.callerStep k = some t) :
    Mutex.Move (.caller k) s.lock (s.caller k).holdsLock t.lock (t.caller k).holdsLock := by
  revert h
  fun_cases callerStep s k
  case case1 call hcaller =>
    rintro ⟨⟩
    rw [hcaller, caller_setCaller]
    by_cases hr : call.rejected
    · rw [if_pos hr]
      exact .keep s.lock false
    · rw [if_neg hr]
      exact .keep s.lock false
  case case2 call hcaller hfree =>
    rintro ⟨⟩
    rw [hcaller, hfree]
    change Mutex.Move _ none false (some (Party.caller k)) (CallerStage.holdsLock _)
    rw [caller_setCaller]
    exact .acquire
  case case6 call hcaller hstate hreceiver =>
    rintro ⟨⟩
    rw [hcaller, caller_setCaller, holdsLock_performed]
    change Mutex.Move _ _ true (s.perform call).lock true
    rw [(perform_rest call).1]
    exact .keep _ _
  case case7 | case8 =>
    rintro ⟨⟩
    rw [‹s.caller k = _›]
    change Mutex.Move _ s.lock true none (CallerStage.holdsLock _)
    rw [caller_setCaller]
    exact .release _
  case case10 reg items hcaller hdone =>
    rintro ⟨⟩
    rw [hcaller]
    change Mutex.Move _ s.lock false s.lock (CallerStage.holdsLock _)
    rw [caller_setCaller]
    exact .keep _ _
  all_goals
    rintro ⟨⟩ <;>
    · rw [‹s.caller k = _›, caller_setCaller]
      exact .keep s.lock _

lemma callerStep_other (h : s.callerStep k = some t) :
    (∀ l, l ≠ k → t.caller l = s.caller l) ∧ t.callers = s.callers ∧ t.remove = s.remove := by
  revert h
  fun_cases callerStep s k
  case case6 call hcaller hstate hreceiver =>
    rintro ⟨⟩
    obtain ⟨-, hcallers, hcaller, hremove⟩ := perform_rest (s := s) call
    exact ⟨fun l hl => (caller_setCaller_of_ne hl).trans (by rw [hcaller]), hcallers, hremove⟩
  all_goals
    rintro ⟨⟩ <;> exact ⟨fun l hl => caller_setCaller_of_ne hl, rfl, rfl⟩

lemma callerStep_ne_returned (h : s.callerStep k = some t) : s.caller k ≠ .returned := by
  intro hcaller
  rw [callerStep, hcaller] at h
  cases h

lemma LockOk.lt_of_caller (h : s.LockOk) (hcaller : s.caller k ≠ .returned) : k < s.callers := by
  by_contra hk
  exact hcaller (h.unborn k (Nat.le_of_not_lt hk))

lemma LockOk.callerStep (h : s.LockOk) (hs : s.callerStep k = some t) : t.LockOk := by
  obtain ⟨hcaller, hcallers, hremove⟩ := callerStep_other hs
  constructor
  · apply h.owned.move (callerStep_move hs)
    intro q hq
    cases q with
    | handler j => exact congrArg (fun f => (f j).holdsLock) (callerStep_items hs).evt
    | caller l => exact congrArg CallerStage.holdsLock (hcaller l fun hl => hq (congrArg _ hl))
    | remove => exact congrArg RemoveStage.holdsLock hremove
  · intro l hl
    rw [hcallers] at hl
    have hk : k < s.callers := h.lt_of_caller (callerStep_ne_returned hs)
    rw [hcaller l (Nat.ne_of_gt (Nat.lt_of_lt_of_le hk hl))]
    exact h.unborn l hl

lemma LockOk.callStep {call : Call} (h : s.LockOk) (hs : s.callStep call = some t) :
    t.LockOk := by
  obtain ⟨-, rfl⟩ := callStep_cases hs
  constructor
  · apply h.owned.congr
    intro q
    by_cases hq : q = .caller s.callers
    · rw [hq]
      change ((s.setCaller s.callers (.entered call)).caller s.callers).holdsLock = _
      rw [caller_setCaller, holds, h.unborn _ (Nat.le_refl _)]
      rfl
    · exact holds_setCaller hq
  · intro k hk
    exact (caller_setCaller_of_ne (Nat.ne_of_gt hk)).trans (h.unborn k (Nat.le_of_succ_le hk))

lemma removeStep_move (h : s.removeStep = some t) :
    Mutex.Move .remove s.lock s.remove.holdsLock t.lock t.remove.holdsLock := by
  revert h
  fun_cases removeStep s
  case case2 hremove hfree =>
    rintro ⟨⟩
    rw [hremove, hfree]
    exact .acquire
  case case4 | case30 =>
    rintro ⟨⟩
    rw [‹s.remove = _›]
    exact .release _
  all_goals
    rintro ⟨⟩ <;>
    · rw [‹s.remove = _›]
      exact .keep s.lock _

lemma removeStep_callers (h : s.removeStep = some t) :
    t.callers = s.callers ∧ t.caller = s.caller := by
  revert h
  fun_cases removeStep s
  all_goals
    rintro ⟨⟩ <;> exact ⟨rfl, rfl⟩

lemma LockOk.removeStep (h : s.LockOk) (hs : s.removeStep = some t) : t.LockOk := by
  obtain ⟨hcallers, hcaller⟩ := removeStep_callers hs
  constructor
  · apply h.owned.move (removeStep_move hs)
    intro q hq
    cases q with
    | handler j => exact congrArg (fun f => (f j).holdsLock) (removeStep_items hs).evt
    | caller l => exact congrArg (fun f => (f l).holdsLock) hcaller
    | remove => exact absurd rfl hq
  · rw [hcallers, hcaller]
    exact h.unborn

/-- A step that does not concern the mutex. -/
lemma LockOk.same (h : s.LockOk) (hec : s.SameEc t) (hlock : t.lock = s.lock)
    (hholds : ∀ i, (t.evt i).holdsLock = (s.evt i).holdsLock) : t.LockOk := by
  constructor
  · rw [hlock]
    apply h.owned.congr
    intro q
    cases q with
    | handler i => exact hholds i
    | caller k => exact congrArg (fun f => (f k).holdsLock) hec.caller
    | remove => exact congrArg RemoveStage.holdsLock hec.remove
  · rw [hec.callers, hec.caller]
    exact h.unborn

lemma rxStep_lock {ok : Bool} (h : s.rxStep ok = some t) : t.lock = s.lock := by
  revert h
  fun_cases SshLife.rxStep s ok
  all_goals
    rintro ⟨⟩ <;> rfl

/-- Only the steps of an event part itself change whether it holds the mutex. -/
lemma holdsLock_step {a : LifeAct} (hw : s.WorksOk) (hs : a.step E s = some t)
    (ha : ∀ i status, a ≠ .evt i status) (i : ℕ) : (t.evt i).holdsLock = (s.evt i).holdsLock := by
  cases hw.evtChange hs i with
  | same heq => rw [heq]
  | submitted hold hnew =>
    rw [hold]
    rcases hnew with hnew | hnew | ⟨hnew, -⟩ <;>
    · rw [hnew]
      rfl
  | fired hold hnew =>
    rw [hold]
    rcases hnew with ⟨-, hnew⟩ | ⟨-, hnew⟩ <;>
    · rw [hnew]
      rfl
  | ran status h => exact absurd h (ha i status)

lemma LockOk.step {a : LifeAct} (hw : s.WorksOk) (h : s.LockOk) (hs : a.step E s = some t) :
    t.LockOk := by
  cases a with
  | receive input =>
    refine h.same (step_ec rfl hs) ?_ (holdsLock_step hw hs (by rintro _ _ ⟨⟩))
    obtain ⟨-, -, rfl⟩ := receiveStep_cases hs
    rfl
  | rx ok =>
    exact h.same (step_ec rfl hs) (rxStep_lock hs) (holdsLock_step hw hs (by rintro _ _ ⟨⟩))
  | timer i =>
    refine h.same (step_ec rfl hs) ?_ (holdsLock_step hw hs (by rintro _ _ ⟨⟩))
    obtain ⟨-, stage, -, rfl⟩ := timerStep_cases hs
    rfl
  | ack i status =>
    refine h.same (step_ec rfl hs) ?_ (holdsLock_step hw hs (by rintro _ _ ⟨⟩))
    cases ackStep_effect hs <;> rfl
  | evt i status => exact h.evt hs
  | call c => exact h.callStep hs
  | caller k => exact h.callerStep hs
  | remove => exact h.removeStep hs

/-! ### The removal -/

/-- What the removal has done up to its stage. -/
structure ProgressOk (s : SshLife) : Prop where
  state : s.state = .uninitialized ↔ 10 ≤ s.remove.rank
  serdev : s.serdev = none ↔ 11 ≤ s.remove.rank
  attr : 3 ≤ s.remove.rank → s.attr = false
  handlers : 9 ≤ s.remove.rank → ∀ n, s.handler n = .null
  port : 15 ≤ s.remove.rank → s.port = false ∧ s.rx = .idle
  acks : 16 ≤ s.remove.rank → ∀ i < s.works, s.ack i = .done
  evts : 17 ≤ s.remove.rank → ∀ i < s.works,
    s.evt i = .timer ∨ s.evt i = .refused ∨ s.evt i = .done

/-- A step that leaves the EC and the removal alone. -/
lemma ProgressOk.congr (h : s.ProgressOk) (hstate : t.state = s.state)
    (hserdev : t.serdev = s.serdev) (hattr : t.attr = s.attr) (hhandler : t.handler = s.handler)
    (hremove : t.remove = s.remove)
    (hport : 15 ≤ s.remove.rank → t.port = false ∧ t.rx = .idle)
    (hacks : 16 ≤ s.remove.rank → ∀ i < t.works, t.ack i = .done)
    (hevts : 17 ≤ s.remove.rank → ∀ i < t.works,
      t.evt i = .timer ∨ t.evt i = .refused ∨ t.evt i = .done) : t.ProgressOk := by
  constructor
  · rw [hstate, hremove]
    exact h.state
  · rw [hserdev, hremove]
    exact h.serdev
  · rw [hattr, hremove]
    exact h.attr
  · rw [hhandler, hremove]
    exact h.handlers
  · rw [hremove]
    exact hport
  · rw [hremove]
    exact hacks
  · rw [hremove]
    exact hevts

/-- A step of the receive callback or of a work item. -/
lemma ProgressOk.item (h : s.ProgressOk) (hec : s.SameEc t)
    (hport : 15 ≤ s.remove.rank → t.port = false ∧ t.rx = .idle)
    (hacks : 16 ≤ s.remove.rank → ∀ i < t.works, t.ack i = .done)
    (hevts : 17 ≤ s.remove.rank → ∀ i < t.works,
      t.evt i = .timer ∨ t.evt i = .refused ∨ t.evt i = .done) : t.ProgressOk :=
  h.congr hec.state hec.serdev hec.attr hec.handler hec.remove hport hacks hevts

lemma rank_of_rx (h : s.ProgressOk) (hrx : s.rx ≠ .idle ∨ s.port = true) :
    s.remove.rank < 15 := by
  by_contra hrank
  obtain ⟨hport, hidle⟩ := h.port (Nat.le_of_not_lt hrank)
  rcases hrx with hrx | hopen
  · exact hrx hidle
  · rw [hport] at hopen
    cases hopen

/-- The receive callback only runs before the port is closed. -/
lemma ProgressOk.rx (h : s.ProgressOk) (hec : s.SameEc t) (hrx : s.rx ≠ .idle ∨ s.port = true) :
    t.ProgressOk := by
  have hrank := rank_of_rx h hrx
  exact h.item hec (fun hle => by omega) (fun hle => by omega) (fun hle => by omega)

lemma ProgressOk.timerStep (h : s.ProgressOk) (hs : s.timerStep i = some t) : t.ProgressOk := by
  have hec := step_ec (E := ⟨fun _ _ => 0⟩) (a := .timer i) rfl hs
  obtain ⟨hold, stage, hstage, rfl⟩ := timerStep_cases hs
  apply h.item hec h.port h.acks
  intro hrank j hj
  by_cases hji : j = i
  · rw [hji, evt_setEvt]
    rcases hstage with ⟨hopen, -⟩ | ⟨-, hrefused⟩
    · exact absurd (of_decide_eq_false hopen) (not_not.mpr (Nat.le_of_succ_le hrank))
    · exact .inr (.inl hrefused)
  · rw [evt_setEvt_of_ne hji]
    exact h.evts hrank j hj

/-- An ACK part only moves while `queue_ack` exists. -/
lemma AckEffect.rank (hw : s.WorksOk) (h : s.ProgressOk) (hs : s.AckEffect i t) :
    s.remove.rank < 16 := by
  have hold : s.ack i ≠ .unqueued ∧ s.ack i ≠ .done := by
    cases hs with
    | run stage hold => exact AckStage.ne_of_onQueue hold
    | finish hold =>
      rw [hold]
      exact ⟨nofun, nofun⟩
  by_contra hrank
  exact hold.2 (h.acks (Nat.le_of_not_lt hrank) i (hw.lt_of_ack hold.1))

lemma ProgressOk.ack (hw : s.WorksOk) (h : s.ProgressOk) (hec : s.SameEc t)
    (hs : s.AckEffect i t) : t.ProgressOk := by
  have hrank := hs.rank hw h
  refine h.item hec ?_ (fun hle => by omega) (fun hle => by omega)
  cases hs <;> exact h.port

/-- An event part only runs while `queue_evt` exists. -/
lemma EvtEffect.rank (hw : s.WorksOk) (h : s.ProgressOk) (hs : s.EvtEffect i t) :
    s.remove.rank < 17 := by
  by_contra hrank
  have hevt (hqueued : s.evt i ≠ .unqueued) :=
    h.evts (Nat.le_of_not_lt hrank) i (hw.lt_of_evt hqueued)
  cases hs with
  | start hold =>
    rw [hold] at hevt
    rcases hevt nofun with h | h | h <;> cases h
  | run c pc pc' lock hold =>
    rw [hold] at hevt
    rcases hevt nofun with h | h | h <;> cases h
  | finish c hold =>
    rw [hold] at hevt
    rcases hevt nofun with h | h | h <;> cases h

lemma ProgressOk.evt (hw : s.WorksOk) (h : s.ProgressOk) (hec : s.SameEc t)
    (hs : s.EvtEffect i t) : t.ProgressOk := by
  have hrank := hs.rank hw h
  refine h.item hec ?_ ?_ (fun hle => by omega)
  · cases hs <;> exact h.port
  · cases hs <;> exact h.acks

/-- A caller that has found the EC initialized comes before the removal. -/
lemma rank_of_locked (hl : s.LockOk) (h : s.ProgressOk) {call : Call}
    (hcaller : s.caller k = .locked call) (hstate : s.state ≠ .uninitialized) :
    s.remove.rank ≤ 1 := by
  have hremove : s.remove.holdsLock = false :=
    hl.owned.not_holds (p := .caller k) (q := .remove) (by rw [holds, hcaller]; rfl) nofun
  have hlt : ¬ 10 ≤ s.remove.rank := fun hle => hstate (h.state.mpr hle)
  rw [RemoveStage.holdsLock, Bool.and_eq_false_iff, decide_eq_false_iff_not,
    decide_eq_false_iff_not] at hremove
  omega

lemma state_perform {call : Call} (h : s.state ≠ .uninitialized) :
    (s.perform call).state ≠ .uninitialized := by
  cases call <;> first | exact h | exact nofun

lemma serdev_perform {call : Call} : (s.perform call).serdev = s.serdev := by
  cases call <;> rfl

lemma ProgressOk.callerStep (hl : s.LockOk) (h : s.ProgressOk) (hs : s.callerStep k = some t) :
    t.ProgressOk := by
  revert hs
  fun_cases SshLife.callerStep s k
  case case6 call hcaller hstate hreceiver =>
    rintro ⟨⟩
    have hrank := rank_of_locked hl h hcaller hstate
    have hremove : (s.perform call).remove = s.remove := (perform_rest call).2.2.2
    have hlt (n : ℕ) (hn : 2 ≤ n) : ¬ n ≤ (s.perform call).remove.rank := by
      rw [hremove]
      omega
    refine ⟨iff_of_false (state_perform hstate) (hlt 10 (by decide)), ?_,
      fun hle => absurd hle (hlt 3 (by decide)), fun hle => absurd hle (hlt 9 (by decide)),
      fun hle => absurd hle (hlt 15 (by decide)), fun hle => absurd hle (hlt 16 (by decide)),
      fun hle => absurd hle (hlt 17 (by decide))⟩
    change (s.perform call).serdev = none ↔ 11 ≤ (s.perform call).remove.rank
    rw [hremove, serdev_perform]
    exact h.serdev
  all_goals
    rintro ⟨⟩ <;> exact h.congr rfl rfl rfl rfl rfl h.port h.acks h.evts

lemma ProgressOk.callStep {call : Call} (h : s.ProgressOk) (hs : s.callStep call = some t) :
    t.ProgressOk := by
  obtain ⟨-, rfl⟩ := callStep_cases hs
  exact h.congr rfl rfl rfl rfl rfl h.port h.acks h.evts

/-- A step of the removal that does nothing the invariant speaks about. -/
lemma ProgressOk.advance (h : s.ProgressOk) {r : RemoveStage} {lock : Option Party}
    (hrank : ∀ n ∈ [3, 9, 10, 11, 15, 16, 17], n ≤ r.rank ↔ n ≤ s.remove.rank) :
    ProgressOk { s with remove := r, lock := lock } := by
  simp only [List.forall_mem_cons, List.not_mem_nil, false_implies, implies_true, and_true] at hrank
  obtain ⟨h3, h9, h10, h11, h15, h16, h17⟩ := hrank
  exact ⟨h.state.trans h10.symm, h.serdev.trans h11.symm, fun hr => h.attr (h3.mp hr),
    fun hr => h.handlers (h9.mp hr), fun hr => h.port (h15.mp hr), fun hr => h.acks (h16.mp hr),
    fun hr => h.evts (h17.mp hr)⟩

/-- `destroy_workqueue` leaves no ACK part behind. -/
lemma WorksOk.acks_done (h : s.WorksOk) (hrx : s.rx = .idle)
    (hdrained : ∀ i < s.works, (s.ack i).onQueue = false) (i : ℕ) (hi : i < s.works) :
    s.ack i = .done := by
  have hqueue := hdrained i hi
  have hunqueued : s.ack i ≠ .unqueued := fun hack => by
    have := (h.item i hi).ack.mp hack
    rw [hrx] at this
    cases this
  cases hack : s.ack i with
  | unqueued => exact absurd hack hunqueued
  | done => rfl
  | _ =>
    rw [hack] at hqueue
    cases hqueue

/-- `destroy_workqueue` leaves the event parts behind whose timers are running, or have fired
too late. -/
lemma WorksOk.evts_drained (h : s.WorksOk) (hrx : s.rx = .idle)
    (hdrained : ∀ i < s.works, (s.evt i).onQueue = false) (i : ℕ) (hi : i < s.works) :
    s.evt i = .timer ∨ s.evt i = .refused ∨ s.evt i = .done := by
  have hqueue := hdrained i hi
  have hitem := h.item i hi
  cases hevt : s.evt i with
  | unqueued =>
    have hpreparing := hitem.evt.mp hevt
    rw [hrx] at hpreparing
    cases hpreparing
  | timer => exact .inl rfl
  | queued =>
    rw [hevt] at hqueue
    cases hqueue
  | running c pc =>
    rw [hevt] at hqueue
    cases c with
    | worker => cases hqueue
    | inline =>
      have hinline := hitem.inline pc hevt
      rw [hrx] at hinline
      cases hinline
  | refused => exact .inr (.inl rfl)
  | done => exact .inr (.inr rfl)

lemma ProgressOk.removeStep (hw : s.WorksOk) (h : s.ProgressOk) (hs : s.removeStep = some t) :
    t.ProgressOk := by
  obtain ⟨hstate, hserdev, hattr, hhandlers, hport, hacks, hevts⟩ := id h
  revert hs
  fun_cases SshLife.removeStep s
  case case4 hremove hun =>
    rw [hremove, hun] at hstate
    exact absurd (hstate.mp rfl) (by decide)
  case case5 | case16 | case17 | case18 | case24 =>
    rintro ⟨⟩
    constructor <;> simp_all [RemoveStage.rank]
  case case26 hremove hdrained =>
    rintro ⟨⟩
    have hdone := hw.acks_done (hport (by rw [hremove]; decide)).2 hdrained
    constructor <;> simp_all [RemoveStage.rank]
  case case28 hremove hdrained =>
    rintro ⟨⟩
    have hdone := hw.evts_drained (hport (by rw [hremove]; decide)).2 hdrained
    constructor <;> simp_all [RemoveStage.rank]
  all_goals
    rintro ⟨⟩ <;>
    · apply h.advance
      rw [‹s.remove = _›]
      simp [RemoveStage.rank]

lemma rxStep_ne_idle {ok : Bool} (h : s.rxStep ok = some t) : s.rx ≠ .idle := by
  intro hrx
  unfold SshLife.rxStep at h
  rw [hrx] at h
  cases h

lemma ProgressOk.step {a : LifeAct} (hw : s.WorksOk) (hl : s.LockOk) (h : s.ProgressOk)
    (hs : a.step E s = some t) : t.ProgressOk := by
  cases a with
  | receive input => exact h.rx (step_ec rfl hs) (.inr (receiveStep_cases hs).1)
  | rx ok => exact h.rx (step_ec rfl hs) (.inl (rxStep_ne_idle hs))
  | timer i => exact h.timerStep hs
  | ack i status => exact h.ack hw (step_ec rfl hs) (ackStep_effect hs)
  | evt i status => exact h.evt hw (step_ec rfl hs) (evtStep_effect hs)
  | call c => exact h.callStep hs
  | caller k => exact h.callerStep hl hs
  | remove => exact h.removeStep hw hs

/-! ### All runs -/

structure Ok (s : SshLife) : Prop where
  works : s.WorksOk
  lock : s.LockOk
  progress : s.ProgressOk
  refused : s.remove.rank < 16 → ∀ i, s.evt i ≠ .refused

lemma ok_probed : probed.Ok := by
  refine ⟨⟨nofun, fun _ _ => ⟨rfl, rfl, rfl⟩, nofun⟩, ⟨fun p => ?_, fun _ _ => rfl⟩, ?_, nofun⟩
  · cases p <;> exact iff_of_false nofun nofun
  · exact ⟨iff_of_false nofun (by decide), iff_of_false nofun (by decide), nofun, nofun, nofun,
      nofun, nofun⟩

/-- No other thread changes the stage of the removal. -/
lemma step_remove {a : LifeAct} (ha : a ≠ .remove) (hs : a.step E s = some t) :
    t.remove = s.remove := by
  cases a with
  | call c =>
    obtain ⟨-, rfl⟩ := callStep_cases hs
    rfl
  | caller k => exact (callerStep_other hs).2.2
  | remove => exact absurd rfl ha
  | _ => exact (step_ec rfl hs).remove

/-- `queue_evt` stays closed. -/
lemma rank_lt_of_step {a : LifeAct} (hs : a.step E s = some t) (hrank : t.remove.rank < 16) :
    s.remove.rank < 16 := by
  by_cases ha : a = .remove
  · subst ha
    revert hs
    change s.removeStep = some t → _
    fun_cases SshLife.removeStep s
    case case28 | case30 =>
      rintro ⟨⟩
      exact absurd hrank (by simp [RemoveStage.rank])
    all_goals
      rintro ⟨⟩ <;>
      · rw [‹s.remove = _›]
        simp [RemoveStage.rank]
  · rwa [step_remove ha hs] at hrank

/-- An item is refused only while `queue_evt` is being destroyed. -/
lemma refused_step {a : LifeAct} (hw : s.WorksOk)
    (h : s.remove.rank < 16 → ∀ i, s.evt i ≠ .refused) (hs : a.step E s = some t)
    (hrank : t.remove.rank < 16) (i : ℕ) : t.evt i ≠ .refused := by
  have hopen := rank_lt_of_step hs hrank
  cases hw.evtChange hs i with
  | same heq =>
    rw [heq]
    exact h hopen i
  | submitted hold hnew =>
    rcases hnew with hnew | hnew | ⟨hnew, -⟩ <;>
    · rw [hnew]
      exact nofun
  | fired hold hnew =>
    rcases hnew with ⟨-, hnew⟩ | ⟨hclosed, -⟩
    · rw [hnew]
      exact nofun
    · exact absurd (of_decide_eq_true hclosed) (Nat.not_le_of_lt hopen)
  | ran status ha hstep =>
    cases evtStep_effect hstep <;>
    · rw [show SshLife.evt _ i = _ from evt_setEvt]
      exact nofun

lemma Ok.step {a : LifeAct} (h : s.Ok) (hs : a.step E s = some t) : t.Ok :=
  ⟨h.works.step hs, h.lock.step h.works hs, h.progress.step h.works h.lock hs,
    refused_step h.works h.refused hs⟩

/-- Every state of every run after a probe is well formed. -/
lemma ok_of_reaches {C : SshLife → LifeAct → Prop}
    (h : Machine.Reaches (LifeAct.step E) C probed s) : s.Ok :=
  h.invariant ok_probed fun _ _ _ ht _ hs => ht.step hs

/-- The removal goes through its stages one by one. -/
lemma Ok.removeStep_rank (h : s.Ok) (hs : s.removeStep = some t) :
    t.remove.rank = s.remove.rank + 1 := by
  have hstate := h.progress.state
  revert hs
  fun_cases SshLife.removeStep s
  case case4 hremove hun =>
    rw [hremove, hun] at hstate
    exact absurd (hstate.mp rfl) (by decide)
  all_goals
    rintro ⟨⟩ <;>
    · rw [‹s.remove = _›]
      rfl

/-- While the removal holds the mutex, only it changes the handler table. -/
lemma Ok.step_handler {a : LifeAct} (h : s.Ok) (ha : a ≠ .remove) (hrank : 2 ≤ s.remove.rank)
    (hs : a.step E s = some t) : t.handler = s.handler := by
  cases a with
  | call c =>
    obtain ⟨-, rfl⟩ := callStep_cases hs
    rfl
  | caller k =>
    revert hs
    change s.callerStep k = some t → _
    fun_cases SshLife.callerStep s k
    case case6 call hcaller hstate hreceiver =>
      have hle := rank_of_locked h.lock h.progress hcaller hstate
      omega
    all_goals
      rintro ⟨⟩ <;> rfl
  | remove => exact absurd rfl ha
  | _ => exact (step_ec rfl hs).handler

end SshLife

end SurfaceSam
