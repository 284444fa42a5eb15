import SurfaceSam.Lifecycle.System

/-!
# Work items

What the stages of a work item say about its reference count and about the receive
callback, in all runs of the system.
-/

namespace SurfaceSam

open Devlib

namespace SshLife

variable {E : HandlerEnv} {s t : SshLife} {i k : ℕ} {status : ℤ}

/-! ### Updates of one stage -/

section Updates

variable {ack : AckStage} {evt : EvtStage} {stage : CallerStage}

@[simp] lemma ack_setAck : (s.setAck i ack).ack i = ack := Function.update_self ..

@[simp] lemma evt_setEvt : (s.setEvt i evt).evt i = evt := Function.update_self ..

@[simp] lemma caller_setCaller : (s.setCaller k stage).caller k = stage := Function.update_self ..

lemma ack_setAck_of_ne {j : ℕ} (h : j ≠ i) : (s.setAck i ack).ack j = s.ack j :=
  Function.update_of_ne h ..

lemma evt_setEvt_of_ne {j : ℕ} (h : j ≠ i) : (s.setEvt i evt).evt j = s.evt j :=
  Function.update_of_ne h ..

lemma caller_setCaller_of_ne {l : ℕ} (h : l ≠ k) : (s.setCaller k stage).caller l = s.caller l :=
  Function.update_of_ne h ..

@[simp] lemma refcount_put : (s.put i).refcount i = s.refcount i - 1 := Function.update_self ..

@[simp] lemma freed_put :
    (s.put i).freed i = if s.refcount i = 1 then s.freed i + 1 else s.freed i := by
  unfold put
  dsimp only
  split
  · exact Function.update_self ..
  · rfl

lemma refcount_put_of_ne {j : ℕ} (h : j ≠ i) : (s.put i).refcount j = s.refcount j :=
  Function.update_of_ne h ..

lemma freed_put_of_ne {j : ℕ} (h : j ≠ i) : (s.put i).freed j = s.freed j := by
  unfold put
  dsimp only
  split
  · exact Function.update_of_ne h ..
  · rfl

lemma freed_put_eq (h : s.freed i = if s.refcount i = 0 then 1 else 0)
    (hpos : s.refcount i ≠ 0) : (s.put i).freed i = if (s.put i).refcount i = 0 then 1 else 0 := by
  rw [freed_put, refcount_put, h, if_neg hpos]
  split <;> split <;> omega

end Updates

/-! ### What a step can do -/

lemma receiveStep_cases {input : RxInput} (h : s.receiveStep input = some t) :
    s.port = true ∧ s.rx = .idle ∧ t = { s with rx := .evaluating s.serdev input } := by
  revert h
  fun_cases receiveStep s input
  case case1 hrx hport =>
    rintro ⟨⟩
    exact ⟨hport, hrx, rfl⟩
  case case2 => rintro ⟨⟩

/-- The queue takes the item of a timer, or refuses it. -/
def Fires (s : SshLife) (stage : EvtStage) : Prop :=
  s.remove.evtClosed = false ∧ stage = .queued ∨ s.remove.evtClosed = true ∧ stage = .refused

lemma timerStep_cases (h : s.timerStep i = some t) :
    s.evt i = .timer ∧ ∃ stage, s.Fires stage ∧ t = s.setEvt i stage := by
  revert h
  fun_cases timerStep s i
  case case1 hold =>
    rintro ⟨⟩
    refine ⟨hold, _, ?_, rfl⟩
    unfold Fires
    cases s.remove.evtClosed
    · exact .inl ⟨rfl, rfl⟩
    · exact .inr ⟨rfl, rfl⟩
  case case2 => rintro ⟨⟩

lemma callStep_cases {call : Call} (h : s.callStep call = some t) :
    ¬(call.isRqstWrite = true ∧ s.attr = false) ∧
      t = { s.setCaller s.callers (.entered call) with callers := s.callers + 1 } := by
  revert h
  fun_cases callStep s call
  case case1 => rintro ⟨⟩
  case case2 hopen =>
    rintro ⟨⟩
    exact ⟨hopen, rfl⟩

/-! ### Work items -/

/-- A work item is freed exactly when both of its parts are done, and only the receive
callback has parts that are not queued yet or run inline. -/
structure ItemOk (s : SshLife) (i : ℕ) : Prop where
  ack : s.ack i = .unqueued ↔ s.rx = .allocated i
  evt : s.evt i = .unqueued ↔ s.rx.preparing = some i
  inline : ∀ pc, s.evt i = .running .inline pc → s.rx = .inline i
  called : s.rx = .inline i → (s.evt i).calledInline = true
  refcount : s.refcount i = (if s.ack i = .done then 0 else 1) + if (s.evt i).isDone then 0 else 1
  freed : s.freed i = if s.refcount i = 0 then 1 else 0

structure WorksOk (s : SshLife) : Prop where
  item : ∀ i < s.works, s.ItemOk i
  unborn : ∀ i, s.works ≤ i → s.ack i = .unqueued ∧ s.evt i = .unqueued ∧ s.freed i = 0
  rx : ∀ i, s.rx.item = some i → i < s.works

/-- What a step of the event part does to its item. -/
inductive EvtEffect (s : SshLife) (i : ℕ) : SshLife → Prop
  | start (hold : s.evt i = .queued) :
      EvtEffect s i (s.setEvt i (.running .worker (.entered s.serdev)))
  | run (c : EvtContext) (pc pc' : EvtPc) (lock : Option Party) (hold : s.evt i = .running c pc) :
      EvtEffect s i { s.setEvt i (.running c pc') with lock := lock }
  | finish (c : EvtContext) (hold : s.evt i = .running c .handled) :
      EvtEffect s i ((s.put i).setEvt i .done)

lemma evtHandlerStep_effect {c : EvtContext} {pc : EvtPc} (hpc : s.evt i = .running c pc)
    (h : s.evtHandlerStep E i status c pc = some t) : s.EvtEffect i t := by
  revert h
  fun_cases evtHandlerStep E s i status c pc
  case case7 | case8 => rintro ⟨⟩
  case case12 =>
    rintro ⟨⟩
    exact .finish c hpc
  all_goals
    rintro ⟨⟩
    exact .run c _ _ _ hpc

lemma evtStep_effect (h : s.evtStep E i status = some t) : s.EvtEffect i t := by
  revert h
  fun_cases evtStep E s i status
  case case5 hevt =>
    rintro ⟨⟩
    exact .start hevt
  case case6 c pc hevt => exact evtHandlerStep_effect hevt
  all_goals rintro ⟨⟩

lemma EvtEffect.work (h : s.EvtEffect i t) : t.work = s.work := by
  cases h <;> rfl

/-- What a step of the ACK part does to its item. -/
inductive AckEffect (s : SshLife) (i : ℕ) : SshLife → Prop
  | run (stage : AckStage) (hold : (s.ack i).onQueue = true) (hnew : stage.onQueue = true) :
      AckEffect s i (s.setAck i stage)
  | finish (hold : s.ack i = .handled) : AckEffect s i ((s.put i).setAck i .done)

lemma ackStep_effect (h : s.ackStep i status = some t) : s.AckEffect i t := by
  revert h
  fun_cases ackStep s i status
  case case1 | case2 | case4 => rintro ⟨⟩
  case case11 hack =>
    rintro ⟨⟩
    exact .finish hack
  case case5 dev hack =>
    rintro ⟨⟩
    apply AckEffect.run _ (by rw [hack]; rfl)
    split <;> rfl
  case case9 dev serdev hack =>
    rintro ⟨⟩
    apply AckEffect.run _ (by rw [hack]; rfl)
    split <;> rfl
  all_goals
    rintro ⟨⟩
    exact .run _ (by rw [‹s.ack i = _›]; rfl) rfl

/-- The receive callback, timers and work items leave the rest of the driver alone. -/
structure SameEc (s t : SshLife) : Prop where
  state : t.state = s.state
  serdev : t.serdev = s.serdev
  attr : t.attr = s.attr
  handler : t.handler = s.handler
  regs : t.regs = s.regs
  removed : t.removed = s.removed
  callers : t.callers = s.callers
  caller : t.caller = s.caller
  remove : t.remove = s.remove

lemma step_ec {a : LifeAct} (ha : a.ofItem = true) (hs : a.step E s = some t) : s.SameEc t := by
  cases a with
  | receive input =>
    obtain ⟨-, -, rfl⟩ := receiveStep_cases hs
    exact ⟨rfl, rfl, rfl, rfl, rfl, rfl, rfl, rfl, rfl⟩
  | rx ok =>
    revert hs
    change s.rxStep ok = some t → _
    fun_cases rxStep s ok
    all_goals
      rintro ⟨⟩ <;> exact ⟨rfl, rfl, rfl, rfl, rfl, rfl, rfl, rfl, rfl⟩
  | timer i =>
    obtain ⟨-, stage, -, rfl⟩ := timerStep_cases hs
    exact ⟨rfl, rfl, rfl, rfl, rfl, rfl, rfl, rfl, rfl⟩
  | ack i status => cases ackStep_effect hs <;> exact ⟨rfl, rfl, rfl, rfl, rfl, rfl, rfl, rfl, rfl⟩
  | evt i status => cases evtStep_effect hs <;> exact ⟨rfl, rfl, rfl, rfl, rfl, rfl, rfl, rfl, rfl⟩
  | call c => cases ha
  | caller k => cases ha
  | remove => cases ha

/-! ### Work items in a run -/

/-- Two stages of the receive callback that are the same for the item `i`. -/
def RxAgree (r r' : RxStage) (i : ℕ) : Prop :=
  (r = .allocated i ↔ r' = .allocated i) ∧ (r.preparing = some i ↔ r'.preparing = some i) ∧
    (r = .inline i ↔ r' = .inline i)

lemma RxAgree.refl (r : RxStage) (i : ℕ) : RxAgree r r i := ⟨Iff.rfl, Iff.rfl, Iff.rfl⟩

lemma RxStage.item_eq_some {r : RxStage} :
    r.item = some i ↔ r.preparing = some i ∨ r = .inline i := by
  cases r <;> simp [RxStage.item, RxStage.preparing]

lemma RxAgree.item {r r' : RxStage} (h : RxAgree r r' i) : r.item = some i ↔ r'.item = some i := by
  rw [RxStage.item_eq_some, RxStage.item_eq_some, h.2.1, h.2.2]

lemma RxAgree.of_ne {r r' : RxStage} (h : r.item ≠ some i) (h' : r'.item ≠ some i) :
    RxAgree r r' i := by
  have hnone {r : RxStage} (h : r.item ≠ some i) :
      r ≠ .allocated i ∧ r.preparing ≠ some i ∧ r ≠ .inline i := by
    rw [Ne, RxStage.item_eq_some, not_or] at h
    refine ⟨?_, h⟩
    rintro rfl
    exact h.1 rfl
  have h := hnone h
  have h' := hnone h'
  exact ⟨iff_of_false h.1 h'.1, iff_of_false h.2.1 h'.2.1, iff_of_false h.2.2 h'.2.2⟩

lemma ItemOk.congr (h : s.ItemOk i) (hack : t.ack i = s.ack i) (hevt : t.evt i = s.evt i)
    (href : t.refcount i = s.refcount i) (hfreed : t.freed i = s.freed i)
    (hrx : RxAgree t.rx s.rx i) : t.ItemOk i := by
  constructor
  · rw [hack, hrx.1]
    exact h.ack
  · rw [hevt, hrx.2.1]
    exact h.evt
  · rw [hevt, hrx.2.2]
    exact h.inline
  · rw [hevt, hrx.2.2]
    exact h.called
  · rw [href, hack, hevt]
    exact h.refcount
  · rw [hfreed, href]
    exact h.freed

/-- A step that changes one item only. -/
lemma WorksOk.update (h : s.WorksOk) (hi : i < s.works) (hworks : t.works = s.works)
    (hother : ∀ j, j ≠ i → t.ack j = s.ack j ∧ t.evt j = s.evt j ∧
      t.refcount j = s.refcount j ∧ t.freed j = s.freed j ∧ RxAgree t.rx s.rx j)
    (hitem : t.ItemOk i) : t.WorksOk := by
  constructor
  · intro j hj
    rw [hworks] at hj
    by_cases hji : j = i
    · rw [hji]
      exact hitem
    · obtain ⟨hack, hevt, href, hfreed, hrx⟩ := hother j hji
      exact (h.item j hj).congr hack hevt href hfreed hrx
  · intro j hj
    rw [hworks] at hj
    obtain ⟨hack, hevt, -, hfreed, -⟩ := hother j (Nat.ne_of_gt (Nat.lt_of_lt_of_le hi hj))
    rw [hack, hevt, hfreed]
    exact h.unborn j hj
  · intro j hj
    rw [hworks]
    by_cases hji : j = i
    · rw [hji]
      exact hi
    · exact h.rx j ((hother j hji).2.2.2.2.item.mp hj)

/-- A step that changes at most the stage of the receive callback. -/
lemma WorksOk.congr (h : s.WorksOk) (hworks : t.works = s.works) (hack : t.ack = s.ack)
    (hevt : t.evt = s.evt) (href : t.refcount = s.refcount) (hfreed : t.freed = s.freed)
    (hrx : ∀ j, RxAgree t.rx s.rx j) : t.WorksOk := by
  constructor
  · intro i hi
    rw [hworks] at hi
    apply (h.item i hi).congr _ _ _ _ (hrx i)
    · rw [hack]
    · rw [hevt]
    · rw [href]
    · rw [hfreed]
  · rw [hworks, hack, hevt, hfreed]
    exact h.unborn
  · intro j hj
    rw [hworks]
    exact h.rx j ((hrx j).item.mp hj)

lemma AckStage.ne_of_onQueue {a : AckStage} (h : a.onQueue = true) : a ≠ .unqueued ∧ a ≠ .done := by
  cases a <;> simp [AckStage.onQueue] at h ⊢

lemma WorksOk.lt_of_evt (h : s.WorksOk) (hevt : s.evt i ≠ .unqueued) : i < s.works := by
  by_contra hi
  exact hevt (h.unborn i (Nat.le_of_not_lt hi)).2.1

lemma WorksOk.lt_of_ack (h : s.WorksOk) (hack : s.ack i ≠ .unqueued) : i < s.works := by
  by_contra hi
  exact hack (h.unborn i (Nat.le_of_not_lt hi)).1

lemma WorksOk.ack (h : s.WorksOk) (hs : s.AckEffect i t) : t.WorksOk := by
  cases hs with
  | run stage hold hnew =>
    have hold := AckStage.ne_of_onQueue hold
    have hnew := AckStage.ne_of_onQueue hnew
    have hi : i < s.works := h.lt_of_ack hold.1
    have hitem := h.item i hi
    refine h.update hi rfl (fun j hj => ?_)
      ⟨?_, hitem.evt, hitem.inline, hitem.called, ?_, hitem.freed⟩
    · exact ⟨ack_setAck_of_ne hj, rfl, rfl, rfl, RxAgree.refl _ _⟩
    · rw [ack_setAck]
      exact iff_of_false hnew.1 fun h => hold.1 (hitem.ack.mpr h)
    · rw [ack_setAck, if_neg hnew.2]
      exact hitem.refcount.trans (by rw [if_neg hold.2]; rfl)
  | finish hold =>
    have hi : i < s.works := h.lt_of_ack (by rw [hold]; exact nofun)
    have hitem := h.item i hi
    have href : s.refcount i = 1 + if (s.evt i).isDone then 0 else 1 := by
      rw [hitem.refcount, hold, if_neg nofun]
    refine h.update hi rfl (fun j hj => ?_) ⟨?_, hitem.evt, hitem.inline, hitem.called, ?_, ?_⟩
    · exact ⟨ack_setAck_of_ne hj, rfl, refcount_put_of_ne hj, freed_put_of_ne hj,
        RxAgree.refl _ _⟩
    · rw [ack_setAck]
      exact iff_of_false nofun fun h => by rw [hitem.ack.mpr h] at hold; cases hold
    · rw [ack_setAck, if_pos rfl]
      change (s.put i).refcount i = 0 + if (s.evt i).isDone then 0 else 1
      rw [refcount_put, href]
      omega
    · exact freed_put_eq hitem.freed (by omega)

lemma WorksOk.setEvt {stage : EvtStage} (h : s.WorksOk) (lock : Option Party)
    (hold : s.evt i ≠ .unqueued) (hnew : stage ≠ .unqueued)
    (hdone : stage.isDone = (s.evt i).isDone)
    (hinline : ∀ pc, stage = .running .inline pc → ∃ pc', s.evt i = .running .inline pc')
    (hcalled : (s.evt i).calledInline = true → stage.calledInline = true) :
    WorksOk { s.setEvt i stage with lock := lock } := by
  have hi : i < s.works := h.lt_of_evt hold
  have hitem := h.item i hi
  have hevt : SshLife.evt { s.setEvt i stage with lock := lock } i = stage := evt_setEvt
  refine h.update hi rfl (fun j hj => ?_)
    ⟨hitem.ack, ?_, fun pc hpc => ?_, fun hrx => ?_, ?_, hitem.freed⟩
  · exact ⟨rfl, evt_setEvt_of_ne hj, rfl, rfl, RxAgree.refl _ _⟩
  · rw [hevt]
    exact iff_of_false hnew fun h => hold (hitem.evt.mpr h)
  · obtain ⟨pc', hpc'⟩ := hinline pc (hevt.symm.trans hpc)
    exact hitem.inline pc' hpc'
  · rw [hevt]
    exact hcalled (hitem.called hrx)
  · rw [hevt, hdone]
    exact hitem.refcount

lemma WorksOk.evt (h : s.WorksOk) (hs : s.EvtEffect i t) : t.WorksOk := by
  cases hs with
  | start hold =>
    exact h.setEvt s.lock (by rw [hold]; exact nofun) nofun (by rw [hold]; rfl) nofun
      (by rw [hold]; exact nofun)
  | run c pc pc' lock hold =>
    refine h.setEvt lock (by rw [hold]; exact nofun) nofun (by rw [hold]; rfl) (fun _ hpc => ?_)
      (by rw [hold]; cases c <;> exact id)
    cases hpc
    exact ⟨pc, hold⟩
  | finish c hold =>
    have hi : i < s.works := h.lt_of_evt (by rw [hold]; exact nofun)
    have hitem := h.item i hi
    have href : s.refcount i = (if s.ack i = .done then 0 else 1) + 1 := by
      rw [hitem.refcount, hold]
      rfl
    refine h.update hi rfl (fun j hj => ?_) ⟨hitem.ack, ?_, fun pc hpc => ?_, fun _ => ?_, ?_, ?_⟩
    · exact ⟨rfl, evt_setEvt_of_ne hj, refcount_put_of_ne hj, freed_put_of_ne hj,
        RxAgree.refl _ _⟩
    · rw [evt_setEvt]
      exact iff_of_false nofun fun h => by rw [hitem.evt.mpr h] at hold; cases hold
    · rw [evt_setEvt] at hpc
      cases hpc
    · rw [evt_setEvt]
      rfl
    · change (s.put i).refcount i = _ + if ((s.put i).setEvt i .done |>.evt i).isDone then 0 else 1
      rw [refcount_put, href, evt_setEvt]
      rfl
    · exact freed_put_eq hitem.freed (by omega)

lemma WorksOk.timer (h : s.WorksOk) (hs : s.timerStep i = some t) : t.WorksOk := by
  obtain ⟨hold, stage, hstage, rfl⟩ := timerStep_cases hs
  rcases hstage with ⟨-, rfl⟩ | ⟨-, rfl⟩ <;>
  · exact h.setEvt s.lock (by rw [hold]; exact nofun) nofun (by rw [hold]; rfl) nofun
      (by rw [hold]; exact nofun)

/-- The receive callback allocates an item. -/
lemma WorksOk.alloc (h : s.WorksOk) (hrx : s.rx.item = none) (work : SshEventWork) :
    WorksOk { s with
      works := s.works + 1
      work := Function.update s.work s.works work
      refcount := Function.update s.refcount s.works 2
      rx := .allocated s.works } := by
  obtain ⟨hack, hevt, hfreed⟩ := h.unborn s.works (Nat.le_refl _)
  refine ⟨fun j hj => ?_, fun j hj => h.unborn j (Nat.le_of_succ_le hj), fun j hj => ?_⟩
  · by_cases hjw : j = s.works
    · rw [hjw]
      refine ⟨iff_of_true hack rfl, iff_of_true hevt rfl, fun pc hpc => ?_, nofun, ?_, ?_⟩
      · rw [hevt] at hpc
        cases hpc
      · dsimp only
        rw [Function.update_self, hack, hevt]
        rfl
      · simp only [Function.update_self, hfreed]
        rfl
    · have hlt : j < s.works := Nat.lt_of_le_of_ne (Nat.le_of_lt_succ hj) hjw
      refine (h.item j hlt).congr rfl rfl (Function.update_of_ne hjw ..) rfl (.of_ne ?_ ?_)
      · exact fun h => hjw (Option.some.inj h).symm
      · rw [hrx]
        exact nofun
  · cases hj
    exact Nat.lt_succ_self _

lemma RxAgree.of_none {r r' : RxStage} (h : r.item = none) (h' : r'.item = none) (j : ℕ) :
    RxAgree r r' j :=
  .of_ne (by rw [h]; exact nofun) (by rw [h']; exact nofun)

/-- The receive callback hands over the event part. -/
lemma WorksOk.submit {stage : EvtStage} {rx : RxStage} (h : s.WorksOk) {delay : ℕ}
    (hrx : s.rx = .delayed i delay) (hnew : stage ≠ .unqueued) (hdone : stage.isDone = false)
    (hitem : rx = .idle ∨ rx = .inline i)
    (hinline : ∀ pc, stage = .running .inline pc → rx = .inline i)
    (hcalled : rx = .inline i → stage.calledInline = true) :
    WorksOk { s.setEvt i stage with rx := rx } := by
  have hi : i < s.works := h.rx i (by rw [hrx]; rfl)
  have hold := h.item i hi
  have hevt : SshLife.evt { s.setEvt i stage with rx := rx } i = stage := evt_setEvt
  have hunqueued : s.evt i = .unqueued := hold.evt.mpr (by rw [hrx]; rfl)
  refine h.update hi rfl (fun j hj => ?_)
    ⟨?_, ?_, fun pc hpc => ?_, fun hrx => ?_, ?_, hold.freed⟩
  · refine ⟨rfl, evt_setEvt_of_ne hj, rfl, rfl, .of_ne ?_ ?_⟩
    · rcases hitem with rfl | rfl
      · rintro ⟨⟩
      · exact fun h => hj (Option.some.inj h).symm
    · rw [hrx]
      exact fun h => hj (Option.some.inj h).symm
  · have hack : s.ack i ≠ .unqueued := fun hack => by rw [hold.ack.mp hack] at hrx; cases hrx
    apply iff_of_false hack
    rcases hitem with rfl | rfl <;> exact nofun
  · rw [hevt]
    apply iff_of_false hnew
    rcases hitem with rfl | rfl <;> exact nofun
  · exact hinline pc (hevt.symm.trans hpc)
  · rw [hevt]
    exact hcalled hrx
  · rw [hevt, hdone]
    exact hold.refcount.trans (by rw [hunqueued]; rfl)

/-- The receive callback is between items. -/
lemma WorksOk.setRx {rx : RxStage} (h : s.WorksOk) (hold : s.rx.item = none)
    (hnew : rx.item = none) : WorksOk { s with rx := rx } :=
  h.congr rfl rfl rfl rfl rfl (RxAgree.of_none hnew hold)

lemma WorksOk.rxStep {ok : Bool} (h : s.WorksOk) (hs : s.rxStep ok = some t) : t.WorksOk := by
  revert hs
  fun_cases SshLife.rxStep s ok
  case case1 | case13 => rintro ⟨⟩
  case case5 dev work hrx hok =>
    rintro ⟨⟩
    exact h.alloc (by rw [hrx]; rfl) work
  case case8 i hrx =>
    rintro ⟨⟩
    have hi : i < s.works := h.rx i (by rw [hrx]; rfl)
    have hold := h.item i hi
    have hack : s.ack i = .unqueued := hold.ack.mpr hrx
    refine h.update hi rfl (fun j hj => ?_) ⟨?_, ?_, fun pc hpc => ?_, nofun, ?_, hold.freed⟩
    · refine ⟨ack_setAck_of_ne hj, rfl, rfl, rfl, .of_ne ?_ ?_⟩
      · exact fun h => hj (Option.some.inj h).symm
      · rw [hrx]
        exact fun h => hj (Option.some.inj h).symm
    · exact iff_of_false (by rw [show _ = AckStage.queued from ack_setAck]; exact nofun) nofun
    · exact iff_of_true (hold.evt.mpr (by rw [hrx]; rfl)) rfl
    · have hinline := hold.inline pc hpc
      rw [hrx] at hinline
      cases hinline
    · apply hold.refcount.trans
      rw [hack, show _ = AckStage.queued from ack_setAck]
      rfl
  case case9 i hrx event delay =>
    rintro ⟨⟩
    refine h.congr rfl rfl rfl rfl rfl fun j => ?_
    rw [hrx]
    exact ⟨iff_of_false nofun nofun, Iff.rfl, iff_of_false nofun nofun⟩
  case case10 i hrx =>
    rintro ⟨⟩
    exact h.submit hrx nofun rfl (.inr rfl) (fun _ _ => rfl) fun _ => rfl
  case case11 i delay hrx hdelay =>
    rintro ⟨⟩
    by_cases hzero : delay = 0
    · rw [if_pos hzero]
      exact h.submit hrx nofun rfl (.inl rfl) nofun nofun
    · rw [if_neg hzero]
      exact h.submit hrx nofun rfl (.inl rfl) nofun nofun
  case case12 i hrx hdone =>
    rintro ⟨⟩
    have hi : i < s.works := h.rx i (by rw [hrx]; rfl)
    have hold := h.item i hi
    refine h.update hi rfl (fun j hj => ?_)
      ⟨?_, ?_, fun pc hpc => ?_, nofun, hold.refcount, hold.freed⟩
    · refine ⟨rfl, rfl, rfl, rfl, .of_ne nofun ?_⟩
      rw [hrx]
      exact fun h => hj (Option.some.inj h).symm
    · exact iff_of_false (fun h => by rw [hold.ack.mp h] at hrx; cases hrx) nofun
    · exact iff_of_false (fun h => by rw [show s.evt i = _ from h] at hdone; cases hdone) nofun
    · rw [show s.evt i = _ from hpc] at hdone
      cases hdone
  all_goals
    rintro ⟨⟩
    exact h.setRx (by rw [‹s.rx = _›]; rfl) rfl

/-- Callers and the removal leave work items and the receive callback alone. -/
structure SameItems (s t : SshLife) : Prop where
  works : t.works = s.works
  work : t.work = s.work
  ack : t.ack = s.ack
  evt : t.evt = s.evt
  refcount : t.refcount = s.refcount
  freed : t.freed = s.freed
  rx : t.rx = s.rx

lemma sameItems_perform (call : Call) (stage : CallerStage) :
    s.SameItems ((s.perform call).setCaller k stage) := by
  cases call <;> exact ⟨rfl, rfl, rfl, rfl, rfl, rfl, rfl⟩

lemma callerStep_items (h : s.callerStep k = some t) : s.SameItems t := by
  revert h
  fun_cases callerStep s k
  case case6 =>
    rintro ⟨⟩
    exact sameItems_perform _ _
  all_goals
    rintro ⟨⟩ <;> exact ⟨rfl, rfl, rfl, rfl, rfl, rfl, rfl⟩

lemma callStep_items {call : Call} (h : s.callStep call = some t) : s.SameItems t := by
  obtain ⟨-, rfl⟩ := callStep_cases h
  exact ⟨rfl, rfl, rfl, rfl, rfl, rfl, rfl⟩

lemma removeStep_items (h : s.removeStep = some t) : s.SameItems t := by
  revert h
  fun_cases removeStep s
  all_goals
    rintro ⟨⟩ <;> exact ⟨rfl, rfl, rfl, rfl, rfl, rfl, rfl⟩

lemma WorksOk.same (h : s.WorksOk) (hs : s.SameItems t) : t.WorksOk :=
  h.congr hs.works hs.ack hs.evt hs.refcount hs.freed fun j => by rw [hs.rx]; exact .refl _ _

lemma WorksOk.receiveStep {input : RxInput} (h : s.WorksOk) (hs : s.receiveStep input = some t) :
    t.WorksOk := by
  obtain ⟨-, hrx, rfl⟩ := receiveStep_cases hs
  exact h.setRx (by rw [hrx]; rfl) rfl

lemma WorksOk.step {a : LifeAct} (h : s.WorksOk) (hs : a.step E s = some t) : t.WorksOk := by
  cases a with
  | receive input => exact h.receiveStep hs
  | rx ok => exact h.rxStep hs
  | timer i => exact h.timer hs
  | ack i status => exact h.ack (ackStep_effect hs)
  | evt i status => exact h.evt (evtStep_effect hs)
  | call c => exact h.same (callStep_items hs)
  | caller k => exact h.same (callerStep_items hs)
  | remove => exact h.same (removeStep_items hs)

/-! ### What a step does to an event part -/

/-- How a step of the system changes the event part of an item: not at all, or the receive
callback hands it over, or its timer fires, or the part itself makes a step. -/
inductive EvtChange (E : HandlerEnv) (s : SshLife) (a : LifeAct) (t : SshLife) (i : ℕ) : Prop
  | same (heq : t.evt i = s.evt i)
  | submitted (hold : s.evt i = .unqueued) (hnew : t.evt i = .queued ∨ t.evt i = .timer ∨
      t.evt i = .running .inline (.entered s.serdev) ∧ t.rx = .inline i) (hi : i < s.works)
  | fired (hold : s.evt i = .timer) (hnew : s.Fires (t.evt i))
  | ran (status : ℤ) (ha : a = .evt i status) (hstep : s.evtStep E i status = some t)

/-- The receive callback hands over items that are not on the queue yet. -/
lemma WorksOk.unqueued {delay : ℕ} (h : s.WorksOk) (hrx : s.rx = .delayed i delay) :
    s.evt i = .unqueued :=
  (h.item i (h.rx i (by rw [hrx]; rfl))).evt.mpr (by rw [hrx]; rfl)

lemma WorksOk.evtChange {a : LifeAct} (h : s.WorksOk) (hs : a.step E s = some t) (i : ℕ) :
    EvtChange E s a t i := by
  cases a with
  | receive input =>
    obtain ⟨-, -, rfl⟩ := receiveStep_cases hs
    exact .same rfl
  | rx ok =>
    revert hs
    change s.rxStep ok = some t → _
    fun_cases SshLife.rxStep s ok
    case case10 j hrx =>
      rintro ⟨⟩
      by_cases hij : i = j
      · subst hij
        exact .submitted (h.unqueued hrx) (.inr (.inr ⟨evt_setEvt, rfl⟩)) (h.rx i (by rw [hrx]; rfl))
      · exact .same (evt_setEvt_of_ne hij)
    case case11 j delay hrx hdelay =>
      rintro ⟨⟩
      by_cases hij : i = j
      · subst hij
        refine .submitted (h.unqueued hrx) ?_ (h.rx i (by rw [hrx]; rfl))
        rw [show SshLife.evt _ i = _ from evt_setEvt]
        by_cases hzero : delay = 0
        · exact .inl (if_pos hzero)
        · exact .inr (.inl (if_neg hzero))
      · exact .same (evt_setEvt_of_ne hij)
    all_goals
      rintro ⟨⟩ <;> exact .same rfl
  | timer j =>
    obtain ⟨hold, stage, hstage, rfl⟩ := timerStep_cases hs
    by_cases hij : i = j
    · subst hij
      refine .fired hold ?_
      rw [evt_setEvt]
      exact hstage
    · exact .same (evt_setEvt_of_ne hij)
  | ack j status => cases ackStep_effect hs <;> exact .same rfl
  | evt j status =>
    by_cases hij : i = j
    · subst hij
      exact .ran status rfl hs
    · cases evtStep_effect hs <;> exact .same (evt_setEvt_of_ne hij)
  | call c => exact .same (congrFun (callStep_items hs).evt i)
  | caller k => exact .same (congrFun (callerStep_items hs).evt i)
  | remove => exact .same (congrFun (removeStep_items hs).evt i)

/-- The data of an item does not change. -/
lemma step_work {a : LifeAct} (hs : a.step E s = some t) (hi : i < s.works) :
    t.work i = s.work i := by
  cases a with
  | receive input =>
    obtain ⟨-, -, rfl⟩ := receiveStep_cases hs
    rfl
  | rx ok =>
    revert hs
    change s.rxStep ok = some t → _
    fun_cases SshLife.rxStep s ok
    case case5 =>
      rintro ⟨⟩
      exact Function.update_of_ne (Nat.ne_of_lt hi) ..
    all_goals
      rintro ⟨⟩ <;> rfl
  | timer j =>
    obtain ⟨-, stage, -, rfl⟩ := timerStep_cases hs
    rfl
  | ack j status => cases ackStep_effect hs <;> rfl
  | evt j status => rw [(evtStep_effect hs).work]
  | call c => rw [(callStep_items hs).work]
  | caller k => rw [(callerStep_items hs).work]
  | remove => rw [(removeStep_items hs).work]

end SshLife

end SurfaceSam
