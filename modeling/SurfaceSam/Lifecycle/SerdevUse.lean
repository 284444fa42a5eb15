import SurfaceSam.Lifecycle.Locking

/-!
# Uses of the serial device after removal

`surface_sam_ssh_remove` sets `ec->serdev` to NULL while events can still come in. The
driver does not use it any more if nothing that uses it is under way at that point, and
neither an event nor anything else to be logged arrives later.
-/

namespace SurfaceSam

open Devlib

/-! ### Uses -/

/-- The next step logs or writes. -/
def AckStage.uses : AckStage → Bool
  | .debugging .. | .writing .. | .failed _ => true
  | _ => false

/-- The EC has been found initialized, so that an ACK is being sent. -/
def AckStage.acking : AckStage → Bool
  | .checked _ | .debugging .. | .debugged _ | .writing .. | .failed _ => true
  | _ => false

def EvtStage.logs : EvtStage → Bool
  | .running _ (.unhandled _) | .running _ (.failed _) => true
  | _ => false

/-- The event part logs unless it finds a handler in the table. -/
def EvtStage.willLog : EvtStage → Bool
  | .queued | .running _ (.entered _) | .running _ (.unhandled _) | .running _ (.failed _) => true
  | .running _ (.fetched _ slot) => slot.handler.isNone
  | _ => false

/-- A handler has been found. -/
def EvtStage.handles : EvtStage → Bool
  | .running _ (.fetched _ slot) => slot.handler.isSome
  | stage => stage.inHandler

/-- The handler makes no further requests. -/
def EvtStage.returning : EvtStage → Bool
  | .running _ (.called _ _ 0) => true
  | _ => false

def RxStage.logs : RxStage → Bool
  | .evaluating _ .logged | .noMemory _ => true
  | _ => false

/-- The receive callback logs, or hands over an event that is not delayed. -/
def RxStage.willLog : RxStage → Bool
  | .evaluating _ .quiet | .idle | .inline _ => false
  | .delayed _ delay => delay == 0 || delay == surfaceSamSshEventImmediate
  | _ => true

def RxInput.isQuiet : RxInput → Bool
  | .quiet => true
  | _ => false

/-- The call uses the serial device once it holds the mutex. -/
def Call.requests : Call → Bool
  | .rqst | .rqstWrite _ | .suspend | .resume => true
  | _ => false

def CallerStage.requests : CallerStage → Bool
  | .locked call => call.requests
  | _ => false

lemma AckStage.acking_of_uses {stage : AckStage} (h : stage.uses = true) : stage.acking = true := by
  cases stage <;> first | rfl | cases h

lemma EvtStage.willLog_of_logs {stage : EvtStage} (h : stage.logs = true) :
    stage.willLog = true := by
  cases stage with
  | running c pc => cases pc <;> first | rfl | cases h
  | _ => cases h

lemma RxStage.willLog_of_logs {stage : RxStage} (h : stage.logs = true) :
    stage.willLog = true := by
  cases stage with
  | evaluating dev input => cases input <;> first | rfl | cases h
  | noMemory dev => rfl
  | _ => cases h

lemma EvtStage.handles_of_inHandler {stage : EvtStage} (h : stage.inHandler = true) :
    stage.handles = true := by
  cases stage with
  | running c pc => cases pc <;> first | exact h | cases h
  | _ => cases h

namespace SshLife

variable {E : HandlerEnv} {s t u : SshLife} {a : LifeAct} {i k n : ℕ} {status : ℤ}

/-- The step logs against `ec->serdev` or writes through it; a request does both. -/
def usesSerdev (s : SshLife) : LifeAct → Bool
  | .rx _ => s.rx.logs
  | .ack i _ => (s.ack i).uses
  | .evt i _ => (s.evt i).logs || (s.evt i).holdsLock && s.state ≠ .uninitialized
  | .caller k => (s.caller k).requests && s.state ≠ .uninitialized
  | .remove => s.remove.rank = 5
  | .receive _ | .timer _ | .call _ => false

/-- Nothing is under way that uses the serial device as it is detached. Afterwards nothing
comes in that does, no delayed event gets to its queue, and handlers succeed. -/
def SerdevQuiet (s : SshLife) : LifeAct → Prop
  | .remove => s.remove.rank = 10 →
    (∀ i < s.works, (s.ack i).acking = false ∧ (s.evt i).willLog = false) ∧ s.rx.willLog = false
  | .receive input => s.serdev = none → input.isQuiet = true
  | .timer _ => s.serdev = none → s.remove.evtClosed = true
  | .evt i status => s.serdev = none → (s.evt i).returning = true → status = 0
  | _ => True

instance (s : SshLife) : DecidablePred s.SerdevQuiet
  | .remove => inferInstanceAs (Decidable (s.remove.rank = 10 → _))
  | .receive _ => inferInstanceAs (Decidable (s.serdev = none → _))
  | .timer _ => inferInstanceAs (Decidable (s.serdev = none → _))
  | .evt _ _ => inferInstanceAs (Decidable (s.serdev = none → _))
  | .rx _ | .ack _ _ | .call _ | .caller _ => .isTrue trivial

/-! ### Steps -/

/-- Without an initialized EC no ACK is started. -/
lemma ackStep_acking (hstate : s.state = .uninitialized) (hold : (s.ack i).acking = false)
    (hs : s.ackStep i status = some t) : (t.ack i).acking = false := by
  revert hs
  fun_cases ackStep s i status
  case case1 | case2 | case4 => rintro ⟨⟩
  case case5 dev hack =>
    rintro ⟨⟩
    rw [ack_setAck, hstate]
    rfl
  case case3 | case10 | case11 =>
    rintro ⟨⟩
    rw [ack_setAck]
    rfl
  all_goals
    rw [‹s.ack i = _›] at hold
    cases hold

/-- With an empty handler table no handler is found. -/
lemma evtStep_handles (hnull : ∀ n, s.handler n = .null) (hold : (s.evt i).handles = false)
    (hs : s.evtStep E i status = some t) : (t.evt i).handles = false := by
  revert hs
  fun_cases evtStep E s i status
  case case5 hevt =>
    rintro ⟨⟩
    rw [evt_setEvt]
    rfl
  case case6 c pc hevt =>
    rw [hevt] at hold
    fun_cases evtHandlerStep E s i status c pc
    case case1 dev =>
      rintro ⟨⟩
      rw [evt_setEvt, slotOf, hnull]
      rfl
    case case2 dev slot fn hfn =>
      rw [EvtStage.handles, hfn] at hold
      cases hold
    case case3 | case4 | case11 | case12 =>
      rintro ⟨⟩
      rw [evt_setEvt]
      rfl
    all_goals cases hold
  all_goals rintro ⟨⟩

/-- An event part that is not going to log has a handler, which keeps it from logging as
long as it returns 0. -/
lemma evtStep_willLog (hold : (s.evt i).willLog = false)
    (hreturn : (s.evt i).returning = true → status = 0)
    (hs : s.evtStep E i status = some t) : (t.evt i).willLog = false := by
  revert hs
  fun_cases evtStep E s i status
  case case5 hevt =>
    rw [hevt] at hold
    cases hold
  case case6 c pc hevt =>
    rw [hevt] at hold hreturn
    fun_cases evtHandlerStep E s i status c pc
    case case3 dev slot hfn =>
      rw [EvtStage.willLog, hfn] at hold
      cases hold
    case case10 dev slot =>
      rintro ⟨⟩
      rw [evt_setEvt, if_pos (hreturn rfl)]
      rfl
    case case2 | case5 | case6 | case9 | case12 =>
      rintro ⟨⟩
      rw [show SshLife.evt _ i = _ from evt_setEvt]
      rfl
    case case7 | case8 => rintro ⟨⟩
    all_goals cases hold
  all_goals rintro ⟨⟩

/-- A receive callback that is not going to log may start the timer of an event. -/
lemma rxStep_willLog {ok : Bool} (hold : s.rx.willLog = false) (hs : s.rxStep ok = some t) :
    t.rx.willLog = false ∧ ∀ i, (s.evt i).willLog = false → (t.evt i).willLog = false := by
  revert hs
  fun_cases rxStep s ok
  case case1 | case13 => rintro ⟨⟩
  case case2 | case12 =>
    rintro ⟨⟩
    exact ⟨rfl, fun _ hi => hi⟩
  case case10 j hrx =>
    rw [hrx] at hold
    cases hold
  case case11 j delay hrx hdelay =>
    rintro ⟨⟩
    have hzero : delay ≠ 0 := by
      rintro rfl
      rw [hrx] at hold
      cases hold
    refine ⟨rfl, fun i hi => ?_⟩
    rw [if_neg hzero]
    by_cases hij : i = j
    · rw [hij, show SshLife.evt _ j = _ from evt_setEvt]
      rfl
    · rw [show SshLife.evt _ i = _ from evt_setEvt_of_ne hij]
      exact hi
  all_goals
    rw [‹s.rx = _›] at hold
    cases hold

/-- How a step of the system changes the ACK part of an item. -/
lemma step_ack (hs : a.step E s = some t) (i : ℕ) :
    t.ack i = s.ack i ∨ t.ack i = .queued ∨ ∃ status, s.ackStep i status = some t := by
  cases a with
  | receive input =>
    obtain ⟨-, -, rfl⟩ := receiveStep_cases hs
    exact .inl rfl
  | rx ok =>
    revert hs
    change s.rxStep ok = some t → _
    fun_cases SshLife.rxStep s ok
    case case8 j hrx =>
      rintro ⟨⟩
      by_cases hij : i = j
      · subst hij
        exact .inr (.inl ack_setAck)
      · exact .inl (ack_setAck_of_ne hij)
    all_goals
      rintro ⟨⟩ <;> exact .inl rfl
  | timer j =>
    obtain ⟨-, stage, -, rfl⟩ := timerStep_cases hs
    exact .inl rfl
  | ack j status =>
    by_cases hij : i = j
    · subst hij
      exact .inr (.inr ⟨status, hs⟩)
    · cases ackStep_effect hs <;> exact .inl (ack_setAck_of_ne hij)
  | evt j status => cases evtStep_effect hs <;> exact .inl rfl
  | call c => exact .inl (congrFun (callStep_items hs).ack i)
  | caller k => exact .inl (congrFun (callerStep_items hs).ack i)
  | remove => exact .inl (congrFun (removeStep_items hs).ack i)

/-- After the EC has been uninitialized no ACK is started. -/
lemma Ok.acking_step (h : s.Ok) (hrank : 10 ≤ s.remove.rank) (hold : (s.ack i).acking = false)
    (hs : a.step E s = some t) : (t.ack i).acking = false := by
  rcases step_ack hs i with heq | hqueued | ⟨status, hstep⟩
  · rw [heq]
    exact hold
  · rw [hqueued]
    rfl
  · exact ackStep_acking (h.progress.state.mpr hrank) hold hstep

/-- After the handler table has been cleared no handler is found. -/
lemma Ok.handles_step (h : s.Ok) (hrank : 9 ≤ s.remove.rank) (hold : (s.evt i).handles = false)
    (hs : a.step E s = some t) : (t.evt i).handles = false := by
  cases h.works.evtChange hs i with
  | same heq =>
    rw [heq]
    exact hold
  | submitted _ hnew =>
    rcases hnew with hnew | hnew | ⟨hnew, -⟩ <;>
    · rw [hnew]
      rfl
  | fired _ hnew =>
    rcases hnew with ⟨-, hnew⟩ | ⟨-, hnew⟩ <;>
    · rw [hnew]
      rfl
  | ran status _ hstep => exact evtStep_handles (h.progress.handlers hrank) hold hstep

/-! ### Runs -/

/-- Once the serial device has been detached, nothing is under way that uses it. -/
structure SerdevOk (s : SshLife) : Prop where
  acks : 11 ≤ s.remove.rank → ∀ i, (s.ack i).acking = false
  evts : 11 ≤ s.remove.rank → ∀ i, (s.evt i).willLog = false
  rx : 11 ≤ s.remove.rank → s.rx.willLog = false

lemma Ok.detach (h : s.Ok) (hC : s.SerdevQuiet .remove) (hrank : s.remove.rank = 10) :
    (∀ i, (s.ack i).acking = false ∧ (s.evt i).willLog = false) ∧ s.rx.willLog = false := by
  obtain ⟨hitems, hrx⟩ := hC hrank
  refine ⟨fun i => ?_, hrx⟩
  by_cases hi : i < s.works
  · exact hitems i hi
  · obtain ⟨hack, hevt, -⟩ := h.works.unborn i (Nat.le_of_not_lt hi)
    rw [hack, hevt]
    exact ⟨rfl, rfl⟩

lemma SerdevOk.removeStep (h : s.Ok) (hq : s.SerdevOk) (hC : s.SerdevQuiet .remove)
    (hs : s.removeStep = some t) : t.SerdevOk := by
  have hsame := removeStep_items hs
  have hrank := h.removeStep_rank hs
  by_cases hdetach : s.remove.rank = 10
  · obtain ⟨hitems, hrx⟩ := h.detach hC hdetach
    refine ⟨fun _ i => ?_, fun _ i => ?_, fun _ => ?_⟩
    · rw [hsame.ack]
      exact (hitems i).1
    · rw [hsame.evt]
      exact (hitems i).2
    · rw [hsame.rx]
      exact hrx
  · refine ⟨fun hle => ?_, fun hle => ?_, fun hle => ?_⟩
    · rw [hsame.ack]
      exact hq.acks (by omega)
    · rw [hsame.evt]
      exact hq.evts (by omega)
    · rw [hsame.rx]
      exact hq.rx (by omega)

lemma SerdevOk.same (hq : s.SerdevOk) (hsame : s.SameItems t) (hremove : t.remove = s.remove) :
    t.SerdevOk := by
  constructor
  · rw [hremove, hsame.ack]
    exact hq.acks
  · rw [hremove, hsame.evt]
    exact hq.evts
  · rw [hremove, hsame.rx]
    exact hq.rx

lemma SerdevOk.step (h : s.Ok) (hq : s.SerdevOk) (hC : s.SerdevQuiet a)
    (hs : a.step E s = some t) : t.SerdevOk := by
  by_cases hdetached : 11 ≤ s.remove.rank
  · have hnull : s.serdev = none := h.progress.serdev.mpr hdetached
    have hacks (i : ℕ) : (t.ack i).acking = false :=
      h.acking_step (by omega) (hq.acks hdetached i) hs
    cases a with
    | receive input =>
      have hquiet := hC hnull
      obtain ⟨-, -, rfl⟩ := receiveStep_cases hs
      refine ⟨hq.acks, hq.evts, fun _ => ?_⟩
      cases input <;> first | rfl | cases hquiet
    | rx ok =>
      obtain ⟨hrx, hevt⟩ := rxStep_willLog (hq.rx hdetached) hs
      exact ⟨fun _ => hacks, fun _ i => hevt i (hq.evts hdetached i), fun _ => hrx⟩
    | timer i =>
      -- the queue does not take the item any more
      have hclosed : s.remove.evtClosed = true := hC hnull
      obtain ⟨-, stage, hstage, rfl⟩ := timerStep_cases hs
      refine ⟨hq.acks, fun _ j => ?_, hq.rx⟩
      by_cases hj : j = i
      · rw [hj, evt_setEvt]
        rcases hstage with ⟨hopen, -⟩ | ⟨-, rfl⟩
        · rw [hclosed] at hopen
          cases hopen
        · rfl
      · rw [evt_setEvt_of_ne hj]
        exact hq.evts hdetached j
    | ack i status =>
      refine ⟨fun _ => hacks, ?_, ?_⟩
      · cases ackStep_effect hs <;> exact hq.evts
      · cases ackStep_effect hs <;> exact hq.rx
    | evt i status =>
      have heffect := evtStep_effect hs
      have hnew := evtStep_willLog (hq.evts hdetached i) (hC hnull) hs
      refine ⟨?_, fun _ j => ?_, ?_⟩
      · cases heffect <;> exact hq.acks
      · by_cases hj : j = i
        · rw [hj]
          exact hnew
        · rw [heffect.other hj]
          exact hq.evts hdetached j
      · cases heffect <;> exact hq.rx
    | call c => exact hq.same (callStep_items hs) (step_remove (a := .call c) (by rintro ⟨⟩) hs)
    | caller k =>
      exact hq.same (callerStep_items hs) (step_remove (a := .caller k) (by rintro ⟨⟩) hs)
    | remove => exact hq.removeStep h hC hs
  · by_cases ha : a = .remove
    · subst ha
      exact hq.removeStep h hC hs
    · have hremove := step_remove ha hs
      rw [← hremove] at hdetached
      exact ⟨fun hle => absurd hle hdetached, fun hle => absurd hle hdetached,
        fun hle => absurd hle hdetached⟩

/-- Whoever still uses the serial device does so before it is detached. -/
lemma SerdevOk.unused (h : s.Ok) (hq : s.SerdevOk) (hnull : s.serdev = none)
    (hs : a.step E s = some t) : s.usesSerdev a = false := by
  have hdetached : 11 ≤ s.remove.rank := h.progress.serdev.mp hnull
  have hstate : s.state = .uninitialized := h.progress.state.mpr (by omega)
  apply eq_false_of_ne_true
  intro huse
  cases a with
  | rx ok =>
    have hlog := RxStage.willLog_of_logs huse
    rw [hq.rx hdetached] at hlog
    cases hlog
  | ack i status =>
    have hack := AckStage.acking_of_uses huse
    rw [hq.acks hdetached i] at hack
    cases hack
  | evt i status =>
    rw [usesSerdev, hstate, Bool.or_eq_true] at huse
    rcases huse with hlog | hlock
    · have hlog := EvtStage.willLog_of_logs hlog
      rw [hq.evts hdetached i] at hlog
      cases hlog
    · rw [Bool.and_eq_true] at hlock
      cases hlock.2
  | caller k =>
    rw [usesSerdev, hstate, Bool.and_eq_true] at huse
    cases huse.2
  | remove =>
    have hrank : s.remove.rank = 5 := of_decide_eq_true huse
    omega
  | receive input => cases huse
  | timer i => cases huse
  | call c => cases huse

/-- The events from the item `n` on are neither ACKed nor handled. -/
def Ignored (n : ℕ) (s : SshLife) : Prop :=
  ∀ i, n ≤ i → (s.ack i).acking = false ∧ (s.evt i).inHandler = false

/-- Items that come into being after the serial device has been detached are ignored. -/
lemma Ok.ignored (h : s.Ok) (hnull : s.serdev = none) {C : SshLife → LifeAct → Prop}
    (hafter : Machine.Reaches (LifeAct.step E) C s t) : t.Ignored s.works := by
  have hinv : t.Ok ∧ 11 ≤ t.remove.rank ∧
      ∀ i, s.works ≤ i → (t.ack i).acking = false ∧ (t.evt i).handles = false := by
    refine hafter.invariant (I := fun t => t.Ok ∧ 11 ≤ t.remove.rank ∧
      ∀ i, s.works ≤ i → (t.ack i).acking = false ∧ (t.evt i).handles = false)
      ⟨h, h.progress.serdev.mp hnull, fun i hi => ?_⟩ fun u a v hu _ hs => ?_
    · obtain ⟨hack, hevt, -⟩ := h.works.unborn i hi
      rw [hack, hevt]
      exact ⟨rfl, rfl⟩
    · obtain ⟨hok, hrank, hlate⟩ := hu
      refine ⟨hok.step hs, ?_, fun i hi => ?_⟩
      · by_cases ha : a = .remove
        · subst ha
          have := hok.removeStep_rank hs
          omega
        · rwa [step_remove ha hs]
      · obtain ⟨hack, hevt⟩ := hlate i hi
        exact ⟨hok.acking_step (by omega) hack hs, hok.handles_step (by omega) hevt hs⟩
  intro i hi
  obtain ⟨hack, hevt⟩ := hinv.2.2 i hi
  refine ⟨hack, eq_false_of_ne_true fun hhandler => ?_⟩
  rw [EvtStage.handles_of_inHandler hhandler] at hevt
  cases hevt

end SshLife

open SshLife in
/-- In every run in which the serial device is quiet as it is detached and afterwards, it is
not used once `ec->serdev` is NULL. Whatever happens from then on, the events received late
are neither ACKed nor handled. -/
theorem surfaceSamSshRemove_serdev_unused (E : HandlerEnv) (s : SshLife)
    (hreach : Machine.Reaches (LifeAct.step E) SerdevQuiet probed s) (hnull : s.serdev = none) :
    (∀ a t, a.step E s = some t → s.usesSerdev a = false) ∧
      ∀ t, Machine.Reaches (LifeAct.step E) (fun _ _ => True) s t → t.Ignored s.works := by
  have hinv : s.Ok ∧ s.SerdevOk := by
    refine hreach.invariant (I := fun s => s.Ok ∧ s.SerdevOk)
      ⟨ok_probed, nofun, nofun, nofun⟩ fun t a u ht hC hs => ?_
    exact ⟨ht.1.step hs, ht.2.step ht.1 hC hs⟩
  exact ⟨fun a t hs => hinv.2.unused hinv.1 hnull hs, fun t ht => hinv.1.ignored hnull ht⟩

open LifeAct in
/-- An event has been ACKed and handled before the removal detaches the serial device. -/
theorem surfaceSamSshRemove_serdev_unused_handled :
    ∃ s, Machine.run (LifeAct.step ⟨fun _ _ => 0⟩) SshLife.probed
        (wholeCall (.setDelayedEventHandler 1 (some 1) none none) 0 ++
          dispatch ⟨⟨1, 8, 0, 3, 0, []⟩, 7⟩ ++ times 7 (.ack 0 10) ++ times 5 (.evt 0 0) ++
          times 11 .remove ++ [.receive .quiet]) = some s ∧
      s.serdev = none ∧ s.works = 1 ∧
      (∀ a t, a.step ⟨fun _ _ => 0⟩ s = some t → s.usesSerdev a = false) := by
  generalize hacts : _ ++ _ ++ _ ++ _ ++ _ ++ [LifeAct.receive .quiet] = acts
  have hrun : (Machine.run (LifeAct.step ⟨fun _ _ => 0⟩) SshLife.probed acts).any
      (fun s => decide (s.serdev = none ∧ s.works = 1)) = true := by
    rw [← hacts]
    decide +kernel
  have hmeets : Machine.Meets (LifeAct.step ⟨fun _ _ => 0⟩) SshLife.SerdevQuiet
      SshLife.probed acts := by
    rw [← hacts]
    decide +kernel
  obtain ⟨s, hs, hprop⟩ := (Option.any_eq_true _ _).mp hrun
  obtain ⟨hnull, hworks⟩ := of_decide_eq_true hprop
  exact ⟨s, hs, hnull, hworks,
    (surfaceSamSshRemove_serdev_unused _ s (Machine.reaches_of_run hs hmeets) hnull).1⟩

open LifeAct in
/-- Two events are received after the flushes. The worker that ACKs the first has found the
EC initialized, but writes through an `ec->serdev` that has been set to NULL since. The
second comes in later, and is logged against NULL. -/
theorem surfaceSamSshRemove_serdev_null_used :
    ∃ s, Machine.run (LifeAct.step ⟨fun _ _ => 0⟩) SshLife.probed
        (times 8 .remove ++ dispatch ⟨⟨1, 8, 0, 3, 0, []⟩, 7⟩ ++ times 2 (.ack 0 10) ++
          times 3 .remove ++ times 3 (.ack 0 10) ++ dispatch ⟨⟨1, 8, 0, 3, 0, []⟩, 8⟩ ++
          times 3 (.evt 1 0)) = some s ∧
      s.serdev = none ∧ s.ack 0 = .writing (some 0) none ∧
      (∃ t, LifeAct.step ⟨fun _ _ => 0⟩ s (.ack 0 10) = some t ∧
        s.usesSerdev (.ack 0 10) = true) ∧
      ∃ t, LifeAct.step ⟨fun _ _ => 0⟩ s (.evt 1 0) = some t ∧
        s.usesSerdev (.evt 1 0) = true := by
  have hrun : (Machine.run (LifeAct.step ⟨fun _ _ => 0⟩) SshLife.probed
      (times 8 .remove ++ dispatch ⟨⟨1, 8, 0, 3, 0, []⟩, 7⟩ ++ times 2 (.ack 0 10) ++
        times 3 .remove ++ times 3 (.ack 0 10) ++ dispatch ⟨⟨1, 8, 0, 3, 0, []⟩, 8⟩ ++
        times 3 (.evt 1 0))).any
      (fun s => decide (s.serdev = none ∧ s.ack 0 = .writing (some 0) none ∧
        (LifeAct.step ⟨fun _ _ => 0⟩ s (.ack 0 10)).isSome = true ∧
        s.usesSerdev (.ack 0 10) = true ∧
        (LifeAct.step ⟨fun _ _ => 0⟩ s (.evt 1 0)).isSome = true ∧
        s.usesSerdev (.evt 1 0) = true)) = true := by
    decide +kernel
  obtain ⟨s, hs, hprop⟩ := (Option.any_eq_true _ _).mp hrun
  obtain ⟨hnull, hwriting, hack, hackuse, hevt, hevtuse⟩ := of_decide_eq_true hprop
  obtain ⟨t, ht⟩ := Option.isSome_iff_exists.mp hack
  obtain ⟨u, hu⟩ := Option.isSome_iff_exists.mp hevt
  exact ⟨s, hs, hnull, hwriting, ⟨t, ht, hackuse⟩, u, hu, hevtuse⟩

end SurfaceSam
