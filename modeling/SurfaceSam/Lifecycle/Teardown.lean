import SurfaceSam.Lifecycle.Locking

/-!
# Events at removal

`surface_sam_ssh_remove` drains both workqueues before it destroys them, but an event whose
delay has not run out is on neither of them, and `queue_evt` takes no item from the moment on
at which it is to be destroyed. All work items have been run and freed when the removal
returns, if and only if no timer of an event was running at that moment.
-/

namespace SurfaceSam

open Devlib

/-- The timer of the event part is running, or has fired too late. -/
def EvtStage.stranded : EvtStage → Bool
  | .timer | .refused => true
  | _ => false

namespace SshLife

variable {E : HandlerEnv} {s t u : SshLife} {a : LifeAct}

/-- No timer of an event is running when `destroy_workqueue(queue_evt)` is called. -/
def TimersExpired (s : SshLife) : LifeAct → Prop
  | .remove => s.remove.rank = 15 → ∀ i < s.works, (s.evt i).isTimer = false
  | _ => True

instance (s : SshLife) : DecidablePred s.TimersExpired
  | .remove => inferInstanceAs (Decidable (s.remove.rank = 15 → _))
  | .receive _ | .rx _ | .timer _ | .ack _ _ | .evt _ _ | .call _ | .caller _ => .isTrue trivial

/-- Without the port there are no new work items. -/
lemma Ok.works_closed (h : s.Ok) (hrank : 15 ≤ s.remove.rank) (hs : a.step E s = some t) :
    t.works = s.works := by
  have hport := h.progress.port hrank
  cases a with
  | receive input =>
    have hopen := (receiveStep_cases hs).1
    rw [hport.1] at hopen
    cases hopen
  | rx ok => exact absurd hport.2 (rxStep_ne_idle hs)
  | timer i =>
    obtain ⟨-, stage, -, rfl⟩ := timerStep_cases hs
    rfl
  | ack i status => cases ackStep_effect hs <;> rfl
  | evt i status => cases evtStep_effect hs <;> rfl
  | call c => exact (callStep_items hs).works
  | caller k => exact (callerStep_items hs).works
  | remove => exact (removeStep_items hs).works

/-- While `queue_evt` is being destroyed, and afterwards, no event part becomes stranded, and
none gets out of it. -/
lemma Ok.stranded_closed (h : s.Ok) (hrank : 16 ≤ s.remove.rank) (hs : a.step E s = some t) {i : ℕ}
    (hi : i < s.works) : (t.evt i).stranded = (s.evt i).stranded := by
  cases h.works.evtChange hs i with
  | same heq => rw [heq]
  | submitted hold hnew =>
    have hpreparing := (h.works.item i hi).evt.mp hold
    rw [(h.progress.port (Nat.le_of_succ_le hrank)).2] at hpreparing
    cases hpreparing
  | fired hold hnew =>
    rcases hnew with ⟨hopen, -⟩ | ⟨-, hnew⟩
    · exact absurd hrank (of_decide_eq_false hopen)
    · rw [hold, hnew]
      rfl
  | ran status ha hstep =>
    cases evtStep_effect hstep with
    | start hold =>
      rw [evt_setEvt, hold]
      rfl
    | run c pc pc' lock hold =>
      rw [show SshLife.evt _ i = _ from evt_setEvt, hold]
      rfl
    | finish c hold =>
      rw [evt_setEvt, hold]
      rfl

/-- `queue_evt` stays closed. -/
lemma Ok.rank_step (h : s.Ok) (hs : a.step E s = some t) : s.remove.rank ≤ t.remove.rank := by
  by_cases ha : a = .remove
  · subst ha
    rw [h.removeStep_rank hs]
    exact Nat.le_succ _
  · exact Nat.le_of_eq (congrArg RemoveStage.rank (step_remove ha hs)).symm

/-- So it is from then on. -/
lemma Ok.stranded_run {C : SshLife → LifeAct → Prop} (h : s.Ok) (hrank : 16 ≤ s.remove.rank)
    (hafter : Machine.Reaches (LifeAct.step E) C s t) :
    t.Ok ∧ 16 ≤ t.remove.rank ∧ t.works = s.works ∧
      ∀ i < s.works, (t.evt i).stranded = (s.evt i).stranded := by
  refine hafter.invariant
    (I := fun t => t.Ok ∧ 16 ≤ t.remove.rank ∧ t.works = s.works ∧
      ∀ i < s.works, (t.evt i).stranded = (s.evt i).stranded)
    ⟨h, hrank, rfl, fun _ _ => rfl⟩ fun u a v hu _ hs => ?_
  obtain ⟨hok, hrank, hworks, hevt⟩ := hu
  refine ⟨hok.step hs, Nat.le_trans hrank (hok.rank_step hs), ?_, fun i hi => ?_⟩
  · exact (hok.works_closed (Nat.le_of_succ_le hrank) hs).trans hworks
  · exact (hok.stranded_closed hrank hs (hworks ▸ hi)).trans (hevt i hi)

/-- As `destroy_workqueue(queue_evt)` is called, the event parts that it will leave behind are
those with timers. -/
lemma Ok.stranded_destroy (h : s.Ok) (hrank : s.remove.rank = 15) (hs : s.removeStep = some t)
    (i : ℕ) : (t.evt i).stranded = (s.evt i).isTimer := by
  have hrefused := h.refused (by omega) i
  rw [(removeStep_items hs).evt]
  cases hevt : s.evt i with
  | refused => exact absurd hevt hrefused
  | _ => rfl

/-- An item is freed once both of its parts are done. -/
lemma Ok.freed (h : s.Ok) {i : ℕ} (hi : i < s.works) (hack : s.ack i = .done) :
    s.freed i = 1 ↔ (s.evt i).isDone = true := by
  have hitem := h.works.item i hi
  rw [hitem.freed, hitem.refcount, if_pos hack]
  cases (s.evt i).isDone <;> decide

/-- Every work item has been run and freed. -/
def AllFreed (s : SshLife) : Prop :=
  ∀ i < s.works, s.ack i = .done ∧ (s.evt i).isDone = true ∧ s.freed i = 1

/-- Once `queue_evt` has been destroyed, an item has been freed unless it is stranded. -/
lemma Ok.allFreed_iff (h : s.Ok) (hrank : 17 ≤ s.remove.rank) :
    s.AllFreed ↔ ∀ i < s.works, (s.evt i).stranded = false := by
  have hdone (i : ℕ) (hi : i < s.works) : (s.evt i).isDone = true ↔ (s.evt i).stranded = false := by
    rcases h.progress.evts hrank i hi with hevt | hevt | hevt <;>
    · rw [hevt]
      decide
  constructor
  · intro hfreed i hi
    exact (hdone i hi).mp (hfreed i hi).2.1
  · intro hstranded i hi
    have hack := h.progress.acks (Nat.le_of_succ_le hrank) i hi
    have hend := (hdone i hi).mpr (hstranded i hi)
    exact ⟨hack, hend, (h.freed hi hack).mpr hend⟩

end SshLife

open SshLife in
/-- In every run in which the timers of all events have expired as `queue_evt` is about to be
destroyed, all work items have been run and freed when the removal has returned. -/
theorem surfaceSamSshRemove_allFreed (E : HandlerEnv) (s : SshLife)
    (hreach : Machine.Reaches (LifeAct.step E) TimersExpired probed s)
    (hret : s.remove = .returned) : s.AllFreed := by
  have hinv : s.Ok ∧ (16 ≤ s.remove.rank → ∀ i < s.works, (s.evt i).stranded = false) := by
    refine hreach.invariant
      (I := fun s => s.Ok ∧ (16 ≤ s.remove.rank → ∀ i < s.works, (s.evt i).stranded = false))
      ⟨ok_probed, nofun⟩ fun t a u ht hC hs => ⟨ht.1.step hs, fun hrank i hi => ?_⟩
    by_cases hbefore : 16 ≤ t.remove.rank
    · rw [ht.1.works_closed (Nat.le_of_succ_le hbefore) hs] at hi
      rw [ht.1.stranded_closed hbefore hs hi]
      exact ht.2 hbefore i hi
    · -- only the removal itself gets past the stage, by calling `destroy_workqueue`
      have ha : a = .remove := by
        by_contra ha
        exact hbefore (step_remove ha hs ▸ hrank)
      subst ha
      have hrank15 : t.remove.rank = 15 := by
        have := ht.1.removeStep_rank hs
        omega
      have hworks := (removeStep_items hs).works
      rw [ht.1.stranded_destroy hrank15 hs]
      exact hC hrank15 i (hworks ▸ hi)
  have hrank : 17 ≤ s.remove.rank := by
    rw [hret]
    decide
  exact (hinv.1.allFreed_iff hrank).mpr (hinv.2 (Nat.le_of_succ_le hrank))

open LifeAct in
/-- The timer of a delayed power event expires before the driver is removed. -/
theorem surfaceSamSshRemove_allFreed_expired :
    ∃ s, Machine.run (LifeAct.step ⟨fun _ _ => 0⟩) SshLife.probed
        (wholeCall (.setDelayedEventHandler 2 (some 1) (some fun _ => 1250) none) 0 ++
          dispatch ⟨⟨2, 2, 1, 0x16, 0, []⟩, 7⟩ ++ times 7 (.ack 0 10) ++ [.timer 0] ++
          times 5 (.evt 0 0) ++ times 18 .remove) = some s ∧
      s.works = 1 ∧ s.AllFreed := by
  generalize hacts : wholeCall _ _ ++ _ ++ _ ++ _ ++ _ ++ _ = acts
  have hrun : (Machine.run (LifeAct.step ⟨fun _ _ => 0⟩) SshLife.probed acts).any
      (fun s => decide (s.works = 1 ∧ s.remove.rank = 18)) = true := by
    rw [← hacts]
    decide +kernel
  have hmeets : Machine.Meets (LifeAct.step ⟨fun _ _ => 0⟩) SshLife.TimersExpired
      SshLife.probed acts := by
    rw [← hacts]
    decide +kernel
  obtain ⟨s, hs, hprop⟩ := (Option.any_eq_true _ _).mp hrun
  obtain ⟨hworks, hrank⟩ := of_decide_eq_true hprop
  exact ⟨s, hs, hworks, surfaceSamSshRemove_allFreed _ s (Machine.reaches_of_run hs hmeets)
    (RemoveStage.eq_returned hrank)⟩

open LifeAct in
/-- The driver is removed within the 5 s that a power event is delayed: its item is still
allocated, and its timer still runs. -/
theorem surfaceSamSshRemove_delayed_left :
    ∃ s, Machine.run (LifeAct.step ⟨fun _ _ => 0⟩) SshLife.probed
        (wholeCall (.setDelayedEventHandler 2 (some 1) (some fun _ => 1250) none) 0 ++
          dispatch ⟨⟨2, 2, 1, 0x16, 0, []⟩, 7⟩ ++ times 7 (.ack 0 10) ++
          times 18 .remove) = some s ∧
      s.remove = .returned ∧ (s.evt 0).isTimer = true ∧ s.freed 0 = 0 ∧ ¬ s.AllFreed := by
  have hrun : (Machine.run (LifeAct.step ⟨fun _ _ => 0⟩) SshLife.probed
      (wholeCall (.setDelayedEventHandler 2 (some 1) (some fun _ => 1250) none) 0 ++
        dispatch ⟨⟨2, 2, 1, 0x16, 0, []⟩, 7⟩ ++ times 7 (.ack 0 10) ++ times 18 .remove)).any
      (fun s => decide (s.works = 1 ∧ s.remove.rank = 18 ∧ (s.evt 0).isTimer = true ∧
        s.freed 0 = 0)) = true := by
    decide +kernel
  obtain ⟨s, hs, hprop⟩ := (Option.any_eq_true _ _).mp hrun
  obtain ⟨hworks, hrank, htimer, hfreed⟩ := of_decide_eq_true hprop
  refine ⟨s, hs, RemoveStage.eq_returned hrank, htimer, hfreed, fun h => ?_⟩
  have := (h 0 (by omega)).2.2
  omega

open SshLife in
/-- The condition is exact: the items whose timers run at that point are never freed. -/
theorem surfaceSamSshRemove_allFreed_iff (E : HandlerEnv) (C : SshLife → LifeAct → Prop)
    (s t u : SshLife) (hreach : Machine.Reaches (LifeAct.step E) C probed s)
    (hrank : s.remove.rank = 15) (hs : s.removeStep = some t)
    (hafter : Machine.Reaches (LifeAct.step E) C t u) (hret : u.remove = .returned) :
    u.AllFreed ↔ TimersExpired s .remove := by
  have hok : s.Ok := ok_of_reaches hreach
  have hworks := (removeStep_items hs).works
  have htrank : 16 ≤ t.remove.rank := by
    rw [hok.removeStep_rank hs]
    omega
  have htok : t.Ok := Ok.step (a := .remove) (E := E) hok hs
  obtain ⟨huok, -, hutworks, hstranded⟩ := htok.stranded_run htrank hafter
  have hurank : 17 ≤ u.remove.rank := by
    rw [hret]
    decide
  rw [huok.allFreed_iff hurank]
  rw [hworks] at hutworks hstranded
  rw [hutworks]
  have hevt (i : ℕ) (hi : i < s.works) : (u.evt i).stranded = (s.evt i).isTimer :=
    (hstranded i hi).trans (hok.stranded_destroy hrank hs i)
  constructor
  · intro hfreed _ i hi
    rw [← hevt i hi]
    exact hfreed i hi
  · intro hexpired i hi
    rw [hevt i hi]
    exact hexpired hrank i hi

end SurfaceSam
