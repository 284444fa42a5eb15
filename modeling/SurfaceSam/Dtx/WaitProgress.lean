import SurfaceSam.Dtx.Wakeups

/-!
# Waits come to an end

Where wake-ups that are to come are made and tasks that can run do so, a read or a poll whose
condition holds gets out of its wait, as long as the driver is bound only while no file is
open. A read that is alone on the queue when it is bound is not reached by any wake-up then.
-/

namespace SurfaceSam

open Devlib

namespace DtxWaitAction

def isWake : DtxWaitAction → Bool
  | .wakePushed .. => true
  | .wakeRemoved _ => true
  | _ => false

/-- The action is one of the task that waits. -/
def isOf (w : DtxWaiter) : DtxWaitAction → Bool
  | .prepare v _ => v == w
  | .test v => v == w
  | .resume v => v == w
  | _ => false

end DtxWaitAction

namespace DtxWaitSystem

variable {s t : DtxWaitSystem} {b : DtxWaitAction} {w : DtxWaiter} {r : ℕ}

/-- The call is in its wait, and what it waits for is there. -/
def Served (s : DtxWaitSystem) (w : DtxWaiter) : Prop := s.waits w = true ∧ s.ready w = true

instance : Decidable (s.Served w) := inferInstanceAs (Decidable (_ ∧ _))

/-- The call is in its wait, and is not asleep. -/
def CanRun (s : DtxWaitSystem) (w : DtxWaiter) : Prop :=
  s.waits w = true ∧ (s.waitq w).parked = false

instance : Decidable (s.CanRun w) := inferInstanceAs (Decidable (_ ∧ _))

/-! ### What others do to a task -/

lemma leave_waitq {v : DtxWaiter} {interrupted : Bool} (h : s.leave v interrupted = some t) :
    t.waitq = s.waitq := by
  cases v with
  | read r =>
    obtain ⟨sys, -, rfl⟩ := Option.map_eq_some_iff.mp h
    rfl
  | poll p =>
    obtain ⟨call, -, rfl⟩ := Option.map_eq_some_iff.mp h
    rfl

lemma spares_test {v : DtxWaiter} (hv : v ≠ w) (h : s.test v = some t) :
    WaitQueue.Spares w s.waitq t.waitq := by
  unfold test at h
  split at h
  · cases v with
    | read r =>
      simp only [enter] at h
      split_ifs at h
      · rw [leave_waitq h]
        exact .refl w s.waitq
      · obtain ⟨q, hq, rfl⟩ := Option.map_eq_some_iff.mp h
        exact WaitQueue.spares_initWaitEntry hv hq
    | poll p => cases h
  · split_ifs at h
    · obtain ⟨q, hq, hleave⟩ := Option.bind_eq_some_iff.mp h
      rw [leave_waitq hleave]
      cases v with
      | read r =>
        simp only [finish] at hq
        split_ifs at hq
        · cases hq
          exact WaitQueue.spares_setTask hv
        · exact WaitQueue.spares_finishWait hv hq
      | poll p => exact WaitQueue.spares_removeWaitQueue hv hq
    · cases h
      exact WaitQueue.spares_setTask hv
  · cases h

/-- Others leave a task alone, but for wake-ups and signals. -/
lemma waitq_of_other (hstep : s.step b = some t) (hother : b.isOf w = false)
    (hpoll : w ≠ .poll s.nextPoll) : WaitQueue.Spares w s.waitq t.waitq ∨
      (∃ rounds, s.waitq.wakeUp DtxWaiter.autoremove rounds = some t.waitq) ∨
        b = .interrupt w ∧ t.waitq = s.waitq.setTask w (s.waitq w).wake := by
  cases b with
  | sys a =>
    refine .inl ?_
    simp only [step, sysStep] at hstep
    by_cases hallows : s.allows a = true
    · rw [if_pos hallows] at hstep
      obtain ⟨sys, -, rfl⟩ := Option.map_eq_some_iff.mp hstep
      dsimp only
      split_ifs
      · exact WaitQueue.spares_initHead w s.waitq
      · exact .refl w s.waitq
    · rw [if_neg hallows] at hstep
      cases hstep
  | wakePushed p rounds =>
    simp only [step] at hstep
    split_ifs at hstep
    obtain ⟨u, hu, rfl⟩ := Option.map_eq_some_iff.mp hstep
    obtain ⟨q, hq, rfl⟩ := Option.map_eq_some_iff.mp hu
    exact .inr (.inl ⟨rounds, hq⟩)
  | wakeRemoved rounds =>
    simp only [step] at hstep
    split_ifs at hstep
    obtain ⟨u, hu, rfl⟩ := Option.map_eq_some_iff.mp hstep
    obtain ⟨q, hq, rfl⟩ := Option.map_eq_some_iff.mp hu
    exact .inr (.inl ⟨rounds, hq⟩)
  | poll c events interrupted =>
    simp only [step] at hstep
    split_ifs at hstep
    obtain ⟨q, hq, rfl⟩ := Option.map_eq_some_iff.mp hstep
    exact .inl (WaitQueue.spares_addWaitQueue (Ne.symm hpoll) hq)
  | interrupt v =>
    simp only [step] at hstep
    split_ifs at hstep
    cases hstep
    by_cases hv : v = w
    · subst hv
      exact .inr (.inr ⟨rfl, rfl⟩)
    · exact .inl (WaitQueue.spares_setTask hv)
  | prepare v interrupted =>
    have hv : v ≠ w := beq_eq_false_iff_ne.mp hother
    simp only [step] at hstep
    split_ifs at hstep
    obtain ⟨q, hq, rfl⟩ := Option.map_eq_some_iff.mp hstep
    cases v with
    | read r => exact .inl (WaitQueue.spares_prepareToWaitEvent hv hq)
    | poll p =>
      cases hq
      exact .inl (WaitQueue.spares_setTask hv)
  | resume v =>
    have hv : v ≠ w := beq_eq_false_iff_ne.mp hother
    simp only [step] at hstep
    split_ifs at hstep
    cases hstep
    exact .inl (WaitQueue.spares_setTask hv)
  | test v => exact .inl (spares_test (beq_eq_false_iff_ne.mp hother) hstep)

/-- They do not send it to sleep, and wake it at most. -/
lemma waiter_of_other (hstep : s.step b = some t) (hother : b.isOf w = false)
    (hpoll : w ≠ .poll s.nextPoll) : (t.waitq w).stage = (s.waitq w).stage ∧
      ((s.waitq w).running = true → (t.waitq w).running = true) := by
  obtain hspares | ⟨rounds, hwake⟩ | ⟨-, hsignal⟩ := waitq_of_other hstep hother hpoll
  · rw [hspares.task]
    exact ⟨rfl, id⟩
  · exact WaitQueue.task_of_wakeUp hwake w
  · rw [hsignal, WaitQueue.setTask_self]
    exact ⟨rfl, fun _ => rfl⟩

/-- A task that has left is out of its wait for good. -/
lemma not_waits_of_leave {interrupted : Bool} (hwaits : s.waits w = true)
    (h : s.leave w interrupted = some t) : t.waits w = false := by
  cases w with
  | read r =>
    obtain ⟨sys, hsys, rfl⟩ := Option.map_eq_some_iff.mp h
    obtain ⟨call, hcall, hstage⟩ := waits_read.mp hwaits
    obtain ⟨call', popped, stage, buf, hcall', hmove, rfl⟩ := DtxSystem.readStep_move hsys
    obtain rfl : call = call' := Option.some_inj.mp (hcall.symm.trans hcall')
    have hnew : stage ≠ .waiting := by
      cases hmove with
      | waits hchecking _ _ => simp [hchecking] at hstage
      | _ => exact ReadStage.noConfusion
    rw [← Bool.not_eq_true, waits_read]
    rintro ⟨after, hafter, hwaiting⟩
    have hset := (Function.update_self (β := fun _ => Option ReadCall) r _ _).symm.trans hafter
    rw [← Option.some_inj.mp hset] at hwaiting
    exact hnew hwaiting
  | poll p =>
    obtain ⟨call, hcall, rfl⟩ := Option.map_eq_some_iff.mp h
    rw [← Bool.not_eq_true, waits_poll]
    rintro ⟨after, hafter, hreturned⟩
    have hset := (Function.update_self (β := fun _ => Option PollCall) p _ _).symm.trans hafter
    rw [← Option.some_inj.mp hset] at hreturned
    cases hreturned

lemma prepare_task {interrupted : Bool} {q : WaitQueue DtxWaiter}
    (h : s.prepare w interrupted = some q) :
    q.task = Function.update s.waitq.task w (.prepare interrupted) := by
  cases w with
  | read r => exact (WaitQueue.task_of_move h).1
  | poll p =>
    cases h
    rfl

/-- The queue is no matter for who waits. -/
lemma waits_waitq (q : WaitQueue DtxWaiter) : { s with waitq := q }.waits w = s.waits w := by
  cases w with
  | read r => rfl
  | poll p => rfl

/-! ### Progress -/

/-- How many steps the task takes to its next test. -/
def rank (s : DtxWaitSystem) (w : DtxWaiter) : ℕ :=
  match (s.waitq w).stage with
  | .asleep => 2
  | .entering => 1
  | _ => 0

lemma rank_congr (h : (t.waitq w).stage = (s.waitq w).stage) : t.rank w = s.rank w := by
  unfold rank
  rw [h]

/-- A step of the task gets it nearer to its test, and the test ends the wait. -/
lemma own_step (hserved : s.Served w) (hstep : s.step b = some t) (hof : b.isOf w = true) :
    ¬t.Served w ∨ (t.waitq w).parked = false ∧ t.rank w < s.rank w := by
  have hgone (hnot : t.waits w = false) : ¬t.Served w := by
    intro hafter
    have hwaits := hafter.1
    rw [hnot] at hwaits
    cases hwaits
  cases b with
  | prepare v interrupted =>
    obtain rfl : v = w := beq_iff_eq.mp hof
    simp only [step] at hstep
    split_ifs at hstep with hstage
    obtain ⟨q, hq, rfl⟩ := Option.map_eq_some_iff.mp hstep
    have hself : q v = .prepare interrupted := by
      rw [prepare_task hq, Function.update_self]
    exact .inr (by simp [rank, hstage, hself, Waiter.prepare, Waiter.parked])
  | resume v =>
    obtain rfl : v = w := beq_iff_eq.mp hof
    simp only [step] at hstep
    split_ifs at hstep with hwoken
    cases hstep
    exact .inr (by simp [rank, hwoken.1, Waiter.enter, Waiter.parked])
  | test v =>
    obtain rfl : v = w := beq_iff_eq.mp hof
    refine .inl (hgone ?_)
    simp only [step, DtxWaitSystem.test, hserved.2, Bool.true_or, if_true] at hstep
    split at hstep
    · cases v with
      | read r =>
        simp only [enter, hserved.2, if_true] at hstep
        split_ifs at hstep
        exact not_waits_of_leave hserved.1 hstep
      | poll p => cases hstep
    · obtain ⟨q, hq, hleave⟩ := Option.bind_eq_some_iff.mp hstep
      exact not_waits_of_leave (s := { s with waitq := q }) (waits_waitq q ▸ hserved.1) hleave
    · cases hstep
  | _ => cases hof

/-- Other steps do not send the task to sleep. -/
lemma other_step (hinv : s.WaitInv) (hwaits : s.waits w = true) (hstep : s.step b = some t)
    (hother : b.isOf w = false) : (t.waitq w).stage = (s.waitq w).stage ∧
      ((s.waitq w).parked = false → (t.waitq w).parked = false) := by
  have hpoll : w ≠ .poll s.nextPoll := by
    rintro rfl
    obtain ⟨call, hcall, -⟩ := waits_poll.mp hwaits
    exact Nat.lt_irrefl _ (hinv.pollsLt s.nextPoll call hcall)
  obtain ⟨hstage, hrunning⟩ := waiter_of_other hstep hother hpoll
  refine ⟨hstage, fun hparked => ?_⟩
  cases hbefore : (s.waitq w).running with
  | true => simp [Waiter.parked, hrunning hbefore]
  | false =>
    have hawake : (s.waitq w).stage ≠ .asleep := by simpa [Waiter.parked, hbefore] using hparked
    simp [Waiter.parked, hstage, hawake]

lemma running_of_isWake (hinv : s.WaitInv) (hstep : s.step b = some t) (hwake : b.isWake = true) :
    (t.waitq w).parked = false := by
  have hparked (u : DtxWaitSystem) (rounds : ℕ) (hu : s.wakeUp rounds = some u) :
      (u.waitq w).parked = false := by
    obtain ⟨q, hq, rfl⟩ := Option.map_eq_some_iff.mp hu
    have hrunning : (q w).running = true := (hinv.ok.wakeUp hq).2 w
    simp [Waiter.parked, hrunning]
  cases b with
  | wakePushed p rounds =>
    simp only [step] at hstep
    split_ifs at hstep
    obtain ⟨u, hu, rfl⟩ := Option.map_eq_some_iff.mp hstep
    exact hparked u rounds hu
  | wakeRemoved rounds =>
    simp only [step] at hstep
    split_ifs at hstep
    obtain ⟨u, hu, rfl⟩ := Option.map_eq_some_iff.mp hstep
    exact hparked u rounds hu
  | _ => cases hwake

section Runs

variable {r : Machine.Trace step (fun s b => s.keeps b = true) static}

lemma trace_waitInv (n : ℕ) : (r.st n).WaitInv :=
  r.invariant waitInv_static (fun _ _ _ hinv hkeeps hstep => hinv.step hkeeps hstep) n

/-- Who sleeps is woken. -/
lemma woken_of_served (hwake : r.Recurs WakeDue fun b => b.isWake = true) (w : DtxWaiter) :
    r.LeadsTo (fun s => s.Served w ∧ (s.waitq w).parked = true)
      fun s => s.Served w → (s.waitq w).parked = false := by
  have hrecurs : r.Recurs (fun s => s.Served w ∧ (s.waitq w).parked = true)
      fun b => b.isWake = true := fun n hn =>
    hwake n ((trace_waitInv n).noLost w hn.2 hn.1.2)
  apply hrecurs.leadsTo Nat.lt_wfRel.wf fun _ => 0
  · intro n hn hother
    by_cases hserved : (r.st (n + 1)).Served w
    · cases hparked : ((r.st (n + 1)).waitq w).parked with
      | true => exact .inr ⟨⟨hserved, rfl⟩, rfl⟩
      | false => exact .inl fun _ => rfl
    · exact .inl fun hs => absurd hs hserved
  · intro n b hn hact hb
    exact .inl fun _ => running_of_isWake (trace_waitInv n) (r.step_eq hact) hb

/-- Who can run gets to its test. -/
lemma leaves_of_canRun (w : DtxWaiter)
    (hrun : r.Recurs (fun s => s.CanRun w) fun b => b.isOf w = true) :
    r.LeadsTo (fun s => s.Served w ∧ (s.waitq w).parked = false) fun s => ¬s.Served w := by
  have hrecurs : r.Recurs (fun s => s.Served w ∧ (s.waitq w).parked = false)
      fun b => b.isOf w = true := fun n hn => hrun n ⟨hn.1.1, hn.2⟩
  apply hrecurs.leadsTo Nat.lt_wfRel.wf fun s => s.rank w
  · intro n hn hother
    by_cases hserved : (r.st (n + 1)).Served w
    · refine .inr ?_
      cases hact : r.act n with
      | none =>
        have hmoves := r.moves n
        rw [hact] at hmoves
        generalize r.st (n + 1) = t at hmoves hserved
        cases hmoves
        exact ⟨hn, rfl⟩
      | some b =>
        obtain ⟨hstage, hparked⟩ := other_step (trace_waitInv n) hn.1.1 (r.step_eq hact)
          (Bool.eq_false_iff.mpr (hother b hact))
        exact ⟨⟨hserved, hparked hn.2⟩, rank_congr hstage⟩
    · exact .inl hserved
  · intro n b hn hact hb
    by_cases hserved : (r.st (n + 1)).Served w
    · have hdown := (own_step hn.1 (r.step_eq hact) hb).resolve_left (not_not.mpr hserved)
      exact .inr ⟨⟨hserved, hdown.1⟩, hdown.2⟩
    · exact .inl hserved

end Runs

end DtxWaitSystem

/-- If wake-ups that are to come are made, and a task that can run takes its steps, then a read
or a poll in its wait gets out of it once its condition holds, unless that ceases before. -/
theorem dtxWaitQueue_leaves
    (r : Machine.Trace DtxWaitSystem.step (fun s b => s.keeps b = true) .static) (w : DtxWaiter)
    (hwake : r.Recurs DtxWaitSystem.WakeDue fun b => b.isWake = true)
    (hrun : r.Recurs (fun s => s.CanRun w) fun b => b.isOf w = true) :
    r.LeadsTo (fun s => s.waits w = true ∧ s.ready w = true)
      fun s => s.waits w = false ∨ s.ready w = false := by
  intro n hn
  have hend (m : ℕ) (hnm : n ≤ m) (hm : ¬(r.st m).Served w) :
      ∃ k, n ≤ k ∧ ((r.st k).waits w = false ∨ (r.st k).ready w = false) := by
    refine ⟨m, hnm, ?_⟩
    simpa [DtxWaitSystem.Served, imp_iff_not_or] using hm
  have hrunning (m : ℕ) (hnm : n ≤ m)
      (hm : (r.st m).Served w ∧ ((r.st m).waitq w).parked = false) :
      ∃ k, n ≤ k ∧ ((r.st k).waits w = false ∨ (r.st k).ready w = false) := by
    obtain ⟨k, hmk, hk⟩ := DtxWaitSystem.leaves_of_canRun w hrun m hm
    exact hend k (hnm.trans hmk) hk
  cases hparked : ((r.st n).waitq w).parked with
  | false => exact hrunning n (Nat.le_refl n) ⟨hn, hparked⟩
  | true =>
    obtain ⟨m, hnm, hm⟩ := DtxWaitSystem.woken_of_served hwake w n ⟨hn, hparked⟩
    by_cases hserved : (r.st m).Served w
    · exact hrunning m hnm ⟨hserved, hm hserved⟩
    · exact hend m hnm hserved

/-- The event that a read sleeps for is pushed, and the read is woken. -/
theorem dtxWaitQueue_leaves_woken : ∃ r : Machine.Trace DtxWaitSystem.step
    (fun s b => s.keeps b = true) .static, (r.st 10).waits (.read 0) = true ∧
      (r.st 10).ready (.read 0) = true ∧
        ∃ m, 10 ≤ m ∧ ((r.st m).waits (.read 0) = false ∨ (r.st m).ready (.read 0) = false) := by
  let actions : List DtxWaitAction := sleepingRead ++ [.sys (.push laptopMode),
    .sys (.pushStep 0), .sys (.pushStep 0), .wakePushed 0 1, .resume (.read 0),
    .prepare (.read 0) false, .test (.read 0)]
  obtain ⟨t, hrun⟩ : ∃ t, Machine.run DtxWaitSystem.step .static actions = some t := ⟨_, rfl⟩
  have hmeets : Machine.Meets DtxWaitSystem.step (fun s b => s.keeps b = true) .static actions := by
    decide +kernel
  let r : Machine.Trace DtxWaitSystem.step (fun s b => s.keeps b = true) .static :=
    .ofRun hrun hmeets
  have hready : (r.st 10).waits (.read 0) = true ∧ (r.st 10).ready (.read 0) = true := ⟨rfl, rfl⟩
  refine ⟨r, hready.1, hready.2, dtxWaitQueue_leaves r (.read 0) ?_ ?_ 10 hready⟩
  · exact Machine.Trace.recurs_ofRun hrun hmeets (k := 11) rfl rfl (by decide +kernel)
  · exact Machine.Trace.recurs_ofRun hrun hmeets (k := 14) rfl rfl (by decide +kernel)

/-! ### Reads that are cut off -/

/-- A read has been in its wait, or has not come to one. -/
def ReadStage.pastWait : ReadStage → Bool
  | .woken => true
  | .copying _ => true
  | .returned _ => true
  | _ => false

namespace DtxWaitSystem

variable {s t : DtxWaitSystem} {b : DtxWaitAction} {r : ℕ}

lemma pastWait_move {active isEmpty copied popped : Bool} {interrupted : ℤ} {call : ReadCall}
    {stage : ReadStage}
    (h : DtxSystem.ReadMove active isEmpty interrupted copied call popped stage)
    (hpast : call.stage.pastWait = true ∨ call.stage = .waiting) : stage.pastWait = true := by
  cases h with
  | enters hstage _ _ => simp [hstage, ReadStage.pastWait] at hpast
  | waits hstage _ _ => simp [hstage, ReadStage.pastWait] at hpast
  | _ => rfl

/-- No pointer leads to the entry of the read that waits, or the read has left its wait. -/
def CutOff (s : DtxWaitSystem) (r : ℕ) : Prop :=
  ∃ call, s.sys.reads r = some call ∧
    ((s.waitq (.read r)).stage = .out ∧ call.stage.pastWait = true ∨
      call.stage = .waiting ∧ s.waitq.links.Unlinked (some (.read r)) ∧
        (s.waitq (.read r)).running = false ∧
        ((s.waitq (.read r)).stage = .prepared false ∨ (s.waitq (.read r)).stage = .asleep))

/-- A step of another task, or of the read itself outside of its wait. -/
lemma CutOff.other (h : s.CutOff r) (hreads : s.sys.ReadsOk) (hstep : s.step b = some t)
    (hother : b.isOf (.read r) = false) (hsignal : b ≠ .interrupt (.read r)) : t.CutOff r := by
  obtain ⟨call, hcall, hwait⟩ := h
  have hcalls : ∃ call', t.sys.reads r = some call' ∧
      (call.stage = .waiting → call' = call) ∧
        (call.stage.pastWait = true → call'.stage.pastWait = true) := by
    have hsame {a : DtxAction} (hsys : s.sys.step a = some t.sys)
        (hmoves : ∀ interrupted copied, a ≠ .readStep r interrupted copied) :
        t.sys.reads r = some call :=
      (DtxSystem.reads_kept hsys (hreads.lt r call hcall) hmoves).trans hcall
    obtain hsys | ⟨a, rfl, hallows, hsys⟩ | ⟨x, interrupted, rfl, hsys⟩ := step_sys hstep
    · exact ⟨call, hsys ▸ hcall, fun _ => rfl, id⟩
    · by_cases hmoves : ∃ interrupted copied, a = .readStep r interrupted copied
      · obtain ⟨interrupted, copied, rfl⟩ := hmoves
        obtain ⟨call', popped, stage, buf, hcall', hmove, ht⟩ := DtxSystem.readStep_move hsys
        obtain rfl : call = call' := Option.some_inj.mp (hcall.symm.trans hcall')
        refine ⟨{ call with stage := stage, buf := buf }, ?_, fun hwaiting => ?_, fun hpast => ?_⟩
        · rw [ht]
          exact Function.update_self ..
        · simp [allows, isWaiting, hcall, hwaiting] at hallows
        · exact pastWait_move hmove (.inl hpast)
      · have hcall' := hsame hsys fun interrupted copied heq => hmoves ⟨interrupted, copied, heq⟩
        exact ⟨call, hcall', fun _ => rfl, id⟩
    · have hcall' : t.sys.reads r = some call := by
        refine hsame (a := .readStep x interrupted true) hsys fun _ _ heq => ?_
        cases heq
        simp [DtxWaitAction.isOf] at hother
      exact ⟨call, hcall', fun _ => rfl, id⟩
  obtain ⟨call', hcall', hwaiting, hpast⟩ := hcalls
  refine ⟨call', hcall', ?_⟩
  rcases hwait with ⟨hout, hbefore⟩ | ⟨hstage, hunlinked, hlost⟩
  · have hkept := waiter_of_other hstep hother DtxWaiter.noConfusion
    exact .inl ⟨hkept.1.trans hout, hpast hbefore⟩
  · have hspares : WaitQueue.Spares (.read r) s.waitq t.waitq := by
      obtain hspares | ⟨rounds, hwake⟩ | ⟨rfl, -⟩ :=
        waitq_of_other hstep hother DtxWaiter.noConfusion
      · exact hspares
      · exact WaitQueue.spares_wakeUp hunlinked hwake
      · exact absurd rfl hsignal
    rw [hwaiting hstage, hspares.task]
    exact .inr ⟨hstage, hspares.unlinked hunlinked, hlost⟩

/-- The read itself finds its condition true at its test, or goes to sleep for good. -/
lemma CutOff.own (h : s.CutOff r) (hstep : s.step b = some t)
    (hof : b.isOf (.read r) = true) : t.CutOff r := by
  obtain ⟨call, hcall, hwait⟩ := h
  cases b with
  | prepare v interrupted =>
    obtain rfl : v = .read r := beq_iff_eq.mp hof
    simp only [step] at hstep
    split_ifs at hstep with hstage
    simp [hstage] at hwait
  | resume v =>
    obtain rfl : v = .read r := beq_iff_eq.mp hof
    simp only [step] at hstep
    split_ifs at hstep with hwoken
    simp [hwoken] at hwait
  | test v =>
    obtain rfl : v = .read r := beq_iff_eq.mp hof
    simp only [step, test] at hstep
    rcases hwait with ⟨hout, hpast⟩ | ⟨hwaiting, hunlinked, hrunning, hprepared | hasleep⟩
    · have hnot : s.isWaiting r = false := by
        rw [← Bool.not_eq_true]
        intro hwaits
        obtain ⟨call', hcall', hstage⟩ := waits_read.mp (show s.waits (.read r) = true from hwaits)
        obtain rfl : call = call' := Option.some_inj.mp (hcall.symm.trans hcall')
        rw [hstage] at hpast
        cases hpast
      rw [hout] at hstep
      simp [enter, hnot] at hstep
    · rw [hprepared] at hstep
      simp only [Bool.or_false] at hstep
      split_ifs at hstep
      · obtain ⟨q, hq, hleave⟩ := Option.bind_eq_some_iff.mp hstep
        have hout : q (.read r) = .idle := by
          rw [finish_task hq, Function.update_self]
        obtain ⟨sys, hsys, rfl⟩ := Option.map_eq_some_iff.mp hleave
        obtain ⟨call', popped, stage, buf, hcall', hmove, rfl⟩ := DtxSystem.readStep_move hsys
        obtain rfl : call = call' := Option.some_inj.mp (hcall.symm.trans hcall')
        refine ⟨{ call with stage := stage, buf := buf }, Function.update_self .., .inl ⟨?_, ?_⟩⟩
        · exact congrArg Waiter.stage hout
        · exact pastWait_move hmove (.inr hwaiting)
      · cases hstep
        refine ⟨call, hcall, .inr ⟨hwaiting, hunlinked, ?_⟩⟩
        rw [WaitQueue.setTask_self]
        exact ⟨hrunning, .inr rfl⟩
    · rw [hasleep] at hstep
      cases hstep
  | _ => cases hof

lemma CutOff.step (h : s.CutOff r) (hreads : s.sys.ReadsOk) (hstep : s.step b = some t)
    (hsignal : b ≠ .interrupt (.read r)) : t.CutOff r := by
  cases hof : b.isOf (.read r) with
  | true => exact h.own hstep hof
  | false => exact h.other hreads hstep hof hsignal

lemma readsOk_step (h : s.sys.ReadsOk) (hstep : s.step b = some t) : t.sys.ReadsOk := by
  obtain hsys | ⟨a, -, -, hsys⟩ | ⟨x, interrupted, -, hsys⟩ := step_sys hstep
  · rw [hsys]
    exact h
  · exact h.step hsys
  · exact h.step (a := .readStep x interrupted true) hsys

/-- Where the driver is bound while a read is alone on the queue, the read is cut off. -/
lemma cutOff_of_initializes {a : DtxAction} (hinv : s.WaitInv)
    (hprepared : (s.waitq (.read r)).stage = .prepared false)
    (hrunning : (s.waitq (.read r)).running = false) (honly : s.waitq.Only (.read r))
    (hinit : s.initializes a = true) (hprobe : s.step (.sys a) = some t) : t.CutOff r := by
  have hwait : (s.waitq (.read r)).stage ≠ .out := by
    rw [hprepared]
    exact WaitStage.noConfusion
  obtain ⟨call, hcall, hstage⟩ := waits_read.mp (hinv.inWait (.read r) hwait)
  cases a with
  | probe env =>
    simp only [step, sysStep, hinit] at hprobe
    split_ifs at hprobe
    cases hprobe
    exact ⟨call, hcall,
      .inr ⟨hstage, hinv.ok.unlinked_initHead honly, hrunning, .inl hprepared⟩⟩
  | _ => cases hinit

end DtxWaitSystem

/-- The driver is bound while a file is open, for the first time, and a read of it is alone on
the wait queue, about to test its condition for the last time. If that read goes to sleep then,
it is never woken again but by a signal, whoever comes to the queue and leaves it, however many
events are pushed, and also if the driver is unbound. -/
theorem dtxWaitQueue_cutOff {s t u : DtxWaitSystem} {a : DtxAction} {r : ℕ}
    (hs : Machine.Reaches DtxWaitSystem.step (fun s b => s.keeps b = true) .static s)
    (hprepared : (s.waitq (.read r)).stage = .prepared false)
    (hrunning : (s.waitq (.read r)).running = false) (honly : s.waitq.Only (.read r))
    (hinit : s.initializes a = true) (hprobe : s.step (.sys a) = some t)
    (hu : Machine.Reaches DtxWaitSystem.step (fun _ b => b ≠ .interrupt (.read r)) t u)
    (hasleep : (u.waitq (.read r)).stage = .asleep) : (u.waitq (.read r)).running = false := by
  have hinv : s.WaitInv := DtxWaitSystem.waitInv_reached hs
  have hcut : t.CutOff r :=
    DtxWaitSystem.cutOff_of_initializes hinv hprepared hrunning honly hinit hprobe
  have hend : u.sys.ReadsOk ∧ u.CutOff r := by
    refine hu.invariant (I := fun v => v.sys.ReadsOk ∧ v.CutOff r)
      ⟨DtxWaitSystem.readsOk_step hinv.reads hprobe, hcut⟩ ?_
    rintro v b w ⟨hvreads, hv⟩ hsignal hstep
    exact ⟨DtxWaitSystem.readsOk_step hvreads hstep, hv.step hvreads hstep hsignal⟩
  obtain ⟨call, -, ⟨hout, -⟩ | ⟨-, -, hlost, -⟩⟩ := hend.2
  · rw [hasleep] at hout
    cases hout
  · exact hlost

/-- The read has found its file empty before the driver is unbound, and it gets onto the queue
before the driver is bound again. It sleeps on after the driver has been unbound for good. -/
theorem dtxWaitQueue_cutOff_reprobed : ∃ s t u,
    Machine.run DtxWaitSystem.step .static (sleepingRead.take 6 ++ [.sys .remove, .wakeRemoved 0,
      .prepare (.read 0) false]) = some s ∧
    s.step (.sys (.probe goodDtxProbe)) = some t ∧
    Machine.run DtxWaitSystem.step t [.test (.read 0), .sys .remove, .wakeRemoved 0] = some u ∧
    u.ready (.read 0) = true ∧ ¬u.WakeDue ∧ (u.waitq (.read 0)).running = false := by
  obtain ⟨s, hs⟩ : ∃ s, Machine.run DtxWaitSystem.step .static (sleepingRead.take 6 ++
    [.sys .remove, .wakeRemoved 0, .prepare (.read 0) false]) = some s := ⟨_, rfl⟩
  obtain ⟨t, ht⟩ : ∃ t, s.step (.sys (.probe goodDtxProbe)) = some t := by
    cases hs
    exact ⟨_, rfl⟩
  obtain ⟨u, hu⟩ : ∃ u, Machine.run DtxWaitSystem.step t
      [.test (.read 0), .sys .remove, .wakeRemoved 0] = some u := by
    cases hs
    cases ht
    exact ⟨_, rfl⟩
  have hreached := Machine.reaches_of_run (C := fun s b => DtxWaitSystem.keeps s b = true) hs
    (by decide +kernel)
  have hends : Machine.Reaches DtxWaitSystem.step (fun _ b => b ≠ .interrupt (.read 0)) t u := by
    apply Machine.reaches_of_run hu
    refine Machine.Trace.meets_of_forall (D := fun b => b ≠ DtxWaitAction.interrupt (.read 0)) ?_
    intro b hb heq
    subst heq
    simp at hb
  refine ⟨s, t, u, hs, ht, hu, ?_, ?_, ?_⟩
  · cases hs
    cases ht
    cases hu
    rfl
  · cases hs
    cases ht
    cases hu
    decide +kernel
  · apply dtxWaitQueue_cutOff hreached _ _ ⟨_, _⟩ _ ht hends
    all_goals
      cases hs
      cases ht
      cases hu
      rfl

end SurfaceSam
