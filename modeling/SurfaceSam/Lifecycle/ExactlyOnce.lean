import SurfaceSam.Lifecycle.EventUse
import SurfaceSam.Ssh.Message
import SurfaceSam.Ssh.Probe

/-!
# Event work is used exactly once

What the steps of an item's threads say about whole runs in which these threads go on.
-/

namespace SurfaceSam

open Devlib

namespace SshLife

/-- The ACK part and the event part have run. -/
def PartsDone (s : SshLife) (i : ℕ) : Prop := s.ack i = .done ∧ (s.evt i).isDone = true

instance (s : SshLife) (i : ℕ) : Decidable (s.PartsDone i) := instDecidableAnd

variable {s : SshLife} {a : LifeAct} {i : ℕ}

lemma partsDone_iff : s.PartsDone i ↔ (s.ack i).rank = 0 ∧ (s.evt i).rank = 0 := by
  unfold PartsDone
  rw [EvtStage.isDone_iff]
  refine and_congr_left fun _ => ⟨fun h => ?_, AckStage.done_of_rank⟩
  rw [h]
  rfl

lemma WorksOk.freed_eq (h : s.WorksOk) (i : ℕ) : s.freed i = if s.PartsDone i then 1 else 0 := by
  by_cases hi : i < s.works
  · have hitem := h.item i hi
    rw [hitem.freed, hitem.refcount]
    refine if_congr ?_ rfl rfl
    unfold PartsDone
    by_cases hack : s.ack i = .done <;> cases hevt : (s.evt i).isDone <;> simp [hack]
  · obtain ⟨hack, -, hfreed⟩ := h.unborn i (Nat.le_of_not_lt hi)
    rw [hfreed, if_neg]
    intro hdone
    exact absurd (hack.symm.trans hdone.1) nofun

/-- Nothing uses an item whose parts have run. -/
lemma WorksOk.not_uses {t : SshLife} {E : HandlerEnv} (h : s.WorksOk) (hdone : s.PartsDone i)
    (hs : a.step E s = some t) : s.uses i a = false := by
  obtain ⟨hack, hevt⟩ := hdone
  have hevt := EvtStage.isDone_iff.mp hevt
  cases a with
  | rx ok =>
    apply decide_eq_false
    intro hrx
    have hi : i < s.works := h.rx i (RxStage.item_eq_some.mpr (.inl hrx))
    rw [(h.item i hi).evt.mpr hrx] at hevt
    cases hevt
  | timer j =>
    apply decide_eq_false
    intro hj
    rw [← hj, (timerStep_cases hs).1] at hevt
    cases hevt
  | ack j status =>
    apply decide_eq_false
    intro hj
    rw [← hj] at hack
    have hold := (ackStep_stages hs).rank_lt
    rw [hack] at hold
    exact Nat.not_lt_zero _ hold
  | evt j status =>
    apply decide_eq_false
    intro hj
    have hold := (evtStep_stages hs).started.1
    rw [hj] at hold
    generalize s.evt i = stage at hold hevt
    cases stage with
    | queued => cases hevt
    | refused => cases hevt
    | running c pc => cases pc <;> cases hevt
    | _ => cases hold
  | _ => rfl

/-! ### What an observation tells -/

lemma obs_alloc {work : SshEventWork} (h : s.obs a = some (.alloc i work)) :
    (∃ dev, s.rx = .handling dev work) ∧ a = .rx true ∧ i = s.works := by
  revert h
  fun_cases obs s a
  case case1 dev work' hrx =>
    intro h
    cases h
    exact ⟨⟨dev, hrx⟩, rfl, rfl⟩
  all_goals
    intro h
    cases h

lemma obs_delay {index : ℕ} (h : s.obs a = some (.delay i index)) :
    s.rx.item = some i ∧ index = ((s.work i).event.rqid - 1).toNat := by
  revert h
  fun_cases obs s a
  case case3 j hrx =>
    intro h
    cases h
    rw [hrx]
    exact ⟨rfl, rfl⟩
  all_goals
    intro h
    cases h

lemma obs_check {state : SshEcState} (h : s.obs a = some (.check i state)) :
    (∃ status, a = .ack i status) ∧ (∃ dev, s.ack i = .entered dev) ∧ state = s.state := by
  revert h
  fun_cases obs s a
  case case5 j status dev hack =>
    intro h
    cases h
    exact ⟨⟨status, rfl⟩, ⟨dev, hack⟩, rfl⟩
  all_goals
    intro h
    cases h

lemma obs_ack {serdev : KPtr} {seq : UInt8} (h : s.obs a = some (.ack i serdev seq)) :
    (∃ status, a = .ack i status) ∧ (∃ dev, s.ack i = .writing dev serdev) ∧
      seq = (s.work i).seq := by
  revert h
  fun_cases obs s a
  case case6 j status dev serdev' hack =>
    intro h
    cases h
    exact ⟨⟨status, rfl⟩, ⟨dev, hack⟩, rfl⟩
  all_goals
    intro h
    cases h

lemma obs_fetch {index : ℕ} (h : s.obs a = some (.fetch i index)) :
    (∃ c dev, s.evt i = .running c (.entered dev)) ∧
      index = ((s.work i).event.rqid - 1).toNat := by
  revert h
  fun_cases obs s a
  case case8 j status c dev hevt =>
    intro h
    cases h
    exact ⟨⟨c, dev, hevt⟩, rfl⟩
  all_goals
    intro h
    cases h

lemma obs_call {fn : ℕ} {data : KPtr} {event : SurfaceSamSshEvent}
    (h : s.obs a = some (.call i fn data event)) :
    (∃ status, a = .evt i status) ∧ (∃ c dev slot, s.evt i = .running c (.fetched dev slot) ∧
      slot.handler = some fn ∧ slot.data = data) ∧ event = (s.work i).event := by
  revert h
  fun_cases obs s a
  case case9 j status c dev slot hevt fn' hfn =>
    intro h
    cases h
    exact ⟨⟨status, rfl⟩, ⟨c, dev, slot, hevt, hfn, rfl⟩, rfl⟩
  all_goals
    intro h
    cases h

end SshLife

/-! ### Runs -/

namespace LifeTrace

variable {D : SshEnv} {E : HandlerEnv} (r : LifeTrace D E) {i m n : ℕ} {a : LifeAct}

lemma worksOk (n : ℕ) : (r.st n).WorksOk :=
  r.invariant ⟨nofun, fun _ _ => ⟨rfl, rfl, rfl⟩, nofun⟩ (fun _ _ _ h _ hs => h.step hs) n

lemma eventsOk (n : ℕ) : (r.st n).EventsOk :=
  r.invariant ⟨nofun, nofun⟩ (fun _ _ _ h ha hs => h.step ha hs) n

lemma serdevLoaded (n : ℕ) : (r.st n).SerdevLoaded := by
  have hboth : (r.st n).WorksOk ∧ (r.st n).SerdevLoaded :=
    r.invariant (I := fun s => s.WorksOk ∧ s.SerdevLoaded)
      ⟨⟨nofun, fun _ _ => ⟨rfl, rfl, rfl⟩, nofun⟩, nofun⟩
      (fun _ _ _ h _ hs => ⟨h.1.step hs, h.2.step h.1 hs⟩) n
  exact hboth.2

lemma ackChange (ha : r.act n = some a) (i : ℕ) : (r.st n).AckChange a (r.st (n + 1)) i :=
  (r.worksOk n).ackChange (r.step_eq ha) i

lemma evtChange (ha : r.act n = some a) (i : ℕ) : (r.st n).EvtChange E a (r.st (n + 1)) i :=
  (r.worksOk n).evtChange (r.step_eq ha) i

lemma ack_rank_succ (i n : ℕ) : ((r.st (n + 1)).ack i).rank ≤ ((r.st n).ack i).rank :=
  r.rel_succ (R := fun s t => (t.ack i).rank ≤ (s.ack i).rank) n (Nat.le_refl _)
    fun _ ha => (r.ackChange ha i).rank_le

lemma evt_rank_succ (i n : ℕ) : ((r.st (n + 1)).evt i).rank ≤ ((r.st n).evt i).rank :=
  r.rel_succ (R := fun s t => (t.evt i).rank ≤ (s.evt i).rank) n (Nat.le_refl _)
    fun _ ha => (r.evtChange ha i).rank_le

/-- A step of the ACK part. -/
lemma ack_move {status : ℤ} (ha : r.act n = some (.ack i status)) :
    (r.st n).AckMove ((r.st n).ack i) ((r.st (n + 1)).ack i) :=
  SshLife.ackStep_stages (r.step_eq ha)

/-- A step of the event part. -/
lemma evt_move {status : ℤ} (ha : r.act n = some (.evt i status)) :
    (r.st n).EvtMove E ((r.st n).work i).event ((r.st n).evt i) ((r.st (n + 1)).evt i) :=
  SshLife.evtStep_stages (r.step_eq ha)

lemma partsDone_of_le (hmn : m ≤ n) (h : (r.st m).PartsDone i) : (r.st n).PartsDone i := by
  rw [SshLife.partsDone_iff] at h ⊢
  have hack : ((r.st n).ack i).rank = 0 := r.stable (P := fun s => (s.ack i).rank = 0)
    (fun k hk => Nat.le_zero.mp (hk ▸ r.ack_rank_succ i k)) hmn h.1
  have hevt : ((r.st n).evt i).rank = 0 := r.stable (P := fun s => (s.evt i).rank = 0)
    (fun k hk => Nat.le_zero.mp (hk ▸ r.evt_rank_succ i k)) hmn h.2
  exact ⟨hack, hevt⟩

/-- The ACK part is where it was, unless it makes a step. -/
lemma ack_kept (hack : (r.st n).ack i ≠ .unqueued)
    (hact : ∀ a, r.act n = some a → ∀ status, a ≠ .ack i status) :
    (r.st (n + 1)).ack i = (r.st n).ack i := by
  apply r.rel_succ (R := fun s t => t.ack i = s.ack i) n rfl
  intro a ha
  cases r.ackChange ha i with
  | same heq => exact heq
  | submitted hold hnew => exact absurd hold hack
  | ran status hran hstep => exact absurd hran (hact a ha status)

/-- A started event part is where it was, unless it makes a step. -/
lemma evt_kept (hevt : ((r.st n).evt i).started = true)
    (hact : ∀ a, r.act n = some a → ∀ status, a ≠ .evt i status) :
    (r.st (n + 1)).evt i = (r.st n).evt i := by
  apply r.rel_succ (R := fun s t => t.evt i = s.evt i) n rfl
  intro a ha
  cases r.evtChange ha i with
  | same heq => exact heq
  | submitted hold hnew =>
    rw [hold] at hevt
    cases hevt
  | fired hold hnew =>
    rw [hold] at hevt
    cases hevt
  | ran status hran hstep => exact absurd hran (hact a ha status)

/-! ### Queued work runs -/

/-- The receive callback goes on, timers fire, and work that has been given to a worker or runs
inline gets another step, sooner or later; so its queue has not refused it. -/
structure QueuedWorkRuns : Prop where
  rx : ∀ i, r.Recurs (fun s => s.rx.preparing = some i) (fun a => ∃ ok, a = .rx ok)
  timer : ∀ i, r.Recurs (fun s => (s.evt i).isTimer = true) (fun a => a = .timer i)
  ack : ∀ i, r.Recurs (fun s => (s.ack i).onQueue = true) (fun a => ∃ status, a = .ack i status)
  evt : ∀ i, r.Recurs (fun s => (s.evt i).started = true) (fun a => ∃ status, a = .evt i status)

variable {r}

/-- An item that has been allocated gets to the event queue. -/
lemma QueuedWorkRuns.submits (h : r.QueuedWorkRuns) (i : ℕ) :
    r.LeadsTo (fun s => s.rx.preparing = some i) (fun s => s.evt i ≠ .unqueued) := by
  apply (h.rx i).leadsTo Nat.lt_wfRel.wf fun s => s.rx.rank
  · intro n hn hact
    have hrx : (r.st (n + 1)).rx = (r.st n).rx := by
      apply r.rel_succ (R := fun s t => t.rx = s.rx) n rfl
      intro a ha
      apply SshLife.step_rx (r.step_eq ha) fun ok hok => hact a ha ⟨ok, hok⟩
      intro hidle
      rw [hidle] at hn
      cases hn
    right
    rw [hrx]
    exact ⟨hn, rfl⟩
  · rintro n a hn ha ⟨ok, rfl⟩
    exact SshLife.rxStep_preparing (r.step_eq ha) hn

lemma QueuedWorkRuns.acks (h : r.QueuedWorkRuns) (i : ℕ) :
    r.LeadsTo (fun s => (s.ack i).onQueue = true) (fun s => s.ack i = .done) := by
  apply (h.ack i).leadsTo Nat.lt_wfRel.wf fun s => (s.ack i).rank
  · intro n hn hact
    have hack := r.ack_kept (SshLife.AckStage.ne_of_onQueue hn).1 fun a ha status hran =>
      hact a ha ⟨status, hran⟩
    right
    rw [hack]
    exact ⟨hn, rfl⟩
  · rintro n a hn ha ⟨status, rfl⟩
    have hmove := r.ack_move ha
    exact hmove.onQueue.2.symm.imp_right fun hqueue => ⟨hqueue, hmove.rank_lt⟩

/-- An ACK that is being sent gets to the write. -/
lemma QueuedWorkRuns.writes (h : r.QueuedWorkRuns) (i : ℕ) :
    r.LeadsTo (fun s => 4 ≤ (s.ack i).rank ∧ (s.ack i).rank ≤ 6)
      (fun s => (s.ack i).rank = 3) := by
  have hrecurs : r.Recurs (fun s => 4 ≤ (s.ack i).rank ∧ (s.ack i).rank ≤ 6)
      (fun a => ∃ status, a = .ack i status) := by
    intro n hn
    apply h.ack i n
    generalize (r.st n).ack i = stage at hn
    cases stage <;> first | rfl | exact absurd hn.1 (by decide) | exact absurd hn.2 (by decide)
  apply hrecurs.leadsTo Nat.lt_wfRel.wf fun s => (s.ack i).rank
  · intro n hn hact
    have hqueued : (r.st n).ack i ≠ .unqueued := by
      intro hunqueued
      rw [hunqueued] at hn
      exact absurd hn.2 (by decide)
    have hack := r.ack_kept hqueued fun a ha status hran => hact a ha ⟨status, hran⟩
    right
    rw [hack]
    exact ⟨hn, rfl⟩
  · rintro n a hn ha ⟨status, rfl⟩
    have hmove := r.ack_move ha
    have hge := hmove.to_write hn
    have hlt := hmove.rank_lt
    exact (Nat.eq_or_lt_of_le hge).imp Eq.symm fun hgt => ⟨⟨hgt, by omega⟩, hlt⟩

lemma QueuedWorkRuns.fires (h : r.QueuedWorkRuns) (i : ℕ) :
    r.LeadsTo (fun s => (s.evt i).isTimer = true) (fun s => (s.evt i).started = true) := by
  apply (h.timer i).leadsTo Nat.lt_wfRel.wf fun _ => 0
  · intro n hn hact
    have hstep : (r.st (n + 1)).evt i = (r.st n).evt i ∨
        ((r.st (n + 1)).evt i).started = true := by
      apply r.rel_succ (R := fun s t => t.evt i = s.evt i ∨ (t.evt i).started = true) n (.inl rfl)
      intro a ha
      cases r.evtChange ha i with
      | same heq => exact .inl heq
      | submitted hold hnew =>
        rw [hold] at hn
        cases hn
      | fired hold hnew =>
        rcases hnew with ⟨-, hnew⟩ | ⟨-, hnew⟩ <;>
        · rw [hnew]
          exact .inr rfl
      | ran status hran hstep =>
        have hold := (SshLife.evtStep_stages hstep).started.1
        generalize (r.st n).evt i = stage at hn hold
        cases stage with
        | timer => cases hold
        | _ => cases hn
    cases hstep with
    | inl hsame =>
      right
      rw [hsame]
      exact ⟨hn, rfl⟩
    | inr hstarted => exact .inl hstarted
  · rintro n a hn ha rfl
    left
    obtain ⟨-, stage, hstage, ht⟩ := SshLife.timerStep_cases (r.step_eq ha)
    rw [ht, SshLife.evt_setEvt]
    rcases hstage with ⟨-, rfl⟩ | ⟨-, rfl⟩
    · rfl
    · rfl

lemma QueuedWorkRuns.handles (h : r.QueuedWorkRuns) (i : ℕ) :
    r.LeadsTo (fun s => (s.evt i).started = true) (fun s => (s.evt i).isDone = true) := by
  apply (h.evt i).leadsTo SshLife.evtOrder_wf fun s => ((s.evt i).rank, (s.evt i).rest)
  · intro n hn hact
    have hevt := r.evt_kept hn fun a ha status hran => hact a ha ⟨status, hran⟩
    right
    rw [hevt]
    exact ⟨hn, rfl⟩
  · rintro n a hn ha ⟨status, rfl⟩
    have hmove := r.evt_move ha
    exact hmove.started.2.symm.imp_right fun hstarted => ⟨hstarted, hmove.lt⟩

/-- Both parts of an item that is being prepared run. -/
lemma QueuedWorkRuns.done (h : r.QueuedWorkRuns) (hn : (r.st n).rx.preparing = some i) :
    ∃ m, n ≤ m ∧ (r.st m).PartsDone i := by
  obtain ⟨m, hnm, hevt⟩ := h.submits i n hn
  have hack : (r.st m).ack i ≠ .unqueued := by
    intro hunqueued
    have hi : i < (r.st m).works := (r.worksOk m).lt_of_evt hevt
    have hrx := ((r.worksOk m).item i hi).ack.mp hunqueued
    exact hevt (((r.worksOk m).item i hi).evt.mpr (by rw [hrx]; rfl))
  have hacked : ∃ k, m ≤ k ∧ (r.st k).ack i = .done := by
    cases hqueue : ((r.st m).ack i).onQueue with
    | true => exact h.acks i m hqueue
    | false =>
      refine ⟨m, Nat.le_refl m, (AckStage.rank_of_onQueue hqueue).resolve_left fun hrank => ?_⟩
      generalize (r.st m).ack i = stage at hack hrank
      cases stage <;> first | exact hack rfl | cases hrank
  have hhandled : ∃ k, m ≤ k ∧ ((r.st k).evt i).isDone = true := by
    cases hstarted : ((r.st m).evt i).started with
    | true => exact h.handles i m hstarted
    | false =>
      rcases EvtStage.rank_of_not_started hstarted with hrank | htimer | hdone
      · generalize (r.st m).evt i = stage at hevt hrank
        cases stage with
        | unqueued => exact absurd rfl hevt
        | running c pc => cases pc <;> cases hrank
        | _ => cases hrank
      · exact (h.fires i).trans (h.handles i) m htimer
      · exact ⟨m, Nat.le_refl m, hdone⟩
  obtain ⟨k, hmk, hk⟩ := hacked
  obtain ⟨l, hml, hl⟩ := hhandled
  have hk' : ((r.st (max k l)).ack i).rank = 0 := r.stable (P := fun s => (s.ack i).rank = 0)
    (fun j hj => Nat.le_zero.mp (hj ▸ r.ack_rank_succ i j)) (Nat.le_max_left k l) (by rw [hk]; rfl)
  have hl' : ((r.st (max k l)).evt i).rank = 0 := r.stable (P := fun s => (s.evt i).rank = 0)
    (fun j hj => Nat.le_zero.mp (hj ▸ r.evt_rank_succ i j)) (Nat.le_max_right k l)
    (EvtStage.isDone_iff.mp hl)
  exact ⟨max k l, by omega, SshLife.partsDone_iff.mpr ⟨hk', hl'⟩⟩

/-! ### Exactly once -/

variable (r)

/-- What becomes of the work item `i` that has been allocated for an event. -/
structure UsedOnce (i : ℕ) (work : SshEventWork) : Prop where
  /-- The ACK worker runs once. -/
  check : ∃! n, ∃ state, r.Shows SshLife.obs n (.check i state)
  ack_once : ∀ {m n d d' seq seq'}, r.Shows SshLife.obs m (.ack i d seq) →
    r.Shows SshLife.obs n (.ack i d' seq') → m = n
  ack_seq : ∀ {n d seq}, r.Shows SshLife.obs n (.ack i d seq) →
    seq = work.seq ∧ ((r.st n).serdev ≠ none → d = (r.st n).serdev)
  ack_iff : (∃ n d seq, r.Shows SshLife.obs n (.ack i d seq)) ↔
    ∃ n, r.Shows SshLife.obs n (.check i .initialized)
  call_once : ∀ {m n fn fn' data data' event event'},
    r.Shows SshLife.obs m (.call i fn data event) →
    r.Shows SshLife.obs n (.call i fn' data' event') → m = n
  /-- The handler is the one in the table as the event part runs. -/
  call : ∀ {n fn data event}, r.Shows SshLife.obs n (.call i fn data event) →
    event = work.event ∧ ∃ m index, m < n ∧ r.Shows SshLife.obs m (.fetch i index) ∧
      index = (event.rqid - 1).toNat ∧ ((r.st m).handler index).handler = some fn ∧
      ((r.st m).handler index).data = data
  index : ∀ {n index}, r.Shows SshLife.obs n (.delay i index) ∨
    r.Shows SshLife.obs n (.fetch i index) → index < samNumEventTypes
  freed : ∃ n, (r.st (n + 1)).PartsDone i ∧ (∀ m, m ≤ n → (r.st m).freed i = 0) ∧
    (∀ m, n < m → (r.st m).freed i = 1) ∧
    ∀ m a, n < m → r.act m = some a → (r.st m).uses i a = false

variable {r} {work : SshEventWork}

/-- The data of an item is the event that it has been allocated for. -/
lemma work_eq (halloc : r.Shows SshLife.obs m (.alloc i work)) (hi : i < (r.st n).works) :
    (r.st n).work i = work := by
  obtain ⟨a, ha, hobs⟩ := halloc
  obtain ⟨⟨dev, hrx⟩, rfl, rfl⟩ := SshLife.obs_alloc hobs
  have hborn {k l : ℕ} {j : ℕ} (hkl : k ≤ l) (hj : j < (r.st k).works) : j < (r.st l).works :=
    r.stable (P := fun s => j < s.works) (fun n hn => r.rel_succ (R := fun _ t => j < t.works) n hn
      fun a ha => SshLife.step_born (r.step_eq ha) hn) hkl hj
  have hmn : m + 1 ≤ n := by
    by_contra hle
    exact Nat.lt_irrefl _ (hborn (Nat.le_of_not_lt hle) hi)
  have hstep : (r.st m).rxStep true = some (r.st (m + 1)) := r.step_eq ha
  unfold SshLife.rxStep at hstep
  rw [hrx] at hstep
  have hnew := (Option.some.inj hstep).symm
  have hboth : (r.st m).works < (r.st n).works ∧ (r.st n).work (r.st m).works = work := by
    apply r.stable (P := fun s => (r.st m).works < s.works ∧ s.work (r.st m).works = work) _ hmn
    · rw [hnew]
      exact ⟨Nat.lt_succ_self _, Function.update_self ..⟩
    · intro k hk
      apply r.rel_succ (R := fun _ t => (r.st m).works < t.works ∧ t.work (r.st m).works = work) k hk
      intro a ha
      exact ⟨SshLife.step_born (r.step_eq ha) hk.1,
        (SshLife.step_work (r.step_eq ha) hk.1).trans hk.2⟩
  exact hboth.2

lemma ack_falls {status : ℤ} (ha : r.act n = some (.ack i status)) :
    ((r.st (n + 1)).ack i).rank < ((r.st n).ack i).rank := (r.ack_move ha).rank_lt

lemma check_once {state state' : SshEcState} (hm : r.Shows SshLife.obs m (.check i state))
    (hn : r.Shows SshLife.obs n (.check i state')) : m = n := by
  have hcheck {n : ℕ} {state : SshEcState} (h : r.Shows SshLife.obs n (.check i state)) :
      ((r.st n).ack i).rank = 7 ∧ ((r.st (n + 1)).ack i).rank < 7 := by
    obtain ⟨a, ha, hobs⟩ := h
    obtain ⟨⟨status, rfl⟩, ⟨dev, hack⟩, -⟩ := SshLife.obs_check hobs
    have hrank : ((r.st n).ack i).rank = 7 := by rw [hack]; rfl
    exact ⟨hrank, hrank ▸ ack_falls ha⟩
  exact r.eq_of_falls (fun s => (s.ack i).rank) (r.ack_rank_succ i) (hcheck hm).1 (hcheck hm).2
    (hcheck hn).1 (hcheck hn).2

lemma ack_once {d d' : KPtr} {seq seq' : UInt8} (hm : r.Shows SshLife.obs m (.ack i d seq))
    (hn : r.Shows SshLife.obs n (.ack i d' seq')) : m = n := by
  have hwrite {n : ℕ} {d : KPtr} {seq : UInt8} (h : r.Shows SshLife.obs n (.ack i d seq)) :
      ((r.st n).ack i).rank = 3 ∧ ((r.st (n + 1)).ack i).rank < 3 := by
    obtain ⟨a, ha, hobs⟩ := h
    obtain ⟨⟨status, rfl⟩, ⟨dev, hack⟩, -⟩ := SshLife.obs_ack hobs
    have hrank : ((r.st n).ack i).rank = 3 := by rw [hack]; rfl
    exact ⟨hrank, hrank ▸ ack_falls ha⟩
  exact r.eq_of_falls (fun s => (s.ack i).rank) (r.ack_rank_succ i) (hwrite hm).1 (hwrite hm).2
    (hwrite hn).1 (hwrite hn).2

lemma call_once {fn fn' : ℕ} {data data' : KPtr} {event event' : SurfaceSamSshEvent}
    (hm : r.Shows SshLife.obs m (.call i fn data event))
    (hn : r.Shows SshLife.obs n (.call i fn' data' event')) : m = n := by
  have hcall {n fn : ℕ} {data : KPtr} {event : SurfaceSamSshEvent}
      (h : r.Shows SshLife.obs n (.call i fn data event)) :
      ((r.st n).evt i).rank = 3 ∧ ((r.st (n + 1)).evt i).rank < 3 := by
    obtain ⟨a, ha, hobs⟩ := h
    obtain ⟨⟨status, rfl⟩, ⟨c, dev, slot, hevt, -, -⟩, -⟩ := SshLife.obs_call hobs
    have hmove := r.evt_move ha
    rw [hevt] at hmove ⊢
    generalize (r.st (n + 1)).evt i = new at hmove
    cases hmove with
    | call _ _ _ fn => exact ⟨rfl, Nat.le_refl 3⟩
    | none => exact ⟨rfl, Nat.le_refl 3⟩
  exact r.eq_of_falls (fun s => (s.evt i).rank) (r.evt_rank_succ i) (hcall hm).1 (hcall hm).2
    (hcall hn).1 (hcall hn).2

lemma shows_check {status : ℤ} {dev : KPtr} (ha : r.act n = some (.ack i status))
    (hack : (r.st n).ack i = .entered dev) :
    r.Shows SshLife.obs n (.check i (r.st n).state) := by
  refine ⟨_, ha, ?_⟩
  unfold SshLife.obs
  dsimp only
  rw [hack]

lemma shows_ack {status : ℤ} {dev serdev : KPtr} (ha : r.act n = some (.ack i status))
    (hack : (r.st n).ack i = .writing dev serdev) :
    r.Shows SshLife.obs n (.ack i serdev ((r.st n).work i).seq) := by
  refine ⟨_, ha, ?_⟩
  unfold SshLife.obs
  dsimp only
  rw [hack]

lemma shows_fetch {status : ℤ} {c : EvtContext} {dev : KPtr} (ha : r.act n = some (.evt i status))
    (hevt : (r.st n).evt i = .running c (.entered dev)) :
    r.Shows SshLife.obs n (.fetch i (((r.st n).work i).event.rqid - 1).toNat) := by
  refine ⟨_, ha, ?_⟩
  unfold SshLife.obs
  dsimp only
  rw [hevt]

/-- An ACK part that is past the check of the EC state has made it. -/
lemma check_before (hn : ((r.st n).ack i).rank ≤ 6) :
    ∃ m, m < n ∧ ∃ state, r.Shows SshLife.obs m (.check i state) := by
  apply r.exists_before (P := fun s => (s.ack i).rank ≤ 6) _ _ hn
  · exact Nat.not_le_of_lt (Nat.lt_of_sub_eq_succ rfl)
  · intro k hk
    refine r.rel_succ (R := fun s t => (t.ack i).rank ≤ 6 → (s.ack i).rank ≤ 6 ∨ _) k .inl
      (fun a ha hk => ?_) hk
    cases r.ackChange ha i with
    | same heq =>
      rw [heq] at hk
      exact .inl hk
    | submitted hold hnew =>
      rw [hnew] at hk
      exact absurd hk (by decide)
    | ran status hran hstep =>
      rw [hran] at ha
      apply ((r.ack_move ha).checked hk).imp_right
      rintro ⟨dev, hack⟩
      exact ⟨_, shows_check ha hack⟩

/-- An ACK is sent if the EC has been found initialized. -/
lemma initialized_before (hn : 3 ≤ ((r.st n).ack i).rank ∧ ((r.st n).ack i).rank ≤ 6) :
    ∃ m, m < n ∧ r.Shows SshLife.obs m (.check i .initialized) := by
  apply r.exists_before (P := fun s => 3 ≤ (s.ack i).rank ∧ (s.ack i).rank ≤ 6) _ _ hn
  · exact fun h => absurd h.2 (Nat.not_le_of_lt (Nat.lt_of_sub_eq_succ rfl))
  · intro k hk
    refine r.rel_succ (R := fun s t => 3 ≤ (t.ack i).rank ∧ (t.ack i).rank ≤ 6 →
      (3 ≤ (s.ack i).rank ∧ (s.ack i).rank ≤ 6) ∨ _) k .inl (fun a ha hk => ?_) hk
    cases r.ackChange ha i with
    | same heq =>
      rw [heq] at hk
      exact .inl hk
    | submitted hold hnew =>
      rw [hnew] at hk
      exact absurd hk.2 (by decide)
    | ran status hran hstep =>
      rw [hran] at ha
      apply ((r.ack_move ha).sending hk).imp_right
      rintro ⟨⟨dev, hack⟩, hstate⟩
      rw [← hstate]
      exact shows_check ha hack

/-- The handler that is about to be called has been fetched from the table. -/
lemma fetch_before {c : EvtContext} {dev : KPtr} {slot : SshEventSlot}
    (hn : (r.st n).evt i = .running c (.fetched dev slot)) :
    ∃ m, m < n ∧ ∃ index, r.Shows SshLife.obs m (.fetch i index) ∧
      slot = (r.st m).handler index := by
  apply r.exists_before (P := fun s => ∃ c dev, s.evt i = .running c (.fetched dev slot)) _ _
    ⟨c, dev, hn⟩
  · rintro ⟨c, dev, hevt⟩
    cases hevt
  · intro k hk
    refine r.rel_succ (R := fun s t => (∃ c dev, t.evt i = .running c (.fetched dev slot)) →
      (∃ c dev, s.evt i = .running c (.fetched dev slot)) ∨ _) k .inl (fun a ha hk => ?_) hk
    obtain ⟨c, dev, hevt⟩ := hk
    cases r.evtChange ha i with
    | same heq => exact .inl ⟨c, dev, heq.symm.trans hevt⟩
    | submitted hold hnew =>
      rw [hevt] at hnew
      rcases hnew with hnew | hnew | ⟨hnew, -⟩ <;> cases hnew
    | fired hold hnew =>
      rw [hevt] at hnew
      rcases hnew with ⟨-, hnew⟩ | ⟨-, hnew⟩ <;> cases hnew
    | ran status hran hstep =>
      rw [hran] at ha
      obtain ⟨⟨c, dev, hold⟩, hslot⟩ := (r.evt_move ha).fetched hevt
      exact .inr ⟨_, shows_fetch ha hold, hslot⟩

/-- An ACK worker that finds the EC initialized writes the ACK. -/
lemma QueuedWorkRuns.acked (h : r.QueuedWorkRuns)
    (hn : r.Shows SshLife.obs n (.check i .initialized)) :
    ∃ m d seq, r.Shows SshLife.obs m (.ack i d seq) := by
  obtain ⟨a, ha, hobs⟩ := hn
  obtain ⟨⟨status, rfl⟩, ⟨dev, hack⟩, hstate⟩ := SshLife.obs_check hobs
  have hmove := r.ack_move ha
  rw [hack] at hmove
  have hchecked : ((r.st (n + 1)).ack i).rank = 6 := by
    generalize (r.st (n + 1)).ack i = new at hmove
    cases hmove
    rw [if_pos hstate.symm]
    rfl
  obtain ⟨m, -, hm⟩ := h.writes i (n + 1) (by dsimp only; omega)
  have hqueue : ((r.st m).ack i).onQueue = true := by
    obtain ⟨dev, serdev, hack⟩ := AckStage.writing_of_rank hm
    rw [hack]
    rfl
  have hother (n : ℕ) (hn : ((r.st n).ack i).onQueue = true)
      (hact : ∀ a, r.act n = some a → ¬∃ status, a = .ack i status) :
      False ∨ ((r.st (n + 1)).ack i).onQueue = true ∧ (r.st (n + 1)).ack i = (r.st n).ack i := by
    have hkept := r.ack_kept (SshLife.AckStage.ne_of_onQueue hn).1
      fun a ha status hran => hact a ha ⟨status, hran⟩
    right
    rw [hkept]
    exact ⟨hn, rfl⟩
  obtain ⟨k, -, hfalse | ⟨⟨a, ha, status, rfl⟩, -, hk⟩⟩ :=
    (h.ack i).first (Q := fun _ => False) (f := fun s => s.ack i) hother hqueue
  · exact hfalse.elim
  · obtain ⟨dev, serdev, hwriting⟩ := AckStage.writing_of_rank hm
    exact ⟨k, serdev, _, shows_ack ha (hk.trans hwriting)⟩

/-- An item is freed as its second part ends. -/
lemma QueuedWorkRuns.frees (h : r.QueuedWorkRuns)
    (halloc : r.Shows SshLife.obs n (.alloc i work)) :
    ∃ k, ¬(r.st k).PartsDone i ∧ (r.st (k + 1)).PartsDone i := by
  obtain ⟨a, ha, hobs⟩ := halloc
  obtain ⟨⟨dev, hrx⟩, rfl, rfl⟩ := SshLife.obs_alloc hobs
  have hstep : (r.st n).rxStep true = some (r.st (n + 1)) := r.step_eq ha
  unfold SshLife.rxStep at hstep
  rw [hrx] at hstep
  have hnew := (Option.some.inj hstep).symm
  have hpreparing : (r.st (n + 1)).rx.preparing = some (r.st n).works := by
    rw [hnew]
    rfl
  obtain ⟨m, hnm, hm⟩ := h.done hpreparing
  have hunborn : ¬(r.st n).PartsDone (r.st n).works := by
    intro hdone
    have hack := ((r.worksOk n).unborn _ (Nat.le_refl _)).1
    exact absurd (hack.symm.trans hdone.1) nofun
  obtain ⟨k, -, -, hk⟩ := r.exists_switch (P := fun s => s.PartsDone (r.st n).works)
    (Nat.le_of_succ_le hnm) hunborn hm
  exact ⟨k, hk⟩

end LifeTrace

open LifeTrace in
/-- Event work is used exactly once: in every run after a probe in which queued work runs,
whatever else happens, and for every event that gets a work item. -/
theorem eventWork_usedOnce (D : SshEnv) (E : HandlerEnv) (r : LifeTrace D E)
    (hruns : r.QueuedWorkRuns) (n i : ℕ) (work : SshEventWork)
    (halloc : r.Shows SshLife.obs n (.alloc i work)) : r.UsedOnce i work := by
  obtain ⟨k, hbefore, hafter⟩ := hruns.frees halloc
  have hdone (m : ℕ) (hm : k < m) : (r.st m).PartsDone i := r.partsDone_of_le hm hafter
  refine ⟨?_, ack_once, ?_, ⟨?_, ?_⟩, call_once, ?_, ?_, k, hafter, ?_, ?_, ?_⟩
  · have hrank : ((r.st (k + 1)).ack i).rank ≤ 6 := by
      rw [hafter.1]
      exact Nat.zero_le 6
    obtain ⟨m, -, hm⟩ := check_before hrank
    exact ⟨m, hm, fun l ⟨_, hl⟩ => hm.elim fun _ hm => check_once hl hm⟩
  · rintro m d seq ⟨a, ha, hobs⟩
    obtain ⟨-, ⟨dev, hack⟩, rfl⟩ := SshLife.obs_ack hobs
    have hi : i < (r.st m).works := (r.worksOk m).lt_of_ack (by rw [hack]; exact nofun)
    rw [work_eq halloc hi]
    exact ⟨rfl, r.serdevLoaded m i dev d hack⟩
  · rintro ⟨m, d, seq, a, ha, hobs⟩
    obtain ⟨-, ⟨dev, hack⟩, -⟩ := SshLife.obs_ack hobs
    have hrank : 3 ≤ ((r.st m).ack i).rank ∧ ((r.st m).ack i).rank ≤ 6 := by
      rw [hack]
      exact ⟨Nat.le_refl 3, Nat.le_of_sub_eq_zero rfl⟩
    obtain ⟨l, -, hl⟩ := initialized_before hrank
    exact ⟨l, hl⟩
  · rintro ⟨m, hm⟩
    exact hruns.acked hm
  · rintro m fn data event ⟨a, ha, hobs⟩
    obtain ⟨-, ⟨c, dev, slot, hevt, hfn, hdata⟩, rfl⟩ := SshLife.obs_call hobs
    have hi : i < (r.st m).works := (r.worksOk m).lt_of_evt (by rw [hevt]; exact nofun)
    obtain ⟨l, hlm, index, hfetch, rfl⟩ := fetch_before hevt
    rw [work_eq halloc hi]
    refine ⟨rfl, l, index, hlm, hfetch, ?_, hfn, hdata⟩
    obtain ⟨b, hb, hobs'⟩ := hfetch
    obtain ⟨⟨c', dev', hentered⟩, rfl⟩ := SshLife.obs_fetch hobs'
    have hi' : i < (r.st l).works := (r.worksOk l).lt_of_evt (by rw [hentered]; exact nofun)
    rw [work_eq halloc hi']
  · rintro m index (⟨a, ha, hobs⟩ | ⟨a, ha, hobs⟩)
    · obtain ⟨hitem, rfl⟩ := SshLife.obs_delay hobs
      exact (r.eventsOk m).index_lt ((r.worksOk m).rx i hitem)
    · obtain ⟨⟨c, dev, hevt⟩, rfl⟩ := SshLife.obs_fetch hobs
      exact (r.eventsOk m).index_lt ((r.worksOk m).lt_of_evt (by rw [hevt]; exact nofun))
  · intro m hm
    rw [(r.worksOk m).freed_eq, if_neg fun h => hbefore (r.partsDone_of_le hm h)]
  · intro m hm
    rw [(r.worksOk m).freed_eq, if_pos (hdone m hm)]
  · intro m a hm ha
    exact (r.worksOk m).not_uses (hdone m hm) (r.step_eq ha)

/-! ### A run -/

section Adapter

open SshLife LifeAct

/-- The power adapter has been plugged in. -/
def adapterMsg : SshCmdMessage := ⟨0, 7, 0x02, 0x00, 0x01, 0x01, 0x02, 0x00, 0x17, [0x01], by decide⟩

/-- The handler 5 is registered with the data 6. Then the event comes in, is acknowledged and
handled, with one request. -/
def adapterRun : List LifeAct :=
  wholeCall (.setDelayedEventHandler 2 (some 5) none (some 6)) 0 ++ dispatch adapterMsg.work ++
    times 7 (.ack 0 10) ++ times 8 (.evt 0 0)

def adapterHandler : HandlerEnv := ⟨fun _ _ => 1⟩

lemma adapterMsg_dispatched : adapterMsg.work.Dispatched kernelEnv := by
  refine ⟨sshEc, fun k => (adapterMsg.bytes kernelEnv).getD k 0, 19, ?_⟩
  decide +kernel

lemma adapterRun_dispatched (a : LifeAct) (ha : a ∈ adapterRun) : a.Dispatched kernelEnv := by
  have htimes {n : ℕ} {b : LifeAct} (hb : b.Dispatched kernelEnv) :
      ∀ a ∈ times n b, a.Dispatched kernelEnv := fun a ha => List.eq_of_mem_replicate ha ▸ hb
  revert a
  refine List.forall_mem_append.mpr ⟨List.forall_mem_append.mpr ⟨List.forall_mem_append.mpr
    ⟨List.forall_mem_cons.mpr ⟨trivial, htimes trivial⟩, List.forall_mem_cons.mpr
      ⟨adapterMsg_dispatched, htimes trivial⟩⟩, htimes trivial⟩, htimes trivial⟩

lemma exists_adapterTrace : ∃ r : LifeTrace kernelEnv adapterHandler, r.QueuedWorkRuns ∧
    r.Shows obs 7 (.alloc 0 adapterMsg.work) ∧ r.Shows obs 16 (.ack 0 (some 0) 7) ∧
      r.Shows obs 20 (.call 0 5 (some 6) adapterMsg.work.event) := by
  obtain ⟨t, hrun⟩ : ∃ t, Machine.run (LifeAct.step adapterHandler) probed adapterRun = some t :=
    ⟨_, rfl⟩
  have hmeets : Machine.Meets (LifeAct.step adapterHandler) (fun _ a => a.Dispatched kernelEnv)
      probed adapterRun := Machine.Trace.meets_of_forall adapterRun_dispatched
  let r : LifeTrace kernelEnv adapterHandler := .ofRun hrun hmeets
  have hsmall (n : ℕ) : (r.st n).works ≤ 1 ∧ ((r.st n).evt 0).isTimer = false := by
    have hall := Machine.Trace.ofRun_forall hrun hmeets
      (p := fun s => s.works ≤ 1 ∧ (s.evt 0).isTimer = false) (by decide +kernel) n
    exact of_decide_eq_true hall
  have hzero {n i : ℕ} (hi : i < (r.st n).works) : i = 0 := by
    have := (hsmall n).1
    omega
  refine ⟨r, ⟨fun i => ?_, fun i n hn => ?_, fun i => ?_, fun i => ?_⟩, ?_, ?_, ?_⟩
  · by_cases hi : i = 0
    · subst hi
      exact Machine.Trace.recurs_ofRun hrun hmeets (k := 10) rfl ⟨true, rfl⟩ (by decide +kernel)
    · intro n hn
      exact absurd (hzero ((r.worksOk n).rx i (RxStage.item_eq_some.mpr (.inl hn)))) hi
  · change ((r.st n).evt i).isTimer = true at hn
    have hevt : (r.st n).evt i ≠ .unqueued := by
      intro h
      rw [h] at hn
      cases hn
    rw [hzero ((r.worksOk n).lt_of_evt hevt), (hsmall n).2] at hn
    cases hn
  · by_cases hi : i = 0
    · subst hi
      exact Machine.Trace.recurs_ofRun hrun hmeets (k := 17) rfl ⟨10, rfl⟩ (by decide +kernel)
    · intro n hn
      exact absurd (hzero ((r.worksOk n).lt_of_ack (SshLife.AckStage.ne_of_onQueue hn).1)) hi
  · by_cases hi : i = 0
    · subst hi
      exact Machine.Trace.recurs_ofRun hrun hmeets (k := 25) rfl ⟨0, rfl⟩ (by decide +kernel)
    · intro n hn
      change ((r.st n).evt i).started = true at hn
      have hevt : (r.st n).evt i ≠ .unqueued := by
        intro h
        rw [h] at hn
        cases hn
      exact absurd (hzero ((r.worksOk n).lt_of_evt hevt)) hi
  · exact Machine.Trace.shows_ofRun hrun hmeets (a := .rx true) rfl rfl
  · exact Machine.Trace.shows_ofRun hrun hmeets (a := .ack 0 10) rfl rfl
  · exact Machine.Trace.shows_ofRun hrun hmeets (a := .evt 0 0) rfl rfl

theorem eventWork_usedOnce_adapter : ∃ r : LifeTrace kernelEnv adapterHandler,
    r.QueuedWorkRuns ∧ r.UsedOnce 0 adapterMsg.work ∧ r.Shows obs 16 (.ack 0 (some 0) 7) ∧
      r.Shows obs 20 (.call 0 5 (some 6) adapterMsg.work.event) := by
  obtain ⟨r, hruns, halloc, hack, hcall⟩ := exists_adapterTrace
  exact ⟨r, hruns, eventWork_usedOnce _ _ r hruns 7 0 _ halloc, hack, hcall⟩

end Adapter

end SurfaceSam
