import SurfaceSam.Devlib.Arrivals
import SurfaceSam.Events.Handlers
import SurfaceSam.Lifecycle.ExactlyOnce
import SurfaceSam.Lifecycle.Receipt

/-!
# The order of events

Events are acknowledged in the order in which they are received, as `queue_ack` has a single
worker. Events for immediate execution are handled in that order too, inside the receive callback.
-/

namespace SurfaceSam

open Devlib

/-- Where the event part runs. -/
def EvtStage.context : EvtStage → Option EvtContext
  | running c _ => some c
  | _ => none

namespace SshLife

/-- The event that `ssh_handle_event` has got memory for. -/
def received (s : SshLife) (a : LifeAct) : List SshEventWork :=
  match s.obs a with
  | some (.alloc _ work) => [work]
  | _ => []

/-- The sequence id in the ACK that is written. -/
def acknowledged (s : SshLife) (a : LifeAct) : List UInt8 :=
  match s.obs a with
  | some (.ack _ _ seq) => [seq]
  | _ => []

/-- The event for which a handler is called, and where it is; only of items from `w` on. -/
def called (w : ℕ) (s : SshLife) (a : LifeAct) : List (Option EvtContext × SurfaceSamSshEvent) :=
  match s.obs a with
  | some (.call i _ _ event) => if w ≤ i then [((s.evt i).context, event)] else []
  | _ => []

/-- All items so far. -/
def items (s : SshLife) : List SshEventWork := (List.range s.works).map s.work

variable {E : HandlerEnv} {s t : SshLife} {a : LifeAct} {i j k : ℕ}

/-! ### Received events -/

lemma length_items : s.items.length = s.works := by
  rw [items, List.length_map, List.length_range]

lemma getElem?_items (hi : i < s.works) : s.items[i]? = some (s.work i) := by
  rw [items, List.getElem?_map, List.getElem?_range hi]
  rfl

lemma received_eq_nil (ha : ∀ ok, a ≠ .rx ok) : s.received a = [] := by
  unfold received
  cases hobs : s.obs a with
  | none => rfl
  | some o =>
    cases o with
    | alloc i work => exact absurd (obs_alloc hobs).2.1 (ha true)
    | _ => rfl

lemma items_step (hs : a.step E s = some t) : t.items = s.items ++ s.received a := by
  have hsame (ha : ∀ ok, a ≠ .rx ok) (hworks : t.works = s.works) (hwork : t.work = s.work) :
      t.items = s.items ++ s.received a := by
    rw [received_eq_nil ha, List.append_nil, items, items, hworks, hwork]
  cases a with
  | rx ok =>
    revert hs
    change s.rxStep ok = some t → _
    fun_cases SshLife.rxStep s ok
    case case5 dev work hrx hok =>
      intro ht
      cases ht
      rw [received, obs, hrx, hok]
      exact works_alloc
    case case6 dev work hrx hok =>
      intro ht
      cases ht
      rw [received, obs, hrx, eq_false_of_ne_true hok]
      exact (List.append_nil _).symm
    all_goals
      intro ht
      cases ht
    all_goals
      rw [received, obs, ‹s.rx = _›]
      exact (List.append_nil _).symm
  | receive input =>
    obtain ⟨-, -, rfl⟩ := receiveStep_cases hs
    exact hsame (fun _ => LifeAct.noConfusion) rfl rfl
  | timer j =>
    obtain ⟨-, stage, -, rfl⟩ := timerStep_cases hs
    exact hsame (fun _ => LifeAct.noConfusion) rfl rfl
  | ack j status => cases ackStep_effect hs <;> exact hsame (fun _ => LifeAct.noConfusion) rfl rfl
  | evt j status => cases evtStep_effect hs <;> exact hsame (fun _ => LifeAct.noConfusion) rfl rfl
  | call c => exact hsame (fun _ => LifeAct.noConfusion) (callStep_items hs).works (callStep_items hs).work
  | caller k => exact hsame (fun _ => LifeAct.noConfusion) (callerStep_items hs).works (callerStep_items hs).work
  | remove => exact hsame (fun _ => LifeAct.noConfusion) (removeStep_items hs).works (removeStep_items hs).work

lemma works_le (hs : a.step E s = some t) : s.works ≤ t.works := by
  rw [← length_items, ← length_items, items_step hs, List.length_append]
  exact Nat.le_add_right ..

/-! ### Acknowledgements -/

/-- An ACK part that has been started comes after others that are done. -/
def AckOrder (s : SshLife) : Prop := ∀ j, (s.ack j).rank < 8 → ∀ i < j, s.ack i = .done

lemma AckChange.done (h : AckChange s a t i) (hdone : s.ack i = .done) : t.ack i = .done := by
  have hrank := h.rank_le
  rw [hdone] at hrank
  exact AckStage.done_of_rank (Nat.le_zero.mp hrank)

/-- Only the first ACK part that is not done is started. -/
lemma ackStep_started {status : ℤ} (h : s.ackStep i status = some t) :
    (s.ack i).rank < 8 ∨ ∀ j < i, s.ack j = .done := by
  revert h
  fun_cases ackStep s i status
  case case3 hack hfirst => exact fun _ => .inr hfirst
  case case1 | case2 | case4 => exact fun ht => by cases ht
  all_goals
    refine fun _ => .inl ?_
    rw [‹s.ack i = _›]
    exact Nat.lt_of_sub_eq_succ rfl

lemma AckOrder.step (h : s.AckOrder) (hw : s.WorksOk) (hs : a.step E s = some t) : t.AckOrder := by
  intro j hj i hij
  apply (hw.ackChange hs i).done
  cases hw.ackChange hs j with
  | same heq => exact h j (heq ▸ hj) i hij
  | submitted hold hnew =>
    rw [hnew] at hj
    exact absurd hj (Nat.lt_irrefl 8)
  | ran status ha hstep =>
    cases ackStep_started hstep with
    | inl hrank => exact h j hrank i hij
    | inr hfirst => exact hfirst i hij

/-- None of the first `k` ACKs is still to be written. -/
structure AckedTo (s : SshLife) (k : ℕ) : Prop where
  works : s.WorksOk
  order : s.AckOrder
  le : k ≤ s.works
  written : ∀ i < k, (s.ack i).rank < 3

lemma orderly_acknowledged : Machine.Orderly (LifeAct.step E) (fun _ _ => True)
    (fun s => s.items.map (·.seq)) (fun s a => (s.received a).map (·.seq)) acknowledged AckedTo where
  arrive hs := by
    rw [items_step hs, List.map_append]
  depart {s a t k} h _ hs := by
    have hworks := h.works.step hs
    have horder := h.order.step h.works hs
    have hlen : (s.items.map (·.seq)).length = s.works := by rw [List.length_map, length_items]
    have hnone : ∃ k', k ≤ k' ∧ k' ≤ (s.items.map (·.seq)).length ∧ t.AckedTo k' ∧
        ([] : List UInt8).Sublist (((s.items.map (·.seq)).take k').drop k) := by
      refine ⟨k, Nat.le_refl k, hlen ▸ h.le, ?_, List.nil_sublist _⟩
      refine ⟨hworks, horder, h.le.trans (works_le hs), fun i hi => ?_⟩
      exact (h.works.ackChange hs i).rank_le.trans_lt (h.written i hi)
    unfold acknowledged
    cases hobs : s.obs a with
    | none => exact hnone
    | some o =>
      cases o with
      | ack i serdev seq =>
        obtain ⟨⟨status, rfl⟩, ⟨dev, hwriting⟩, rfl⟩ := obs_ack hobs
        have hrank : (s.ack i).rank = 3 := by rw [hwriting]; rfl
        have hi : i < s.works := h.works.lt_of_ack (by rw [hwriting]; exact nofun)
        have hki : k ≤ i := by
          by_contra hlt
          have hwritten := h.written i (Nat.lt_of_not_le hlt)
          omega
        refine ⟨i + 1, Nat.le_succ_of_le hki, hlen ▸ hi, ?_,
          Machine.singleton_sublist_window ?_ hki⟩
        · refine ⟨hworks, horder, Nat.le_trans hi (works_le hs), fun j hj => ?_⟩
          cases Nat.lt_succ_iff_lt_or_eq.mp hj with
          | inl hlt =>
            have hdone := h.order i (by omega) j hlt
            rw [(h.works.ackChange hs j).done hdone]
            decide
          | inr heq =>
            subst heq
            exact (ackStep_stages hs).rank_lt.trans_eq hrank
        · rw [List.getElem?_map, getElem?_items hi]
          rfl
      | _ => exact hnone

/-! ### Events for immediate execution -/

/-- The event has entry `n` of the handler table, where `f` has it executed immediately. -/
def isUrgent (n : ℕ) (f : SurfaceSamSshEvent → ℕ) (event : SurfaceSamSshEvent) : Bool :=
  decide ((event.rqid - 1).toNat = n) && decide (f event = surfaceSamSshEventImmediate)

/-- The step does not register a handler in entry `n`. -/
def SparesEntry (E : HandlerEnv) (n : ℕ) (s : SshLife) (a : LifeAct) : Prop :=
  ∀ t, a.step E s = some t → t.handler n = s.handler n ∨ t.handler n = .null

end SshLife

/-- An event part that is not inline finds no handler; `p` tells that there is none. -/
def EvtStage.Bypassed (p : Prop) : EvtStage → Prop
  | timer => p
  | queued => p
  | running .worker (.entered _) => p
  | running .worker (.fetched _ slot) => slot.handler = none
  | _ => True

/-- An event part that will not call a handler inline any more. -/
structure EvtStage.Passed (stage : EvtStage) : Prop where
  handedOver : stage ≠ .unqueued
  inline : ∀ pc, stage = .running .inline pc → stage.rank < 3

lemma EvtStage.Bypassed.imp {p q : Prop} {stage : EvtStage} (h : stage.Bypassed p)
    (hpq : p → q) : stage.Bypassed q := by
  cases stage with
  | timer => exact hpq h
  | queued => exact hpq h
  | running c pc =>
    cases c with
    | inline => trivial
    | worker =>
      cases pc with
      | entered dev => exact hpq h
      | fetched dev slot => exact h
      | _ => trivial
  | _ => trivial

namespace SshLife

variable {E : HandlerEnv} {s t : SshLife} {a : LifeAct} {i j k n w : ℕ}
  {f : SurfaceSamSshEvent → ℕ} {event : SurfaceSamSshEvent} {old new : EvtStage}

lemma isUrgent_iff : isUrgent n f event = true ↔
    (event.rqid - 1).toNat = n ∧ f event = surfaceSamSshEventImmediate := by
  rw [isUrgent, Bool.and_eq_true, decide_eq_true_iff, decide_eq_true_iff]

lemma bypassed_move {p : Prop} (h : EvtMove E s event old new) (hold : old.Bypassed p)
    (hslot : p → (s.slotOf event.rqid).handler = none) : new.Bypassed p := by
  cases h with
  | start => exact hold
  | fetch c dev =>
    cases c with
    | inline => trivial
    | worker => exact hslot hold
  | finish c => trivial
  | call c _ _ _ => cases c <;> trivial
  | none c _ _ => cases c <;> trivial
  | warn c _ => cases c <;> trivial
  | request c _ _ _ => cases c <;> trivial
  | lock c _ _ _ => cases c <;> trivial
  | unlock c _ _ _ => cases c <;> trivial
  | returned c _ _ => cases c <;> trivial
  | fail c _ _ => cases c <;> trivial
  | failed c _ => cases c <;> trivial

/-- An event part stays where it runs. -/
lemma EvtMove.inline {pc : EvtPc} (h : EvtMove E s event old new)
    (hnew : new = .running .inline pc) : ∃ pc', old = .running .inline pc' := by
  cases h with
  | start => cases hnew
  | finish c => cases hnew
  | _ =>
    cases hnew
    exact ⟨_, rfl⟩

lemma EvtMove.passed (h : EvtMove E s event old new) (hold : old.Passed) : new.Passed := by
  refine ⟨?_, fun pc hnew => ?_⟩
  · cases h with
    | _ => exact nofun
  · obtain ⟨pc', hpc'⟩ := h.inline hnew
    exact h.rank_le.trans_lt (hold.inline pc' hpc')

/-- A fetched handler is called now or not at all. -/
lemma passed_of_fetched {c : EvtContext} {dev : KPtr} {slot : SshEventSlot}
    (h : EvtMove E s event old new) (hold : old = .running c (.fetched dev slot)) : new.Passed := by
  subst hold
  cases h with
  | call =>
    refine ⟨nofun, fun pc hpc => ?_⟩
    exact Nat.lt_succ_self 2
  | none =>
    refine ⟨nofun, fun pc hpc => ?_⟩
    exact Nat.lt_succ_self 2

lemma EvtChange.passed (h : EvtChange E s a t i) (hold : (s.evt i).Passed) : (t.evt i).Passed := by
  cases h with
  | same heq =>
    rw [heq]
    exact hold
  | submitted hunqueued _ => exact absurd hunqueued hold.handedOver
  | fired _ hnew =>
    rcases hnew with ⟨-, hnew⟩ | ⟨-, hnew⟩ <;>
    · rw [hnew]
      exact ⟨nofun, nofun⟩
  | ran status ha hstep => exact (evtStep_stages hstep).passed hold

/-- Only the receive callback hands over event parts, inline or not. -/
lemma step_handedOver (hs : a.step E s = some t) (hold : s.evt i = .unqueued)
    (hnew : t.evt i ≠ .unqueued) : ∃ delay, s.rx = .delayed i delay ∧
      (delay = surfaceSamSshEventImmediate → t.evt i = .running .inline (.entered s.serdev)) := by
  have hchanged : t.evt i ≠ s.evt i := by
    rw [hold]
    exact hnew
  cases a with
  | rx ok =>
    revert hs
    change s.rxStep ok = some t → _
    fun_cases SshLife.rxStep s ok
    case case10 j hrx =>
      intro ht
      cases ht
      by_cases hij : i = j
      · subst hij
        exact ⟨_, hrx, fun _ => evt_setEvt⟩
      · exact absurd (evt_setEvt_of_ne hij) hchanged
    case case11 j delay hrx hdelay =>
      intro ht
      cases ht
      by_cases hij : i = j
      · subst hij
        exact ⟨delay, hrx, fun himmediate => absurd himmediate hdelay⟩
      · exact absurd (evt_setEvt_of_ne hij) hchanged
    all_goals
      intro ht
      cases ht <;> exact absurd rfl hchanged
  | receive input =>
    obtain ⟨-, -, rfl⟩ := receiveStep_cases hs
    exact absurd rfl hchanged
  | timer j =>
    obtain ⟨htimer, stage, -, rfl⟩ := timerStep_cases hs
    refine absurd (evt_setEvt_of_ne fun hij => ?_) hchanged
    rw [← hij, hold] at htimer
    cases htimer
  | ack j status => cases ackStep_effect hs <;> exact absurd rfl hchanged
  | evt j status =>
    by_cases hij : i = j
    · subst hij
      have hstarted := (evtStep_stages hs).started.1
      rw [hold] at hstarted
      cases hstarted
    · cases evtStep_effect hs <;> exact absurd (evt_setEvt_of_ne hij) hchanged
  | call c => exact absurd (congrFun (callStep_items hs).evt i) hchanged
  | caller k => exact absurd (congrFun (callerStep_items hs).evt i) hchanged
  | remove => exact absurd (congrFun (removeStep_items hs).evt i) hchanged

lemma WorksOk.evt_unborn (h : s.WorksOk) (hs : a.step E s = some t) (hi : s.works ≤ i) :
    t.evt i = .unqueued := by
  by_contra hnew
  obtain ⟨delay, hrx, -⟩ := step_handedOver hs (h.unborn i hi).2.1 hnew
  exact absurd (h.rx i (by rw [hrx]; rfl)) (Nat.not_lt_of_le hi)

/-- Where the receive callback has its delay from. -/
lemma step_delayed {delay : ℕ} (hs : a.step E s = some t) (ht : t.rx = .delayed i delay) :
    s.rx = .delayed i delay ∨ s.rx = .acked i ∧ delay = s.delayOf (s.work i).event := by
  cases a with
  | rx ok =>
    revert hs
    change s.rxStep ok = some t → _
    fun_cases SshLife.rxStep s ok
    case case9 j hrx event delay' =>
      intro heq
      cases heq
      obtain ⟨hij, hdelay⟩ := RxStage.delayed.inj ht
      subst hij
      exact .inr ⟨hrx, hdelay.symm⟩
    all_goals
      intro heq
      cases heq <;> cases ht
  | receive input =>
    obtain ⟨-, -, rfl⟩ := receiveStep_cases hs
    cases ht
  | timer j =>
    obtain ⟨-, stage, -, rfl⟩ := timerStep_cases hs
    exact .inl ht
  | ack j status => cases ackStep_effect hs <;> exact .inl ht
  | evt j status => cases evtStep_effect hs <;> exact .inl ht
  | call c => exact .inl ((callStep_items hs).rx.symm.trans ht)
  | caller k => exact .inl ((callerStep_items hs).rx.symm.trans ht)
  | remove => exact .inl ((removeStep_items hs).rx.symm.trans ht)

/-- An event for immediate execution, from item `w` on, is handled inside the receive callback, if
at all: the entry is the one that makes it so, or is empty. -/
structure Prompt (w n : ℕ) (f : SurfaceSamSshEvent → ℕ) (s : SshLife) : Prop where
  works : s.WorksOk
  slot : (s.handler n).delay = some f ∨ s.handler n = .null
  delayed : ∀ i delay, s.rx = .delayed i delay → w ≤ i → isUrgent n f (s.work i).event = true →
    delay = surfaceSamSshEventImmediate ∨ s.handler n = .null
  stage : ∀ i, w ≤ i → isUrgent n f (s.work i).event = true →
    (s.evt i).Bypassed (s.handler n = .null)

lemma Prompt.step (h : s.Prompt w n f) (hspares : s.SparesEntry E n a)
    (hs : a.step E s = some t) : t.Prompt w n f := by
  have hslot := hspares t hs
  have hnull (hn : s.handler n = .null) : t.handler n = .null := by
    cases hslot with
    | inl heq => exact heq.trans hn
    | inr hn => exact hn
  refine ⟨h.works.step hs, ?_, fun i delay hrx hw hurgent => ?_, fun i hw hurgent => ?_⟩
  · cases hslot with
    | inl heq =>
      rw [heq]
      exact h.slot
    | inr hn => exact .inr hn
  · cases step_delayed hs hrx with
    | inl hold =>
      have hi := h.works.rx i (by rw [hold]; rfl)
      rw [step_work hs hi] at hurgent
      exact (h.delayed i delay hold hw hurgent).imp_right hnull
    | inr hold =>
      obtain ⟨hacked, hdelay⟩ := hold
      have hi := h.works.rx i (by rw [hacked]; rfl)
      rw [step_work hs hi] at hurgent
      obtain ⟨hentry, himmediate⟩ := isUrgent_iff.mp hurgent
      cases h.slot with
      | inl hf =>
        left
        rw [hdelay, delayOf, slotOf, hentry, hf]
        exact himmediate
      | inr hn => exact .inr (hnull hn)
  · by_cases hi : i < s.works
    · rw [step_work hs hi] at hurgent
      have hold := h.stage i hw hurgent
      cases h.works.evtChange hs i with
      | same heq =>
        rw [heq]
        exact hold.imp hnull
      | submitted hunqueued hnew =>
        have hqueued : t.evt i ≠ .running .inline (.entered s.serdev) → t.handler n = .null := by
          intro hinline
          have hne : t.evt i ≠ .unqueued := by
            obtain hq | hq | ⟨hq, -⟩ := hnew
            all_goals
              rw [hq]
              exact nofun
          obtain ⟨delay, hrx, himmediate⟩ := step_handedOver hs hunqueued hne
          exact hnull ((h.delayed i delay hrx hw hurgent).resolve_left fun heq =>
            hinline (himmediate heq))
        obtain hnew | hnew | ⟨hnew, -⟩ := hnew
        · rw [hnew] at hqueued ⊢
          exact hqueued nofun
        · rw [hnew] at hqueued ⊢
          exact hqueued nofun
        · rw [hnew]
          trivial
      | fired htimer hnew =>
        rw [htimer] at hold
        rcases hnew with ⟨-, hnew⟩ | ⟨-, hnew⟩
        · rw [hnew]
          exact hnull hold
        · rw [hnew]
          trivial
      | ran status ha hstep =>
        have hempty (hn : s.handler n = .null) :
            (s.slotOf (s.work i).event.rqid).handler = none := by
          unfold slotOf
          rw [(isUrgent_iff.mp hurgent).1, hn]
          rfl
        exact (bypassed_move (evtStep_stages hstep) hold hempty).imp hnull
    · -- an item that has just been allocated is not on a queue
      rw [h.works.evt_unborn hs (Nat.le_of_not_lt hi)]
      trivial

/-- A call is a step of an event part that has fetched a handler. -/
lemma called_cases (w : ℕ) (s : SshLife) (a : LifeAct) : s.called w a = [] ∨
    ∃ i status c dev slot, w ≤ i ∧ a = .evt i status ∧ s.evt i = .running c (.fetched dev slot) ∧
      slot.handler ≠ none ∧ s.called w a = [(some c, (s.work i).event)] := by
  unfold called
  cases hobs : s.obs a with
  | none => exact .inl rfl
  | some o =>
    cases o with
    | call i fn data event =>
      obtain ⟨⟨status, ha⟩, ⟨c, dev, slot, hevt, hfn, -⟩, hevent⟩ := obs_call hobs
      by_cases hi : w ≤ i
      · refine .inr ⟨i, status, c, dev, slot, hi, ha, hevt, ?_, ?_⟩
        · rw [hfn]
          exact Option.some_ne_none fn
        · dsimp only
          rw [if_pos hi, hevt, hevent]
          rfl
      · exact .inl (if_neg hi)
    | _ => exact .inl rfl

/-- The calls for events that are executed immediately. -/
def urgentCalls (w n : ℕ) (f : SurfaceSamSshEvent → ℕ) (s : SshLife) (a : LifeAct) :
    List (Option EvtContext × SurfaceSamSshEvent) := (s.called w a).filter fun c => isUrgent n f c.2

lemma Prompt.urgentCalls (h : s.Prompt w n f) (a : LifeAct) : s.urgentCalls w n f a = [] ∨
    ∃ i status dev slot, w ≤ i ∧ a = .evt i status ∧
      s.evt i = .running .inline (.fetched dev slot) ∧
        s.urgentCalls w n f a = [(some .inline, (s.work i).event)] := by
  unfold SshLife.urgentCalls
  obtain hnone | ⟨i, status, c, dev, slot, hi, ha, hevt, hhandler, heq⟩ := called_cases w s a
  · rw [hnone]
    exact .inl rfl
  · rw [heq]
    cases hurgent : isUrgent n f (s.work i).event with
    | false => exact .inl (List.filter_cons_of_neg (by simp [hurgent]))
    | true =>
      have hinline : c = .inline := by
        cases c with
        | inline => rfl
        | worker =>
          have hbypassed := h.stage i hi hurgent
          rw [hevt] at hbypassed
          exact absurd hbypassed hhandler
      subst hinline
      exact .inr ⟨i, status, dev, slot, hi, ha, hevt, List.filter_cons_of_pos hurgent⟩

/-- No event part from item `w` on and before item `k` will call a handler inline. -/
structure PromptTo (w n : ℕ) (f : SurfaceSamSshEvent → ℕ) (s : SshLife) (k : ℕ) : Prop where
  prompt : s.Prompt w n f
  ge : w ≤ k
  le : k ≤ s.works
  passed : ∀ i, w ≤ i → i < k → (s.evt i).Passed

lemma orderly_urgentCalls : Machine.Orderly (LifeAct.step E) (SparesEntry E n)
    (fun s => s.items.map (·.event)) (fun s a => (s.received a).map (·.event))
    (fun s a => (s.urgentCalls w n f a).map (·.2)) (PromptTo w n f) where
  arrive hs := by
    rw [items_step hs, List.map_append]
  depart {s a t k} h hspares hs := by
    have hprompt := h.prompt.step hspares hs
    have hlen : (s.items.map (·.event)).length = s.works := by rw [List.length_map, length_items]
    have hpassed {i : ℕ} (hi : (s.evt i).Passed) : (t.evt i).Passed :=
      (h.prompt.works.evtChange hs i).passed hi
    obtain hnone | ⟨i, status, dev, slot, hw, rfl, hevt, heq⟩ := h.prompt.urgentCalls a
    · rw [hnone]
      refine ⟨k, Nat.le_refl k, hlen ▸ h.le, ?_, List.nil_sublist _⟩
      exact ⟨hprompt, h.ge, h.le.trans (works_le hs), fun i hw hi => hpassed (h.passed i hw hi)⟩
    · have hi : i < s.works := h.prompt.works.lt_of_evt (by rw [hevt]; exact nofun)
      have hrx : s.rx = .inline i := (h.prompt.works.item i hi).inline _ hevt
      have hki : k ≤ i := by
        by_contra hlt
        have hrank := (h.passed i hw (Nat.lt_of_not_le hlt)).inline _ hevt
        rw [hevt] at hrank
        exact absurd hrank (Nat.lt_irrefl 3)
      rw [heq]
      refine ⟨i + 1, Nat.le_succ_of_le hki, hlen ▸ hi, ?_, Machine.singleton_sublist_window ?_ hki⟩
      · refine ⟨hprompt, Nat.le_succ_of_le hw, Nat.le_trans hi (works_le hs), fun j hwj hj => ?_⟩
        cases Nat.lt_succ_iff_lt_or_eq.mp hj with
        | inl hlt =>
          -- an earlier item is neither prepared nor inline, as item `i` is inline
          have hitem := h.prompt.works.item j (hlt.trans hi)
          refine hpassed ⟨fun hunqueued => ?_, fun pc hpc => ?_⟩
          · have hpreparing := hitem.evt.mp hunqueued
            rw [hrx] at hpreparing
            cases hpreparing
          · have hinline := hitem.inline pc hpc
            rw [hrx] at hinline
            cases hinline
            exact absurd hlt (Nat.lt_irrefl _)
        | inr heq' =>
          subst heq'
          exact passed_of_fetched (evtStep_stages hs) hevt
      · rw [List.getElem?_map, getElem?_items hi]
        rfl

end SshLife

open SshLife

/-- In every run, the ACKs for events are written in the order in which the events are received, and
one for an event at most: the sequence ids in them are a part of those received, in their order. -/
theorem sshLife_acksInOrder (E : HandlerEnv) (as : List LifeAct) (t : SshLife)
    (hrun : Machine.run (LifeAct.step E) .probed as = some t) :
    (Machine.shown (LifeAct.step E) acknowledged .probed as).Sublist
      ((Machine.shown (LifeAct.step E) received .probed as).map (·.seq)) := by
  have hprobed : SshLife.probed.AckedTo 0 := by
    refine ⟨⟨nofun, fun _ _ => ⟨rfl, rfl, rfl⟩, nofun⟩, fun j hj => ?_, Nat.le_refl 0, nofun⟩
    exact absurd hj (Nat.not_lt_of_le (Nat.le_succ 8))
  have hsub := (orderly_acknowledged (E := E)).sublist hprobed hrun
    (Machine.Trace.meets_of_forall (D := fun _ => True) fun _ _ => trivial)
  rwa [Machine.shown_map] at hsub

/-- Two events are received before the first of them is acknowledged. -/
theorem sshLife_acksInOrder_two :
    let E : HandlerEnv := ⟨fun _ _ => 0⟩
    let as := LifeAct.dispatch ⟨⟨2, 2, 0, 0x17, 0, []⟩, 0x10⟩ ++
      LifeAct.dispatch ⟨⟨3, 3, 0, 0x0b, 0, []⟩, 0x20⟩ ++ LifeAct.times 7 (.ack 0 10) ++
        LifeAct.times 7 (.ack 1 10)
    Machine.shown (LifeAct.step E) acknowledged .probed as = [0x10, 0x20] ∧
      [0x10, 0x20].Sublist ((Machine.shown (LifeAct.step E) received .probed as).map (·.seq)) := by
  intro E as
  have hacks : Machine.shown (LifeAct.step E) acknowledged .probed as = [0x10, 0x20] := by
    decide +kernel
  obtain ⟨t, ht⟩ := Option.isSome_iff_exists.mp
    (show (Machine.run (LifeAct.step E) .probed as).isSome = true by decide +kernel)
  exact ⟨hacks, hacks ▸ sshLife_acksInOrder E as t ht⟩

/-- In every run in which entry `n` of the handler table keeps the handler it has at its beginning, or
loses it, the events received in the run that its delay function has executed immediately are handled
inside the receive callback, if at all, in the order in which they are received, and once at most. -/
theorem sshLife_immediateInOrder (E : HandlerEnv) (s t : SshLife) (as : List LifeAct) (n : ℕ)
    (f : SurfaceSamSshEvent → ℕ)
    (hreach : Machine.Reaches (LifeAct.step E) (fun _ _ => True) .probed s)
    (hslot : (s.handler n).delay = some f) (hrun : Machine.run (LifeAct.step E) s as = some t)
    (hspares : Machine.Meets (LifeAct.step E) (SparesEntry E n) s as) :
    let calls := (Machine.shown (LifeAct.step E) (called s.works) s as).filter
      fun c => isUrgent n f c.2
    (∀ c ∈ calls, c.1 = some .inline) ∧
      (calls.map (·.2)).Sublist
        ((Machine.shown (LifeAct.step E) received s as).map (·.event)) := by
  intro calls
  have hcalls : Machine.shown (LifeAct.step E) (urgentCalls s.works n f) s as = calls :=
    Machine.shown_filter _
  have hworks : s.WorksOk := hreach.invariant ⟨nofun, fun _ _ => ⟨rfl, rfl, rfl⟩, nofun⟩
    fun _ _ _ h _ hs => h.step hs
  have hprompt : s.Prompt s.works n f := by
    refine ⟨hworks, .inl hslot, fun i delay hrx hi _ => ?_, fun i hi _ => ?_⟩
    · exact absurd (hworks.rx i (by rw [hrx]; rfl)) (Nat.not_lt_of_le hi)
    · rw [(hworks.unborn i hi).2.1]
      trivial
  constructor
  · rw [← hcalls]
    refine Machine.forall_shown hprompt (fun u a v h hC hs => h.step hC hs)
      (fun u a h c hc => ?_) hspares
    obtain hnone | ⟨i, status, dev, slot, -, -, -, heq⟩ := h.urgentCalls a
    · rw [hnone] at hc
      cases hc
    · rw [heq, List.mem_singleton] at hc
      rw [hc]
  · have hto : s.PromptTo s.works n f (s.items.map (·.event)).length := by
      rw [List.length_map, length_items]
      refine ⟨hprompt, Nat.le_refl _, Nat.le_refl _, fun i hw hi => ?_⟩
      exact absurd hi (Nat.not_lt_of_le hw)
    have hsub := orderly_urgentCalls.sublist hto hrun hspares
    rw [Machine.shown_map, Machine.shown_map, hcalls] at hsub
    exact hsub

/-- What `vhf_event_delay` returns. -/
def keyDelay (event : SurfaceSamSshEvent) : ℕ :=
  (vhfEventDelay event).run fun i => event.pld.getD i 0

/-- Two key presses. -/
def keyWork (key seq : UInt8) : SshEventWork := ⟨⟨0x0001, 0x08, 0, 0x03, 1, [key]⟩, seq⟩

/-- The receipt of the event of item `i`, which is handled inside the receive callback. -/
def receiveKey (key seq : UInt8) (i : ℕ) : List LifeAct :=
  LifeAct.dispatch (keyWork key seq) ++ LifeAct.times 4 (.evt i 0) ++ [.rx true]

/-- The VHF driver has registered its handler. -/
def keyHandler : List LifeAct :=
  LifeAct.wholeCall (.setDelayedEventHandler 0x0001 (some 3) (some keyDelay) none) 0

/-- Two keys are pressed one after the other. -/
theorem sshLife_immediateInOrder_keys :
    let E : HandlerEnv := ⟨fun _ _ => 0⟩
    let as := receiveKey 0x04 0x10 0 ++ receiveKey 0x05 0x20 1
    ∃ s, Machine.run (LifeAct.step E) .probed keyHandler = some s ∧
      let calls := (Machine.shown (LifeAct.step E) (called s.works) s as).filter
        fun c => isUrgent 0 keyDelay c.2
      calls.map (·.2.pld) = [[0x04], [0x05]] ∧ ∀ c ∈ calls, c.1 = some .inline := by
  intro E as
  obtain ⟨s, hs, hcalls⟩ := Option.map_eq_some_iff.mp
    (show (Machine.run (LifeAct.step E) .probed keyHandler).map (fun s =>
        (((Machine.shown (LifeAct.step E) (called s.works) s as).filter
          fun c => isUrgent 0 keyDelay c.2).map (·.2.pld),
          (Machine.run (LifeAct.step E) s as).isSome)) =
      some ([[0x04], [0x05]], true) by decide +kernel)
  obtain ⟨hpld, hsome⟩ := Prod.mk.inj hcalls
  obtain ⟨t, ht⟩ := Option.isSome_iff_exists.mp hsome
  have hreach := Machine.reaches_of_run (C := fun _ _ => True) hs
    (Machine.Trace.meets_of_forall fun _ _ => trivial)
  have hslot : (s.handler 0).delay = some keyDelay := by
    have hdelay : (Machine.run (LifeAct.step E) .probed keyHandler).map
        (fun s => (s.handler 0).delay) = some (some keyDelay) := rfl
    rw [hs] at hdelay
    exact Option.some_inj.mp hdelay
  have hspares : Machine.Meets (LifeAct.step E) (SparesEntry E 0) s as := by
    have hitems : ∀ a ∈ as, a.ofItem = true := by decide
    refine Machine.Meets.of_forall fun u a ha v hv => .inl ?_
    rw [(step_ec (hitems a ha) hv).handler]
  exact ⟨s, hs, hpld, (sshLife_immediateInOrder E s t as 0 keyDelay hreach hslot ht hspares).1⟩

end SurfaceSam
