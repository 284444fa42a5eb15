import SurfaceSam.Lifecycle.Locking

/-!
# Removal of event handlers

`surface_sam_ssh_remove_event_handler` clears the entry of the handler table and flushes
`queue_evt`. The flush waits for the workers that have fetched the handler before, but not
for the receive callback, which runs event parts as well.
-/

namespace SurfaceSam

open Devlib

namespace SshLife

variable {E : HandlerEnv} {s t : SshLife} {i k reg : ℕ} {status : ℤ} {a : LifeAct}

/-- The registration is in the handler table. -/
def Registered (s : SshLife) (reg : ℕ) : Prop := ∃ n, (s.handler n).isReg reg = true

/-- The registration has been taken out of the table by its removal. -/
def Gone (s : SshLife) (reg : ℕ) : Prop :=
  reg ∈ s.removed ∨ ∃ k, (s.caller k).removing = some reg

/-- Registrations have numbers of their own, and those that are gone do not come back. -/
structure RegsOk (s : SshLife) : Prop where
  pos : 0 < s.regs
  bound : ∀ n, (s.handler n).reg < s.regs
  live : ∀ n, (s.handler n).handler.isSome = true → (s.handler n).reg ≠ 0
  inj : ∀ n m, (s.handler n).reg = (s.handler m).reg → (s.handler n).reg ≠ 0 → n = m
  gone : ∀ reg, s.Gone reg → reg < s.regs ∧ ¬ s.Registered reg

/-! ### Invocations -/

lemma evtHandlerStep_invokes {c : EvtContext} {pc : EvtPc} (hevt : s.evt i = .running c pc)
    (h : s.evtHandlerStep E i status c pc = some t) (hi : (t.evt i).invokes reg = true) :
    (s.evt i).invokes reg = true ∨ s.Registered reg := by
  rw [hevt]
  revert h
  fun_cases evtHandlerStep E s i status c pc
  case case1 dev =>
    rintro ⟨⟩
    rw [evt_setEvt] at hi
    exact .inr ⟨_, hi⟩
  case case10 dev slot =>
    rintro ⟨⟩
    rw [evt_setEvt] at hi
    split at hi <;> cases hi
  all_goals
    rintro ⟨⟩ <;>
    · rw [show SshLife.evt _ i = _ from evt_setEvt] at hi
      first | exact .inl hi | cases hi

/-- A step of an event part invokes what it invoked before or what is registered. -/
lemma evtStep_invokes (h : s.evtStep E i status = some t) (hi : (t.evt i).invokes reg = true) :
    (s.evt i).invokes reg = true ∨ s.Registered reg := by
  revert h
  fun_cases evtStep E s i status
  case case5 hevt =>
    rintro ⟨⟩
    rw [evt_setEvt] at hi
    cases hi
  case case6 c pc hevt => exact fun h => evtHandlerStep_invokes hevt h hi
  all_goals rintro ⟨⟩

/-! ### The handler table -/

/-- Steps that leave the handler table and its registrations alone. -/
lemma RegsOk.congr (h : s.RegsOk) (hhandler : t.handler = s.handler) (hregs : t.regs = s.regs)
    (hgone : ∀ reg, t.Gone reg → s.Gone reg) : t.RegsOk := by
  refine ⟨?_, ?_, ?_, ?_, fun reg hreg => ?_⟩
  · rw [hregs]
    exact h.pos
  · rw [hhandler, hregs]
    exact h.bound
  · rw [hhandler]
    exact h.live
  · rw [hhandler]
    exact h.inj
  · unfold Registered
    rw [hhandler, hregs]
    exact h.gone reg (hgone reg hreg)

lemma SshEventSlot.isReg_iff {slot : SshEventSlot} :
    slot.isReg reg = true ↔ slot.handler.isSome = true ∧ slot.reg = reg := by
  rw [SshEventSlot.isReg, Bool.and_eq_true, beq_iff_eq]

/-- A new registration. -/
lemma RegsOk.register {n : ℕ} {slot : SshEventSlot} (h : s.RegsOk) (hslot : slot.reg = s.regs)
    (hhandler : t.handler = Function.update s.handler n slot) (hregs : t.regs = s.regs + 1)
    (hgone : ∀ reg, t.Gone reg → s.Gone reg) : t.RegsOk := by
  have hnew : t.handler n = slot := by rw [hhandler, Function.update_self]
  have hold (m : ℕ) (hm : m ≠ n) : t.handler m = s.handler m := by
    rw [hhandler, Function.update_of_ne hm]
  have hlt (m : ℕ) (hm : m ≠ n) : (t.handler m).reg < s.regs := by
    rw [hold m hm]
    exact h.bound m
  have hpos := h.pos
  refine ⟨by omega, fun m => ?_, fun m hm => ?_, fun m l heq hne => ?_, fun reg hreg => ?_⟩
  · by_cases hm : m = n
    · rw [hm, hnew]
      omega
    · have := hlt m hm
      omega
  · by_cases hmn : m = n
    · rw [hmn, hnew]
      omega
    · rw [hold m hmn] at hm ⊢
      exact h.live m hm
  · by_cases hm : m = n
    · by_cases hl : l = n
      · rw [hm, hl]
      · have := hlt l hl
        rw [hm, hnew] at heq
        omega
    · by_cases hl : l = n
      · have := hlt m hm
        rw [hl, hnew] at heq
        omega
      · rw [hold m hm] at heq hne
        rw [hold l hl] at heq
        exact h.inj m l heq hne
  · obtain ⟨hbound, hunregistered⟩ := h.gone reg (hgone reg hreg)
    refine ⟨by omega, fun ⟨m, hm⟩ => ?_⟩
    by_cases hmn : m = n
    · rw [hmn, hnew, SshEventSlot.isReg_iff] at hm
      omega
    · rw [hold m hmn] at hm
      exact hunregistered ⟨m, hm⟩

/-- Entries are cleared; what is gone now was gone before or has been cleared. -/
lemma RegsOk.clear (h : s.RegsOk) (hhandler : ∀ n, t.handler n = .null ∨ t.handler n = s.handler n)
    (hregs : t.regs = s.regs)
    (hgone : ∀ reg, t.Gone reg → s.Gone reg ∨ reg < s.regs ∧ ¬ t.Registered reg) : t.RegsOk := by
  have hold (n : ℕ) (hn : (t.handler n).reg ≠ 0) : t.handler n = s.handler n :=
    (hhandler n).resolve_left fun hnull => hn (by rw [hnull]; rfl)
  refine ⟨hregs ▸ h.pos, fun n => ?_, fun n hn => ?_, fun n m heq hne => ?_, fun reg hreg => ?_⟩
  · rw [hregs]
    rcases hhandler n with hn | hn
    · rw [hn]
      exact h.pos
    · rw [hn]
      exact h.bound n
  · rcases hhandler n with hnull | hn'
    · rw [hnull] at hn
      cases hn
    · rw [hn'] at hn ⊢
      exact h.live n hn
  · have hm : (t.handler m).reg ≠ 0 := heq ▸ hne
    rw [hold n hne] at heq hne
    rw [hold m hm] at heq
    exact h.inj n m heq hne
  · rcases hgone reg hreg with hreg | hreg
    · obtain ⟨hbound, hunregistered⟩ := h.gone reg hreg
      refine ⟨hregs ▸ hbound, fun ⟨n, hn⟩ => ?_⟩
      rcases hhandler n with hnull | hn'
      · rw [hnull] at hn
        cases hn
      · rw [hn'] at hn
        exact hunregistered ⟨n, hn⟩
    · exact ⟨hregs ▸ hreg.1, hreg.2⟩

/-! ### Registrations in a run -/

lemma RegsOk.item (h : s.RegsOk) (hs : s.SameEc t) : t.RegsOk :=
  h.congr hs.handler hs.regs fun reg hreg => by
    unfold Gone at hreg
    rw [hs.removed, hs.caller] at hreg
    exact hreg

/-- One caller moves on. -/
lemma gone_of_caller (hremoved : t.removed = s.removed)
    (hother : ∀ l, l ≠ k → t.caller l = s.caller l)
    (hk : (t.caller k).removing = none ∨ (t.caller k).removing = (s.caller k).removing)
    (h : t.Gone reg) : s.Gone reg := by
  rcases h with h | ⟨l, hl⟩
  · exact .inl (hremoved ▸ h)
  · by_cases hlk : l = k
    · subst hlk
      rcases hk with hk | hk
      · rw [hk] at hl
        cases hl
      · exact .inr ⟨l, hk ▸ hl⟩
    · exact .inr ⟨l, hother l hlk ▸ hl⟩

lemma RegsOk.callStep {call : Call} (h : s.RegsOk) (hs : s.callStep call = some t) :
    t.RegsOk := by
  obtain ⟨-, rfl⟩ := callStep_cases hs
  refine h.congr rfl rfl fun reg => gone_of_caller (k := s.callers) rfl ?_ (.inl ?_)
  · exact fun l hl => caller_setCaller_of_ne hl
  · exact congrArg CallerStage.removing caller_setCaller

/-- The entry of an index is cleared, and no other entry has its number. -/
lemma RegsOk.not_registered {n : ℕ} (h : s.RegsOk)
    (hhandler : t.handler = Function.update s.handler n .null) :
    ¬ t.Registered (s.handler n).reg := by
  rintro ⟨m, hm⟩
  rw [hhandler] at hm
  by_cases hmn : m = n
  · rw [hmn, Function.update_self] at hm
    cases hm
  · rw [Function.update_of_ne hmn, SshEventSlot.isReg_iff] at hm
    exact hmn (h.inj m n hm.2 (h.live m hm.1))

lemma RegsOk.perform {call : Call} (h : s.RegsOk) :
    ((s.perform call).setCaller k (s.performed call)).RegsOk := by
  have hother (l : ℕ) (hl : l ≠ k) :
      ((s.perform call).setCaller k (s.performed call)).caller l = s.caller l := by
    rw [caller_setCaller_of_ne hl, (perform_rest call).2.2.1]
  have hk : ((s.perform call).setCaller k (s.performed call)).caller k = s.performed call :=
    caller_setCaller
  cases call with
  | setDelayedEventHandler rqid fn delay data =>
    exact h.register rfl rfl rfl fun reg =>
      gone_of_caller rfl hother (.inl (congrArg CallerStage.removing hk))
  | removeEventHandler rqid =>
    refine h.clear (fun n => ?_) rfl fun reg hreg => ?_
    · by_cases hn : n = (rqid - 1).toNat
      · exact .inl (by rw [hn]; exact Function.update_self ..)
      · exact .inr (Function.update_of_ne hn ..)
    · rcases hreg with hreg | ⟨l, hl⟩
      · exact .inl (.inl hreg)
      · by_cases hlk : l = k
        · rw [hlk, hk] at hl
          cases hl
          exact .inr ⟨h.bound _, h.not_registered rfl⟩
        · exact .inl (.inr ⟨l, hother l hlk ▸ hl⟩)
  | rqst | rqstWrite | suspend | resume =>
    exact h.congr rfl rfl fun reg =>
      gone_of_caller rfl hother (.inl (congrArg CallerStage.removing hk))

lemma RegsOk.callerStep (h : s.RegsOk) (hs : s.callerStep k = some t) : t.RegsOk := by
  have hother := (callerStep_other hs).1
  revert hs
  fun_cases SshLife.callerStep s k
  case case6 call hcaller hstate hreceiver =>
    rintro ⟨⟩
    exact h.perform
  case case1 call hcaller =>
    rintro ⟨⟩
    refine h.congr rfl rfl fun reg => gone_of_caller rfl hother (.inl ?_)
    rw [caller_setCaller]
    split <;> rfl
  case case8 | case9 =>
    rintro ⟨⟩
    refine h.congr rfl rfl fun reg => gone_of_caller rfl hother (.inr ?_)
    rw [‹s.caller k = _›, show SshLife.caller _ k = _ from caller_setCaller]
    rfl
  case case10 reg items hcaller hdone =>
    rintro ⟨⟩
    refine h.congr rfl rfl fun r hr => ?_
    rcases hr with hr | ⟨l, hl⟩
    · rcases List.mem_cons.mp hr with rfl | hr
      · exact .inr ⟨k, by rw [hcaller]; rfl⟩
      · exact .inl hr
    · by_cases hlk : l = k
      · rw [hlk, show SshLife.caller _ k = _ from caller_setCaller] at hl
        cases hl
      · exact .inr ⟨l, hother l hlk ▸ hl⟩
  all_goals
    rintro ⟨⟩ <;>
    · refine h.congr rfl rfl fun reg => gone_of_caller rfl hother (.inl ?_)
      rw [show SshLife.caller _ k = _ from caller_setCaller]
      rfl

lemma RegsOk.removeStep (h : s.RegsOk) (hs : s.removeStep = some t) : t.RegsOk := by
  revert hs
  fun_cases SshLife.removeStep s
  case case16 =>
    rintro ⟨⟩
    exact h.clear (fun n => .inl rfl) rfl fun reg hreg => .inl hreg
  all_goals
    rintro ⟨⟩ <;> exact h.congr rfl rfl fun reg hreg => hreg

lemma RegsOk.step (h : s.RegsOk) (hs : a.step E s = some t) : t.RegsOk := by
  cases a with
  | call c => exact h.callStep hs
  | caller k => exact h.callerStep hs
  | remove => exact h.removeStep hs
  | _ => exact h.item (step_ec rfl hs)

/-! ### The flush -/

/-- What a flush does not wait for runs inline, and removed handlers are not invoked. -/
structure FlushOk (s : SshLife) : Prop where
  flushing : ∀ k reg items, s.caller k = .flushing reg items → ∀ i,
    (s.evt i).invokes reg = true → s.rx = .inline i ∨ items i = true
  removed : ∀ reg ∈ s.removed, ∀ i, (s.evt i).invokes reg = false

/-- The receive callback is in an invocation of the handler. -/
def inlineInvokes (s : SshLife) (reg : ℕ) : Bool :=
  match s.rx with
  | .inline i => (s.evt i).invokes reg
  | _ => false

/-- When the flush of a removal returns, the receive callback does not run the handler. -/
def InlineReturned (s : SshLife) : LifeAct → Prop
  | .caller k => ∀ reg ∈ (s.caller k).flushed, s.inlineInvokes reg = false
  | _ => True

instance (s : SshLife) : DecidablePred s.InlineReturned
  | .caller k => inferInstanceAs (Decidable (∀ reg ∈ (s.caller k).flushed, _))
  | .receive _ | .rx _ | .timer _ | .ack _ _ | .evt _ _ | .call _ | .remove => .isTrue trivial

lemma not_invokes_of_isDone {stage : EvtStage} (h : stage.isDone = true) :
    stage.invokes reg = false := by
  cases stage <;> first | rfl | cases h

/-- Nothing but a handler that is registered starts to be invoked. -/
lemma step_invokes (hw : s.WorksOk) (hs : a.step E s = some t)
    (hi : (t.evt i).invokes reg = true) : (s.evt i).invokes reg = true ∨ s.Registered reg := by
  cases hw.evtChange hs i with
  | same heq => exact .inl (heq ▸ hi)
  | submitted hold hnew =>
    rcases hnew with hnew | hnew | ⟨hnew, -⟩ <;>
    · rw [hnew] at hi
      cases hi
  | fired hold hnew =>
    rcases hnew with ⟨-, hnew⟩ | ⟨-, hnew⟩ <;>
    · rw [hnew] at hi
      cases hi
  | ran status ha hstep => exact evtStep_invokes hstep hi

/-- The receive callback stays in a handler until it has returned. -/
lemma step_inline (hs : a.step E s = some t) (hrx : s.rx = .inline i)
    (hi : (t.evt i).invokes reg = true) : t.rx = .inline i := by
  cases a with
  | receive input =>
    have hidle := (receiveStep_cases hs).2.1
    rw [hrx] at hidle
    cases hidle
  | rx ok =>
    rw [LifeAct.step, SshLife.rxStep, hrx] at hs
    dsimp only at hs
    split at hs
    next hdone =>
      cases hs
      rw [show (s.evt i).invokes reg = false from not_invokes_of_isDone hdone] at hi
      cases hi
    next => cases hs
  | timer j =>
    obtain ⟨-, stage, -, rfl⟩ := timerStep_cases hs
    exact hrx
  | ack j status => cases ackStep_effect hs <;> exact hrx
  | evt j status => cases evtStep_effect hs <;> exact hrx
  | call c => exact (callStep_items hs).rx.trans hrx
  | caller k => exact (callerStep_items hs).rx.trans hrx
  | remove => exact (removeStep_items hs).rx.trans hrx

/-- A flush is in progress after a step because it was before, or because it begins. -/
lemma step_flushing {items : ℕ → Bool} (hs : a.step E s = some t)
    (hk : t.caller k = .flushing reg items) :
    s.caller k = .flushing reg items ∨ s.caller k = .unlocked reg ∧ s.SameItems t ∧
      items = fun i => (s.evt i).onQueue := by
  cases a with
  | call c =>
    obtain ⟨-, rfl⟩ := callStep_cases hs
    by_cases hl : k = s.callers
    · rw [hl, show SshLife.caller _ s.callers = _ from caller_setCaller] at hk
      cases hk
    · exact .inl ((caller_setCaller_of_ne hl).symm.trans hk)
  | caller l =>
    by_cases hl : k = l
    · subst hl
      have hitems := callerStep_items hs
      revert hs
      change s.callerStep k = some t → _
      fun_cases SshLife.callerStep s k
      case case9 r hcaller =>
        rintro ⟨⟩
        rw [caller_setCaller] at hk
        cases hk
        exact .inr ⟨hcaller, hitems, rfl⟩
      case case6 call hcaller hstate hreceiver =>
        rintro ⟨⟩
        rw [caller_setCaller] at hk
        cases call <;> cases hk
      case case1 call hcaller =>
        rintro ⟨⟩
        rw [caller_setCaller] at hk
        split at hk <;> cases hk
      all_goals
        rintro ⟨⟩ <;>
        · rw [show SshLife.caller _ k = _ from caller_setCaller] at hk
          cases hk
    · exact .inl ((callerStep_other hs).1 k hl ▸ hk)
  | remove => exact .inl ((removeStep_callers hs).2 ▸ hk)
  | _ => exact .inl ((step_ec rfl hs).caller ▸ hk)

/-- A removal has returned after a step because it had before, or because its flush ends. -/
lemma step_removed (hs : a.step E s = some t) (hreg : reg ∈ t.removed) :
    reg ∈ s.removed ∨ ∃ k items, a = .caller k ∧ s.caller k = .flushing reg items ∧
      s.SameItems t ∧ ∀ i < s.works, items i = true → (s.evt i).isDone = true := by
  cases a with
  | call c =>
    obtain ⟨-, rfl⟩ := callStep_cases hs
    exact .inl hreg
  | caller k =>
    have hitems := callerStep_items hs
    revert hs
    change s.callerStep k = some t → _
    fun_cases SshLife.callerStep s k
    case case10 r items hcaller hdone =>
      rintro ⟨⟩
      rcases List.mem_cons.mp hreg with rfl | hreg
      · exact .inr ⟨k, items, rfl, hcaller, hitems, hdone⟩
      · exact .inl hreg
    case case6 call hcaller hstate hreceiver =>
      rintro ⟨⟩
      cases call <;> exact .inl hreg
    all_goals
      rintro ⟨⟩ <;> exact .inl hreg
  | remove =>
    revert hs
    change s.removeStep = some t → _
    fun_cases SshLife.removeStep s
    all_goals
      rintro ⟨⟩ <;> exact .inl hreg
  | _ => exact .inl ((step_ec rfl hs).removed ▸ hreg)

lemma FlushOk.step (hw : s.WorksOk) (hr : s.RegsOk) (h : s.FlushOk) (hC : s.InlineReturned a)
    (hs : a.step E s = some t) : t.FlushOk := by
  constructor
  · intro k reg items hk i hi
    rcases step_flushing hs hk with hk | ⟨hk, hitems, rfl⟩
    · -- what is invoked now was invoked before, since the handler is not registered any more
      have hgone := (hr.gone reg (.inr ⟨k, by rw [hk]; rfl⟩)).2
      have hold := (step_invokes hw hs hi).resolve_right hgone
      rcases h.flushing k reg items hk i hold with hrx | hitem
      · exact .inl (step_inline hs hrx hi)
      · exact .inr hitem
    · rw [hitems.evt] at hi
      rw [hitems.rx]
      cases hevt : s.evt i with
      | running c pc =>
        cases c with
        | worker => exact .inr (congrArg EvtStage.onQueue hevt)
        | inline =>
          have hlt : i < s.works := hw.lt_of_evt (by rw [hevt]; exact nofun)
          exact .inl ((hw.item i hlt).inline pc hevt)
      | _ =>
        rw [hevt] at hi
        cases hi
  · intro reg hreg i
    apply eq_false_of_ne_true
    intro hi
    rcases step_removed hs hreg with hreg | ⟨k, items, rfl, hk, hitems, hdone⟩
    · have hgone := (hr.gone reg (.inl hreg)).2
      have hold := (step_invokes hw hs hi).resolve_right hgone
      rw [h.removed reg hreg i] at hold
      cases hold
    · rw [hitems.evt] at hi
      have hlt : i < s.works := hw.lt_of_evt fun hevt => by rw [hevt] at hi; cases hi
      rcases h.flushing k reg items hk i hi with hrx | hitem
      · have hinline := hC reg (by rw [hk]; rfl)
        rw [inlineInvokes, hrx] at hinline
        exact Bool.false_ne_true (hinline.symm.trans hi)
      · rw [not_invokes_of_isDone (hdone i hlt hitem)] at hi
        cases hi

lemma flushOk_probed : probed.FlushOk := ⟨nofun, nofun⟩

lemma regsOk_probed : probed.RegsOk := by
  refine ⟨Nat.one_pos, fun _ => Nat.one_pos, nofun, fun _ _ _ h => absurd rfl h, ?_⟩
  rintro reg (h | ⟨k, h⟩) <;> cases h

end SshLife

open SshLife in
/-- In every run in which no removal returns while the receive callback runs the handler,
a removed handler is never invoked again. -/
theorem surfaceSamSshRemoveEventHandler_final (E : HandlerEnv) (s : SshLife)
    (hreach : Machine.Reaches (LifeAct.step E) InlineReturned probed s) (reg : ℕ)
    (hreg : reg ∈ s.removed) (i : ℕ) : (s.evt i).invokes reg = false := by
  have hinv : s.WorksOk ∧ s.RegsOk ∧ s.FlushOk := by
    refine hreach.invariant (I := fun s => s.WorksOk ∧ s.RegsOk ∧ s.FlushOk)
      ⟨ok_probed.works, regsOk_probed, flushOk_probed⟩ fun t a u ht hC hs => ?_
    obtain ⟨hw, hr, hf⟩ := ht
    exact ⟨hw.step hs, hr.step hs, hf.step hw hr hC hs⟩
  exact hinv.2.2.removed reg hreg i

open LifeAct in
/-- A worker is in the handler as it is removed; the removal returns after it. -/
theorem surfaceSamSshRemoveEventHandler_final_worker :
    ∃ s, Machine.run (LifeAct.step ⟨fun _ _ => 0⟩) SshLife.probed
        (wholeCall (.setDelayedEventHandler 3 (some 1) none none) 0 ++
          dispatch ⟨⟨3, 3, 1, 0x0b, 0, []⟩, 7⟩ ++ times 3 (.evt 0 0) ++
          [.call (.removeEventHandler 3)] ++ times 5 (.caller 1) ++ times 2 (.evt 0 0) ++
          [.caller 1]) = some s ∧
      s.removed = [1] ∧ ∀ i, (s.evt i).invokes 1 = false := by
  generalize hacts : _ ++ _ ++ _ ++ _ ++ _ ++ _ ++ [LifeAct.caller 1] = acts
  have hrun : (Machine.run (LifeAct.step ⟨fun _ _ => 0⟩) SshLife.probed acts).any
      (fun s => decide (s.removed = [1])) = true := by
    rw [← hacts]
    decide +kernel
  have hmeets : Machine.Meets (LifeAct.step ⟨fun _ _ => 0⟩) SshLife.InlineReturned
      SshLife.probed acts := by
    rw [← hacts]
    decide +kernel
  obtain ⟨s, hs, hprop⟩ := (Option.any_eq_true _ _).mp hrun
  have hremoved : s.removed = [1] := of_decide_eq_true hprop
  exact ⟨s, hs, hremoved, surfaceSamSshRemoveEventHandler_final _ s
    (Machine.reaches_of_run hs hmeets) 1 (by rw [hremoved]; exact List.mem_singleton_self 1)⟩

open LifeAct in
/-- The receive callback has fetched the handler of a keyboard event, and calls it after its
removal has returned. -/
theorem removedHandler_called :
    ∃ s, Machine.run (LifeAct.step ⟨fun _ _ => 0⟩) SshLife.probed
        (wholeCall (.setDelayedEventHandler 1 (some 1) (some fun _ => 2 ^ 64 - 1) none) 0 ++
          dispatch ⟨⟨1, 8, 0, 3, 0, []⟩, 7⟩ ++ [.evt 0 0] ++
          [.call (.removeEventHandler 1)] ++ times 6 (.caller 1) ++ [.evt 0 0]) = some s ∧
      s.removed = [1] ∧ (s.evt 0).invokes 1 = true ∧ (s.evt 0).inHandler = true := by
  have hrun : (Machine.run (LifeAct.step ⟨fun _ _ => 0⟩) SshLife.probed
      (wholeCall (.setDelayedEventHandler 1 (some 1) (some fun _ => 2 ^ 64 - 1) none) 0 ++
        dispatch ⟨⟨1, 8, 0, 3, 0, []⟩, 7⟩ ++ [.evt 0 0] ++
        [.call (.removeEventHandler 1)] ++ times 6 (.caller 1) ++ [.evt 0 0])).any
      (fun s => decide (s.removed = [1] ∧ (s.evt 0).invokes 1 = true ∧
        (s.evt 0).inHandler = true)) = true := by
    decide +kernel
  obtain ⟨s, hs, hprop⟩ := (Option.any_eq_true _ _).mp hrun
  exact ⟨s, hs, of_decide_eq_true hprop⟩

end SurfaceSam
