import SurfaceSam.Devlib.Trace
import SurfaceSam.Dtx.WaitQueue

/-!
# Wake-ups on the detachment device

Every wake-up reaches those it is for: a read or a poll that is asleep while its condition
holds is due to be woken, as long as the driver is bound only while no file is open.
-/

namespace SurfaceSam

open Devlib

namespace SurfaceDtxDev

variable {d : SurfaceDtxDev}

lemma unregisterInput_active : d.unregisterInput.active = d.active := by
  unfold unregisterInput
  split
  · rfl
  · rfl

lemma surfaceSamDtxProbe_active {env : ProbeEnv} (h : d.initializesList env = false) :
    (d.surfaceSamDtxProbe env).2.active = d.active := by
  have hr := d.surfaceSamDtxProbe_result env
  generalize d.surfaceSamDtxProbe env = r at hr
  unfold initializesList at h
  cases hr with
  | early _ _ _ _ => rfl
  | unregistered _ _ => rfl
  | busy _ _ _ => exact unregisterInput_active
  | failed hlate hregister hinactive _ _ _ _ _ => simp [hlate, hregister, hinactive] at h
  | done hsucceeds hinactive =>
    simp only [ProbeEnv.succeeds, Bool.and_eq_true, Bool.not_eq_true', beq_iff_eq] at hsucceeds
    simp [hsucceeds, hinactive] at h

end SurfaceDtxDev

namespace DtxSystem

variable {s t : DtxSystem} {a : DtxAction} {c p r : ℕ}

/-! ### What a step can make true -/

lemma active_same (hbinding : a.isBinding = false) (hstep : s.step a = some t) :
    t.dev.active = s.dev.active := by
  cases a with
  | «open» kzalloc =>
    obtain rfl | ⟨clientList, -, rfl⟩ := open_cases hstep
    · rfl
    · rfl
  | release c =>
    obtain ⟨-, clientList, -, rfl⟩ := release_cases hstep
    rfl
  | free c =>
    obtain ⟨time, -, -, rfl⟩ := kfreeClient_cases hstep
    rfl
  | push event =>
    obtain ⟨first, -, rfl⟩ := surfaceDtxPushEvent_eq hstep
    rfl
  | pushStep p =>
    obtain ⟨call, c, -, -, ⟨-, node, -, rfl⟩ | ⟨-, rfl⟩⟩ := pushStep_cases hstep
    · rfl
    · rfl
  | read c count nonblock buf =>
    obtain ⟨-, rfl⟩ := read_cases hstep
    rfl
  | readStep r interrupted copied =>
    obtain ⟨call, call', -, -, rfl | ⟨-, rfl⟩⟩ := readStep_cases hstep
    · rfl
    · rfl
  | probe env => cases hbinding
  | remove => cases hbinding

/-- A ring comes to hold an event by a push that is at its client. -/
lemma nonempty_of_step (hstep : s.step a = some t) (hnonempty : (t.ring c).isEmpty = false) :
    (s.ring c).isEmpty = false ∨
      ∃ p call, a = .pushStep p ∧ s.pushes p = some call ∧ call.cursor = some c := by
  cases ringChange hstep c with
  | same hring _ =>
    rw [hring] at hnonempty
    exact .inl hnonempty
  | fresh _ hring _ =>
    rw [hring] at hnonempty
    cases hnonempty
  | @push p call hcall hcursor _ _ _ _ => exact .inr ⟨p, call, rfl, hcall, hcursor⟩
  | pop _ _ hbefore _ _ => exact .inl hbefore

/-- A file is closed by its release. -/
lemma mem_clients_step (hstep : s.step a = some t) (hc : c ∈ s.clients) :
    c ∈ t.clients ∨ a = .release c := by
  cases step_change hstep with
  | opened _ => exact .inl (List.mem_append_left _ hc)
  | @released x hx _ =>
    by_cases hcx : c = x
    · exact .inr (congrArg DtxAction.release hcx.symm)
    · exact .inl ((List.mem_erase_of_ne hcx).mpr hc)
  | _ => exact .inl hc

lemma nextPush_le (hstep : s.step a = some t) : s.nextPush ≤ t.nextPush := by
  cases step_change hstep with
  | begun _ => exact Nat.le_succ _
  | _ => exact Nat.le_refl _

/-- A push stays, and its loop does not begin again. -/
lemma pushes_step {call : PushCall} (hstep : s.step a = some t) (hlt : p < s.nextPush)
    (hcall : s.pushes p = some call) :
    ∃ call', t.pushes p = some call' ∧ (call.cursor = none → call'.cursor = none) := by
  have hupdate {x : ℕ} {before after : PushCall} (hbefore : s.pushes x = some before)
      (hcursor : before.cursor ≠ none) : ∃ call',
        Function.update s.pushes x (some after) p = some call' ∧
          (call.cursor = none → call'.cursor = none) := by
    by_cases hpx : p = x
    · subst hpx
      obtain rfl : before = call := Option.some_inj.mp (hbefore.symm.trans hcall)
      exact ⟨after, Function.update_self .., fun hnone => absurd hnone hcursor⟩
    · exact ⟨call, (Function.update_of_ne hpx _ _).trans hcall, id⟩
  cases step_change hstep with
  | begun _ =>
    exact ⟨call, (Function.update_of_ne (Nat.ne_of_lt hlt) _ _).trans hcall, id⟩
  | advanced hbefore hcursor _ _ => exact hupdate hbefore (hcursor ▸ Option.some_ne_none _)
  | delivered hbefore hcursor _ => exact hupdate hbefore (hcursor ▸ Option.some_ne_none _)
  | _ => exact ⟨call, hcall, id⟩

/-- Other reads go on as before. -/
lemma reads_kept (hstep : s.step a = some t) (hlt : r < s.nextRead)
    (hother : ∀ interrupted copied, a ≠ .readStep r interrupted copied) :
    t.reads r = s.reads r := by
  cases ha : a.isRead with
  | false => rw [(reads_same hstep ha).1]
  | true =>
    cases a with
    | read c count nonblock buf =>
      obtain ⟨-, rfl⟩ := read_cases hstep
      exact Function.update_of_ne (Nat.ne_of_lt hlt) _ _
    | readStep x interrupted copied =>
      have hr : r ≠ x := by
        rintro rfl
        exact hother interrupted copied rfl
      obtain ⟨call, call', -, -, rfl | ⟨-, rfl⟩⟩ := readStep_cases hstep
      · exact Function.update_of_ne hr _ _
      · exact Function.update_of_ne hr _ _
    | _ => cases ha

/-- Reads that are under way are of open files. -/
structure ReadsOk (s : DtxSystem) : Prop where
  lt : ∀ r call, s.reads r = some call → r < s.nextRead
  mem : ∀ r call, s.reads r = some call → call.stage.isReturned = false → call.client ∈ s.clients

lemma ReadsOk.step (h : s.ReadsOk) (hstep : s.step a = some t) : t.ReadsOk where
  lt := by
    intro r call hcall
    have hnext : s.nextRead ≤ t.nextRead := nextRead_le hstep
    cases readChange hstep hcall with
    | kept hreads _ => exact Nat.lt_of_lt_of_le (h.lt r call hreads) hnext
    | begun _ hnew _ =>
      obtain ⟨-, rfl⟩ := read_cases hstep
      rw [hnew]
      exact Nat.lt_succ_self _
    | @moved _ _ _ before _ _ hreads _ _ _ => exact Nat.lt_of_lt_of_le (h.lt r before hreads) hnext
  mem := by
    intro r call hcall hunder
    obtain ⟨before, hreads, hclient, hearlier⟩ | ⟨-, count, nonblock, buf, rfl⟩ :=
      underWay_step hstep hcall hunder
    · rw [← hclient]
      obtain hmem | rfl := mem_clients_step hstep (h.mem r before hreads hearlier)
      · exact hmem
      · simp only [DtxSystem.step] at hstep
        split_ifs at hstep with hguard
        rw [List.any_eq_false] at hguard
        have hreading := hguard.2 r (List.mem_range.mpr (h.lt r before hreads))
        simp [isReading, hreads, hearlier] at hreading
    · obtain ⟨hmem, rfl⟩ := read_cases hstep
      exact hmem

end DtxSystem

namespace DtxWaitSystem

variable {s t : DtxWaitSystem} {a : DtxAction} {w : DtxWaiter}

/-! ### Steps below the waits -/

/-- More events in a mask find no fewer of those that are asked for. -/
lemma and_eq_zero_of_or {mask more filter : UInt32} (h : (mask ||| more) &&& filter = 0) :
    mask &&& filter = 0 := by
  rw [← UInt32.toBitVec_inj] at h ⊢
  ext i hi
  have hbit := congrArg (fun b => b.getLsbD i) h
  simp only [UInt32.toBitVec_and, UInt32.toBitVec_or, BitVec.getLsbD_and, BitVec.getLsbD_or] at hbit
  simp_all

/-- The condition of a poll depends on its ring and on the device. -/
lemma surfaceDtxPoll_mono {u v : DtxSystem} {c : ℕ} {filter : UInt32}
    (hactive : v.dev.active = u.dev.active)
    (hring : (v.ring c).isEmpty = false → (u.ring c).isEmpty = false)
    (h : v.surfaceDtxPoll c &&& filter ≠ 0) : u.surfaceDtxPoll c &&& filter ≠ 0 := by
  unfold DtxSystem.surfaceDtxPoll at h ⊢
  rw [hactive] at h
  generalize (if u.dev.active then epollout ||| epollwrnorm else epollhup ||| epollerr) = mask at h ⊢
  cases hu : (u.ring c).isEmpty with
  | true =>
    have hv : (v.ring c).isEmpty = true := by
      by_contra hv
      rw [hring (Bool.eq_false_iff.mpr hv)] at hu
      cases hu
    simpa [hv] using h
  | false =>
    cases hv : (v.ring c).isEmpty with
    | true =>
      simp only [hv, if_true] at h
      simp only [Bool.false_eq_true, if_false]
      intro hzero
      apply h
      exact and_eq_zero_of_or (and_eq_zero_of_or hzero)
    | false => simpa [hv] using h

lemma waits_read {r : ℕ} : s.waits (.read r) = true ↔
    ∃ call, s.sys.reads r = some call ∧ call.stage = .waiting := by
  simp [waits, isWaiting, Option.any_eq_true]

lemma waits_poll {p : ℕ} : s.waits (.poll p) = true ↔
    ∃ call, s.polls p = some call ∧ call.returned = none := by
  simp [waits, Option.any_eq_true]

/-- The call of a task is the same. -/
def SameCall (s t : DtxWaitSystem) : DtxWaiter → Prop
  | .read r => t.sys.reads r = s.sys.reads r
  | .poll p => t.polls p = s.polls p

lemma SameCall.waits (h : SameCall s t w) : t.waits w = s.waits w := by
  cases w with
  | read r =>
    have hreads : t.sys.reads r = s.sys.reads r := h
    simp only [DtxWaitSystem.waits, isWaiting, hreads]
  | poll p =>
    have hpolls : t.polls p = s.polls p := h
    simp only [DtxWaitSystem.waits, hpolls]

/-- Nothing can have come to be ready. -/
structure Quiet (s t : DtxWaitSystem) : Prop where
  active : t.sys.dev.active = s.sys.dev.active
  ring : ∀ c, (t.sys.ring c).isEmpty = false → (s.sys.ring c).isEmpty = false

lemma Quiet.ready (h : Quiet s t) (hcall : SameCall s t w) (hready : t.ready w = true) :
    s.ready w = true := by
  cases w with
  | read r =>
    have hreads : t.sys.reads r = s.sys.reads r := hcall
    simp only [DtxWaitSystem.ready, hreads, h.active, Option.any_eq_true, Bool.or_eq_true,
      Bool.not_eq_true'] at hready ⊢
    obtain ⟨call, hcall, hready⟩ := hready
    exact ⟨call, hcall, hready.imp_left (h.ring call.client)⟩
  | poll p =>
    have hpolls : t.polls p = s.polls p := hcall
    simp only [DtxWaitSystem.ready, hpolls, Option.any_eq_true, bne_iff_ne] at hready ⊢
    obtain ⟨call, hcall, hready⟩ := hready
    exact ⟨call, hcall, surfaceDtxPoll_mono h.active (h.ring call.client) hready⟩

/-! ### The invariant -/

structure WaitInv (s : DtxWaitSystem) : Prop where
  rings : s.sys.RingsInv
  reads : s.sys.ReadsOk
  ok : s.waitq.Ok DtxWaiter.autoremove
  inWait : ∀ w, (s.waitq w).stage ≠ .out → s.waits w = true
  pollsLt : ∀ p call, s.polls p = some call → p < s.nextPoll
  pollsMem : ∀ p call, s.polls p = some call → call.returned = none → call.client ∈ s.sys.clients
  woken : ∀ p, s.woken p = true → ∃ call, s.sys.pushes p = some call ∧ call.cursor = none
  noLost : s.waitq.NoLost (fun w => s.ready w = true) s.WakeDue

lemma waitInv_static : static.WaitInv where
  rings := DtxSystem.ringsInv_static
  reads := ⟨nofun, nofun⟩
  ok := WaitQueue.ok_empty
  inWait _ h := absurd rfl h
  pollsLt := nofun
  pollsMem := nofun
  woken := nofun
  noLost := by
    intro w hw
    cases hw

/-- Everybody in a wait uses an open file. -/
lemma WaitInv.clients_ne_nil (h : s.WaitInv) (hw : (s.waitq w).stage ≠ .out) :
    s.sys.clients ≠ [] := by
  have hwaits := h.inWait w hw
  cases w with
  | read r =>
    obtain ⟨call, hcall, hstage⟩ := waits_read.mp hwaits
    exact List.ne_nil_of_mem (h.reads.mem r call hcall (by rw [hstage]; rfl))
  | poll p =>
    obtain ⟨call, hcall, hreturned⟩ := waits_poll.mp hwaits
    exact List.ne_nil_of_mem (h.pollsMem p call hcall hreturned)

/-- The queue is set up while nobody waits. -/
lemma WaitInv.out_of_initializes (h : s.WaitInv) (hkeeps : a.keepsList s.sys = true)
    (hinit : s.initializes a = true) (w : DtxWaiter) : (s.waitq w).stage = .out := by
  by_contra hw
  have hclients := h.clients_ne_nil hw
  cases a with
  | probe env =>
    simp only [initializes] at hinit
    simp [DtxAction.keepsList, hinit, hclients] at hkeeps
  | _ => cases hinit

/-- A step below the waits, of a call that is not in its wait. -/
structure SysStep (s : DtxWaitSystem) (a : DtxAction) (t : DtxWaitSystem) : Prop where
  step : s.sys.step a = some t.sys
  waitq : t.waitq = if s.initializes a then s.waitq.initHead else s.waitq
  polls : t.polls = s.polls ∧ t.nextPoll = s.nextPoll
  woken : t.woken = s.woken
  removing : t.removing = (s.removing || s.removes a)
  same : ∀ w, (s.waitq w).stage ≠ .out → SameCall s t w
  unpolled : ∀ c, a = .release c → ∀ p < s.nextPoll, s.isPolling c p = false

lemma WaitInv.sysStep (h : s.WaitInv) (hstep : s.sysStep a = some t) : SysStep s a t := by
  unfold DtxWaitSystem.sysStep at hstep
  by_cases hallows : s.allows a = true
  · rw [if_pos hallows] at hstep
    obtain ⟨sys, hsys, rfl⟩ := Option.map_eq_some_iff.mp hstep
    refine ⟨hsys, rfl, ⟨rfl, rfl⟩, rfl, rfl, ?_, ?_⟩
    · intro w hw
      have hwaits := h.inWait w hw
      cases w with
      | read r =>
        obtain ⟨call, hcall, -⟩ := waits_read.mp hwaits
        apply DtxSystem.reads_kept hsys (h.reads.lt r call hcall)
        rintro interrupted copied rfl
        have hwaiting : s.isWaiting r = true := hwaits
        simp [allows, hwaiting] at hallows
      | poll p => rfl
    · rintro c rfl p hp
      simp only [allows, Bool.not_eq_true', List.any_eq_false, List.mem_range] at hallows
      exact Bool.eq_false_iff.mpr (hallows p hp)
  · rw [if_neg hallows] at hstep
    cases hstep

/-- A step that makes a condition hold has its wake-up to come. -/
lemma WaitInv.due_or_quiet (h : s.WaitInv) (hinit : s.initializes a = false)
    (hstep : SysStep s a t) : t.WakeDue ∨ Quiet s t := by
  have hsys := hstep.step
  cases a with
  | pushStep p =>
    obtain ⟨call, c, hcall, hcursor, -⟩ := DtxSystem.pushStep_cases hsys
    have hlt := (h.rings.delivery.push p call hcall).lt
    refine .inl (.inr ⟨p, Nat.lt_of_lt_of_le hlt (DtxSystem.nextPush_le hsys), ?_⟩)
    rw [hstep.woken]
    by_contra hwoken
    obtain ⟨call'', hcall'', hnone⟩ := h.woken p (Bool.of_not_eq_false hwoken)
    obtain rfl : call = call'' := Option.some_inj.mp (hcall.symm.trans hcall'')
    rw [hcursor] at hnone
    cases hnone
  | remove =>
    have hdev : t.sys = { s.sys with dev := s.sys.dev.surfaceSamDtxRemove } :=
      (Option.some_inj.mp hsys).symm
    cases hactive : s.sys.dev.active with
    | true =>
      refine .inl (.inl ?_)
      simp [hstep.removing, removes, hactive]
    | false =>
      refine .inr ⟨?_, fun c hc => ?_⟩
      · rw [hdev]
        change s.sys.dev.surfaceSamDtxRemove.active = s.sys.dev.active
        rw [SurfaceDtxDev.surfaceSamDtxRemove_inactive hactive]
      · rw [hdev] at hc
        exact hc
  | probe env =>
    have hdev : t.sys = { s.sys with dev := (s.sys.dev.surfaceSamDtxProbe env).2 } :=
      (Option.some_inj.mp hsys).symm
    refine .inr ⟨?_, fun c hc => ?_⟩
    · rw [hdev]
      exact SurfaceDtxDev.surfaceSamDtxProbe_active hinit
    · rw [hdev] at hc
      exact hc
  | _ =>
    refine .inr ⟨DtxSystem.active_same rfl hsys, fun c hc => ?_⟩
    obtain hbefore | ⟨p, call, ha, -, -⟩ := DtxSystem.nonempty_of_step hsys hc
    · exact hbefore
    · cases ha

lemma WaitInv.below (h : s.WaitInv) (hkeeps : a.keepsList s.sys = true)
    (hstep : SysStep s a t) : t.WaitInv := by
  have hout := h.out_of_initializes hkeeps
  have hpushes (p : ℕ) (call : PushCall) (hcall : s.sys.pushes p = some call) :=
    DtxSystem.pushes_step hstep.step (h.rings.delivery.push p call hcall).lt hcall
  have hstage (w : DtxWaiter) : (t.waitq w).stage = (s.waitq w).stage := by
    rw [hstep.waitq]
    split_ifs
    · rfl
    · rfl
  refine ⟨h.rings.step hkeeps hstep.step, h.reads.step hstep.step, ?_, ?_, ?_, ?_, ?_, ?_⟩
  · rw [hstep.waitq]
    split_ifs with hinit
    · exact h.ok.initHead (hout hinit)
    · exact h.ok
  · intro w hw
    rw [hstage] at hw
    rw [(hstep.same w hw).waits]
    exact h.inWait w hw
  · rw [hstep.polls.1, hstep.polls.2]
    exact h.pollsLt
  · intro p call hcall hreturned
    rw [hstep.polls.1] at hcall
    have hmem := h.pollsMem p call hcall hreturned
    obtain hmem' | hrelease := DtxSystem.mem_clients_step hstep.step hmem
    · exact hmem'
    · have hpolling := hstep.unpolled _ hrelease p (h.pollsLt p call hcall)
      simp [isPolling, hcall, hreturned] at hpolling
  · intro p hp
    rw [hstep.woken] at hp
    obtain ⟨call, hcall, hcursor⟩ := h.woken p hp
    obtain ⟨call', hcall', hkept⟩ := hpushes p call hcall
    exact ⟨call', hcall', hkept hcursor⟩
  · refine WaitQueue.NoLost.step h.noLost ?_ ?_
    · intro w hw hready
      have hasleep := (Waiter.parked_iff.mp hw).1
      rw [hstage] at hasleep
      cases hinit : s.initializes a with
      | true =>
        rw [hout hinit w] at hasleep
        cases hasleep
      | false =>
        rw [hstep.waitq, hinit] at hw
        have hwait : (s.waitq w).stage ≠ .out := by
          rw [hasleep]
          exact WaitStage.noConfusion
        exact (h.due_or_quiet hinit hstep).imp_right fun hquiet =>
          ⟨hw, hquiet.ready (hstep.same w hwait) hready⟩
    · rintro (hremoving | ⟨p, hlt, hdue⟩)
      · exact .inl (by rw [hstep.removing, hremoving, Bool.true_or])
      · have hnext := DtxSystem.nextPush_le hstep.step
        exact .inr ⟨p, Nat.lt_of_lt_of_le hlt hnext, hstep.woken ▸ hdue⟩

/-! ### The steps of a wait -/

/-- A task goes on in its wait, and does not go to sleep while its condition holds. -/
lemma WaitInv.setQueue (h : s.WaitInv) {q : WaitQueue DtxWaiter} {x : Waiter}
    (hok : q.Ok DtxWaiter.autoremove) (htask : q.task = Function.update s.waitq.task w x)
    (hwaits : x.stage = .out ∨ s.waits w = true)
    (hparked : x.parked = true → s.ready w = false) : WaitInv { s with waitq := q } where
  rings := h.rings
  reads := h.reads
  ok := hok
  inWait := by
    intro v hv
    change s.waits v = true
    change (q.task v).stage ≠ .out at hv
    by_cases hvw : v = w
    · subst hvw
      rw [htask, Function.update_self] at hv
      exact hwaits.resolve_left hv
    · rw [htask, Function.update_of_ne hvw] at hv
      exact h.inWait v hv
  pollsLt := h.pollsLt
  pollsMem := h.pollsMem
  woken := h.woken
  noLost := by
    intro v hv hready
    change s.ready v = true at hready
    change (q.task v).parked = true at hv
    by_cases hvw : v = w
    · subst hvw
      rw [htask, Function.update_self] at hv
      rw [hparked hv] at hready
      cases hready
    · rw [htask, Function.update_of_ne hvw] at hv
      exact h.noLost v hv hready

/-- A read that has left its queue goes on below the waits. -/
lemma WaitInv.leaveRead (h : s.WaitInv) {r : ℕ} {interrupted : Bool}
    (hout : (s.waitq (.read r)).stage = .out)
    (hleave : s.leave (.read r) interrupted = some t) : t.WaitInv := by
  obtain ⟨sys, hsys, rfl⟩ := Option.map_eq_some_iff.mp hleave
  refine h.below (a := .readStep r _ true) rfl
    ⟨hsys, rfl, ⟨rfl, rfl⟩, rfl, (Bool.or_false _).symm, fun v hv => ?_, nofun⟩
  have hvr : v ≠ .read r := by
    rintro rfl
    exact hv hout
  cases v with
  | read r' =>
    obtain ⟨call, hcall, -⟩ := waits_read.mp (h.inWait (.read r') hv)
    apply DtxSystem.reads_kept (a := .readStep r _ true) hsys (h.reads.lt r' call hcall)
    rintro _ _ heq
    cases heq
    exact hvr rfl
  | poll p => rfl

/-- A poll begins or returns. -/
lemma WaitInv.setPoll (h : s.WaitInv) {p n : ℕ} {call : PollCall}
    (hout : (s.waitq (.poll p)).stage = .out) (hlt : p < n) (hle : s.nextPoll ≤ n)
    (hmem : call.returned = none → call.client ∈ s.sys.clients) :
    WaitInv { s.setPoll p call with nextPoll := n } := by
  have hself : (s.setPoll p call).polls p = some call := Function.update_self ..
  have hother (x : ℕ) (hxp : x ≠ p) : (s.setPoll p call).polls x = s.polls x :=
    Function.update_of_ne hxp ..
  have hsame {v : DtxWaiter} (hv : (s.waitq v).stage ≠ .out) :
      SameCall s { s.setPoll p call with nextPoll := n } v := by
    cases v with
    | read r => rfl
    | poll x =>
      apply hother
      rintro rfl
      exact hv hout
  refine ⟨h.rings, h.reads, h.ok, fun v hv => ?_, fun y call' hy => ?_,
    fun y call' hy hreturned => ?_, h.woken, fun v hv hready => ?_⟩
  · rw [(hsame hv).waits]
    exact h.inWait v hv
  · by_cases hyp : y = p
    · exact hyp ▸ hlt
    · exact Nat.lt_of_lt_of_le (h.pollsLt y call' (hother y hyp ▸ hy)) hle
  · by_cases hyp : y = p
    · obtain rfl : call = call' := Option.some_inj.mp (hself.symm.trans (hyp ▸ hy))
      exact hmem hreturned
    · exact h.pollsMem y call' (hother y hyp ▸ hy) hreturned
  · have hparked : (s.waitq v).parked = true := hv
    have hwait : (s.waitq v).stage ≠ .out := by
      rw [(Waiter.parked_iff.mp hparked).1]
      exact WaitStage.noConfusion
    have hquiet : Quiet s { s.setPoll p call with nextPoll := n } := ⟨rfl, fun _ hc => hc⟩
    exact h.noLost v hparked (hquiet.ready (hsame hwait) hready)

lemma WaitInv.leave (h : s.WaitInv) {interrupted : Bool} (hout : (s.waitq w).stage = .out)
    (hleave : s.leave w interrupted = some t) : t.WaitInv := by
  cases w with
  | read r => exact h.leaveRead hout hleave
  | poll p =>
    obtain ⟨call, hcall, rfl⟩ := Option.map_eq_some_iff.mp hleave
    exact h.setPoll (n := s.nextPoll) hout (h.pollsLt p call hcall) (Nat.le_refl _) nofun

/-- A task takes its entry off the queue, and is out of its wait. -/
lemma finish_task {interrupted : Bool} {q : WaitQueue DtxWaiter}
    (h : s.finish w interrupted = some q) : q.task = Function.update s.waitq.task w .idle := by
  cases w with
  | read r =>
    simp only [finish] at h
    split_ifs at h
    · cases h
      rfl
    · exact (WaitQueue.task_of_move h).1
  | poll p => exact (WaitQueue.task_of_move h).1

lemma WaitInv.finish (h : s.WaitInv) {interrupted : Bool} {q : WaitQueue DtxWaiter}
    (hstage : (s.waitq w).stage = .prepared interrupted)
    (hq : s.finish w interrupted = some q) : WaitInv { s with waitq := q } := by
  refine h.setQueue ?_ (finish_task hq) (.inl rfl) nofun
  have hprepared : (s.waitq w).stage ≠ .out := by
    rw [hstage]
    exact WaitStage.noConfusion
  cases w with
  | read r =>
    simp only [DtxWaitSystem.finish] at hq
    split_ifs at hq with hoff
    · cases hq
      rw [Bool.and_eq_true] at hoff
      rw [hoff.1] at hstage
      exact h.ok.leave rfl hstage
    · exact h.ok.finishWait hprepared hq
  | poll p => exact h.ok.removeWaitQueue hprepared hq

lemma WaitInv.enter (h : s.WaitInv) (hstage : (s.waitq w).stage = .out)
    (henter : s.enter w = some t) : t.WaitInv := by
  cases w with
  | read r =>
    simp only [DtxWaitSystem.enter] at henter
    split_ifs at henter with hwaits hready
    · exact h.leaveRead hstage henter
    · obtain ⟨q, hq, rfl⟩ := Option.map_eq_some_iff.mp henter
      exact h.setQueue (h.ok.initWaitEntry rfl hstage hq) (WaitQueue.task_of_move hq).1
        (.inr hwaits) nofun
  | poll p => cases henter

lemma WaitInv.test (h : s.WaitInv) (htest : s.test w = some t) : t.WaitInv := by
  unfold DtxWaitSystem.test at htest
  split at htest
  · rename_i hstage
    exact h.enter hstage htest
  · rename_i interrupted hstage
    split_ifs at htest with hready
    · obtain ⟨q, hq, hleave⟩ := Option.bind_eq_some_iff.mp htest
      refine (h.finish hstage hq).leave ?_ hleave
      change (q.task w).stage = .out
      rw [finish_task hq, Function.update_self]
      rfl
    · cases htest
      simp only [Bool.or_eq_true, not_or] at hready
      have hprepared : (s.waitq w).stage ≠ .out := by
        rw [hstage]
        exact WaitStage.noConfusion
      exact h.setQueue (h.ok.setTask hprepared WaitStage.noConfusion WaitStage.noConfusion (.inr rfl)
        (Waiter.ok_sleep _)) rfl (.inr (h.inWait w hprepared)) fun _ => Bool.eq_false_iff.mpr hready.1
  · cases htest

lemma WaitInv.poll (h : s.WaitInv) {c : ℕ} {events : UInt32} {interrupted : Bool}
    (hstep : s.step (.poll c events interrupted) = some t) : t.WaitInv := by
  simp only [step] at hstep
  split_ifs at hstep with hc
  obtain ⟨q, hq, rfl⟩ := Option.map_eq_some_iff.mp hstep
  have hout : (s.waitq (.poll s.nextPoll)).stage = .out := by
    by_contra hwait
    obtain ⟨call, hcall, -⟩ := waits_poll.mp (h.inWait (.poll s.nextPoll) hwait)
    exact Nat.lt_irrefl _ (h.pollsLt s.nextPoll call hcall)
  have hbegun : WaitInv { s.setPoll s.nextPoll ⟨c, events, none⟩ with nextPoll := s.nextPoll + 1 } :=
    h.setPoll hout (Nat.lt_succ_self s.nextPoll) (Nat.le_succ _) fun _ => hc
  exact hbegun.setQueue (h.ok.addWaitQueue rfl hout hq) (WaitQueue.task_of_move hq).1
    (.inr (waits_poll.mpr ⟨_, Function.update_self .., rfl⟩)) nofun

/-- A wake-up leaves nobody asleep. -/
lemma WaitInv.wakeUp (h : s.WaitInv) {u : DtxWaitSystem} {rounds : ℕ} (hu : s.wakeUp rounds = some u)
    {woken : ℕ → Bool} {removing : Bool}
    (hwoken : ∀ p, woken p = true → ∃ call, s.sys.pushes p = some call ∧ call.cursor = none) :
    WaitInv { u with woken := woken, removing := removing } := by
  obtain ⟨q, hq, rfl⟩ := Option.map_eq_some_iff.mp hu
  refine ⟨h.rings, h.reads, (h.ok.wakeUp hq).1, fun w hw => ?_, h.pollsLt, h.pollsMem, hwoken,
    h.ok.noLost_wakeUp hq⟩
  change (q.task w).stage ≠ .out at hw
  rw [(WaitQueue.task_of_wakeUp hq w).1] at hw
  exact h.inWait w hw

lemma WaitInv.prepare (h : s.WaitInv) {interrupted : Bool}
    (hstage : (s.waitq w).stage = .entering) {q : WaitQueue DtxWaiter}
    (hq : s.prepare w interrupted = some q) : WaitInv { s with waitq := q } := by
  have hentered : (s.waitq w).stage ≠ .out := by
    rw [hstage]
    exact WaitStage.noConfusion
  cases w with
  | read r =>
    exact h.setQueue (h.ok.prepareToWaitEvent rfl hstage hq) (WaitQueue.task_of_move hq).1
      (.inr (h.inWait _ hentered)) nofun
  | poll p =>
    cases hq
    exact h.setQueue (h.ok.prepare rfl hentered interrupted) rfl (.inr (h.inWait _ hentered)) nofun

lemma WaitInv.step {b : DtxWaitAction} (h : s.WaitInv) (hkeeps : s.keeps b = true)
    (hstep : s.step b = some t) : t.WaitInv := by
  cases b with
  | sys a => exact h.below hkeeps (h.sysStep hstep)
  | wakePushed p rounds =>
    simp only [DtxWaitSystem.step] at hstep
    split_ifs at hstep with hpushed
    obtain ⟨u, hu, rfl⟩ := Option.map_eq_some_iff.mp hstep
    apply h.wakeUp hu
    intro x hx
    by_cases hxp : x = p
    · simp only [pushed, Option.any_eq_true, Bool.and_eq_true, Option.isNone_iff_eq_none] at hpushed
      obtain ⟨call, hcall, hcursor, -⟩ := hpushed
      exact ⟨call, hxp ▸ hcall, hcursor⟩
    · obtain ⟨q, -, rfl⟩ := Option.map_eq_some_iff.mp hu
      rw [Function.update_of_ne hxp] at hx
      exact h.woken x hx
  | wakeRemoved rounds =>
    simp only [DtxWaitSystem.step] at hstep
    split_ifs at hstep with hremoving
    obtain ⟨u, hu, rfl⟩ := Option.map_eq_some_iff.mp hstep
    have hwoken : u.woken = s.woken := by
      obtain ⟨q, -, rfl⟩ := Option.map_eq_some_iff.mp hu
      rfl
    exact h.wakeUp hu (hwoken ▸ h.woken)
  | poll c events interrupted => exact h.poll hstep
  | prepare w interrupted =>
    simp only [DtxWaitSystem.step] at hstep
    split_ifs at hstep with hstage
    obtain ⟨q, hq, rfl⟩ := Option.map_eq_some_iff.mp hstep
    exact h.prepare hstage hq
  | test w => exact h.test hstep
  | resume w =>
    simp only [DtxWaitSystem.step] at hstep
    split_ifs at hstep with hwoken
    cases hstep
    have hasleep : (s.waitq w).stage ≠ .out := by
      rw [hwoken.1]
      exact WaitStage.noConfusion
    exact h.setQueue (h.ok.setTask hasleep WaitStage.noConfusion WaitStage.noConfusion (.inr rfl)
      (Waiter.ok_of_running hwoken.2)) rfl (.inr (h.inWait w hasleep)) nofun
  | interrupt w =>
    simp only [DtxWaitSystem.step] at hstep
    split_ifs at hstep with hstage
    cases hstep
    have hasleep : (s.waitq w).stage ≠ .out := by
      rw [hstage]
      exact WaitStage.noConfusion
    refine h.setQueue (h.ok.setTask hasleep hasleep ?_ (.inl rfl) (Waiter.ok_of_running rfl)) rfl
      (.inr (h.inWait w hasleep)) fun hparked => ?_
    · rw [show (s.waitq w).wake.stage = .asleep from hstage]
      exact WaitStage.noConfusion
    · cases (Waiter.parked_iff.mp hparked).2

/-- What happens below the waits: nothing, a step that they leave alone, or the step of a read
that leaves its wait. -/
lemma step_sys {b : DtxWaitAction} (hstep : s.step b = some t) : t.sys = s.sys ∨
    (∃ a, b = .sys a ∧ s.allows a = true ∧ s.sys.step a = some t.sys) ∨
      ∃ r interrupted, b = .test (.read r) ∧ s.sys.readStep r interrupted true = some t.sys := by
  have hleave (w : DtxWaiter) (u : DtxWaitSystem) (hu : u.sys = s.sys) (interrupted : Bool)
      (h : u.leave w interrupted = some t) :
      t.sys = s.sys ∨ ∃ r interrupted, DtxWaitAction.test w = .test (.read r) ∧
        s.sys.readStep r interrupted true = some t.sys := by
    cases w with
    | read r =>
      obtain ⟨sys, hsys, rfl⟩ := Option.map_eq_some_iff.mp h
      exact .inr ⟨r, _, rfl, hu ▸ hsys⟩
    | poll p =>
      obtain ⟨call, -, rfl⟩ := Option.map_eq_some_iff.mp h
      exact .inl hu
  have hwake (u : DtxWaitSystem) (rounds : ℕ) (h : s.wakeUp rounds = some u) : u.sys = s.sys := by
    obtain ⟨q, -, rfl⟩ := Option.map_eq_some_iff.mp h
    rfl
  cases b with
  | sys a =>
    simp only [step, sysStep] at hstep
    by_cases hallows : s.allows a = true
    · rw [if_pos hallows] at hstep
      obtain ⟨sys, hsys, rfl⟩ := Option.map_eq_some_iff.mp hstep
      exact .inr (.inl ⟨a, rfl, hallows, hsys⟩)
    · rw [if_neg hallows] at hstep
      cases hstep
  | test w =>
    simp only [step, DtxWaitSystem.test] at hstep
    split at hstep
    · cases w with
      | read r =>
        simp only [enter] at hstep
        split_ifs at hstep
        · exact (hleave (.read r) s rfl _ hstep).imp_right .inr
        · obtain ⟨q, -, rfl⟩ := Option.map_eq_some_iff.mp hstep
          exact .inl rfl
      | poll p => cases hstep
    · split_ifs at hstep
      · obtain ⟨q, -, h⟩ := Option.bind_eq_some_iff.mp hstep
        exact (hleave w { s with waitq := q } rfl _ h).imp_right .inr
      · cases hstep
        exact .inl rfl
    · cases hstep
  | wakePushed p rounds =>
    simp only [step] at hstep
    split_ifs at hstep
    obtain ⟨u, hu, rfl⟩ := Option.map_eq_some_iff.mp hstep
    exact .inl (hwake u rounds hu)
  | wakeRemoved rounds =>
    simp only [step] at hstep
    split_ifs at hstep
    obtain ⟨u, hu, rfl⟩ := Option.map_eq_some_iff.mp hstep
    exact .inl (hwake u rounds hu)
  | poll c events interrupted =>
    simp only [step] at hstep
    split_ifs at hstep
    obtain ⟨q, -, rfl⟩ := Option.map_eq_some_iff.mp hstep
    exact .inl rfl
  | prepare w interrupted =>
    simp only [step] at hstep
    split_ifs at hstep
    obtain ⟨q, -, rfl⟩ := Option.map_eq_some_iff.mp hstep
    exact .inl rfl
  | resume w =>
    simp only [step] at hstep
    split_ifs at hstep
    cases hstep
    exact .inl rfl
  | interrupt w =>
    simp only [step] at hstep
    split_ifs at hstep
    cases hstep
    exact .inl rfl

lemma waitInv_reached
    (h : Machine.Reaches step (fun s b => s.keeps b = true) static s) : s.WaitInv :=
  h.invariant waitInv_static fun _ _ _ hinv hkeeps hstep => hinv.step hkeeps hstep

end DtxWaitSystem

/-- While the driver is bound only when no file is open, a read or a poll that is asleep, and
that nothing has woken, does not find its condition true unless a wake-up is to come. -/
theorem dtxWaitQueue_noLostWakeup (s : DtxWaitSystem)
    (h : Machine.Reaches DtxWaitSystem.step (fun s b => s.keeps b = true) .static s)
    (w : DtxWaiter) (hasleep : (s.waitq w).stage = .asleep) (hwoken : (s.waitq w).running = false)
    (hready : s.ready w = true) : s.WakeDue :=
  (DtxWaitSystem.waitInv_reached h).noLost w (Waiter.parked_iff.mpr ⟨hasleep, hwoken⟩) hready

/-- A read comes to sleep in its wait. -/
def sleepingRead : List DtxWaitAction := [.sys (.probe goodDtxProbe), .sys (.open true),
  .sys (.read 0 8 false fun _ => 0), .sys (.readStep 0 0 true), .sys (.readStep 0 0 true),
  .test (.read 0), .prepare (.read 0) false, .test (.read 0)]

/-- An event is pushed to its file. -/
theorem dtxWaitQueue_noLostWakeup_pushed : ∃ s, Machine.run DtxWaitSystem.step .static
    (sleepingRead ++ [.sys (.push laptopMode), .sys (.pushStep 0)]) = some s ∧
      s.ready (.read 0) = true ∧ s.WakeDue := by
  obtain ⟨s, hs⟩ : ∃ s, Machine.run DtxWaitSystem.step .static
    (sleepingRead ++ [.sys (.push laptopMode), .sys (.pushStep 0)]) = some s := ⟨_, rfl⟩
  have hreached := Machine.reaches_of_run (C := fun s b => DtxWaitSystem.keeps s b = true) hs
    (by decide +kernel)
  refine ⟨s, hs, ?_, dtxWaitQueue_noLostWakeup s hreached (.read 0) ?_ ?_ ?_⟩
  all_goals
    cases hs
    rfl

/-- Waiting on a queue refines waiting for a condition: the files, rings and calls take the
steps of the system without a queue, and every ring still refines its queue of events. -/
theorem dtxWaitQueue_refines (s : DtxWaitSystem)
    (h : Machine.Reaches DtxWaitSystem.step (fun s b => s.keeps b = true) .static s) :
    Machine.Reaches DtxSystem.step (fun s a => a.keepsList s = true) .static s.sys ∧
      ∀ c ∈ s.sys.clients, s.sys.RefinesQueue c := by
  refine ⟨?_, fun c hc => (DtxWaitSystem.waitInv_reached h).rings.refines hc⟩
  induction h with
  | refl => exact .refl
  | @tail t u b _ hkeeps hstep ih =>
    obtain hsame | ⟨a, rfl, -, hsys⟩ | ⟨r, interrupted, -, hsys⟩ := DtxWaitSystem.step_sys hstep
    · rw [hsame]
      exact ih
    · exact ih.tail hkeeps hsys
    · exact ih.tail (a := .readStep r interrupted true) rfl hsys

theorem dtxWaitQueue_refines_pushed : ∃ s, Machine.run DtxWaitSystem.step .static
    (sleepingRead ++ [.sys (.push laptopMode), .sys (.pushStep 0)]) = some s ∧
      Machine.Reaches DtxSystem.step (fun s a => a.keepsList s = true) .static s.sys ∧
        s.sys.RefinesQueue 0 ∧ s.sys.queue 0 = [(0, laptopMode)] := by
  obtain ⟨s, hs⟩ : ∃ s, Machine.run DtxWaitSystem.step .static
    (sleepingRead ++ [.sys (.push laptopMode), .sys (.pushStep 0)]) = some s := ⟨_, rfl⟩
  have hreached := Machine.reaches_of_run (C := fun s b => DtxWaitSystem.keeps s b = true) hs
    (by decide +kernel)
  obtain ⟨hbelow, hrings⟩ := dtxWaitQueue_refines s hreached
  refine ⟨s, hs, hbelow, hrings 0 ?_, ?_⟩
  · cases hs
    exact List.mem_cons_self
  · cases hs
    rfl

end SurfaceSam
