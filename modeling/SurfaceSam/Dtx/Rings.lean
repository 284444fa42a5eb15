import SurfaceSam.Dtx.Delivery

/-!
# The rings of the clients

The ring of a client refines a queue of the 15 newest events: pushing appends the event of the
call to the queue of the client the call is at, reading takes the oldest event from the queue
of the file that is read, and nothing else changes a queue.
-/

namespace SurfaceSam

open Devlib

namespace DtxSystem

/-- What a client has not read of the events pushed since it was opened, as far as they are
among the 15 newest, with the calls that pushed them. -/
def queue (s : DtxSystem) (c : ℕ) : List (ℕ × SurfaceDtxEvent) := BoundedQueue.run 15 (s.log c)

variable {s t : DtxSystem}

/-! ### What a step does to a ring -/

inductive RingChange (s : DtxSystem) (c : ℕ) (t : DtxSystem) : DtxAction → Prop
  | same {a : DtxAction} (ring : t.ring c = s.ring c) (log : t.log c = s.log c) :
    RingChange s c t a
  | fresh {kzalloc : Bool} (new : c = s.nextClient) (ring : t.ring c = zeroRing)
    (log : t.log c = []) : RingChange s c t (.open kzalloc)
  | push {p : ℕ} {call : PushCall} (pushes : s.pushes p = some call)
    (cursor : call.cursor = some c) (undelivered : call.delivered = false)
    (delivered : t.pushes p = some { call with delivered := true })
    (ring : t.ring c = (s.ring c).push call.event)
    (log : t.log c = s.log c ++ [.push (p, call.event)]) : RingChange s c t (.pushStep p)
  | pop {r : ℕ} {interrupted : ℤ} {copied : Bool} {call : ReadCall}
    (reads : s.reads r = some call) (client : call.client = c)
    (nonempty : (s.ring c).isEmpty = false) (ring : t.ring c = (s.ring c).pop)
    (log : t.log c = s.log c ++ [.pop]) : RingChange s c t (.readStep r interrupted copied)

lemma ringChange {a : DtxAction} (hstep : s.step a = some t) (c : ℕ) : RingChange s c t a := by
  cases step_change hstep with
  | quiet _ _ _ => exact .same rfl rfl
  | opened _ =>
    by_cases hc : c = s.nextClient
    · subst hc
      exact .fresh rfl (Function.update_self ..) (Function.update_self ..)
    · exact .same (Function.update_of_ne hc _ _) (Function.update_of_ne hc _ _)
  | released _ _ => exact .same rfl rfl
  | freed _ _ => exact .same rfl rfl
  | begun _ => exact .same rfl rfl
  | advanced _ _ _ _ => exact .same rfl rfl
  | @delivered p x call hcall hcursor hundelivered =>
    by_cases hc : c = x
    · subst hc
      exact .push hcall hcursor hundelivered (Function.update_self ..) (Function.update_self ..)
        (Function.update_self ..)
    · exact .same (Function.update_of_ne hc _ _) (Function.update_of_ne hc _ _)
  | @popped r interrupted copied call call' hcall hnonempty =>
    by_cases hc : call.client = c
    · subst hc
      exact .pop hcall rfl hnonempty (Function.update_self ..) (Function.update_self ..)
    · exact .same (Function.update_of_ne (Ne.symm hc) _ _) (Function.update_of_ne (Ne.symm hc) _ _)

/-! ### What an operation on a ring adds to its log -/

section Log

variable {c p : ℕ} {event : SurfaceDtxEvent}

lemma arrivals_of_push (hlog : t.log c = s.log c ++ [.push (p, event)]) :
    t.arrivals c = s.arrivals c ++ [(p, event)] :=
  (congrArg BoundedQueue.pushed hlog).trans List.filterMap_append

lemma arrivals_of_pop (hlog : t.log c = s.log c ++ [.pop]) : t.arrivals c = s.arrivals c :=
  ((congrArg BoundedQueue.pushed hlog).trans List.filterMap_append).trans (List.append_nil _)

lemma queue_of_push (hlog : t.log c = s.log c ++ [.push (p, event)]) :
    t.queue c = BoundedQueue.push 15 (s.queue c) (p, event) :=
  (congrArg (BoundedQueue.run 15) hlog).trans (BoundedQueue.run_concat _)

lemma queue_of_pop (hlog : t.log c = s.log c ++ [.pop]) : t.queue c = (s.queue c).tail :=
  (congrArg (BoundedQueue.run 15) hlog).trans (BoundedQueue.run_concat _)

end Log

/-! ### Rings and queues -/

structure RingOk (s : DtxSystem) (c : ℕ) : Prop where
  valid : (s.ring c).Valid
  contents : (s.ring c).toList = (s.queue c).map Prod.snd

lemma RingOk.fresh {c : ℕ} (hring : s.ring c = zeroRing) (hlog : s.log c = []) : s.RingOk c where
  valid := by
    rw [hring]
    exact ⟨by decide, by decide⟩
  contents := by
    unfold queue
    rw [hring, hlog]
    exact Ring.toList_fresh _

lemma RingOk.ne_of_nonempty {r : DtxRing} (h : r.isEmpty = false) : r.head ≠ r.tail :=
  beq_eq_false_iff_ne.mp h

/-- A ring that is not empty has the oldest event of its queue in front. -/
lemma RingOk.queue_cons {c : ℕ} (h : s.RingOk c) (hnonempty : (s.ring c).isEmpty = false) :
    ∃ first, s.queue c = first :: (s.queue c).tail ∧ first.2 = (s.ring c).front ∧
      (s.ring c).pop.toList = (s.queue c).tail.map Prod.snd := by
  have hpop := Ring.toList_pop h.valid (ne_of_nonempty hnonempty)
  rw [h.contents] at hpop
  cases hqueue : s.queue c with
  | nil =>
    rw [hqueue] at hpop
    cases hpop
  | cons first rest =>
    rw [hqueue, List.map_cons] at hpop
    obtain ⟨hfirst, hrest⟩ := List.cons_eq_cons.mp hpop
    exact ⟨first, rfl, hfirst, hrest.symm⟩

lemma RingOk.step {a : DtxAction} {c : ℕ} (h : s.RingOk c) (hchange : RingChange s c t a) :
    t.RingOk c := by
  cases hchange with
  | same hring hlog =>
    refine ⟨hring ▸ h.valid, ?_⟩
    unfold queue
    rw [hring, hlog]
    exact h.contents
  | fresh _ hring hlog => exact .fresh hring hlog
  | @push p call _ _ _ _ hring hlog =>
    refine ⟨?_, ?_⟩
    · rw [hring]
      exact Ring.valid_push h.valid _
    · rw [hring, queue_of_push hlog, Ring.toList_push h.valid, h.contents]
      exact (BoundedQueue.map_push Prod.snd (p, call.event)).symm
  | pop _ _ hnonempty hring hlog =>
    obtain ⟨first, -, -, hrest⟩ := h.queue_cons hnonempty
    refine ⟨?_, ?_⟩
    · rw [hring]
      exact Ring.valid_pop h.valid
    · rw [hring, queue_of_pop hlog]
      exact hrest

/-! ### Arrivals -/

/-- No call has pushed twice onto the ring, and all calls that have pushed have passed it. -/
structure ArrivalsOk (s : DtxSystem) (c : ℕ) : Prop where
  nodup : ((s.arrivals c).map Prod.fst).Nodup
  passed : ∀ p event, (p, event) ∈ s.arrivals c →
    ∃ call, s.pushes p = some call ∧ call.event = event ∧ call.Passed c

/-- A call that has passed a client does not come back to it. -/
lemma DeliveryInv.passed (h : s.DeliveryInv) {a : DtxAction} (hstep : s.step a = some t) {p c : ℕ}
    {call : PushCall} (hcall : s.pushes p = some call) (hpassed : call.Passed c) :
    ∃ call', t.pushes p = some call' ∧ call'.event = call.event ∧ call'.Passed c := by
  have hsame (hpushes : t.pushes p = s.pushes p) :
      ∃ call', t.pushes p = some call' ∧ call'.event = call.event ∧ call'.Passed c :=
    ⟨call, hpushes.trans hcall, rfl, hpassed⟩
  cases step_change hstep with
  | quiet _ _ _ => exact hsame rfl
  | opened _ => exact hsame rfl
  | released _ _ => exact hsame rfl
  | freed _ _ => exact hsame rfl
  | begun _ =>
    have hlt := (h.push p call hcall).lt
    exact hsame (Function.update_of_ne (Nat.ne_of_lt hlt) _ _)
  | @advanced q x call' node hcall' hcursor _ hnext =>
    by_cases hpq : p = q
    · -- further on
      subst hpq
      obtain rfl : call = call' := Option.some_inj.mp (hcall.symm.trans hcall')
      refine ⟨_, Function.update_self .., rfl, fun y hy => .inl ?_⟩
      have hxy := ((h.list.next_cursor ((h.push p call hcall).cursor x hcursor) hnext).1 y hy).1
      rcases hpassed x hcursor with hlt | ⟨heq, -⟩
      · omega
      · omega
    · exact hsame (Function.update_of_ne hpq _ _)
  | @delivered q x call' hcall' hcursor hundelivered =>
    by_cases hpq : p = q
    · subst hpq
      obtain rfl : call = call' := Option.some_inj.mp (hcall.symm.trans hcall')
      refine ⟨_, Function.update_self .., rfl, fun y hy => ?_⟩
      rcases hpassed y hy with hlt | ⟨-, hdelivered⟩
      · exact .inl hlt
      · rw [hundelivered] at hdelivered
        cases hdelivered
    · exact hsame (Function.update_of_ne hpq _ _)
  | popped _ _ _ => exact hsame rfl

/-- A call that is about to push onto a ring has not done so before. -/
lemma ArrivalsOk.notMem {p c : ℕ} {call : PushCall} (h : s.ArrivalsOk c)
    (hcall : s.pushes p = some call) (hcursor : call.cursor = some c)
    (hundelivered : call.delivered = false) : p ∉ (s.arrivals c).map Prod.fst := by
  intro hp
  obtain ⟨⟨q, event⟩, hmem, rfl⟩ := List.mem_map.mp hp
  obtain ⟨call', hcall', -, hpassed⟩ := h.passed q event hmem
  obtain rfl : call = call' := Option.some_inj.mp (hcall.symm.trans hcall')
  rcases hpassed c hcursor with hlt | ⟨-, hdelivered⟩
  · exact Nat.lt_irrefl _ hlt
  · rw [hundelivered] at hdelivered
    cases hdelivered

lemma ArrivalsOk.step {a : DtxAction} {c : ℕ} (h : s.ArrivalsOk c) (hinv : s.DeliveryInv)
    (hstep : s.step a = some t) : t.ArrivalsOk c := by
  have hkept (p : ℕ) (event : SurfaceDtxEvent) (hmem : (p, event) ∈ s.arrivals c) :
      ∃ call, t.pushes p = some call ∧ call.event = event ∧ call.Passed c := by
    obtain ⟨call, hcall, hevent, hpassed⟩ := h.passed p event hmem
    obtain ⟨call', hcall', hevent', hpassed'⟩ := hinv.passed hstep hcall hpassed
    exact ⟨call', hcall', hevent'.trans hevent, hpassed'⟩
  have hsame (harrivals : t.arrivals c = s.arrivals c) : t.ArrivalsOk c := by
    constructor
    · rw [harrivals]
      exact h.nodup
    · rw [harrivals]
      exact hkept
  cases ringChange hstep c with
  | same _ hlog => exact hsame (congrArg BoundedQueue.pushed hlog)
  | fresh _ _ hlog =>
    have harrivals : t.arrivals c = [] := congrArg BoundedQueue.pushed hlog
    constructor
    · rw [harrivals]
      exact List.nodup_nil
    · rw [harrivals]
      intro p event hmem
      cases hmem
  | @push p call hcall hcursor hundelivered hdelivered _ hlog =>
    have harrivals := arrivals_of_push hlog
    constructor
    · rw [harrivals, List.map_append]
      apply List.nodup_append.mpr
      refine ⟨h.nodup, List.nodup_singleton p, fun q hq p' hp' hqp => ?_⟩
      obtain rfl : q = p := hqp.trans (List.mem_singleton.mp hp')
      exact h.notMem hcall hcursor hundelivered hq
    · rw [harrivals]
      intro q event hmem
      rcases List.mem_append.mp hmem with hmem | hmem
      · exact hkept q event hmem
      · cases List.mem_singleton.mp hmem
        refine ⟨_, hdelivered, rfl, fun x hx => .inr ⟨?_, rfl⟩⟩
        exact Option.some_inj.mp (hcursor.symm.trans hx)
  | pop _ _ _ _ hlog => exact hsame (arrivals_of_pop hlog)

/-! ### Refinement -/

structure RingsInv (s : DtxSystem) : Prop where
  delivery : s.DeliveryInv
  rings : ∀ c, s.RingOk c
  arrivals : ∀ c, s.ArrivalsOk c

lemma ringsInv_static : static.RingsInv where
  delivery := deliveryInv_static
  rings _ := .fresh rfl rfl
  arrivals c := by
    constructor
    · exact List.nodup_nil
    · intro p event hmem
      cases hmem

lemma RingsInv.step (h : s.RingsInv) {a : DtxAction} (hkeeps : a.keepsList s = true)
    (hstep : s.step a = some t) : t.RingsInv where
  delivery := h.delivery.step hkeeps hstep
  rings c := (h.rings c).step (ringChange hstep c)
  arrivals c := (h.arrivals c).step h.delivery hstep

/-- The ring of an open client holds its queue. -/
structure RefinesQueue (s : DtxSystem) (c : ℕ) : Prop where
  head_lt : (s.ring c).head < 16
  tail_lt : (s.ring c).tail < 16
  contents : (s.ring c).toList = (s.queue c).map Prod.snd
  empty : (s.ring c).head = (s.ring c).tail ↔ s.queue c = []
  length_le : (s.queue c).length ≤ 15
  newest : s.queue c <:+ s.arrivals c
  nodup : ((s.arrivals c).map Prod.fst).Nodup
  arrived : ∀ p event, (p, event) ∈ s.arrivals c →
    ∃ call, s.pushes p = some call ∧ call.event = event ∧ call.Passed c
  reached : ∀ p call, s.pushes p = some call → s.openedAt c < call.start → call.Passed c →
    (p, call.event) ∈ s.arrivals c

lemma RingsInv.refines (h : s.RingsInv) {c : ℕ} (hc : c ∈ s.clients) : s.RefinesQueue c where
  head_lt := (h.rings c).valid.head_lt
  tail_lt := (h.rings c).valid.tail_lt
  contents := (h.rings c).contents
  empty := by
    rw [← Ring.toList_eq_nil (h.rings c).valid, (h.rings c).contents, List.map_eq_nil_iff]
  length_le := BoundedQueue.length_run_le
  newest := BoundedQueue.run_suffix
  nodup := (h.arrivals c).nodup
  arrived := (h.arrivals c).passed
  reached p call hcall hopened hpassed :=
    (h.delivery.push p call hcall).reached c hc hopened hpassed

/-- What a step does to the queue of a client: a push appends the event of a call that is at
the client, and drops the oldest one if there are 15; a read takes the oldest event from the
queue of its own client. -/
inductive QueueStep (s : DtxSystem) (c : ℕ) (t : DtxSystem) : DtxAction → Prop
  | same {a : DtxAction} (ring : t.ring c = s.ring c) (queue : t.queue c = s.queue c) :
    QueueStep s c t a
  | opened {kzalloc : Bool} (new : c ∉ s.clients) (queue : t.queue c = []) :
    QueueStep s c t (.open kzalloc)
  | pushed {p : ℕ} {call : PushCall} (pushes : s.pushes p = some call)
    (cursor : call.cursor = some c) (room : (s.queue c).length < 15)
    (queue : t.queue c = s.queue c ++ [(p, call.event)]) : QueueStep s c t (.pushStep p)
  | overrun {p : ℕ} {call : PushCall} (pushes : s.pushes p = some call)
    (cursor : call.cursor = some c) (full : (s.queue c).length = 15)
    (queue : t.queue c = (s.queue c).tail ++ [(p, call.event)]) : QueueStep s c t (.pushStep p)
  | read {r : ℕ} {interrupted : ℤ} {copied : Bool} {call : ReadCall}
    (reads : s.reads r = some call) (client : call.client = c) {first : ℕ × SurfaceDtxEvent}
    (front : (s.ring c).front = first.2) (queue : s.queue c = first :: t.queue c) :
    QueueStep s c t (.readStep r interrupted copied)

lemma RingsInv.queueStep (h : s.RingsInv) {a : DtxAction} (hstep : s.step a = some t) (c : ℕ) :
    QueueStep s c t a := by
  cases ringChange hstep c with
  | same hring hlog => exact .same hring (congrArg (BoundedQueue.run 15) hlog)
  | fresh hnew _ hlog =>
    refine .opened (fun hmem => ?_) (congrArg (BoundedQueue.run 15) hlog)
    have hlt := ((h.delivery.list.mem_clients c).mp hmem).1
    exact Nat.ne_of_lt hlt hnew
  | @push p call hcall hcursor _ _ _ hlog =>
    have hpush := queue_of_push hlog
    have hle : (s.queue c).length ≤ 15 := BoundedQueue.length_run_le
    rcases Nat.lt_or_eq_of_le hle with hroom | hfull
    · exact .pushed hcall hcursor hroom (hpush.trans (BoundedQueue.push_of_lt _ hroom))
    · exact .overrun hcall hcursor hfull
        (hpush.trans (BoundedQueue.push_of_eq _ hfull (Nat.succ_pos 14)))
  | pop hcall hclient hnonempty _ hlog =>
    obtain ⟨first, hqueue, hfront, -⟩ := (h.rings c).queue_cons hnonempty
    exact .read hcall hclient hfront.symm (queue_of_pop hlog ▸ hqueue)

end DtxSystem

/-- The driver is bound to its device or unbound. -/
def DtxAction.isBinding : DtxAction → Bool
  | .probe _ => true
  | .remove => true
  | _ => false

namespace DtxSystem

variable {s s₀ : DtxSystem}

/-- Binding and unbinding opens no file. -/
lemma ringsInv_bound
    (h₀ : Machine.Reaches step (fun _ a => a.isBinding = true) static s₀) :
    s₀.RingsInv ∧ s₀.clients = [] := by
  refine h₀.invariant (I := fun s => s.RingsInv ∧ s.clients = []) ⟨ringsInv_static, rfl⟩ ?_
  intro t a u ⟨ht, hclients⟩ hbinding hu
  cases a with
  | probe env =>
    have hkeeps : (DtxAction.probe env).keepsList t = true := by
      simp only [DtxAction.keepsList, hclients, List.isEmpty_nil, Bool.or_true]
    refine ⟨ht.step hkeeps hu, ?_⟩
    cases hu
    exact hclients
  | remove =>
    refine ⟨ht.step rfl hu, ?_⟩
    cases hu
    exact hclients
  | _ => cases hbinding

lemma ringsInv_reached (h₀ : s₀.RingsInv)
    (hs : Machine.Reaches step (fun _ a => a.isBinding = false) s₀ s) : s.RingsInv := by
  refine hs.invariant h₀ fun t a u ht hbinding hu => ?_
  have hkeeps : a.keepsList t = true := by
    cases a with
    | probe env => cases hbinding
    | _ => rfl
  exact ht.step hkeeps hu

end DtxSystem

/-- Once the driver is bound, files are opened, released and read, and events are pushed. In
every state that is reached the ring of each open file refines a queue of the 15 newest events,
and every step is one of the queues. -/
theorem dtxRings_refineQueues (s₀ s : DtxSystem)
    (h₀ : Machine.Reaches DtxSystem.step (fun _ a => a.isBinding = true) .static s₀)
    (hs : Machine.Reaches DtxSystem.step (fun _ a => a.isBinding = false) s₀ s) :
    (∀ c ∈ s.clients, s.RefinesQueue c) ∧
      ∀ (t : DtxSystem) (a : DtxAction), s.step a = some t → ∀ c, DtxSystem.QueueStep s c t a := by
  have hinv : s.RingsInv := DtxSystem.ringsInv_reached (DtxSystem.ringsInv_bound h₀).1 hs
  exact ⟨fun c hc => hinv.refines hc, fun t a hstep c => hinv.queueStep hstep c⟩

/-- An event is pushed to two open files and read from the first. -/
theorem dtxRings_refineQueues_read :
    let actions : List DtxAction := [.open true, .open true, .push laptopMode, .pushStep 0,
      .pushStep 0, .pushStep 0, .pushStep 0, .read 0 8 true (fun _ => 0), .readStep 0 0 true,
      .readStep 0 0 true, .readStep 0 0 true, .readStep 0 0 true]
    ∃ s₀ s, DtxSystem.step .static (.probe goodDtxProbe) = some s₀ ∧
      Machine.run DtxSystem.step s₀ actions = some s ∧ s.RefinesQueue 0 ∧ s.RefinesQueue 1 ∧
      s.queue 0 = [] ∧ s.queue 1 = [(0, laptopMode)] := by
  intro actions
  obtain ⟨s₀, hs₀⟩ : ∃ s₀, DtxSystem.step .static (.probe goodDtxProbe) = some s₀ := ⟨_, rfl⟩
  obtain ⟨s, hs⟩ : ∃ s, Machine.run DtxSystem.step s₀ actions = some s := by
    cases hs₀
    exact ⟨_, rfl⟩
  have hmeets : Machine.Meets DtxSystem.step (fun _ a => a.isBinding = false) s₀ actions := by
    cases hs₀
    decide +kernel
  obtain ⟨hrings, -⟩ := dtxRings_refineQueues s₀ s (Machine.Reaches.refl.tail rfl hs₀)
    (Machine.reaches_of_run hs hmeets)
  have hclients : s.clients = [0, 1] := by
    cases hs₀
    cases hs
    rfl
  rw [hclients] at hrings
  refine ⟨s₀, s, hs₀, hs, hrings 0 List.mem_cons_self,
    hrings 1 (List.mem_cons_of_mem 0 List.mem_cons_self), ?_, ?_⟩
  · cases hs₀
    cases hs
    rfl
  · cases hs₀
    cases hs
    rfl

end SurfaceSam
