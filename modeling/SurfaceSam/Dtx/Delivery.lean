import SurfaceSam.Dtx.Binding
import SurfaceSam.Dtx.ClientList

/-!
# Delivery of events

While the client list is well-formed, a push reaches every client that was open when it began
and stays open. A client that is released meanwhile is freed only after the push has left it.
-/

namespace SurfaceSam

open Devlib

/-- The push has left the client behind, or has run its loop body for it. -/
def PushCall.Passed (call : PushCall) (c : ℕ) : Prop :=
  ∀ x, call.cursor = some x → c < x ∨ c = x ∧ call.delivered = true

namespace DtxSystem

/-- The calls that have pushed onto the ring of a client, with their events. -/
def arrivals (s : DtxSystem) (c : ℕ) : List (ℕ × SurfaceDtxEvent) := BoundedQueue.pushed (s.log c)

structure PushOk (s : DtxSystem) (p : ℕ) (call : PushCall) : Prop where
  lt : p < s.nextPush
  start_lt : call.start < s.clock
  /-- The loop is at a client that is open, or has been released since the call began. -/
  cursor : ∀ c, call.cursor = some c →
    c < s.nextClient ∧ ∀ time, s.closedAt c = some time → call.start < time
  reached : ∀ c ∈ s.clients, s.openedAt c < call.start → call.Passed c →
    (p, call.event) ∈ s.arrivals c

def PushInv (s : DtxSystem) : Prop := ∀ p call, s.pushes p = some call → s.PushOk p call

/-- Every loop that is under way has begun after the clients were detached that are freed. -/
def FreedInv (s : DtxSystem) : Prop :=
  ∀ c, s.freed c = true → ∃ time, s.closedAt c = some time ∧
    ∀ p call, s.pushes p = some call → call.cursor ≠ none → time < call.start

variable {s t : DtxSystem}

lemma pushInv_static : static.PushInv := by
  intro p call h
  cases h

lemma freedInv_static : static.FreedInv := by
  intro c h
  cases h

/-- What can have happened to the files after a step. -/
structure Later (s t : DtxSystem) : Prop where
  nextPush : s.nextPush ≤ t.nextPush
  clock : s.clock ≤ t.clock
  nextClient : s.nextClient ≤ t.nextClient
  closedAt : ∀ c time, t.closedAt c = some time → s.closedAt c = some time ∨ s.clock ≤ time
  clients : ∀ c ∈ t.clients, t.openedAt c < s.clock → c ∈ s.clients ∧ s.openedAt c = t.openedAt c
  arrivals : ∀ c ∈ s.clients, s.arrivals c ⊆ t.arrivals c

lemma PushOk.later {p : ℕ} {call : PushCall} (h : s.PushOk p call) (hlater : Later s t) :
    t.PushOk p call where
  lt := Nat.lt_of_lt_of_le h.lt hlater.nextPush
  start_lt := Nat.lt_of_lt_of_le h.start_lt hlater.clock
  cursor := by
    intro c hc
    obtain ⟨hlt, hclosed⟩ := h.cursor c hc
    refine ⟨Nat.lt_of_lt_of_le hlt hlater.nextClient, fun time htime => ?_⟩
    rcases hlater.closedAt c time htime with htime | htime
    · exact hclosed time htime
    · exact Nat.lt_of_lt_of_le h.start_lt htime
  reached := by
    intro c hc hopened hpassed
    have hbefore := Nat.lt_trans hopened h.start_lt
    obtain ⟨hmem, heq⟩ := hlater.clients c hc hbefore
    exact hlater.arrivals c hmem (h.reached c hmem (heq ▸ hopened) hpassed)

/-- A step that does not touch the files, and keeps what has arrived. -/
lemma Later.of_eq (hpush : s.nextPush ≤ t.nextPush) (hclock : s.clock ≤ t.clock)
    (hnext : t.nextClient = s.nextClient) (hclosed : t.closedAt = s.closedAt)
    (hclients : t.clients = s.clients) (hopened : t.openedAt = s.openedAt)
    (harrivals : ∀ c, s.arrivals c ⊆ t.arrivals c) : Later s t where
  nextPush := hpush
  clock := hclock
  nextClient := Nat.le_of_eq hnext.symm
  closedAt _ _ h := .inl (hclosed ▸ h)
  clients c hc _ := ⟨hclients ▸ hc, (congrFun hopened c).symm⟩
  arrivals c _ := harrivals c

lemma arrivals_concat (c : ℕ) (op : QueueOp (ℕ × SurfaceDtxEvent))
    (hlog : t.log = Function.update s.log c (s.log c ++ [op])) (x : ℕ) :
    t.arrivals x = s.arrivals x ++ if x = c then BoundedQueue.pushed [op] else [] := by
  unfold arrivals
  rw [hlog]
  split_ifs with hx
  · rw [hx, Function.update_self]
    exact List.filterMap_append
  · rw [Function.update_of_ne hx, List.append_nil]

lemma arrivals_subset {c : ℕ} {op : QueueOp (ℕ × SurfaceDtxEvent)}
    (hlog : t.log = Function.update s.log c (s.log c ++ [op])) (x : ℕ) :
    s.arrivals x ⊆ t.arrivals x := by
  rw [arrivals_concat c op hlog]
  exact List.subset_append_left _ _

lemma later_step {a : DtxAction} (h : s.ListInv) (hstep : s.step a = some t) : Later s t := by
  cases step_change hstep with
  | quiet dev reads nextRead =>
    exact .of_eq (Nat.le_refl _) (Nat.le_refl _) rfl rfl rfl rfl fun _ => List.Subset.refl _
  | opened clientList =>
    refine ⟨Nat.le_refl _, Nat.le_succ _, Nat.le_succ _, fun _ _ hc => .inl hc,
      fun c hc hopened => ?_, fun c hc => ?_⟩
    · change Function.update s.openedAt s.nextClient s.clock c < s.clock at hopened
      have hne : c ≠ s.nextClient := by
        intro heq
        rw [heq, Function.update_self] at hopened
        exact Nat.lt_irrefl _ hopened
      refine ⟨?_, (Function.update_of_ne hne _ _).symm⟩
      rcases List.mem_append.mp hc with hc | hc
      · exact hc
      · exact absurd (List.mem_singleton.mp hc) hne
    · have hne : c ≠ s.nextClient := Nat.ne_of_lt ((h.mem_clients c).mp hc).1
      change s.arrivals c ⊆ BoundedQueue.pushed (Function.update s.log s.nextClient [] c)
      rw [Function.update_of_ne hne]
      exact List.Subset.refl _
  | @released c _ clientList =>
    refine ⟨Nat.le_refl _, Nat.le_succ _, Nat.le_refl _, fun x time hx => ?_,
      fun x hx _ => ⟨List.mem_of_mem_erase hx, rfl⟩, fun x _ => List.Subset.refl _⟩
    change Function.update s.closedAt c (some s.clock) x = some time at hx
    by_cases heq : x = c
    · rw [heq, Function.update_self] at hx
      cases hx
      exact .inr (Nat.le_refl _)
    · rw [Function.update_of_ne heq] at hx
      exact .inl hx
  | freed _ _ =>
    exact .of_eq (Nat.le_refl _) (Nat.le_refl _) rfl rfl rfl rfl fun _ => List.Subset.refl _
  | begun _ =>
    exact .of_eq (Nat.le_succ _) (Nat.le_succ _) rfl rfl rfl rfl fun _ => List.Subset.refl _
  | advanced _ _ _ _ =>
    exact .of_eq (Nat.le_refl _) (Nat.le_refl _) rfl rfl rfl rfl fun _ => List.Subset.refl _
  | delivered _ _ _ =>
    exact .of_eq (Nat.le_refl _) (Nat.le_refl _) rfl rfl rfl rfl (arrivals_subset rfl)
  | popped _ _ _ =>
    exact .of_eq (Nat.le_refl _) (Nat.le_refl _) rfl rfl rfl rfl (arrivals_subset rfl)

/-! ### Pushing -/

lemma next_none (h : s.ListInv) {first : DtxNode}
    (hfirst : s.dev.clientList.next none = some first) : first = s.clients.head? := by
  rcases h.list with ⟨hnull, -⟩ | hlist
  · rw [hnull] at hfirst
    cases hfirst
  · rw [hlist.next_head] at hfirst
    cases hclients : s.clients with
    | nil =>
      simp only [hclients] at hfirst
      exact (Option.some_inj.mp hfirst).symm
    | cons c clients =>
      simp only [hclients] at hfirst
      exact (Option.some_inj.mp hfirst).symm

/-- A push that begins has not passed any client. -/
lemma ListInv.pushOk_new (h : s.ListInv) {event : SurfaceDtxEvent} {first : DtxNode}
    (hfirst : s.dev.clientList.next none = some first)
    (hclients : t.clients = s.clients) (hnext : t.nextClient = s.nextClient)
    (hclosed : t.closedAt = s.closedAt) (hpush : s.nextPush < t.nextPush)
    (hclock : s.clock < t.clock) : t.PushOk s.nextPush ⟨event, s.clock, first, false⟩ where
  lt := hpush
  start_lt := hclock
  cursor := by
    intro c hc
    have hmem : c ∈ s.clients := List.mem_of_mem_head? ((next_none h hfirst).symm.trans hc)
    obtain ⟨hlt, hnone⟩ := (h.mem_clients c).mp hmem
    refine ⟨hnext ▸ hlt, fun time htime => ?_⟩
    rw [hclosed, hnone] at htime
    cases htime
  reached := by
    intro c hc _ hpassed
    rw [hclients] at hc
    have hhead := next_none h hfirst
    have hsorted := h.sorted
    cases hcons : s.clients with
    | nil =>
      rw [hcons] at hc
      cases hc
    | cons x clients =>
      rw [hcons] at hc hhead hsorted
      have hpassed_x := hpassed x hhead
      rcases List.mem_cons.mp hc with rfl | hc
      · rcases hpassed_x with hlt | ⟨-, hfalse⟩
        · exact absurd hlt (Nat.lt_irrefl _)
        · cases hfalse
      · have hlt := (List.pairwise_cons.mp hsorted).1 c hc
        omega

/-- Where a push gets to behind its client. -/
lemma ListInv.next_cursor (h : s.ListInv) {call : PushCall} {c : ℕ} {next : DtxNode}
    (hc : c < s.nextClient ∧ ∀ time, s.closedAt c = some time → call.start < time)
    (hnext : s.dev.clientList.next (some c) = some next) :
    (∀ x, next = some x →
      c < x ∧ x < s.nextClient ∧ ∀ time, s.closedAt x = some time → call.start < time) ∧
    ∀ y ∈ s.clients, c < y → s.openedAt y < call.start → ∃ x, next = some x ∧ x ≤ y := by
  cases hclosed : s.closedAt c with
  | none =>
    have hmem : c ∈ s.clients := (h.mem_clients c).mpr ⟨hc.1, hclosed⟩
    obtain ⟨next', hnext', hbehind, hpast⟩ := next_client (h.represents hmem) h.sorted hmem
    obtain rfl : next = next' := Option.some_inj.mp (hnext.symm.trans hnext')
    refine ⟨fun x hx => ?_, fun y hy hcy _ => hpast y hy hcy⟩
    obtain ⟨hcx, hx⟩ := hbehind x hx
    obtain ⟨hlt, hopen⟩ := (h.mem_clients x).mp hx
    refine ⟨hcx, hlt, fun time htime => ?_⟩
    rw [hopen] at htime
    cases htime
  | some time =>
    -- the client has been released since the push began
    have hstart := hc.2 time hclosed
    obtain ⟨next', hnext', hbehind, hpast⟩ := h.stale c time hclosed
    obtain rfl : next = next' := Option.some_inj.mp (hnext.symm.trans hnext')
    refine ⟨fun x hx => ?_, fun y hy hcy hopened => ?_⟩
    · obtain ⟨hcx, hlt, hlater⟩ := hbehind x hx
      exact ⟨hcx, hlt, fun time' htime' => Nat.lt_trans hstart (hlater time' htime')⟩
    · by_contra hfar
      have hlt := hpast y hy hcy fun x hx => Nat.lt_of_not_le fun hle => hfar ⟨x, hx, hle⟩
      omega

/-- On to the next client. -/
lemma PushOk.advance {p c : ℕ} {call : PushCall} {node : DtxNode} (h : s.PushOk p call)
    (hlist : s.ListInv) (hcursor : call.cursor = some c) (hdelivered : call.delivered = true)
    (hnext : s.dev.clientList.next (some c) = some node) :
    s.PushOk p { call with cursor := node, delivered := false } := by
  obtain ⟨hbehind, hpast⟩ := hlist.next_cursor (h.cursor c hcursor) hnext
  refine ⟨h.lt, h.start_lt, fun x hx => (hbehind x hx).2, fun y hy hopened hpassed => ?_⟩
  apply h.reached y hy hopened
  intro x hx
  obtain rfl : c = x := Option.some_inj.mp (hcursor.symm.trans hx)
  by_cases hcy : c < y
  · obtain ⟨z, hz, hzy⟩ := hpast y hy hcy hopened
    rcases hpassed z hz with hyz | ⟨-, hfalse⟩
    · omega
    · cases hfalse
  · rcases Nat.lt_or_eq_of_le (Nat.le_of_not_lt hcy) with hlt | heq
    · exact .inl hlt
    · exact .inr ⟨heq, hdelivered⟩

/-- Onto the ring of this client. -/
lemma PushOk.deliver {p c : ℕ} {call : PushCall} (h : s.PushOk p call)
    (hcursor : call.cursor = some c) :
    (s.pushBuffer p c call.event).PushOk p { call with delivered := true } := by
  refine ⟨h.lt, h.start_lt, h.cursor, fun y hy hopened hpassed => ?_⟩
  rw [arrivals_concat c (.push (p, call.event)) rfl]
  by_cases hyc : y = c
  · rw [if_pos hyc]
    exact List.mem_append_right _ (List.mem_singleton.mpr rfl)
  · apply List.mem_append_left
    apply h.reached y hy hopened
    intro x hx
    rcases hpassed x hx with hlt | ⟨heq, -⟩
    · exact .inl hlt
    · obtain rfl : c = x := Option.some_inj.mp (hcursor.symm.trans hx)
      exact absurd heq hyc

/-- One call has changed, the others have not. -/
lemma PushInv.update (h : s.PushInv) (hlater : Later s t) {p : ℕ} {call : PushCall}
    (hpushes : t.pushes = Function.update s.pushes p (some call)) (hcall : t.PushOk p call) :
    t.PushInv := by
  intro q call' hcall'
  rw [hpushes] at hcall'
  by_cases heq : q = p
  · rw [heq, Function.update_self] at hcall'
    cases hcall'
    rw [heq]
    exact hcall
  · rw [Function.update_of_ne heq] at hcall'
    exact (h q call' hcall').later hlater

lemma PushInv.step (h : s.PushInv) (hlist : s.ListInv) {a : DtxAction}
    (hstep : s.step a = some t) : t.PushInv := by
  have hlater := later_step hlist hstep
  have hsame (hpushes : t.pushes = s.pushes) : t.PushInv := by
    intro p call hcall
    exact (h p call (hpushes ▸ hcall)).later hlater
  cases step_change hstep with
  | quiet _ _ _ => exact hsame rfl
  | opened _ => exact hsame rfl
  | released _ _ => exact hsame rfl
  | freed _ _ => exact hsame rfl
  | begun hfirst =>
    exact h.update hlater rfl
      (hlist.pushOk_new hfirst rfl rfl rfl (Nat.lt_succ_self _) (Nat.lt_succ_self _))
  | advanced hcall hcursor hdelivered hnext =>
    have hok := (h _ _ hcall).advance hlist hcursor hdelivered hnext
    exact h.update hlater rfl ⟨hok.lt, hok.start_lt, hok.cursor, hok.reached⟩
  | delivered hcall hcursor _ =>
    have hok := (h _ _ hcall).deliver hcursor
    exact h.update hlater rfl ⟨hok.lt, hok.start_lt, hok.cursor, hok.reached⟩
  | popped _ _ _ => exact hsame rfl

/-! ### Freeing clients -/

/-- Freed clients stay so, and no loop is under way that was not before, or begins now. -/
lemma FreedInv.later (h : s.FreedInv) (hlist : s.ListInv) (hfreed : t.freed = s.freed)
    (hclosed : ∀ c time, s.closedAt c = some time → t.closedAt c = some time)
    (hpushes : ∀ p call, t.pushes p = some call → call.cursor ≠ none → call.start = s.clock ∨
      ∃ p' call', s.pushes p' = some call' ∧ call'.cursor ≠ none ∧ call'.start = call.start) :
    t.FreedInv := by
  intro c hc
  obtain ⟨time, htime, hreaders⟩ := h c (hfreed ▸ hc)
  refine ⟨time, hclosed c time htime, fun p call hcall hcursor => ?_⟩
  rcases hpushes p call hcall hcursor with hstart | ⟨p', call', hcall', hcursor', hstart⟩
  · rw [hstart]
    exact (hlist.closedAt_lt c time htime).2
  · rw [← hstart]
    exact hreaders p' call' hcall' hcursor'

lemma FreedInv.free (h : s.FreedInv) (hpush : s.PushInv) {c time : ℕ}
    (htime : s.closedAt c = some time) (hreaders : ∀ p < s.nextPush, s.isReader time p = false) :
    FreedInv { s with freed := Function.update s.freed c true } := by
  intro x hx
  by_cases heq : x = c
  · rw [heq]
    refine ⟨time, htime, fun p call hcall hcursor => ?_⟩
    have hcall_s : s.pushes p = some call := hcall
    have hreader := hreaders p (hpush p call hcall).lt
    unfold isReader at hreader
    rw [hcall_s, Option.any_some, Option.isSome_iff_ne_none.mpr hcursor, Bool.true_and,
      decide_eq_false_iff_not] at hreader
    exact Nat.lt_of_not_le hreader
  · change Function.update s.freed c true x = true at hx
    rw [Function.update_of_ne heq] at hx
    exact h x hx

/-- One call has changed. It has been in its loop before, or begins now. -/
lemma FreedInv.update (h : s.FreedInv) (hlist : s.ListInv) {p : ℕ} {call : PushCall}
    (hfreed : t.freed = s.freed) (hclosed : t.closedAt = s.closedAt)
    (hpushes : t.pushes = Function.update s.pushes p (some call))
    (hcall : call.start = s.clock ∨
      ∃ call', s.pushes p = some call' ∧ call'.cursor ≠ none ∧ call'.start = call.start) :
    t.FreedInv := by
  refine h.later hlist hfreed (fun _ _ hc => hclosed ▸ hc) fun q call' hcall' hcursor => ?_
  rw [hpushes] at hcall'
  by_cases heq : q = p
  · rw [heq, Function.update_self] at hcall'
    cases hcall'
    rcases hcall with hstart | ⟨call', hbefore⟩
    · exact .inl hstart
    · exact .inr ⟨p, call', hbefore⟩
  · rw [Function.update_of_ne heq] at hcall'
    exact .inr ⟨q, call', hcall', hcursor, rfl⟩

lemma FreedInv.step (h : s.FreedInv) (hlist : s.ListInv) (hpush : s.PushInv) {a : DtxAction}
    (hstep : s.step a = some t) : t.FreedInv := by
  have hsame (hfreed : t.freed = s.freed)
      (hclosed : ∀ c time, s.closedAt c = some time → t.closedAt c = some time)
      (hpushes : t.pushes = s.pushes) : t.FreedInv :=
    h.later hlist hfreed hclosed
      fun p call hcall hcursor => .inr ⟨p, call, hpushes ▸ hcall, hcursor, rfl⟩
  have hrunning {call : PushCall} {c : ℕ} (hcursor : call.cursor = some c) :
      call.cursor ≠ none := by
    rw [hcursor]
    exact Option.some_ne_none c
  cases step_change hstep with
  | quiet _ _ _ => exact hsame rfl (fun _ _ hc => hc) rfl
  | opened _ => exact hsame rfl (fun _ _ hc => hc) rfl
  | released hc _ =>
    refine hsame rfl (fun x time hx => ?_) rfl
    apply (Function.update_of_ne _ _ _).trans hx
    rintro rfl
    rw [((hlist.mem_clients x).mp hc).2] at hx
    cases hx
  | freed htime hreaders => exact h.free hpush htime hreaders
  | begun _ => exact h.update hlist rfl rfl rfl (.inl rfl)
  | advanced hcall hcursor _ _ =>
    exact h.update hlist rfl rfl rfl (.inr ⟨_, hcall, hrunning hcursor, rfl⟩)
  | delivered hcall hcursor _ =>
    exact h.update hlist rfl rfl rfl (.inr ⟨_, hcall, hrunning hcursor, rfl⟩)
  | popped _ _ _ => exact hsame rfl (fun _ _ hc => hc) rfl

/-- A push is never at a client that has been freed. -/
lemma FreedInv.cursor (h : s.FreedInv) (hpush : s.PushInv) {p c : ℕ} {call : PushCall}
    (hcall : s.pushes p = some call) (hcursor : call.cursor = some c) : s.freed c = false := by
  rw [Bool.eq_false_iff]
  intro hfreed
  obtain ⟨time, htime, hreaders⟩ := h c hfreed
  have hbefore := ((hpush p call hcall).cursor c hcursor).2 time htime
  have hafter := hreaders p call hcall (by
    rw [hcursor]
    exact Option.some_ne_none c)
  omega

/-! ### Pushes come to an end -/

lemma ListInv.exists_next (h : s.ListInv) {c : ℕ} (hc : c < s.nextClient) :
    ∃ next, s.dev.clientList.next (some c) = some next := by
  cases hclosed : s.closedAt c with
  | none =>
    have hmem : c ∈ s.clients := (h.mem_clients c).mpr ⟨hc, hclosed⟩
    obtain ⟨next, hnext, -⟩ := next_client (h.represents hmem) h.sorted hmem
    exact ⟨next, hnext⟩
  | some time =>
    obtain ⟨next, hnext, -⟩ := h.stale c time hclosed
    exact ⟨next, hnext⟩

/-- What is left for a push to do at most. -/
def pushRest (s : DtxSystem) (call : PushCall) : ℕ :=
  call.cursor.elim 0 fun c => 2 * (s.nextClient - c) + if call.delivered then 0 else 1

/-- A push that is under way can take a step, and has less to do after it. -/
lemma exists_pushStep (hlist : s.ListInv) (hpush : s.PushInv) {p c : ℕ} {call : PushCall}
    (hcall : s.pushes p = some call) (hcursor : call.cursor = some c) :
    ∃ t call', s.step (.pushStep p) = some t ∧ t.pushes p = some call' ∧
      call'.event = call.event ∧ call'.start = call.start ∧ t.pushRest call' < s.pushRest call := by
  have hc := (hpush p call hcall).cursor c hcursor
  have hrest : s.pushRest call = 2 * (s.nextClient - c) + if call.delivered then 0 else 1 := by
    unfold pushRest
    rw [hcursor]
    rfl
  cases hdelivered : call.delivered with
  | true =>
    obtain ⟨next, hnext⟩ := hlist.exists_next hc.1
    have hstep : s.pushStep p = some { s with
        pushes := Function.update s.pushes p
          (some { call with cursor := next, delivered := false }) } := by
      unfold DtxSystem.pushStep
      simp only [hcall, hcursor, hdelivered, hnext, Option.bind_eq_bind, Option.bind_some,
        if_true]
      rfl
    refine ⟨_, _, hstep, Function.update_self .., rfl, rfl, ?_⟩
    rw [hrest, hdelivered, if_pos rfl]
    cases hx : next with
    | none =>
      change 0 < 2 * (s.nextClient - c) + 0
      omega
    | some x =>
      obtain ⟨hcx, -⟩ := (hlist.next_cursor hc hnext).1 x hx
      change 2 * (s.nextClient - x) + 1 < 2 * (s.nextClient - c) + 0
      omega
  | false =>
    have hstep : s.pushStep p = some { s.pushBuffer p c call.event with
        pushes := Function.update s.pushes p (some { call with delivered := true }) } := by
      unfold DtxSystem.pushStep
      simp only [hcall, hcursor, hdelivered, Option.bind_eq_bind, Option.bind_some,
        Bool.false_eq_true, if_false]
      rfl
    refine ⟨_, _, hstep, Function.update_self .., rfl, rfl, ?_⟩
    rw [hrest, hdelivered, if_neg Bool.false_ne_true]
    unfold pushRest
    rw [hcursor]
    exact Nat.lt_succ_self _

/-- A push that is left alone comes to its end. -/
lemma push_finishes (hlist : s.ListInv) (hpush : s.PushInv) {p : ℕ} {call : PushCall}
    (hcall : s.pushes p = some call) :
    ∃ n t call', Machine.run step s (List.replicate n (.pushStep p)) = some t ∧
      t.pushes p = some call' ∧ call'.event = call.event ∧ call'.start = call.start ∧
      call'.cursor = none := by
  induction hrest : s.pushRest call using Nat.strong_induction_on generalizing s call with
  | _ rest ih =>
    cases hcursor : call.cursor with
    | none => exact ⟨0, s, call, rfl, hcall, rfl, rfl, hcursor⟩
    | some c =>
      obtain ⟨t, call', hstep, hcall', hevent, hstart, hlt⟩ :=
        exists_pushStep hlist hpush hcall hcursor
      obtain ⟨n, u, call'', hrun, hcall'', hevent', hstart', hfinished⟩ :=
        ih _ (hrest ▸ hlt) (hlist.step rfl hstep) (hpush.step hlist hstep) hcall' rfl
      refine ⟨n + 1, u, call'', ?_, hcall'', hevent'.trans hevent, hstart'.trans hstart, hfinished⟩
      rw [List.replicate_succ, Machine.run, hstep]
      exact hrun

/-- What the client list is for. -/
structure ListServes (s : DtxSystem) : Prop where
  list : s.ListOk
  nodup : s.clients.Nodup
  mem_clients : ∀ c, c ∈ s.clients ↔ c < s.nextClient ∧ s.closedAt c = none
  /-- A push that is over has reached every open client that was open when it began. -/
  reached : ∀ p call, s.pushes p = some call → call.cursor = none →
    ∀ c ∈ s.clients, s.openedAt c < call.start → (p, call.event) ∈ s.arrivals c
  finishes : ∀ p call, s.pushes p = some call →
    ∃ n t call', Machine.run step s (List.replicate n (.pushStep p)) = some t ∧
      t.pushes p = some call' ∧ call'.event = call.event ∧ call'.start = call.start ∧
      call'.cursor = none
  notFreed : ∀ p call c, s.pushes p = some call → call.cursor = some c → s.freed c = false
  /-- A client that is released is taken out of the list, and no other. -/
  release : ∀ c ∈ s.clients, (∀ r < s.nextRead, s.isReading c r = false) →
    ∃ t, s.step (.release c) = some t ∧
      t.dev.clientList.Represents none ((s.clients.erase c).map some)
  «open» : s.dev.mdev = true → ∀ kzalloc, ∃ t, s.step (.open kzalloc) = some t
  push : s.dev.handler = true → ∀ event, ∃ t, s.step (.push event) = some t

lemma ListInv.exists_release (h : s.ListInv) {c : ℕ} (hc : c ∈ s.clients)
    (hreads : ∀ r < s.nextRead, s.isReading c r = false) : ∃ t, s.step (.release c) = some t ∧
      t.dev.clientList.Represents none ((s.clients.erase c).map some) := by
  have hguard : (List.range s.nextRead).any (s.isReading c) = false := by
    rw [List.any_eq_false]
    intro r hr
    rw [hreads r (List.mem_range.mp hr)]
    exact Bool.false_ne_true
  obtain ⟨l, hl, hrep, -⟩ := h.listDelRcu hc
  have hstep : s.step (.release c) = some { s with
      dev := { s.dev with clientList := l }
      clients := s.clients.erase c
      clock := s.clock + 1
      closedAt := Function.update s.closedAt c (some s.clock) } := by
    simp only [DtxSystem.step]
    rw [if_pos ⟨hc, hguard⟩]
    unfold surfaceDtxRelease
    rw [hl]
    rfl
  exact ⟨_, hstep, hrep⟩

lemma ListInv.exists_open (h : s.ListInv) (hmdev : s.dev.mdev = true) (kzalloc : Bool) :
    ∃ t, s.step (.open kzalloc) = some t := by
  simp only [DtxSystem.step]
  rw [if_pos hmdev]
  unfold surfaceDtxOpen
  split_ifs
  · exact ⟨s, rfl⟩
  · rcases h.list with ⟨-, -, hfalse, -⟩ | hlist
    · rw [hmdev] at hfalse
      cases hfalse
    obtain ⟨l, hl, -⟩ := hlist.listAddTailRcu h.notMem_new
    dsimp only
    rw [hl]
    exact ⟨_, rfl⟩

lemma ListInv.exists_push (h : s.ListInv) (hhandler : s.dev.handler = true)
    (event : SurfaceDtxEvent) : ∃ t, s.step (.push event) = some t := by
  rcases h.list with ⟨-, -, -, hfalse⟩ | hlist
  · rw [hhandler] at hfalse
    cases hfalse
  · simp only [DtxSystem.step, surfaceDtxPushEvent]
    rw [hlist.next_head]
    exact ⟨_, rfl⟩

/-- Everything a run with well-formed lists keeps. -/
structure DeliveryInv (s : DtxSystem) : Prop where
  list : s.ListInv
  push : s.PushInv
  freed : s.FreedInv

lemma deliveryInv_static : static.DeliveryInv :=
  ⟨listInv_static, pushInv_static, freedInv_static⟩

lemma DeliveryInv.step (h : s.DeliveryInv) {a : DtxAction} (hkeeps : a.keepsList s = true)
    (hstep : s.step a = some t) : t.DeliveryInv where
  list := h.list.step hkeeps hstep
  push := h.push.step h.list hstep
  freed := h.freed.step h.list h.push hstep

lemma DeliveryInv.serves (h : s.DeliveryInv) : s.ListServes where
  list := h.list.list
  nodup := h.list.sorted.imp Nat.ne_of_lt
  mem_clients := h.list.mem_clients
  reached := by
    intro p call hcall hfinished c hc hopened
    apply (h.push p call hcall).reached c hc hopened
    intro x hx
    rw [hfinished] at hx
    cases hx
  finishes _ _ hcall := push_finishes h.list h.push hcall
  notFreed _ _ _ hcall hcursor := h.freed.cursor h.push hcall hcursor
  release _ hc hreads := h.list.exists_release hc hreads
  «open» := h.list.exists_open
  push := h.list.exists_push

end DtxSystem

/-- As long as every probe that gets as far as `INIT_LIST_HEAD` does so while no file is open,
the client list consists of the open files, every push reaches all that are open before it, and
a release takes out its own client. A step from such a state keeps the list exactly if it is
such a step. -/
theorem dtxClientList_serves (s : DtxSystem)
    (hs : Machine.Reaches DtxSystem.step (fun s a => a.keepsList s = true) .static s) :
    s.ListServes ∧ ∀ (t : DtxSystem) (a : DtxAction), s.step a = some t →
      (t.ListOk ↔ a.keepsList s = true) := by
  have hinv : s.DeliveryInv := hs.invariant DtxSystem.deliveryInv_static
    fun t a u ht hkeeps hu => ht.step hkeeps hu
  exact ⟨hinv.serves, fun t a hstep => DtxSystem.listOk_step_iff hinv.list hstep⟩

/-- The EC is in laptop mode. -/
def laptopMode : SurfaceDtxEvent := ⟨0x11, 0x0D, 1, 0⟩

/-- Two files are open when an event is pushed. One is released while the push is at it, the
device is unbound, and the push still reaches the other one. -/
theorem dtxClientList_serves_release :
    ∃ s, Machine.run DtxSystem.step .static [.probe goodDtxProbe, .open true, .open true,
        .push laptopMode, .pushStep 0, .release 0, .remove, .pushStep 0, .pushStep 0, .pushStep 0,
        .free 0] = some s ∧
      s.ListServes ∧ s.clients = [1] ∧ s.arrivals 1 = [(0, laptopMode)] := by
  obtain ⟨s, hs⟩ : ∃ s, Machine.run DtxSystem.step .static [.probe goodDtxProbe, .open true,
      .open true, .push laptopMode, .pushStep 0, .release 0, .remove, .pushStep 0, .pushStep 0,
      .pushStep 0, .free 0] = some s := ⟨_, rfl⟩
  have hmeets : Machine.Meets DtxSystem.step (fun s a => a.keepsList s = true) .static
      [.probe goodDtxProbe, .open true, .open true, .push laptopMode, .pushStep 0, .release 0,
        .remove, .pushStep 0, .pushStep 0, .pushStep 0, .free 0] := by decide +kernel
  have hserves := (dtxClientList_serves s (Machine.reaches_of_run hs hmeets)).1
  refine ⟨s, hs, hserves, ?_, ?_⟩
  · cases hs
    rfl
  · cases hs
    rfl

/-- A file stays open while the device is unbound and bound again. When it is released, the list
loses the file that has been opened since, and a push does not reach it. -/
theorem dtxClientList_loses :
    ∃ s, Machine.run DtxSystem.step .static [.probe goodDtxProbe, .open true, .remove,
        .probe goodDtxProbe, .open true, .release 0, .push laptopMode] = some s ∧
      s.clients = [1] ∧ s.dev.clientList.next none = some none ∧ ¬s.ListOk ∧
      ∃ call, s.pushes 0 = some call ∧ call.cursor = none ∧ s.openedAt 1 < call.start ∧
        s.arrivals 1 = [] := by
  obtain ⟨s, hs⟩ : ∃ s, Machine.run DtxSystem.step .static [.probe goodDtxProbe, .open true,
      .remove, .probe goodDtxProbe, .open true, .release 0, .push laptopMode] = some s := ⟨_, rfl⟩
  have hclients : s.clients = [1] := by
    cases hs
    rfl
  have hhead : s.dev.clientList.next none = some none := by
    cases hs
    rfl
  refine ⟨s, hs, hclients, hhead, fun hlist => ?_, ⟨laptopMode, 3, none, false⟩, ?_, rfl, ?_, ?_⟩
  · rcases hlist with ⟨-, hnil, -⟩ | hlist
    · rw [hclients] at hnil
      cases hnil
    · rw [hlist.next_head] at hhead
      simp only [hclients] at hhead
      cases hhead
  · cases hs
    rfl
  · cases hs
    decide
  · cases hs
    rfl

end SurfaceSam
