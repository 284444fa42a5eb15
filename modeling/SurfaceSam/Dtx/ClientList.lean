import SurfaceSam.Dtx.Clients

/-!
# The client list

As long as no file is open when the driver is bound to its device, the client list consists
of the open files, in the order they have been opened. A client that has been released still
leads to those behind it, so that a push which walks the list meanwhile misses none of the
clients that were open when it began.
-/

namespace SurfaceSam

open Devlib

namespace DtxSystem

/-- Before the first binding there is no list, and nothing that could use it is registered;
from then on it consists of the open files. -/
def ListOk (s : DtxSystem) : Prop :=
  (s.dev.clientList = .null ∧ s.clients = [] ∧ s.dev.mdev = false ∧ s.dev.handler = false) ∨
    s.dev.clientList.Represents none (s.clients.map some)

/-- Where a client released at `time` leads: to a client released later, if at all, and past
none that was opened before. -/
def Stale (s : DtxSystem) (c time : ℕ) : Prop :=
  ∃ next, s.dev.clientList.next (some c) = some next ∧
    (∀ x, next = some x → c < x ∧ x < s.nextClient ∧ ∀ time', s.closedAt x = some time' → time < time') ∧
    ∀ y ∈ s.clients, c < y → (∀ x, next = some x → y < x) → time < s.openedAt y

structure ListInv (s : DtxSystem) : Prop where
  list : s.ListOk
  sorted : s.clients.Pairwise (· < ·)
  mem_clients : ∀ c, c ∈ s.clients ↔ c < s.nextClient ∧ s.closedAt c = none
  closedAt_lt : ∀ c time, s.closedAt c = some time → c < s.nextClient ∧ time < s.clock
  openedAt_lt : ∀ c < s.nextClient, s.openedAt c < s.clock
  stale : ∀ c time, s.closedAt c = some time → s.Stale c time

variable {s t : DtxSystem}

/-- A client leads where it did, if its pointer stays and nothing has happened since to those it
leads past. -/
lemma Stale.later {c time : ℕ} (h : s.Stale c time)
    (hnext : t.dev.clientList.next (some c) = s.dev.clientList.next (some c))
    (hlt : s.nextClient ≤ t.nextClient)
    (hclosed : ∀ x, c < x → ∀ time', t.closedAt x = some time' →
      s.closedAt x = some time' ∨ time < time')
    (hclients : ∀ y ∈ t.clients, y ∈ s.clients ∧ s.openedAt y = t.openedAt y ∨
      time < t.openedAt y) : t.Stale c time := by
  obtain ⟨next, hnext', hbehind, hpast⟩ := h
  refine ⟨next, hnext.trans hnext', fun x hx => ?_, fun y hy hcy hyx => ?_⟩
  · obtain ⟨hcx, hx_lt, hlater⟩ := hbehind x hx
    refine ⟨hcx, Nat.lt_of_lt_of_le hx_lt hlt, fun time' htime' => ?_⟩
    rcases hclosed x hcx time' htime' with hbefore | hafter
    · exact hlater time' hbefore
    · exact hafter
  · rcases hclients y hy with ⟨hmem, heq⟩ | hafter
    · exact heq ▸ hpast y hmem hcy hyx
    · exact hafter

lemma listInv_static : static.ListInv where
  list := .inl ⟨rfl, rfl, rfl, rfl⟩
  sorted := List.Pairwise.nil
  mem_clients c := iff_of_false List.not_mem_nil fun h => Nat.not_lt_zero c h.1
  closedAt_lt := by
    intro c time h
    cases h
  openedAt_lt c h := absurd h (Nat.not_lt_zero c)
  stale := by
    intro c time h
    cases h

/-- The steps that leave list and files alone. -/
structure SameList (s t : DtxSystem) : Prop where
  clientList : t.dev.clientList = s.dev.clientList
  mdev : s.dev.mdev = false → t.dev.mdev = false
  handler : s.dev.handler = false → t.dev.handler = false
  clients : t.clients = s.clients
  nextClient : t.nextClient = s.nextClient
  closedAt : t.closedAt = s.closedAt
  openedAt : t.openedAt = s.openedAt
  clock : s.clock ≤ t.clock

lemma ListInv.congr (h : s.ListInv) (hsame : SameList s t) : t.ListInv where
  list := by
    unfold ListOk
    rw [hsame.clientList, hsame.clients]
    rcases h.list with ⟨hnull, hclients, hmdev, hhandler⟩ | hlist
    · exact .inl ⟨hnull, hclients, hsame.mdev hmdev, hsame.handler hhandler⟩
    · exact .inr hlist
  sorted := by
    rw [hsame.clients]
    exact h.sorted
  mem_clients := by
    rw [hsame.clients, hsame.nextClient, hsame.closedAt]
    exact h.mem_clients
  closedAt_lt := by
    rw [hsame.closedAt, hsame.nextClient]
    intro c time hc
    obtain ⟨hlt, htime⟩ := h.closedAt_lt c time hc
    exact ⟨hlt, Nat.lt_of_lt_of_le htime hsame.clock⟩
  openedAt_lt := by
    rw [hsame.nextClient, hsame.openedAt]
    intro c hc
    exact Nat.lt_of_lt_of_le (h.openedAt_lt c hc) hsame.clock
  stale := by
    intro c time hc
    apply (h.stale c time (hsame.closedAt ▸ hc)).later
    · rw [hsame.clientList]
    · exact Nat.le_of_eq hsame.nextClient.symm
    · exact fun x _ time' hx => .inl (hsame.closedAt ▸ hx)
    · exact fun y hy => .inl ⟨hsame.clients ▸ hy, (congrFun hsame.openedAt y).symm⟩

lemma ListInv.notMem_new (h : s.ListInv) : some s.nextClient ∉ none :: s.clients.map some := by
  intro hmem
  rcases List.mem_cons.mp hmem with heq | hmem
  · cases heq
  · obtain ⟨c, hc, heq⟩ := List.mem_map.mp hmem
    have hlt := ((h.mem_clients c).mp hc).1
    rw [Option.some_inj.mp heq] at hlt
    exact Nat.lt_irrefl _ hlt

lemma ListInv.closedAt_new (h : s.ListInv) : s.closedAt s.nextClient = none := by
  cases hclosed : s.closedAt s.nextClient with
  | none => rfl
  | some time => exact absurd (h.closedAt_lt _ time hclosed).1 (Nat.lt_irrefl _)

/-- A released client is not in the list. -/
lemma ListInv.notMem_closed (h : s.ListInv) {c time : ℕ} (hc : s.closedAt c = some time) :
    some c ∉ none :: s.clients.map some := by
  intro hmem
  rcases List.mem_cons.mp hmem with heq | hmem
  · cases heq
  · obtain ⟨x, hx, heq⟩ := List.mem_map.mp hmem
    have hopen := ((h.mem_clients x).mp hx).2
    rw [Option.some_inj.mp heq, hc] at hopen
    cases hopen

lemma ListInv.open (h : s.ListInv) {kzalloc : Bool}
    (hopen : s.step (.open kzalloc) = some t) : t.ListInv := by
  obtain rfl | ⟨clientList, hadd, rfl⟩ := open_cases hopen
  · exact h
  rcases h.list with ⟨hnull, -⟩ | hlist
  · rw [hnull] at hadd
    cases hadd
  obtain ⟨l, hl, hrep, hframe⟩ := hlist.listAddTailRcu h.notMem_new
  cases hadd.symm.trans hl
  refine ⟨.inr ?_, ?_, fun c => ?_, fun c time hc => ?_, fun c hc => ?_, fun c time hc => ?_⟩
  · rw [List.map_append]
    exact hrep
  · apply List.pairwise_append.mpr
    refine ⟨h.sorted, List.pairwise_singleton _ _, fun c hc x hx => ?_⟩
    rw [List.mem_singleton.mp hx]
    exact ((h.mem_clients c).mp hc).1
  · rw [List.mem_append, List.mem_singleton, h.mem_clients]
    constructor
    · rintro (⟨hlt, hclosed⟩ | rfl)
      · exact ⟨Nat.lt_succ_of_lt hlt, hclosed⟩
      · exact ⟨Nat.lt_succ_self _, h.closedAt_new⟩
    · rintro ⟨hlt, hclosed⟩
      rcases Nat.lt_succ_iff_lt_or_eq.mp hlt with hlt | heq
      · exact .inl ⟨hlt, hclosed⟩
      · exact .inr heq
  · obtain ⟨hlt, htime⟩ := h.closedAt_lt c time hc
    exact ⟨Nat.lt_succ_of_lt hlt, Nat.lt_succ_of_lt htime⟩
  · change Function.update s.openedAt s.nextClient s.clock c < s.clock + 1
    rcases Nat.lt_succ_iff_lt_or_eq.mp hc with hlt | rfl
    · rw [Function.update_of_ne (Nat.ne_of_lt hlt)]
      exact Nat.lt_succ_of_lt (h.openedAt_lt c hlt)
    · rw [Function.update_self]
      exact Nat.lt_succ_self _
  · obtain ⟨hlt, htime⟩ := h.closedAt_lt c time hc
    apply (h.stale c time hc).later
    · apply hframe
      intro hmem
      rcases List.mem_cons.mp hmem with heq | hmem
      · exact absurd (Option.some_inj.mp heq) (Nat.ne_of_lt hlt)
      · exact h.notMem_closed hc hmem
    · exact Nat.le_succ _
    · exact fun x _ time' hx => .inl hx
    · intro y hy
      change y ∈ s.clients ∧ s.openedAt y = Function.update s.openedAt s.nextClient s.clock y ∨
        time < Function.update s.openedAt s.nextClient s.clock y
      rcases List.mem_append.mp hy with hy | hy
      · have hne : y ≠ s.nextClient := Nat.ne_of_lt ((h.mem_clients y).mp hy).1
        exact .inl ⟨hy, (Function.update_of_ne hne _ _).symm⟩
      · rw [List.mem_singleton.mp hy, Function.update_self]
        exact .inr htime

/-- Where a client of the list leads. -/
lemma next_client (hlist : s.dev.clientList.Represents none (s.clients.map some))
    (hsorted : s.clients.Pairwise (· < ·)) {c : ℕ} (hc : c ∈ s.clients) :
    ∃ next, s.dev.clientList.next (some c) = some next ∧
      (∀ x, next = some x → c < x ∧ x ∈ s.clients) ∧
      ∀ y ∈ s.clients, c < y → ∃ x, next = some x ∧ x ≤ y := by
  obtain ⟨front, back, hclients⟩ := List.append_of_mem hc
  rw [hclients] at hlist hsorted ⊢
  rw [List.map_append, List.map_cons] at hlist
  obtain ⟨-, hback, hfront⟩ := List.pairwise_append.mp hsorted
  obtain ⟨hc_back, hback⟩ := List.pairwise_cons.mp hback
  have hfar (y : ℕ) (hy : y ∈ front ++ c :: back) (hcy : c < y) : y ∈ back := by
    rcases List.mem_append.mp hy with hy | hy
    · have hyc := hfront y hy c List.mem_cons_self
      omega
    · rcases List.mem_cons.mp hy with rfl | hy
      · exact absurd hcy (Nat.lt_irrefl _)
      · exact hy
  refine ⟨_, hlist.next_mem, ?_, fun y hy hcy => ?_⟩
  · intro x hx
    cases back with
    | nil => cases hx
    | cons b back =>
      obtain rfl : b = x := Option.some_inj.mp hx
      exact ⟨hc_back b List.mem_cons_self, List.mem_append_right _
        (List.mem_cons_of_mem c List.mem_cons_self)⟩
  · have hy := hfar y hy hcy
    cases back with
    | nil => cases hy
    | cons b back =>
      refine ⟨b, rfl, ?_⟩
      rcases List.mem_cons.mp hy with rfl | hy
      · exact Nat.le_refl _
      · exact Nat.le_of_lt ((List.pairwise_cons.mp hback).1 y hy)

lemma ListInv.represents (h : s.ListInv) {c : ℕ} (hc : c ∈ s.clients) :
    s.dev.clientList.Represents none (s.clients.map some) := by
  rcases h.list with ⟨-, hclients, -⟩ | hlist
  · rw [hclients] at hc
    cases hc
  · exact hlist

lemma ListInv.listDelRcu (h : s.ListInv) {c : ℕ} (hc : c ∈ s.clients) :
    ∃ l, s.dev.clientList.listDelRcu (some c) = some l ∧
      l.Represents none ((s.clients.erase c).map some) ∧
      ∀ y, (y = some c ∨ y ∉ none :: s.clients.map some) →
        l.next y = s.dev.clientList.next y := by
  have hmap := @List.map_erase ℕ DtxNode _ _ instBEqOfDecidableEq _ some
    (fun _ _ => Option.some_inj.mp) c s.clients
  rw [hmap]
  exact (h.represents hc).listDelRcu (List.mem_map_of_mem hc)

/-- A client of the list leads past none that is open. -/
lemma ListInv.stale_client (h : s.ListInv) {c : ℕ} (hc : c ∈ s.clients) (time : ℕ) :
    s.Stale c time := by
  obtain ⟨next, hnext, hbehind, hpast⟩ := next_client (h.represents hc) h.sorted hc
  refine ⟨next, hnext, fun x hx => ?_, fun y hy hcy hyx => ?_⟩
  · obtain ⟨hcx, hx⟩ := hbehind x hx
    obtain ⟨hlt, hclosed⟩ := (h.mem_clients x).mp hx
    refine ⟨hcx, hlt, fun time' htime' => ?_⟩
    rw [hclosed] at htime'
    cases htime'
  · obtain ⟨x, hx, hxy⟩ := hpast y hy hcy
    exact absurd (hyx x hx) (Nat.not_lt_of_le hxy)

lemma ListInv.release (h : s.ListInv) {c : ℕ} (hrelease : s.step (.release c) = some t) :
    t.ListInv := by
  obtain ⟨hc, clientList, hdel, rfl⟩ := release_cases hrelease
  have hnodup : s.clients.Nodup := h.sorted.imp Nat.ne_of_lt
  obtain ⟨l, hl, hrep, hframe⟩ := h.listDelRcu hc
  cases hdel.symm.trans hl
  have hopen := ((h.mem_clients c).mp hc)
  have herase (y : ℕ) : y ∈ s.clients.erase c ↔ y ≠ c ∧ y ∈ s.clients := hnodup.mem_erase_iff
  refine ⟨.inr hrep, h.sorted.sublist List.erase_sublist, fun y => ?_, fun y time hy => ?_,
    fun y hy => Nat.lt_succ_of_lt (h.openedAt_lt y hy), fun y time hy => ?_⟩
  · change y ∈ s.clients.erase c ↔ y < s.nextClient ∧ Function.update s.closedAt c _ y = none
    rw [herase, h.mem_clients]
    by_cases heq : y = c
    · rw [heq, Function.update_self]
      exact iff_of_false (fun hy => hy.1 rfl) (fun hy => by cases hy.2)
    · rw [Function.update_of_ne heq]
      exact and_iff_right heq
  · change Function.update s.closedAt c (some s.clock) y = some time at hy
    by_cases heq : y = c
    · rw [heq, Function.update_self] at hy
      cases hy
      rw [heq]
      exact ⟨hopen.1, Nat.lt_succ_self _⟩
    · rw [Function.update_of_ne heq] at hy
      obtain ⟨hlt, htime⟩ := h.closedAt_lt y time hy
      exact ⟨hlt, Nat.lt_succ_of_lt htime⟩
  · change Function.update s.closedAt c (some s.clock) y = some time at hy
    by_cases heq : y = c
    · -- the client released now leads to the one behind it in the list
      subst heq
      apply (h.stale_client hc time).later
      · exact hframe _ (.inl rfl)
      · exact Nat.le_refl _
      · intro x hyx time' hx
        exact .inl ((Function.update_of_ne (Nat.ne_of_gt hyx) _ _).symm.trans hx)
      · exact fun z hz => .inl ⟨List.mem_of_mem_erase hz, rfl⟩
    · rw [Function.update_of_ne heq] at hy
      apply (h.stale y time hy).later
      · exact hframe _ (.inr (h.notMem_closed hy))
      · exact Nat.le_refl _
      · intro x _ time' hx
        change Function.update s.closedAt c (some s.clock) x = some time' at hx
        by_cases hxc : x = c
        · rw [hxc, Function.update_self] at hx
          cases hx
          exact .inr (h.closedAt_lt y time hy).2
        · rw [Function.update_of_ne hxc] at hx
          exact .inl hx
      · exact fun z hz => .inl ⟨List.mem_of_mem_erase hz, rfl⟩

end DtxSystem

/-! ### Binding the driver -/

namespace SurfaceDtxDev

variable (d : SurfaceDtxDev)

/-- The probe gets as far as `INIT_LIST_HEAD`. -/
def initializesList (env : ProbeEnv) : Bool :=
  !env.failsEarly && env.inputRegisterDevice == 0 && !d.active

lemma unregisterInput_same : d.unregisterInput.clientList = d.clientList ∧
    d.unregisterInput.mdev = d.mdev ∧ d.unregisterInput.handler = d.handler := by
  unfold unregisterInput
  split
  · exact ⟨rfl, rfl, rfl⟩
  · exact ⟨rfl, rfl, rfl⟩

lemma surfaceSamDtxRemove_clientList : d.surfaceSamDtxRemove.clientList = d.clientList := by
  unfold surfaceSamDtxRemove
  split_ifs
  · rfl
  · exact (unregisterInput_same _).1

lemma surfaceSamDtxRemove_registered :
    (d.mdev = false → d.surfaceSamDtxRemove.mdev = false) ∧
      (d.handler = false → d.surfaceSamDtxRemove.handler = false) := by
  unfold surfaceSamDtxRemove
  split_ifs
  · exact ⟨id, id⟩
  · exact ⟨fun _ => rfl, fun _ => (unregisterInput_same _).2.2⟩

/-- A probe that does not get there registers nothing that uses the list. -/
lemma surfaceSamDtxProbe_registered (env : ProbeEnv) (h : ¬d.initializesList env = true) :
    (d.surfaceSamDtxProbe env).2.mdev = d.mdev ∧
      (d.surfaceSamDtxProbe env).2.handler = d.handler := by
  have hr := d.surfaceSamDtxProbe_result env
  generalize d.surfaceSamDtxProbe env = r at hr
  unfold initializesList at h
  cases hr with
  | early _ _ _ _ => exact ⟨rfl, rfl⟩
  | unregistered _ _ => exact ⟨rfl, rfl⟩
  | busy _ _ _ => exact (unregisterInput_same _).2
  | failed hlate hregister hinactive _ _ _ _ _ => simp [hlate, hregister, hinactive] at h
  | done hsucceeds hinactive =>
    simp only [ProbeEnv.succeeds, Bool.and_eq_true] at hsucceeds
    simp [hsucceeds, hinactive] at h

lemma surfaceSamDtxProbe_clientList (env : ProbeEnv) :
    (d.surfaceSamDtxProbe env).2.clientList =
      if d.initializesList env then d.clientList.initListHead none else d.clientList := by
  have hr := d.surfaceSamDtxProbe_result env
  generalize d.surfaceSamDtxProbe env = r at hr
  unfold initializesList
  cases hr with
  | early hearly _ _ _ =>
    rw [hearly]
    rfl
  | unregistered _ hregister =>
    rw [beq_eq_false_iff_ne.mpr hregister, Bool.and_false, Bool.false_and]
    rfl
  | busy _ _ hactive =>
    rw [hactive, Bool.not_true, Bool.and_false]
    exact (unregisterInput_same _).1
  | failed hlate hregister hinactive _ _ _ _ hlist =>
    rw [hlate, hregister, hinactive]
    exact hlist
  | done hsucceeds hinactive =>
    simp only [ProbeEnv.succeeds, Bool.and_eq_true] at hsucceeds
    rw [hsucceeds.1.1.1.1, hsucceeds.1.1.1.2, hinactive]
    rfl

end SurfaceDtxDev

/-- A probe that gets as far as `INIT_LIST_HEAD` does so while no file is open. -/
def DtxAction.keepsList (s : DtxSystem) : DtxAction → Bool
  | .probe env => !s.dev.initializesList env || s.clients.isEmpty
  | _ => true

namespace DtxSystem

variable {s t : DtxSystem}

/-- An empty list is set up anew. -/
lemma ListInv.initListHead (h : s.ListInv) {dev : SurfaceDtxDev}
    (hdev : dev.clientList = s.dev.clientList.initListHead none) (hclients : s.clients = []) :
    { s with dev := dev }.ListInv where
  list := by
    refine .inr ?_
    change dev.clientList.Represents none (s.clients.map some)
    rw [hdev, hclients]
    exact Links.Represents.init _ _
  sorted := h.sorted
  mem_clients := h.mem_clients
  closedAt_lt := h.closedAt_lt
  openedAt_lt := h.openedAt_lt
  stale := by
    intro c time hc
    apply (h.stale c time hc).later
    · change dev.clientList.next (some c) = s.dev.clientList.next (some c)
      rw [hdev]
      exact Function.update_of_ne (Option.some_ne_none c) (some none) s.dev.clientList.next
    · exact Nat.le_refl _
    · exact fun x _ time' hx => .inl hx
    · exact fun y hy => .inl ⟨hy, rfl⟩

/-- Setting up a list that is not empty loses it. -/
lemma not_listOk_initListHead {dev : SurfaceDtxDev}
    (hdev : dev.clientList = s.dev.clientList.initListHead none) (hclients : s.clients ≠ []) :
    ¬{ s with dev := dev }.ListOk := by
  have hhead : dev.clientList.next none = some none := by
    rw [hdev]
    exact Function.update_self none (some none) s.dev.clientList.next
  intro hlist
  obtain ⟨c, clients, hcons⟩ := List.exists_cons_of_ne_nil hclients
  rcases hlist with ⟨-, hnil, -⟩ | hlist
  · exact hclients hnil
  · have hrep : dev.clientList.Represents none (s.clients.map some) := hlist
    rw [hcons] at hrep
    have hnext := hrep.next_head
    rw [hhead] at hnext
    cases hnext

lemma sameList_readStep {r : ℕ} {interrupted : ℤ} {copied : Bool}
    (h : s.readStep r interrupted copied = some t) : SameList s t := by
  obtain ⟨call, call', -, -, rfl | ⟨-, rfl⟩⟩ := readStep_cases h
  · exact ⟨rfl, id, id, rfl, rfl, rfl, rfl, Nat.le_refl _⟩
  · exact ⟨rfl, id, id, rfl, rfl, rfl, rfl, Nat.le_refl _⟩

lemma sameList_pushStep {p : ℕ} (h : s.pushStep p = some t) : SameList s t := by
  obtain ⟨call, client, -, -, ⟨-, next, -, rfl⟩ | ⟨-, rfl⟩⟩ := pushStep_cases h
  · exact ⟨rfl, id, id, rfl, rfl, rfl, rfl, Nat.le_refl _⟩
  · exact ⟨rfl, id, id, rfl, rfl, rfl, rfl, Nat.le_refl _⟩

lemma ListInv.step {a : DtxAction} (h : s.ListInv) (hkeeps : a.keepsList s = true)
    (hstep : s.step a = some t) : t.ListInv := by
  cases a with
  | «open» kzalloc => exact h.open hstep
  | release c => exact h.release hstep
  | free c =>
    obtain ⟨time, -, -, rfl⟩ := kfreeClient_cases hstep
    exact h.congr ⟨rfl, id, id, rfl, rfl, rfl, rfl, Nat.le_refl _⟩
  | push event =>
    obtain ⟨first, -, rfl⟩ := surfaceDtxPushEvent_eq hstep
    exact h.congr ⟨rfl, id, id, rfl, rfl, rfl, rfl, Nat.le_succ _⟩
  | pushStep p => exact h.congr (sameList_pushStep hstep)
  | read c count nonblock buf =>
    obtain ⟨-, rfl⟩ := read_cases hstep
    exact h.congr ⟨rfl, id, id, rfl, rfl, rfl, rfl, Nat.le_refl _⟩
  | readStep r interrupted copied => exact h.congr (sameList_readStep hstep)
  | probe env =>
    cases hstep
    have hlist := s.dev.surfaceSamDtxProbe_clientList env
    split_ifs at hlist with hinit
    · have hclients : s.clients = [] := by
        simp only [DtxAction.keepsList, hinit, Bool.not_true, Bool.false_or] at hkeeps
        exact List.isEmpty_iff.mp hkeeps
      exact h.initListHead hlist hclients
    · obtain ⟨hmdev, hhandler⟩ := s.dev.surfaceSamDtxProbe_registered env hinit
      exact h.congr ⟨hlist, hmdev.trans, hhandler.trans, rfl, rfl, rfl, rfl, Nat.le_refl _⟩
  | remove =>
    cases hstep
    obtain ⟨hmdev, hhandler⟩ := s.dev.surfaceSamDtxRemove_registered
    exact h.congr ⟨s.dev.surfaceSamDtxRemove_clientList, hmdev, hhandler, rfl, rfl, rfl, rfl,
      Nat.le_refl _⟩

/-- The condition is exact. -/
lemma listOk_step_iff {a : DtxAction} (h : s.ListInv) (hstep : s.step a = some t) :
    t.ListOk ↔ a.keepsList s = true := by
  constructor
  · intro hlist
    cases a with
    | probe env =>
      cases hstep
      have hdev := s.dev.surfaceSamDtxProbe_clientList env
      by_contra hloses
      simp only [DtxAction.keepsList, Bool.or_eq_true, Bool.not_eq_true', not_or,
        Bool.not_eq_false, List.isEmpty_iff] at hloses
      rw [if_pos hloses.1] at hdev
      exact not_listOk_initListHead hdev hloses.2 hlist
    | _ => rfl
  · intro hkeeps
    exact (h.step hkeeps hstep).list

end DtxSystem

end SurfaceSam
