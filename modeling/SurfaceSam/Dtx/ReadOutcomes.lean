import SurfaceSam.Dtx.Rings

/-!
# How reads end

Several calls of `surface_dtx_read` at once, also on one file. No event is taken twice, and a
call with room for an event gets at least one or an error, as long as no other call takes the
last event of the file between its check, which is made without the lock, and its first event.
-/

namespace SurfaceSam

open Devlib

/-- The status of a wait that is interrupted by a signal. -/
@[simp] def erestartsys : ℤ := 512

/-- What happens while the driver is not bound anew. -/
def DtxAction.isUse : DtxAction → Bool
  | .probe _ => false
  | .readStep _ interrupted _ => interrupted == 0 || interrupted == -erestartsys
  | _ => true

/-- What a call with room for an event may return. -/
inductive ReadStatus (call : ReadCall) (active : Bool) : ℤ → Prop
  | events {n : ℕ} (pos : 0 < n) (fits : 4 * n ≤ call.count) :
    ReadStatus call active (4 * n : ℕ)
  | again (nonblock : call.nonblock = true) : ReadStatus call active (-eagain)
  | removed (inactive : active = false) : ReadStatus call active (-enodev)
  | faulted : ReadStatus call active (-efault)
  | interrupted (blocking : call.nonblock = false) : ReadStatus call active (-erestartsys)

lemma ReadStatus.ne_zero {call : ReadCall} {active : Bool} {status : ℤ}
    (h : ReadStatus call active status) : status ≠ 0 := by
  cases h with
  | events hpos _ => omega
  | again _ => simp
  | removed _ => simp
  | faulted => simp
  | interrupted _ => simp

/-- How far a call with room for an event has come. -/
def ReadCall.Proper (call : ReadCall) (active : Bool) : Prop :=
  match call.stage with
  | .waiting => call.nonblock = false
  | .copying read => ∃ n, read = 4 * n ∧ 4 * n ≤ call.count
  | .returned status => ReadStatus call active status
  | _ => True

/-- Calls stay proper when the device becomes inactive. -/
lemma ReadCall.Proper.mono {call : ReadCall} {active active' : Bool} (h : call.Proper active)
    (hactive : active = false → active' = false) : call.Proper active' := by
  unfold ReadCall.Proper at h ⊢
  cases hstage : call.stage with
  | returned status =>
    rw [hstage] at h
    cases h with
    | events hpos hfits => exact .events hpos hfits
    | again hnonblock => exact .again hnonblock
    | removed hinactive => exact .removed (hactive hinactive)
    | faulted => exact .faulted
    | interrupted hblocking => exact .interrupted hblocking
  | _ =>
    rw [hstage] at h
    exact h

/-- The next step of the call takes an event. -/
def ReadCall.takes (call : ReadCall) (isEmpty : Bool) : Bool :=
  match call.stage with
  | .copying read => decide (read + 4 ≤ call.count) && !isEmpty
  | _ => false

/-- An event that a read takes from the ring of a client, with the call that pushed it. -/
structure Dequeue where
  reader : ℕ
  client : ℕ
  entry : ℕ × SurfaceDtxEvent
  deriving DecidableEq

def Dequeue.Distinct (d d' : Dequeue) : Prop := d.client = d'.client → d.entry.1 ≠ d'.entry.1

namespace DtxSystem

/-- What the action takes. -/
def dequeue (s : DtxSystem) : DtxAction → Option Dequeue
  | .readStep r _ _ => (s.reads r).bind fun call =>
    if call.takes (s.ring call.client).isEmpty then
      (s.queue call.client).head?.map fun entry => ⟨r, call.client, entry⟩
    else none
  | _ => none

/-- What is taken in a run. -/
def dequeues : DtxSystem → List DtxAction → List Dequeue
  | _, [] => []
  | s, a :: as =>
    match s.step a with
    | none => []
    | some t => (s.dequeue a).toList ++ t.dequeues as

/-- Calls with room for an event that have returned have done so as they may. -/
def ReadsReturn (s : DtxSystem) : Prop :=
  ∀ r call status, s.reads r = some call → 4 ≤ call.count → call.stage = .returned status →
    ReadStatus call s.dev.active status

variable {s t : DtxSystem} {a : DtxAction}

lemma keepsList_of_isUse (ha : a.isUse = true) : a.keepsList s = true := by
  cases a with
  | probe env => cases ha
  | _ => rfl

/-! ### Each event is taken once -/

lemma ReadMove.popped_eq {active isEmpty : Bool} {interrupted : ℤ} {copied popped : Bool}
    {call : ReadCall} {stage : ReadStage}
    (h : ReadMove active isEmpty interrupted copied call popped stage) :
    popped = call.takes isEmpty := by
  unfold ReadCall.takes
  cases h with
  | full hstage hfull =>
    rw [hstage]
    simp [Nat.not_le.mpr hfull]
  | drained hstage hempty => simp [hstage, hempty]
  | copies hstage hfits hnonempty _ => simp [hstage, hfits, hnonempty]
  | faults hstage hfits hnonempty _ => simp [hstage, hfits, hnonempty]
  | tooSmall hstage | inactive hstage | enters hstage | again hstage | waits hstage
  | available hstage | wakes hstage | interrupted hstage | removed hstage | resumes hstage =>
    rw [hstage]

/-- Reads are of files that have been opened. -/
def ReadsOpened (s : DtxSystem) : Prop :=
  ∀ r call, s.reads r = some call → call.client < s.nextClient

lemma ReadsOpened.step (h : s.ReadsOpened) (hlist : s.ListInv) (hstep : s.step a = some t) :
    t.ReadsOpened := by
  intro r call hcall
  have hnext : s.nextClient ≤ t.nextClient := nextClient_le hstep
  cases readChange hstep hcall with
  | kept hreads _ => exact Nat.lt_of_lt_of_le (h r call hreads) hnext
  | begun hc _ hresult =>
    rw [hresult]
    exact Nat.lt_of_lt_of_le ((hlist.mem_clients _).mp hc).1 hnext
  | @moved _ _ _ before _ _ hreads _ hresult _ =>
    rw [hresult]
    exact Nat.lt_of_lt_of_le (h r before hreads) hnext

/-- What is taken is the first event of the queue, and gone from it afterwards. -/
lemma dequeued {d : Dequeue} (hstep : s.step a = some t)
    (hd : s.dequeue a = some d) :
    ∃ call, s.reads d.reader = some call ∧ d.client = call.client ∧
      s.queue d.client = d.entry :: t.queue d.client ∧ t.arrivals d.client = s.arrivals d.client := by
  cases a with
  | readStep r interrupted copied =>
    obtain ⟨call, popped, stage, buf, hcall, hmove, rfl⟩ := readStep_move hstep
    have hd : (if call.takes (s.ring call.client).isEmpty then
        (s.queue call.client).head?.map fun entry => (⟨r, call.client, entry⟩ : Dequeue)
        else none) = some d := by
      simpa [dequeue, hcall] using hd
    rw [← hmove.popped_eq] at hd
    cases popped with
    | false => cases hd
    | true =>
      obtain ⟨entry, hentry, rfl⟩ := Option.map_eq_some_iff.mp hd
      have hlog : ((s.popBuffer call.client).setRead r { call with stage := stage, buf := buf }).log
          call.client = s.log call.client ++ [.pop] := Function.update_self ..
      refine ⟨call, hcall, rfl, ?_, arrivals_of_pop hlog⟩
      have hqueue := queue_of_pop hlog
      exact (List.cons_head?_tail hentry).symm.trans (congrArg _ hqueue.symm)
  | _ => cases hd

/-- No event leaves a ring by a read unseen. -/
lemma exists_dequeue {c : ℕ} (h : s.RingsInv) (hstep : s.step a = some t)
    (hlog : t.log c = s.log c ++ [.pop]) :
    ∃ d, s.dequeue a = some d ∧ d.client = c ∧ d.entry.2 = (s.ring c).front := by
  have hgrown : t.log c ≠ s.log c := by
    intro hsame
    rw [hsame] at hlog
    simp at hlog
  cases ringChange hstep c with
  | same _ hsame => exact absurd hsame hgrown
  | fresh _ _ hnil =>
    rw [hnil] at hlog
    simp at hlog
  | push _ _ _ _ _ hpush =>
    rw [hpush] at hlog
    simp at hlog
  | @pop r interrupted copied call hcall hclient hnonempty _ _ =>
    subst hclient
    obtain ⟨first, hqueue, hfront, -⟩ := (h.rings call.client).queue_cons hnonempty
    obtain ⟨before, popped, stage, buf, hreads, hmove, rfl⟩ := readStep_move hstep
    obtain rfl : call = before := Option.some_inj.mp (hcall.symm.trans hreads)
    have htakes := hmove.popped_eq
    cases popped with
    | false => exact absurd rfl hgrown
    | true =>
      refine ⟨⟨r, call.client, first⟩, ?_, rfl, hfront⟩
      simp only [dequeue, hcall, Option.bind_some, ← htakes, if_true]
      rw [hqueue]
      rfl

/-- What the call `p` pushed onto the ring of the client is there no more. -/
structure Gone (s : DtxSystem) (c p : ℕ) : Prop where
  lt : c < s.nextClient
  arrived : p ∈ (s.arrivals c).map Prod.fst
  notMem : p ∉ (s.queue c).map Prod.fst

/-- It does not come back. -/
lemma Gone.step {c p : ℕ} (h : s.Gone c p) (hinv : s.RingsInv) (hstep : s.step a = some t) :
    t.Gone c p := by
  have hlt : c < t.nextClient :=
    Nat.lt_of_lt_of_le h.lt (nextClient_le hstep)
  cases ringChange hstep c with
  | same _ hlog =>
    refine ⟨hlt, ?_, ?_⟩
    · unfold arrivals
      rw [hlog]
      exact h.arrived
    · unfold queue
      rw [hlog]
      exact h.notMem
  | fresh hnew _ _ => exact absurd hnew (Nat.ne_of_lt h.lt)
  | @push q call hcall hcursor hundelivered _ _ hlog =>
    have hne : p ≠ q := by
      rintro rfl
      exact (hinv.arrivals c).notMem hcall hcursor hundelivered h.arrived
    refine ⟨hlt, ?_, ?_⟩
    · rw [arrivals_of_push hlog, List.map_append]
      exact List.mem_append_left _ h.arrived
    · rw [queue_of_push hlog]
      intro hmem
      have hsub : BoundedQueue.push 15 (s.queue c) (q, call.event) ⊆
          s.queue c ++ [(q, call.event)] := List.drop_subset _ _
      have hmem' := List.map_subset Prod.fst hsub hmem
      rw [List.map_append, List.mem_append] at hmem'
      cases hmem' with
      | inl hold => exact h.notMem hold
      | inr hnew => exact hne (List.mem_singleton.mp hnew)
  | pop _ _ _ _ hlog =>
    refine ⟨hlt, ?_, ?_⟩
    · rw [arrivals_of_pop hlog]
      exact h.arrived
    · rw [queue_of_pop hlog]
      exact fun hmem => h.notMem (List.map_subset Prod.fst (List.tail_suffix _).subset hmem)

/-- What is taken was there, and then is gone. -/
lemma gone_of_dequeue {d : Dequeue} (hinv : s.RingsInv) (hreads : s.ReadsOpened)
    (hstep : s.step a = some t) (hd : s.dequeue a = some d) :
    (∀ c p, s.Gone c p → d.client = c → d.entry.1 ≠ p) ∧ t.Gone d.client d.entry.1 := by
  obtain ⟨call, hcall, hclient, hqueue, harrivals⟩ := dequeued hstep hd
  have hsuffix : s.queue d.client <:+ s.arrivals d.client := BoundedQueue.run_suffix
  have hnodup : ((s.queue d.client).map Prod.fst).Nodup :=
    (hinv.arrivals d.client).nodup.sublist (hsuffix.sublist.map Prod.fst)
  rw [hqueue, List.map_cons, List.nodup_cons] at hnodup
  have hmem : d.entry.1 ∈ (s.queue d.client).map Prod.fst := by
    rw [hqueue]
    exact List.mem_cons_self
  constructor
  · rintro c p hgone rfl rfl
    exact hgone.notMem hmem
  · refine ⟨?_, ?_, hnodup.1⟩
    · have hlt : call.client < s.nextClient := hreads _ call hcall
      rw [hclient]
      exact Nat.lt_of_lt_of_le hlt (nextClient_le hstep)
    · rw [harrivals]
      exact List.map_subset Prod.fst hsuffix.subset hmem

/-- What the steps of a run keep for its dequeues. -/
structure TakingInv (s : DtxSystem) : Prop where
  rings : s.RingsInv
  opened : s.ReadsOpened

lemma TakingInv.step (h : s.TakingInv) (ha : a.isUse = true) (hstep : s.step a = some t) :
    t.TakingInv :=
  ⟨h.rings.step (keepsList_of_isUse ha) hstep, h.opened.step h.rings.delivery.list hstep⟩

lemma dequeues_cons {as : List DtxAction} (hstep : s.step a = some t) :
    s.dequeues (a :: as) = (s.dequeue a).toList ++ t.dequeues as := by
  rw [dequeues, hstep]

lemma dequeues_stuck {as : List DtxAction} (hstep : s.step a = none) :
    s.dequeues (a :: as) = [] := by
  rw [dequeues, hstep]

/-- What is gone is not taken later. -/
lemma Gone.dequeues {c p : ℕ} {as : List DtxAction} (h : s.Gone c p) (hinv : s.TakingInv)
    (has : ∀ a ∈ as, a.isUse = true) : ∀ d ∈ s.dequeues as, d.client = c → d.entry.1 ≠ p := by
  induction as generalizing s with
  | nil => exact List.forall_mem_nil _
  | cons a as ih =>
    rw [List.forall_mem_cons] at has
    cases hstep : s.step a with
    | none =>
      rw [dequeues_stuck hstep]
      exact List.forall_mem_nil _
    | some t =>
      rw [dequeues_cons hstep]
      intro d hd
      rcases List.mem_append.mp hd with hd | hd
      · exact (gone_of_dequeue hinv.rings hinv.opened hstep (Option.mem_toList.mp hd)).1 c p h
      · exact ih (h.step hinv.rings hstep) (hinv.step has.1 hstep) has.2 d hd

/-- No event of a ring is taken twice, whoever reads. -/
lemma dequeues_distinct {as : List DtxAction} (hinv : s.TakingInv)
    (has : ∀ a ∈ as, a.isUse = true) : (s.dequeues as).Pairwise Dequeue.Distinct := by
  induction as generalizing s with
  | nil => exact List.Pairwise.nil
  | cons a as ih =>
    rw [List.forall_mem_cons] at has
    cases hstep : s.step a with
    | none =>
      rw [dequeues_stuck hstep]
      exact List.Pairwise.nil
    | some t =>
      have hrest := ih (hinv.step has.1 hstep) has.2
      rw [dequeues_cons hstep]
      cases hd : s.dequeue a with
      | none => exact hrest
      | some d =>
        have hgone : t.Gone d.client d.entry.1 :=
          (gone_of_dequeue hinv.rings hinv.opened hstep hd).2
        refine List.pairwise_cons.mpr ⟨fun d' hd' hclient => ?_, hrest⟩
        have hne := hgone.dequeues (hinv.step has.1 hstep) has.2 d' hd' hclient.symm
        exact hne.symm

/-! ### What a call returns -/

/-- A step that finds an event where the call expects one keeps the call proper. -/
lemma ReadMove.proper {active isEmpty copied popped : Bool} {interrupted : ℤ} {call : ReadCall}
    {stage : ReadStage} (h : ReadMove active isEmpty interrupted copied call popped stage)
    (hcall : call.Proper active) (hcount : 4 ≤ call.count)
    (hstatus : interrupted = 0 ∨ interrupted = -erestartsys)
    (hfinds : call.stage = .copying 0 → isEmpty = false) (buf : Memory UInt8) :
    ({ call with stage := stage, buf := buf } : ReadCall).Proper active := by
  unfold ReadCall.Proper at hcall ⊢
  cases h with
  | tooSmall _ hsmall => omega
  | inactive _ hinactive => exact ReadStatus.removed hinactive
  | enters _ _ _ => trivial
  | again _ _ hnonblock => exact ReadStatus.again hnonblock
  | waits _ _ hblocking => exact hblocking
  | available _ _ => exact ⟨0, rfl, Nat.zero_le _⟩
  | wakes _ _ => trivial
  | interrupted hstage hnonzero =>
    rw [hstage] at hcall
    rw [hstatus.resolve_left hnonzero]
    exact ReadStatus.interrupted hcall
  | removed _ hinactive => exact ReadStatus.removed hinactive
  | resumes _ _ => exact ⟨0, rfl, Nat.zero_le _⟩
  | full hstage hfull =>
    rw [hstage] at hcall
    obtain ⟨n, rfl, hfits⟩ := hcall
    exact ReadStatus.events (by omega) hfits
  | drained hstage hempty =>
    rw [hstage] at hcall hfinds
    obtain ⟨n, rfl, hfits⟩ := hcall
    have hpos : 0 < n := by
      apply Nat.pos_of_ne_zero
      rintro rfl
      rw [hfinds rfl] at hempty
      cases hempty
    exact ReadStatus.events hpos hfits
  | copies hstage hfits _ _ =>
    rw [hstage] at hcall
    obtain ⟨n, rfl, -⟩ := hcall
    exact ⟨n + 1, rfl, hfits⟩
  | faults _ _ _ _ => exact ReadStatus.faulted

/-- An inactive device is only activated by a probe. -/
lemma active_step (ha : a.isUse = true) (hstep : s.step a = some t)
    (hactive : s.dev.active = false) : t.dev.active = false := by
  cases a with
  | «open» kzalloc =>
    obtain rfl | ⟨clientList, -, rfl⟩ := open_cases hstep
    · exact hactive
    · exact hactive
  | release c =>
    obtain ⟨-, clientList, -, rfl⟩ := release_cases hstep
    exact hactive
  | free c =>
    obtain ⟨time, -, -, rfl⟩ := kfreeClient_cases hstep
    exact hactive
  | push event =>
    obtain ⟨first, -, rfl⟩ := surfaceDtxPushEvent_eq hstep
    exact hactive
  | pushStep p =>
    obtain ⟨call, c, -, -, ⟨-, node, -, rfl⟩ | ⟨-, rfl⟩⟩ := pushStep_cases hstep
    · exact hactive
    · exact hactive
  | read c count nonblock buf =>
    obtain ⟨-, rfl⟩ := read_cases hstep
    exact hactive
  | readStep r interrupted copied =>
    obtain ⟨call, call', -, -, rfl | ⟨-, rfl⟩⟩ := readStep_cases hstep
    · exact hactive
    · exact hactive
  | probe env => cases ha
  | remove =>
    cases hstep
    change s.dev.surfaceSamDtxRemove.active = false
    rw [SurfaceDtxDev.surfaceSamDtxRemove_inactive hactive]
    exact hactive

/-! ### The event that a call has found -/

end DtxSystem

/-- The call has found an event, and has not yet come to take it. -/
def ReadCall.hasFound (call : ReadCall) (active : Bool) : Bool :=
  call.stage == .copying 0 || call.stage == .woken && active

lemma ReadCall.hasFound_iff {call : ReadCall} {active : Bool} :
    call.hasFound active = true ↔
      call.stage = .copying 0 ∨ call.stage = .woken ∧ active = true := by
  simp [ReadCall.hasFound]

namespace DtxSystem

/-- Another call with room for an event has found one in the ring of the client. -/
def isAwaited (s : DtxSystem) (r c : ℕ) : Bool :=
  (List.range s.nextRead).any fun r' => r' != r && (s.reads r').any fun call =>
    call.client == c && decide (4 ≤ call.count) && call.hasFound s.dev.active

/-- No call takes the last event of a file that another call has found and has still to take. -/
def sparesFound (s : DtxSystem) : DtxAction → Bool
  | .readStep r _ _ => (s.reads r).all fun call =>
    !call.takes (s.ring call.client).isEmpty || !(s.ring call.client).pop.isEmpty ||
      !s.isAwaited r call.client
  | _ => true

variable {s t : DtxSystem} {a : DtxAction}

def ReadsNumbered (s : DtxSystem) : Prop :=
  ∀ r call, s.reads r = some call → r < s.nextRead

lemma nextRead_le (hstep : s.step a = some t) : s.nextRead ≤ t.nextRead := by
  cases ha : a.isRead with
  | false => exact Nat.le_of_eq (reads_same hstep ha).2.symm
  | true =>
    cases a with
    | read c count nonblock buf =>
      obtain ⟨-, rfl⟩ := read_cases hstep
      exact Nat.le_succ _
    | readStep r interrupted copied =>
      obtain ⟨call, call', -, -, rfl | ⟨-, rfl⟩⟩ := readStep_cases hstep
      · exact Nat.le_refl _
      · exact Nat.le_refl _
    | _ => cases ha

lemma ReadsNumbered.step (h : s.ReadsNumbered) (hstep : s.step a = some t) :
    t.ReadsNumbered := by
  intro r call hcall
  have hnext : s.nextRead ≤ t.nextRead := nextRead_le hstep
  cases readChange hstep hcall with
  | kept hreads _ => exact Nat.lt_of_lt_of_le (h r call hreads) hnext
  | begun _ hnew _ =>
    obtain ⟨-, rfl⟩ := read_cases hstep
    rw [hnew]
    exact Nat.lt_succ_self _
  | @moved _ _ _ before _ _ hreads _ _ _ => exact Nat.lt_of_lt_of_le (h r before hreads) hnext

lemma isAwaited_iff (h : s.ReadsNumbered) {r c : ℕ} :
    s.isAwaited r c = true ↔ ∃ r' call, r' ≠ r ∧ s.reads r' = some call ∧ call.client = c ∧
      4 ≤ call.count ∧ call.hasFound s.dev.active = true := by
  rw [isAwaited, List.any_eq_true]
  constructor
  · rintro ⟨r', -, hr'⟩
    rw [Bool.and_eq_true, bne_iff_ne, Option.any_eq_true] at hr'
    obtain ⟨hne, call, hcall, hfound⟩ := hr'
    simp only [Bool.and_eq_true, beq_iff_eq, decide_eq_true_eq] at hfound
    exact ⟨r', call, hne, hcall, hfound.1.1, hfound.1.2, hfound.2⟩
  · rintro ⟨r', call, hne, hcall, hclient, hcount, hfound⟩
    refine ⟨r', List.mem_range.mpr (h r' call hcall), ?_⟩
    simp [hne, hcall, hclient, hcount, hfound]

lemma sparesFound_iff (h : s.ReadsNumbered) {r : ℕ} {interrupted : ℤ} {copied : Bool}
    {call : ReadCall} (hcall : s.reads r = some call) :
    s.sparesFound (.readStep r interrupted copied) = true ↔
      (call.takes (s.ring call.client).isEmpty = true →
        (s.ring call.client).pop.isEmpty = true → ∀ r' call', r' ≠ r →
          s.reads r' = some call' → call'.client = call.client → 4 ≤ call'.count →
            call'.hasFound s.dev.active = false) := by
  have hawaited := isAwaited_iff h (r := r) (c := call.client)
  simp only [sparesFound, hcall, Option.all_some, Bool.or_eq_true, Bool.not_eq_true', or_assoc]
  constructor
  · rintro hspares htakes hlast r' call' hne hcall' hclient hcount
    rw [htakes, hlast] at hspares
    have hnot := (hspares.resolve_left Bool.noConfusion).resolve_left Bool.noConfusion
    by_contra hfound
    rw [hawaited.mpr ⟨r', call', hne, hcall', hclient, hcount, Bool.of_not_eq_false hfound⟩] at hnot
    cases hnot
  · intro hspares
    cases htakes : call.takes (s.ring call.client).isEmpty with
    | false => exact .inl rfl
    | true =>
      cases hlast : (s.ring call.client).pop.isEmpty with
      | false => exact .inr (.inl rfl)
      | true =>
        refine .inr (.inr (Bool.eq_false_iff.mpr fun hsome => ?_))
        obtain ⟨r', call', hne, hcall', hclient, hcount, hfound⟩ := hawaited.mp hsome
        rw [hspares htakes hlast r' call' hne hcall' hclient hcount] at hfound
        cases hfound

/-- A ring runs empty only by a read that takes its last event. -/
lemma nonempty_step {c : ℕ} (hinv : s.RingsInv) (hc : c < s.nextClient)
    (hstep : s.step a = some t) (hnonempty : (s.ring c).isEmpty = false) :
    (t.ring c).isEmpty = false ∨ ∃ r interrupted copied call,
      a = .readStep r interrupted copied ∧ s.reads r = some call ∧ call.client = c ∧
        call.takes (s.ring c).isEmpty = true ∧ (s.ring c).pop.isEmpty = true := by
  cases hlast : (t.ring c).isEmpty with
  | false => exact .inl rfl
  | true =>
    right
    cases ringChange hstep c with
    | same hring _ =>
      rw [hring, hnonempty] at hlast
      cases hlast
    | fresh hnew _ _ => exact absurd hnew (Nat.ne_of_lt hc)
    | push _ _ _ _ hring _ =>
      rw [hring, Ring.isEmpty_push (hinv.rings c).valid (by decide) _] at hlast
      cases hlast
    | @pop r interrupted copied call hreads hclient _ hring hlog =>
      subst hclient
      refine ⟨r, interrupted, copied, call, rfl, hreads, rfl, ?_, hring ▸ hlast⟩
      obtain ⟨before, popped, stage, buf, hbefore, hmove, rfl⟩ := readStep_move hstep
      obtain rfl : call = before := Option.some_inj.mp (hreads.symm.trans hbefore)
      rw [← hmove.popped_eq]
      cases popped with
      | true => rfl
      | false =>
        change s.log call.client = s.log call.client ++ [.pop] at hlog
        simp at hlog

/-- A call comes to its first event by a step that has found one. -/
lemma ReadMove.found {active isEmpty copied popped : Bool} {interrupted : ℤ} {call : ReadCall}
    {stage : ReadStage} (h : ReadMove active isEmpty interrupted copied call popped stage)
    (hfound : call.stage = .woken → active = true → isEmpty = false)
    (hstage : stage = .copying 0 ∨ stage = .woken ∧ active = true) :
    popped = false ∧ isEmpty = false := by
  cases h with
  | available _ hnonempty => exact ⟨rfl, hnonempty⟩
  | wakes _ hready =>
    obtain ⟨-, hactive⟩ := hstage.resolve_left ReadStage.noConfusion
    exact ⟨rfl, hready.resolve_right (by rw [hactive]; exact Bool.noConfusion)⟩
  | resumes hwoken hactive => exact ⟨rfl, hfound hwoken hactive⟩
  | _ => simp at hstage

/-- The event that a call has found is still there when it comes to take it. -/
structure FoundInv (s : DtxSystem) : Prop where
  taking : s.TakingInv
  numbered : s.ReadsNumbered
  found : ∀ r call, s.reads r = some call → 4 ≤ call.count →
    call.hasFound s.dev.active = true → (s.ring call.client).isEmpty = false

lemma FoundInv.found_step (h : s.FoundInv) (ha : a.isUse = true) (hspares : s.sparesFound a = true)
    (hstep : s.step a = some t) {r : ℕ} {call : ReadCall} (hcall : t.reads r = some call)
    (hcount : 4 ≤ call.count) (hfound : call.hasFound t.dev.active = true) :
    (t.ring call.client).isEmpty = false := by
  have hactive (htrue : t.dev.active = true) : s.dev.active = true := by
    by_contra hfalse
    rw [active_step ha hstep (Bool.eq_false_iff.mpr hfalse)] at htrue
    cases htrue
  have hstage : call.stage = .copying 0 ∨ call.stage = .woken ∧ s.dev.active = true :=
    (ReadCall.hasFound_iff.mp hfound).imp_right (And.imp_right hactive)
  cases readChange hstep hcall with
  | kept hreads hother =>
    have hearlier : call.hasFound s.dev.active = true := ReadCall.hasFound_iff.mpr hstage
    have hbefore := h.found r call hreads hcount hearlier
    obtain hnonempty | ⟨r', interrupted, copied, call', rfl, hreads', hclient, htakes, hlast⟩ :=
      nonempty_step h.taking.rings (h.taking.opened r call hreads) hstep hbefore
    · exact hnonempty
    · -- the call that takes the last event would not have spared this one
      have hne : r ≠ r' := by
        rintro rfl
        exact hother interrupted copied rfl
      rw [← hclient] at htakes hlast
      have hnot := (sparesFound_iff h.numbered hreads').mp hspares htakes hlast r call hne hreads
        hclient.symm hcount
      rw [hearlier] at hnot
      cases hnot
  | begun _ _ hresult =>
    rw [hresult] at hstage
    simp at hstage
  | @moved _ _ _ before _ _ hreads hmove hresult hring =>
    subst hresult
    have hwoken (hwoken : before.stage = .woken) (hon : s.dev.active = true) :
        (s.ring before.client).isEmpty = false :=
      h.found r before hreads hcount (ReadCall.hasFound_iff.mpr (.inr ⟨hwoken, hon⟩))
    obtain ⟨hpopped, hnonempty⟩ := hmove.found hwoken hstage
    rw [hring hpopped]
    exact hnonempty

lemma FoundInv.step (h : s.FoundInv) (ha : a.isUse = true) (hspares : s.sparesFound a = true)
    (hstep : s.step a = some t) : t.FoundInv where
  taking := h.taking.step ha hstep
  numbered := h.numbered.step hstep
  found _ _ hcall := h.found_step ha hspares hstep hcall

def ReadsProper (s : DtxSystem) : Prop :=
  ∀ r call, s.reads r = some call → 4 ≤ call.count → call.Proper s.dev.active

lemma ReadsProper.step (h : s.ReadsProper) (hinv : s.FoundInv) (ha : a.isUse = true)
    (hstep : s.step a = some t) : t.ReadsProper := by
  intro r call hcall hcount
  have hactive : s.dev.active = false → t.dev.active = false := active_step ha hstep
  cases readChange hstep hcall with
  | kept hreads _ => exact (h r call hreads hcount).mono hactive
  | begun _ _ hresult =>
    rw [hresult]
    trivial
  | @moved interrupted copied popped before stage buf hreads hmove hresult _ =>
    subst hresult
    have hstatus : interrupted = 0 ∨ interrupted = -erestartsys := by
      simpa [DtxAction.isUse] using ha
    have hfinds (hstage : before.stage = .copying 0) : (s.ring before.client).isEmpty = false :=
      hinv.found r before hreads hcount (ReadCall.hasFound_iff.mpr (.inl hstage))
    have hproper := hmove.proper (h r before hreads hcount) hcount hstatus hfinds buf
    exact hproper.mono hactive

lemma ReadsProper.readsReturn (h : s.ReadsProper) : s.ReadsReturn := by
  intro r call status hcall hcount hstage
  have hproper := h r call hcall hcount
  unfold ReadCall.Proper at hproper
  rw [hstage] at hproper
  exact hproper

/-! ### Runs -/

/-- What leaves a ring by a read is among the dequeues. -/
def DequeueSeen (s : DtxSystem) (a : DtxAction) : Prop :=
  ∀ t c, s.step a = some t → t.log c = s.log c ++ [.pop] →
    ∃ d, s.dequeue a = some d ∧ d.client = c ∧ d.entry.2 = (s.ring c).front

variable {s₀ : DtxSystem} {as : List DtxAction}

/-- Nothing is read while the driver is bound. -/
lemma reads_bound (h₀ : Machine.Reaches step (fun _ a => a.isBinding = true) static s₀) :
    s₀.reads = fun _ => none := by
  refine h₀.invariant (I := fun s => s.reads = fun _ => none) rfl fun t a u ht hbinding hu => ?_
  have ha : a.isRead = false := by
    cases a with
    | probe env => rfl
    | remove => rfl
    | _ => cases hbinding
  rw [(reads_same hu ha).1, ht]

lemma takingInv_bound (h₀ : Machine.Reaches step (fun _ a => a.isBinding = true) static s₀) :
    s₀.TakingInv := by
  refine ⟨(ringsInv_bound h₀).1, fun r call hcall => ?_⟩
  rw [reads_bound h₀] at hcall
  cases hcall

lemma foundInv_bound (h₀ : Machine.Reaches step (fun _ a => a.isBinding = true) static s₀) :
    s₀.FoundInv := by
  have hreads := reads_bound h₀
  refine ⟨takingInv_bound h₀, fun r call hcall => ?_, fun r call hcall => ?_⟩
  all_goals
    rw [hreads] at hcall
    cases hcall

lemma readsProper_bound (h₀ : Machine.Reaches step (fun _ a => a.isBinding = true) static s₀) :
    s₀.ReadsProper := by
  intro r call hcall
  rw [reads_bound h₀] at hcall
  cases hcall

lemma dequeues_seen (hinv : s.TakingInv) (has : ∀ a ∈ as, a.isUse = true) :
    Machine.Meets step DequeueSeen s as := by
  induction as generalizing s with
  | nil => trivial
  | cons a as ih =>
    rw [List.forall_mem_cons] at has
    exact ⟨fun t c ht hlog => exists_dequeue hinv.rings ht hlog,
      fun t ht => ih (hinv.step has.1 ht) has.2⟩

lemma readsReturn_of_meets
    (h₀ : Machine.Reaches step (fun _ a => a.isBinding = true) static s₀)
    (has : ∀ a ∈ as, a.isUse = true)
    (hspares : Machine.Meets step (fun s a => s.sparesFound a = true) s₀ as) :
    Machine.Always step ReadsReturn s₀ as := by
  have halways : Machine.Always step (fun s => s.FoundInv ∧ s.ReadsProper) s₀ as :=
    hspares.always has ⟨foundInv_bound h₀, readsProper_bound h₀⟩ fun t a u ht ha hspare hu =>
      ⟨ht.1.step ha hspare hu, ht.2.step ht.1 ha hu⟩
  exact halways.imp fun t ht => ht.2.readsReturn

end DtxSystem

/-- However many calls read at once, also from one file, while events are pushed and the driver
is unbound: no event of a ring is taken twice, and while no call takes the last event of a file
that another has found and has still to take, all calls with room for an event return what they
may. -/
theorem surfaceDtxRead_outcomes {s₀ : DtxSystem} {as : List DtxAction}
    (h₀ : Machine.Reaches DtxSystem.step (fun _ a => a.isBinding = true) .static s₀)
    (has : ∀ a ∈ as, a.isUse = true)
    (hspares : Machine.Meets DtxSystem.step (fun s a => s.sparesFound a = true) s₀ as) :
    Machine.Meets DtxSystem.step DtxSystem.DequeueSeen s₀ as ∧
      (s₀.dequeues as).Pairwise Dequeue.Distinct ∧
      Machine.Always DtxSystem.step DtxSystem.ReadsReturn s₀ as :=
  ⟨DtxSystem.dequeues_seen (DtxSystem.takingInv_bound h₀) has,
    DtxSystem.dequeues_distinct (DtxSystem.takingInv_bound h₀) has,
    DtxSystem.readsReturn_of_meets h₀ has hspares⟩

/-- Two reads pass the check while there are two events, and each gets one. -/
theorem surfaceDtxRead_outcomes_two :
    let actions : List DtxAction := [.open true, .push laptopMode, .pushStep 0, .push laptopMode,
      .pushStep 1, .read 0 4 true (fun _ => 0), .read 0 4 false (fun _ => 0), .readStep 0 0 true,
      .readStep 1 0 true, .readStep 0 0 true, .readStep 1 0 true, .readStep 1 0 true,
      .readStep 0 0 true, .readStep 0 0 true, .readStep 1 0 true]
    ∃ s₀ s, DtxSystem.step .static (.probe goodDtxProbe) = some s₀ ∧
      Machine.run DtxSystem.step s₀ actions = some s ∧
      Machine.Always DtxSystem.step DtxSystem.ReadsReturn s₀ actions ∧
      s₀.dequeues actions = [⟨1, 0, (0, laptopMode)⟩, ⟨0, 0, (1, laptopMode)⟩] ∧
      (s.reads 0).map ReadCall.stage = some (.returned 4) ∧
      (s.reads 1).map ReadCall.stage = some (.returned 4) := by
  intro actions
  obtain ⟨s₀, hs₀⟩ : ∃ s₀, DtxSystem.step .static (.probe goodDtxProbe) = some s₀ := ⟨_, rfl⟩
  obtain ⟨s, hs⟩ : ∃ s, Machine.run DtxSystem.step s₀ actions = some s := by
    cases hs₀
    exact ⟨_, rfl⟩
  have hmeets : Machine.Meets DtxSystem.step (fun s a => s.sparesFound a = true) s₀ actions := by
    cases hs₀
    decide +kernel
  have huse : ∀ a ∈ actions, a.isUse = true := by decide +kernel
  have hboth := surfaceDtxRead_outcomes (Machine.Reaches.refl.tail rfl hs₀) huse hmeets
  refine ⟨s₀, s, hs₀, hs, hboth.2.2, ?_, ?_, ?_⟩
  all_goals
    cases hs₀
  · decide +kernel
  · cases hs
    rfl
  · cases hs
    rfl

/-- Two blocking reads wait for an event. It wakes both, the first takes it, and the second
returns 0. -/
theorem surfaceDtxRead_returnsZero :
    let actions : List DtxAction := [.open true, .read 0 4 false (fun _ => 0),
      .read 0 4 false (fun _ => 0), .readStep 0 0 true, .readStep 1 0 true, .readStep 0 0 true,
      .readStep 1 0 true, .push laptopMode, .pushStep 0, .readStep 0 0 true, .readStep 1 0 true,
      .readStep 0 0 true, .readStep 1 0 true, .readStep 0 0 true, .readStep 1 0 true]
    ∃ s₀ s call, DtxSystem.step .static (.probe goodDtxProbe) = some s₀ ∧
      (∀ a ∈ actions, a.isUse = true) ∧ Machine.run DtxSystem.step s₀ actions = some s ∧
      s.dev.active = true ∧ s.reads 1 = some call ∧ call.count = 4 ∧ call.nonblock = false ∧
      call.stage = .returned 0 ∧ ¬Machine.Always DtxSystem.step DtxSystem.ReadsReturn s₀ actions := by
  intro actions
  obtain ⟨s₀, hs₀⟩ : ∃ s₀, DtxSystem.step .static (.probe goodDtxProbe) = some s₀ := ⟨_, rfl⟩
  obtain ⟨s, hs⟩ : ∃ s, Machine.run DtxSystem.step s₀ actions = some s := by
    cases hs₀
    exact ⟨_, rfl⟩
  obtain ⟨call, hcall⟩ : ∃ call, s.reads 1 = some call := by
    cases hs₀
    cases hs
    exact ⟨_, rfl⟩
  have hcount : call.count = 4 := by
    cases hs₀
    cases hs
    cases hcall
    rfl
  have hstage : call.stage = .returned 0 := by
    cases hs₀
    cases hs
    cases hcall
    rfl
  refine ⟨s₀, s, call, hs₀, by decide +kernel, hs, ?_, hcall, hcount, ?_, hstage, ?_⟩
  · cases hs₀
    cases hs
    rfl
  · cases hs₀
    cases hs
    cases hcall
    rfl
  · intro halways
    exact (halways.last hs 1 call 0 hcall (Nat.le_of_eq hcount.symm) hstage).ne_zero rfl

namespace DtxSystem

variable {s t : DtxSystem} {a : DtxAction}

/-- A call that has found an event returns 0 where the ring has run empty. -/
lemma run_returnsZero {r : ℕ} {call : ReadCall} (hcall : s.reads r = some call)
    (hfound : call.hasFound s.dev.active = true)
    (hempty : (s.ring call.client).isEmpty = true) :
    ∃ as u, (∀ b ∈ as, b = .readStep r 0 true) ∧ Machine.run step s as = some u ∧
      u.reads r = some { call with stage := .returned 0 } := by
  rcases ReadCall.hasFound_iff.mp hfound with hstage | ⟨hstage, hactive⟩
  · have hends : s.step (.readStep r 0 true) = _ := readStep_ends hcall hstage (.inr hempty)
    refine ⟨[.readStep r 0 true], s.setRead r { call with stage := .returned 0 }, by simp, ?_,
      Function.update_self ..⟩
    rw [Machine.run, hends]
    rfl
  · have hresumes : s.step (.readStep r 0 true) =
        some (s.setRead r { call with stage := .copying 0 }) := by
      simp [step, readStep, hcall, hstage, hactive]
    have hends : (s.setRead r { call with stage := .copying 0 }).step (.readStep r 0 true) = _ :=
      readStep_ends (Function.update_self ..) rfl (.inr hempty)
    refine ⟨[.readStep r 0 true, .readStep r 0 true],
      (s.setRead r { call with stage := .copying 0 }).setRead r { call with stage := .returned 0 },
      by simp, ?_, Function.update_self ..⟩
    rw [Machine.run, hresumes, Option.bind_some, Machine.run, hends]
    rfl

/-- Where a call takes the last event from another that has found it, that other one goes on to
return 0. -/
lemma returnsZero_of_takesFound (h : s.ReadsNumbered) (hstep : s.step a = some t)
    (hspares : s.sparesFound a = false) :
    ∃ r call as u, s.reads r = some call ∧ 4 ≤ call.count ∧
      (∀ b ∈ as, b = .readStep r 0 true) ∧ Machine.run step t as = some u ∧
      u.reads r = some { call with stage := .returned 0 } := by
  cases a with
  | readStep r interrupted copied =>
    obtain ⟨taker, popped, stage, buf, htaker, hmove, rfl⟩ := readStep_move hstep
    have hnot := mt (sparesFound_iff h htaker).mpr (Bool.eq_false_iff.mp hspares)
    push Not at hnot
    obtain ⟨htakes, hlast, r', call, hne, hcall, hclient, hcount, hfound⟩ := hnot
    rw [← hmove.popped_eq] at htakes
    subst htakes
    -- the other call is where it was, and the ring is empty now
    set t := (s.popBuffer taker.client).setRead r { taker with stage := stage, buf := buf }
    have hcall' : t.reads r' = some call := (Function.update_of_ne hne _ _).trans hcall
    have hring : t.ring call.client = (s.ring taker.client).pop := by
      rw [hclient]
      exact Function.update_self ..
    have hempty : (t.ring call.client).isEmpty = true := by rw [hring, hlast]
    obtain ⟨as, u, has, hrun, hreturned⟩ :=
      run_returnsZero hcall' (Bool.of_not_eq_false hfound) hempty
    exact ⟨r', call, as, u, hcall, hcount, has, hrun, hreturned⟩
  | _ => cases hspares

end DtxSystem

/-! ### One reader at a time -/

namespace DtxSystem

variable {s t s₀ : DtxSystem} {a : DtxAction} {as : List DtxAction}

/-- A file is read only when no other read of it is under way. -/
def oneReader (s : DtxSystem) : DtxAction → Bool
  | .read c _ _ _ => !(List.range s.nextRead).any (s.isReading c)
  | _ => true

structure OneReaderInv (s : DtxSystem) : Prop where
  numbered : s.ReadsNumbered
  one : ∀ r r' call call', s.reads r = some call → s.reads r' = some call' →
    call.client = call'.client → call.stage.isReturned = false →
    call'.stage.isReturned = false → r = r'

/-- A call that is under way after a step has been so before, or has begun. -/
lemma underWay_step {r : ℕ} {call : ReadCall} (hstep : s.step a = some t)
    (hcall : t.reads r = some call) (hunder : call.stage.isReturned = false) :
    (∃ before, s.reads r = some before ∧ before.client = call.client ∧
      before.stage.isReturned = false) ∨
    (r = s.nextRead ∧ ∃ count nonblock buf, a = .read call.client count nonblock buf) := by
  cases readChange hstep hcall with
  | kept hreads _ => exact .inl ⟨call, hreads, rfl, hunder⟩
  | @begun c count nonblock buf _ hnew hresult =>
    rw [hresult]
    exact .inr ⟨hnew, count, nonblock, buf, rfl⟩
  | @moved _ _ _ before _ _ hreads hmove hresult _ =>
    rw [hresult]
    exact .inl ⟨before, hreads, rfl, hmove.not_returned⟩

lemma OneReaderInv.not_reading (h : s.OneReaderInv) {c count r : ℕ} {nonblock : Bool}
    {buf : Memory UInt8} {call : ReadCall}
    (hone : s.oneReader (.read c count nonblock buf) = true) (hcall : s.reads r = some call)
    (hclient : call.client = c) : call.stage.isReturned = true := by
  simp only [oneReader, Bool.not_eq_true', List.any_eq_false, List.mem_range] at hone
  have hr := hone r (h.numbered r call hcall)
  simpa [isReading, hcall, hclient] using hr

lemma OneReaderInv.one_step (h : s.OneReaderInv) (hone : s.oneReader a = true)
    (hstep : s.step a = some t) {r r' : ℕ} {call call' : ReadCall}
    (hcall : t.reads r = some call) (hcall' : t.reads r' = some call')
    (hclient : call.client = call'.client) (hunder : call.stage.isReturned = false)
    (hunder' : call'.stage.isReturned = false) : r = r' := by
  obtain ⟨before, hreads, hbefore, hearlier⟩ | ⟨hnew, count, nonblock, buf, rfl⟩ :=
    underWay_step hstep hcall hunder
  · obtain ⟨before', hreads', hbefore', hearlier'⟩ | ⟨-, count, nonblock, buf, rfl⟩ :=
      underWay_step hstep hcall' hunder'
    · apply h.one r r' before before' hreads hreads' ?_ hearlier hearlier'
      rw [hbefore, hbefore', hclient]
    · rw [h.not_reading hone hreads (hbefore.trans hclient)] at hearlier
      cases hearlier
  · obtain ⟨before', hreads', hbefore', hearlier'⟩ | ⟨hnew', -⟩ :=
      underWay_step hstep hcall' hunder'
    · rw [h.not_reading hone hreads' (hbefore'.trans hclient.symm)] at hearlier'
      cases hearlier'
    · exact hnew.trans hnew'.symm

lemma OneReaderInv.step (h : s.OneReaderInv) (hone : s.oneReader a = true)
    (hstep : s.step a = some t) : t.OneReaderInv where
  numbered := h.numbered.step hstep
  one _ _ _ _ hcall hcall' := h.one_step hone hstep hcall hcall'

/-- Then there is no other call to spare an event for. -/
lemma OneReaderInv.sparesFound (h : s.OneReaderInv) : s.sparesFound a = true := by
  cases a with
  | readStep r interrupted copied =>
    cases hcall : s.reads r with
    | none => simp [DtxSystem.sparesFound, hcall]
    | some call =>
      refine (sparesFound_iff h.numbered hcall).mpr fun htakes _ r' call' hne hcall' hclient _ => ?_
      by_contra hfound
      have hunder : call.stage.isReturned = false := by
        unfold ReadCall.takes at htakes
        cases hstage : call.stage with
        | copying read => rfl
        | _ =>
          rw [hstage] at htakes
          cases htakes
      have hunder' : call'.stage.isReturned = false := by
        rcases ReadCall.hasFound_iff.mp (Bool.of_not_eq_false hfound) with hstage | ⟨hstage, -⟩
        all_goals
          rw [hstage]
          rfl
      exact hne (h.one r' r call' call hcall' hcall hclient hunder' hunder)
  | _ => rfl

end DtxSystem

/-- While each file is read by one call at a time, every call with room for an event returns
what it may. -/
theorem surfaceDtxRead_oneReader {s₀ : DtxSystem} {as : List DtxAction}
    (h₀ : Machine.Reaches DtxSystem.step (fun _ a => a.isBinding = true) .static s₀)
    (has : ∀ a ∈ as, a.isUse = true)
    (hone : Machine.Meets DtxSystem.step (fun s a => s.oneReader a = true) s₀ as) :
    Machine.Always DtxSystem.step DtxSystem.ReadsReturn s₀ as := by
  have hinv : s₀.OneReaderInv := by
    refine ⟨(DtxSystem.foundInv_bound h₀).numbered, ?_⟩
    rw [DtxSystem.reads_bound h₀]
    intros
    contradiction
  have halways : Machine.Always DtxSystem.step DtxSystem.OneReaderInv s₀ as :=
    hone.always has hinv fun t a u ht _ hsingle hu => ht.step hsingle hu
  exact DtxSystem.readsReturn_of_meets h₀ has (halways.meets fun t a ht => ht.sparesFound)

end SurfaceSam
