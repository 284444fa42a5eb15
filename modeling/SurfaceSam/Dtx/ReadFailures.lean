import SurfaceSam.Dtx.ReadCopies
import SurfaceSam.Dtx.ReadOutcomes

/-!
# Reads that fail

A call of `surface_dtx_read` with a copy to the user that may fail, while nothing is pushed
and nobody else reads. An event is taken before it is copied and not put back, so that a call
whose copy fails loses it, with all events that it has copied before.
-/

namespace SurfaceSam

open Devlib

/-- The events of a ring before and after a call. If the call fails, nothing is gone, and
otherwise what it returns is the size of what is gone. -/
structure ReadLossless (status : ℤ) (before after : List SurfaceDtxEvent) : Prop where
  failed : status < 0 → after = before
  done : 0 ≤ status →
    status.toNat / 4 ≤ before.length ∧ after = before.drop (status.toNat / 4)

/-- Each of the events that fit can be copied, if the call gets as far. -/
def CopiesSucceed (active : Bool) (evs : List SurfaceDtxEvent) (count : ℕ) (copied : ℕ → Bool) :
    Prop :=
  active = true → ∀ k < min evs.length (count / 4), copied k = true

/-- There is no event to be copied. -/
lemma CopiesSucceed.of_empty {active : Bool} {evs : List SurfaceDtxEvent} {count : ℕ}
    {copied : ℕ → Bool} (h : evs = []) : CopiesSucceed active evs count copied := by
  intro _ k hk
  rw [h, List.length_nil, Nat.zero_min] at hk
  exact absurd hk (Nat.not_lt_zero k)

/-- A copy that the call makes next has the result given for it. -/
def ReadCall.copiesAs (copied : ℕ → Bool) (success : Bool) (call : ReadCall) : Bool :=
  match call.stage with
  | .copying read => success == copied (read / 4)
  | _ => true

namespace DtxSystem

/-- Nothing is pushed and only the call `r` reads, its copy number `k` with the result
`copied k`. -/
def isAlone (r : ℕ) (copied : ℕ → Bool) (s : DtxSystem) : DtxAction → Bool
  | .readStep r' interrupted success =>
    r' == r && (interrupted == 0 || interrupted == -erestartsys) &&
      (s.reads r').all (ReadCall.copiesAs copied success)
  | .read .. => false
  | .push _ => false
  | .pushStep _ => false
  | _ => true

/-- Where a call is and what is in its ring, `evs` having been there at its start. -/
inductive ReadAt (active : Bool) (evs : List SurfaceDtxEvent) (count : ℕ) (copied : ℕ → Bool) :
    ReadStage → List SurfaceDtxEvent → Prop
  | checking (bound : active = true) : ReadAt active evs count copied .checking evs
  | waiting (bound : active = true) (empty : evs = []) :
    ReadAt active evs count copied .waiting evs
  | woken (bound : active = true) (empty : evs = []) : ReadAt active evs count copied .woken evs
  | refused {status : ℤ} (neg : status < 0) (succeed : CopiesSucceed active evs count copied) :
    ReadAt active evs count copied (.returned status) evs
  | copying (n : ℕ) (bound : active = true) (le : n ≤ min evs.length (count / 4))
    (before : ∀ k < n, copied k = true) :
    ReadAt active evs count copied (.copying (4 * n)) (evs.drop n)
  | done (n : ℕ) (all : n = min evs.length (count / 4)) (before : ∀ k < n, copied k = true) :
    ReadAt active evs count copied (.returned (4 * n : ℕ)) (evs.drop n)
  | faulted (n : ℕ) (bound : active = true) (lt : n < min evs.length (count / 4))
    (fault : copied n = false) :
    ReadAt active evs count copied (.returned (-efault)) (evs.drop (n + 1))

section ReadAt

variable {active : Bool} {evs : List SurfaceDtxEvent} {count : ℕ} {copied : ℕ → Bool}

lemma ReadAt.start (h : active = true) : ReadAt active evs count copied (.copying 0) evs :=
  .copying 0 h (Nat.zero_le _) fun k hk => absurd hk (Nat.not_lt_zero k)

/-- The first step of a call. -/
lemma ReadMove.readAt {isEmpty success popped : Bool} {interrupted : ℤ} {call : ReadCall}
    {stage : ReadStage} (h : ReadMove active isEmpty interrupted success call popped stage)
    (hstage : call.stage = .entered) (evs : List SurfaceDtxEvent) (copied : ℕ → Bool) :
    popped = false ∧ ReadAt active evs call.count copied stage evs := by
  cases h with
  | tooSmall _ hsmall =>
    refine ⟨rfl, .refused (by simp) fun _ k hk => ?_⟩
    omega
  | inactive _ hinactive =>
    refine ⟨rfl, .refused (by simp) fun hactive => ?_⟩
    rw [hinactive] at hactive
    cases hactive
  | enters _ _ hactive => exact ⟨rfl, .checking hactive⟩
  | _ => simp_all

/-- A later step that takes no event. -/
lemma ReadMove.quiet {now isEmpty success : Bool} {interrupted : ℤ} {call : ReadCall}
    {stage : ReadStage} {left : List SurfaceDtxEvent}
    (hmove : ReadMove now isEmpty interrupted success call false stage)
    (h : ReadAt active evs call.count copied call.stage left)
    (hempty : isEmpty = true → left = []) (hstatus : interrupted = 0 ∨ interrupted = -erestartsys) :
    ReadAt active evs call.count copied stage left := by
  cases hmove with
  | tooSmall hstage | inactive hstage | enters hstage =>
    rw [hstage] at h
    cases h
  | again hstage htrue =>
    rw [hstage] at h
    cases h with
    | checking _ => exact .refused (by simp) (.of_empty (hempty htrue))
  | waits hstage htrue =>
    rw [hstage] at h
    cases h with
    | checking hbound => exact .waiting hbound (hempty htrue)
  | available hstage =>
    rw [hstage] at h
    cases h with
    | checking hbound => exact .start hbound
  | wakes hstage =>
    rw [hstage] at h
    cases h with
    | waiting hbound hevs => exact .woken hbound hevs
  | interrupted hstage hnonzero =>
    rw [hstage] at h
    rw [hstatus.resolve_left hnonzero]
    cases h with
    | waiting _ hevs => exact .refused (by simp) (.of_empty hevs)
  | removed hstage =>
    rw [hstage] at h
    cases h with
    | woken _ hevs => exact .refused (by simp) (.of_empty hevs)
  | resumes hstage =>
    rw [hstage] at h
    cases h with
    | woken hbound _ => exact .start hbound
  | full hstage hfull =>
    rw [hstage] at h
    cases h with
    | copying n _ hle hbefore => exact .done n (by omega) hbefore
  | drained hstage htrue =>
    rw [hstage] at h
    cases h with
    | copying n _ hle hbefore =>
      have hlen : evs.length ≤ n := List.drop_eq_nil_iff.mp (hempty htrue)
      exact .done n (by omega) hbefore

/-- A step that takes the oldest of the events that are left. -/
lemma ReadMove.takes {now isEmpty success : Bool} {interrupted : ℤ} {call : ReadCall}
    {stage : ReadStage} {left : List SurfaceDtxEvent} {e : SurfaceDtxEvent}
    (hmove : ReadMove now isEmpty interrupted success call true stage)
    (h : ReadAt active evs call.count copied call.stage (e :: left))
    (hsuccess : call.copiesAs copied success = true) :
    ReadAt active evs call.count copied stage left := by
  generalize hlist : e :: left = events at h
  unfold ReadCall.copiesAs at hsuccess
  have hdrop (n : ℕ) (heq : e :: left = evs.drop n) :
      n < evs.length ∧ left = evs.drop (n + 1) := by
    constructor
    · have hlen := congrArg List.length heq
      rw [List.length_cons, List.length_drop] at hlen
      omega
    · rw [← List.tail_drop, ← heq]
      rfl
  cases hmove with
  | copies hstage hfits hnonempty htrue =>
    rw [hstage] at h hsuccess
    cases h with
    | copying n hbound hle hbefore =>
      obtain ⟨hlt, rfl⟩ := hdrop n hlist
      have hcopied : copied n = true := by simpa [htrue] using hsuccess
      refine .copying (n + 1) hbound (by omega) fun k hk => ?_
      rcases Nat.lt_succ_iff_lt_or_eq.mp hk with hk | rfl
      · exact hbefore k hk
      · exact hcopied
  | faults hstage hfits hnonempty hfalse =>
    rw [hstage] at h hsuccess
    cases h with
    | copying n hbound hle hbefore =>
      obtain ⟨hlt, rfl⟩ := hdrop n hlist
      have hcopied : copied n = false := by simpa [hfalse] using hsuccess
      exact .faulted n hbound (by omega) hcopied

/-- Exactly when a copy fails, events are lost. -/
lemma ReadAt.lossless_iff {status : ℤ} {left : List SurfaceDtxEvent}
    (h : ReadAt active evs count copied (.returned status) left) :
    ReadLossless status evs left ↔ CopiesSucceed active evs count copied := by
  cases h with
  | refused hneg hsucceed =>
    refine iff_of_true ⟨fun _ => rfl, fun hpos => ?_⟩ hsucceed
    exact absurd hpos (Int.not_le.mpr hneg)
  | done n hall hbefore =>
    have hdiv : ((4 * n : ℕ) : ℤ).toNat / 4 = n := by omega
    refine iff_of_true ⟨fun hneg => by omega, fun _ => ?_⟩ fun _ k hk => hbefore k (by omega)
    rw [hdiv]
    exact ⟨by omega, rfl⟩
  | faulted n hbound hlt hfault =>
    refine iff_of_false (fun hlossless => ?_) fun hsucceed => ?_
    · have hlen := congrArg List.length (hlossless.failed (by simp))
      rw [List.length_drop] at hlen
      omega
    · rw [hsucceed hbound n hlt] at hfault
      cases hfault

end ReadAt

/-! ### Runs -/

variable {s t : DtxSystem} {a : DtxAction} {r : ℕ} {copied : ℕ → Bool}

/-- The call `call` has come somewhere, while its ring is its own. -/
structure AloneInv (s₀ : DtxSystem) (call : ReadCall) (r : ℕ) (copied : ℕ → Bool)
    (s : DtxSystem) : Prop where
  lt : call.client < s.nextClient
  valid : (s.ring call.client).Valid
  reads : ∃ stage buf, s.reads r = some { call with stage := stage, buf := buf } ∧
    ReadAt s₀.dev.active (s₀.ring call.client).toList call.count copied stage
      (s.ring call.client).toList

/-- What others do meanwhile does not touch the ring. -/
lemma isAlone_other (ha : s.isAlone r copied a = true) (hstep : s.step a = some t)
    (hother : a.isRead = false) {c : ℕ} (hc : c < s.nextClient) :
    t.reads = s.reads ∧ t.ring c = s.ring c := by
  refine ⟨(reads_same hstep hother).1, ?_⟩
  cases ringChange hstep c with
  | same hring _ => exact hring
  | fresh hnew _ _ => exact absurd hnew (Nat.ne_of_lt hc)
  | push _ _ _ _ _ _ => cases ha
  | pop _ _ _ _ _ => cases hother

variable {s₀ : DtxSystem} {call : ReadCall}

/-- The call begins. -/
lemma aloneInv_first {interrupted : ℤ} {success : Bool} (hcall : s.reads r = some call)
    (hstage : call.stage = .entered) (hclient : call.client < s.nextClient)
    (hvalid : (s.ring call.client).Valid)
    (hstep : s.step (.readStep r interrupted success) = some t) : AloneInv s call r copied t := by
  obtain ⟨before, popped, stage, buf, hreads, hmove, rfl⟩ := readStep_move hstep
  obtain rfl : call = before := Option.some_inj.mp (hcall.symm.trans hreads)
  obtain ⟨rfl, hat⟩ := hmove.readAt hstage (s.ring call.client).toList copied
  exact ⟨hclient, hvalid, stage, buf, Function.update_self .., hat⟩

lemma AloneInv.step (h : AloneInv s₀ call r copied s) (ha : s.isAlone r copied a = true)
    (hstep : s.step a = some t) : AloneInv s₀ call r copied t := by
  have hlt : call.client < t.nextClient := Nat.lt_of_lt_of_le h.lt (nextClient_le hstep)
  obtain ⟨stage, buf, hreads, hat⟩ := h.reads
  cases hread : a.isRead with
  | false =>
    obtain ⟨hsame, hring⟩ := isAlone_other ha hstep hread h.lt
    refine ⟨hlt, hring ▸ h.valid, stage, buf, hsame ▸ hreads, ?_⟩
    rw [hring]
    exact hat
  | true =>
    cases a with
    | readStep r' interrupted success =>
      obtain ⟨before, popped, stage', buf', hbefore, hmove, rfl⟩ := readStep_move hstep
      simp only [isAlone, Bool.and_eq_true, beq_iff_eq, Bool.or_eq_true] at ha
      obtain ⟨⟨rfl, hstatus⟩, hcopies⟩ := ha
      rw [hreads] at hcopies
      obtain rfl := Option.some_inj.mp (hreads.symm.trans hbefore)
      cases popped with
      | false =>
        refine ⟨hlt, h.valid, stage', buf', Function.update_self .., ?_⟩
        exact hmove.quiet hat (Ring.isEmpty_eq_true h.valid).mp hstatus
      | true =>
        have hne := beq_eq_false_iff_ne.mp hmove.nonempty
        have hpop : (s.popBuffer call.client).ring call.client = (s.ring call.client).pop :=
          Function.update_self ..
        rw [Ring.toList_pop h.valid hne] at hat
        refine ⟨hlt, ?_, stage', buf', Function.update_self .., ?_⟩
        · change ((s.popBuffer call.client).ring call.client).Valid
          rw [hpop]
          exact Ring.valid_pop h.valid
        · change ReadAt _ _ _ _ _ ((s.popBuffer call.client).ring call.client).toList
          rw [hpop]
          exact hmove.takes hat hcopies
    | read c count nonblock buf => cases ha
    | _ => cases hread

end DtxSystem

/-- While nothing is pushed and nobody else reads, a call that returns has lost no event exactly
if no copy of it has failed: the events that fit are copied, or the call ends before its first
copy since the device is inactive. -/
theorem surfaceDtxRead_lossless_iff {s s₁ t : DtxSystem} {r : ℕ} {call call' : ReadCall}
    {copied : ℕ → Bool} {interrupted status : ℤ} {success : Bool}
    (hcall : s.reads r = some call) (hstage : call.stage = .entered)
    (hclient : call.client < s.nextClient) (hvalid : (s.ring call.client).Valid)
    (hfirst : s.step (.readStep r interrupted success) = some s₁)
    (hrun : Machine.Reaches DtxSystem.step (fun s a => s.isAlone r copied a = true) s₁ t)
    (hcall' : t.reads r = some call') (hreturned : call'.stage = .returned status) :
    ReadLossless status (s.ring call.client).toList (t.ring call.client).toList ↔
      CopiesSucceed s.dev.active (s.ring call.client).toList call.count copied := by
  have hinv : DtxSystem.AloneInv s call r copied t :=
    hrun.invariant (DtxSystem.aloneInv_first hcall hstage hclient hvalid hfirst)
      fun u a v hu ha hv => hu.step ha hv
  obtain ⟨stage, buf, hreads, hat⟩ := hinv.reads
  obtain rfl := Option.some_inj.mp (hreads.symm.trans hcall')
  obtain rfl : stage = .returned status := hreturned
  exact hat.lossless_iff

/-- Two events are pushed before a read of the file. -/
def twoEventsRead (count : ℕ) : List DtxAction :=
  [.probe goodDtxProbe, .open true, .push baseConnected, .pushStep 0, .push laptopMode, .pushStep 1,
    .read 0 count true (fun _ => 0)]

/-- Both events are read at once, while another file is opened. -/
theorem surfaceDtxRead_lossless_iff_both :
    let actions : List DtxAction := [.readStep 0 0 true, .readStep 0 0 true, .readStep 0 0 true,
      .open true, .readStep 0 0 true, .readStep 0 0 true]
    ∃ s t call call', Machine.run DtxSystem.step .static (twoEventsRead 64) = some s ∧
      Machine.run DtxSystem.step s actions = some t ∧ s.reads 0 = some call ∧
      t.reads 0 = some call' ∧ call'.stage = .returned 8 ∧
      (s.ring call.client).toList = [baseConnected, laptopMode] ∧
      ReadLossless 8 (s.ring call.client).toList (t.ring call.client).toList := by
  intro actions
  obtain ⟨s, hs⟩ : ∃ s, Machine.run DtxSystem.step .static (twoEventsRead 64) = some s := ⟨_, rfl⟩
  obtain ⟨t, ht⟩ : ∃ t, Machine.run DtxSystem.step s actions = some t := by
    cases hs
    exact ⟨_, rfl⟩
  obtain ⟨s₁, hs₁, hrest⟩ := Option.bind_eq_some_iff.mp ht
  have hmeets : Machine.Meets DtxSystem.step (fun s a => s.isAlone 0 (fun _ => true) a = true) s
      actions := by
    cases hs
    decide +kernel
  have hrun := Machine.reaches_of_run hrest (hmeets.2 s₁ hs₁)
  obtain ⟨call, hcall⟩ : ∃ call, s.reads 0 = some call := by
    cases hs
    exact ⟨_, rfl⟩
  obtain ⟨call', hcall', hreturned⟩ : ∃ call', t.reads 0 = some call' ∧
      call'.stage = .returned 8 := by
    cases hs
    cases ht
    exact ⟨_, rfl, rfl⟩
  refine ⟨s, t, call, call', hs, ht, hcall, hcall', hreturned, ?_, ?_⟩
  · cases hs
    cases hcall
    rfl
  · refine (surfaceDtxRead_lossless_iff hcall ?_ ?_ ?_ hs₁ hrun hcall' hreturned).mpr
      fun _ _ _ => rfl
    all_goals
      cases hs
      cases hcall
    · rfl
    · decide
    · exact ⟨by decide, by decide⟩

/-- The second of two events cannot be copied. The call returns an error, and both are gone. -/
theorem surfaceDtxRead_losesCopied :
    let actions : List DtxAction := [.readStep 0 0 true, .readStep 0 0 true, .readStep 0 0 true,
      .readStep 0 0 false]
    ∃ s t call call', Machine.run DtxSystem.step .static (twoEventsRead 8) = some s ∧
      Machine.run DtxSystem.step s actions = some t ∧
      Machine.Meets DtxSystem.step (fun s a => s.isAlone 0 (· == 0) a = true) s actions ∧
      s.reads 0 = some call ∧ call.stage = .entered ∧ t.reads 0 = some call' ∧
      call'.stage = .returned (-efault) ∧
      (s.ring call.client).toList = [baseConnected, laptopMode] ∧
      (t.ring call.client).toList = [] ∧
      ¬ReadLossless (-efault) (s.ring call.client).toList (t.ring call.client).toList := by
  intro actions
  obtain ⟨s, hs⟩ : ∃ s, Machine.run DtxSystem.step .static (twoEventsRead 8) = some s := ⟨_, rfl⟩
  obtain ⟨t, ht⟩ : ∃ t, Machine.run DtxSystem.step s actions = some t := by
    cases hs
    exact ⟨_, rfl⟩
  have hmeets : Machine.Meets DtxSystem.step (fun s a => s.isAlone 0 (· == 0) a = true) s
      actions := by
    cases hs
    decide +kernel
  obtain ⟨call, hcall, hstage⟩ : ∃ call, s.reads 0 = some call ∧ call.stage = .entered := by
    cases hs
    exact ⟨_, rfl, rfl⟩
  have hbefore : (s.ring call.client).toList = [baseConnected, laptopMode] := by
    cases hs
    cases hcall
    rfl
  have hafter : (t.ring call.client).toList = [] := by
    cases hs
    cases ht
    cases hcall
    rfl
  obtain ⟨call', hcall', hreturned⟩ : ∃ call', t.reads 0 = some call' ∧
      call'.stage = .returned (-efault) := by
    cases hs
    cases ht
    exact ⟨_, rfl, rfl⟩
  refine ⟨s, t, call, call', hs, ht, hmeets, hcall, hstage, hcall', hreturned, hbefore, hafter,
    fun hlossless => ?_⟩
  have heq := hlossless.failed (by decide)
  rw [hbefore, hafter] at heq
  cases heq

/-! ### Calls that need not wait -/

namespace DtxSystem

variable {s t : DtxSystem} {r : ℕ} {call : ReadCall} {copied : ℕ → Bool}

/-- A step in the loop. -/
lemma ReadMove.inLoop {active isEmpty success popped : Bool} {interrupted : ℤ} {read : ℕ}
    {stage : ReadStage} (h : ReadMove active isEmpty interrupted success call popped stage)
    (hstage : call.stage = .copying read) :
    (∃ status, stage = .returned status) ∨
      popped = true ∧ isEmpty = false ∧ stage = .copying (read + 4) := by
  cases h with
  | full _ _ => exact .inl ⟨_, rfl⟩
  | drained _ _ => exact .inl ⟨_, rfl⟩
  | copies hcopying _ hnonempty _ =>
    obtain rfl := ReadStage.copying.inj (hstage.symm.trans hcopying)
    exact .inr ⟨rfl, hnonempty, rfl⟩
  | faults _ _ _ _ => exact .inl ⟨_, rfl⟩
  | _ => simp_all

/-- The call gets to its end by itself. -/
def Returns (r : ℕ) (copied : ℕ → Bool) (s : DtxSystem) : Prop :=
  ∃ t call status, Machine.Reaches step (fun s a => s.isAlone r copied a = true) s t ∧
    t.reads r = some call ∧ call.stage = .returned status

lemma Returns.of_step {interrupted : ℤ} {success : Bool} (h : t.Returns r copied)
    (ha : s.isAlone r copied (.readStep r interrupted success) = true)
    (hstep : s.step (.readStep r interrupted success) = some t) : s.Returns r copied := by
  obtain ⟨u, call, status, hrun, hcall, hreturned⟩ := h
  have hfirst : Machine.Reaches step (fun s a => s.isAlone r copied a = true) s t :=
    .tail .refl ha hstep
  exact ⟨u, call, status, hfirst.trans hrun, hcall, hreturned⟩

lemma Returns.of_stage {status : ℤ} (hcall : s.reads r = some call)
    (hreturned : call.stage = .returned status) : s.Returns r copied :=
  ⟨s, call, status, .refl, hcall, hreturned⟩

lemma isAlone_readStep {success : Bool} (hcall : s.reads r = some call)
    (hsuccess : call.copiesAs copied success = true) :
    s.isAlone r copied (.readStep r 0 success) = true := by
  simp [isAlone, hcall, hsuccess]

/-- A call that neither waits nor has returned can take its next step, whatever its copy does. -/
lemma returns_of_move {stage : ReadStage} {success : Bool} (hcall : s.reads r = some call)
    (hstage : call.stage = stage) (hunder : stage.isReturned = false) (hwaiting : stage ≠ .waiting)
    (hsuccess : call.copiesAs copied success = true)
    (h : ∀ (t : DtxSystem) popped stage' buf,
      ReadMove s.dev.active (s.ring call.client).isEmpty 0 success call popped stage' →
      t.reads r = some { call with stage := stage', buf := buf } →
      t.ring call.client = (if popped then (s.ring call.client).pop else s.ring call.client) →
      t.Returns r copied) : s.Returns r copied := by
  obtain ⟨t, ht⟩ : ∃ t, s.readStep r 0 success = some t := by
    unfold readStep
    simp only [hcall, Option.bind_eq_bind, Option.bind_some, hstage]
    cases stage with
    | waiting => exact absurd rfl hwaiting
    | returned status => cases hunder
    | _ =>
      dsimp only
      split_ifs <;> exact ⟨_, rfl⟩
  apply Returns.of_step ?_ (isAlone_readStep hcall hsuccess) ht
  obtain ⟨before, popped, stage', buf, hreads, hmove, rfl⟩ := readStep_move ht
  obtain rfl : call = before := Option.some_inj.mp (hcall.symm.trans hreads)
  refine h _ popped stage' buf hmove (Function.update_self ..) ?_
  cases popped with
  | false => rfl
  | true => exact Function.update_self ..

/-- The loop ends, as each round takes an event. -/
lemma returns_copying {read : ℕ} (hcall : s.reads r = some call)
    (hstage : call.stage = .copying read) (hvalid : (s.ring call.client).Valid) :
    s.Returns r copied := by
  induction hn : (s.ring call.client).toList.length using Nat.strong_induction_on
    generalizing s call read with
  | _ n ih =>
    have hsuccess : call.copiesAs copied (copied (read / 4)) = true := by
      simp [ReadCall.copiesAs, hstage]
    apply returns_of_move hcall hstage rfl ReadStage.noConfusion hsuccess
    intro t popped stage buf hmove hreads hring
    obtain ⟨status, rfl⟩ | ⟨rfl, hnonempty, rfl⟩ := hmove.inLoop hstage
    · exact .of_stage hreads rfl
    · rw [if_pos rfl] at hring
      have hlen := congrArg List.length
        (Ring.toList_pop hvalid (beq_eq_false_iff_ne.mp hnonempty))
      rw [← hring, List.length_cons] at hlen
      refine ih _ ?_ hreads rfl ?_ rfl
      · dsimp only
        omega
      · dsimp only
        rw [hring]
        exact Ring.valid_pop hvalid

/-- The check does not make a call wait that finds events, or may not wait. -/
lemma returns_checking (hcall : s.reads r = some call) (hstage : call.stage = .checking)
    (hvalid : (s.ring call.client).Valid)
    (hready : (s.ring call.client).isEmpty = false ∨ call.nonblock = true) :
    s.Returns r copied := by
  have hsuccess : call.copiesAs copied true = true := by simp [ReadCall.copiesAs, hstage]
  apply returns_of_move hcall hstage rfl ReadStage.noConfusion hsuccess
  intro t popped stage buf hmove hreads hring
  cases hmove with
  | again _ _ _ => exact .of_stage hreads rfl
  | waits _ hempty hblocking => simp [hempty, hblocking] at hready
  | available _ _ =>
    refine returns_copying hreads rfl ?_
    rw [hring]
    exact hvalid
  | _ => simp_all

end DtxSystem

/-- Whatever its copies do, a call that finds events or may not wait gets to its end. -/
theorem surfaceDtxRead_returns {s : DtxSystem} {r : ℕ} {call : ReadCall} (copied : ℕ → Bool)
    (hcall : s.reads r = some call) (hstage : call.stage = .entered)
    (hvalid : (s.ring call.client).Valid)
    (hready : (s.ring call.client).isEmpty = false ∨ call.nonblock = true) :
    s.Returns r copied := by
  have hsuccess : call.copiesAs copied true = true := by simp [ReadCall.copiesAs, hstage]
  apply DtxSystem.returns_of_move hcall hstage rfl ReadStage.noConfusion hsuccess
  intro t popped stage buf hmove hreads hring
  cases hmove with
  | tooSmall _ _ => exact .of_stage hreads rfl
  | inactive _ _ => exact .of_stage hreads rfl
  | enters _ _ _ =>
    apply DtxSystem.returns_checking hreads rfl
    · rw [hring]
      exact hvalid
    · rw [hring]
      exact hready
  | _ => simp_all

end SurfaceSam
