import Mathlib.Data.List.Perm.Basic
import SurfaceSam.Devlib.Machine
import SurfaceSam.Ec.Device
import SurfaceSam.Ssh.Evaluation
import SurfaceSam.Ssh.Handshake
import SurfaceSam.Ssh.Message

/-!
# Runs of the EC

Calls of the driver one after the other, with the receive callback between them. A probe
runs beside the others except while it holds the mutex, so that it is also three steps of
its own: it allocates, it sets the EC up, and if that fails it releases what it has
allocated.
-/

namespace SurfaceSam

open Devlib

/-- The operations that take the EC mutex, with the outcomes of the functions they call. -/
inductive EcCall where
  | consumerRegister (link : Bool)
  | enableEventSource (tc unknown : UInt8) (rqid : UInt16) (o : Schedule SshLine)
  | disableEventSource (tc unknown : UInt8) (rqid : UInt16) (o : Schedule SshLine)
  | setDelayedEventHandler (rqid : UInt16) (fn : KPtr) (delay : Option (SurfaceSamSshEvent → ℕ))
    (data : KPtr)
  | removeEventHandler (rqid : UInt16)
  | rqst (rqst : SurfaceSamSshRqst) (result : Option SurfaceSamSshBuf) (o : Schedule SshLine)
  | suspend (o : Schedule SshLine)
  | resume (o : Schedule SshLine)
  | probe (env : SshDevice.ProbeEnv) (serdev : ℕ)
  | remove (serdev : ℕ) (o : Schedule SshLine)

/-- The value of a function without result is 0. -/
def EcCall.run (E : SshEnv) (d : SshDevice) : EcCall → Option (ℤ × SshDevice)
  | .consumerRegister link => d.surfaceSamSshConsumerRegister link
  | .enableEventSource tc unknown rqid o => d.surfaceSamSshEnableEventSource E tc unknown rqid o
  | .disableEventSource tc unknown rqid o => d.surfaceSamSshDisableEventSource E tc unknown rqid o
  | .setDelayedEventHandler rqid fn delay data =>
    d.surfaceSamSshSetDelayedEventHandler rqid fn delay data
  | .removeEventHandler rqid => d.surfaceSamSshRemoveEventHandler rqid
  | .rqst r result o => d.surfaceSamSshRqst E r result o
  | .suspend o => d.surfaceSamSshSuspend E o
  | .resume o => d.surfaceSamSshResume E o
  | .probe env serdev => d.surfaceSamSshProbe E env serdev
  | .remove serdev o => (d.surfaceSamSshRemove E serdev o).map (fun d => (0, d))

/-- A probe between its steps: it waits for the mutex, or it has failed. -/
inductive ProbeFrame where
  | allocated (env : SshDevice.ProbeEnv) (serdev : ℕ) (b : SshDevice.ProbeBufs)
  | failed (b : SshDevice.ProbeBufs)

/-- The EC and the probes under way. -/
structure SshSystem where
  dev : SshDevice
  probes : List ProbeFrame

inductive EcAction where
  | call (c : EcCall)
  | receive (l : SshLine)
  | probeAlloc (env : SshDevice.ProbeEnv) (serdev : ℕ)
  | probeSetup (i : ℕ)
  | probeUnwind (i : ℕ)

namespace SshSystem

/-- Before the first probe. -/
def static : SshSystem := ⟨.static, []⟩

def step (E : SshEnv) (s : SshSystem) : EcAction → Option SshSystem
  | .call c => (c.run E s.dev).map (fun r => { s with dev := r.2 })
  | .receive l => some { s with dev := { s.dev with ec := l.step E s.dev.ec } }
  | .probeAlloc env serdev =>
    match SshDevice.probeAlloc env s.dev.ledger with
    | (.error _, l) => some { s with dev := { s.dev with ledger := l } }
    | (.ok b, l) => some ⟨{ s.dev with ledger := l }, .allocated env serdev b :: s.probes⟩
  | .probeSetup i =>
    match s.probes[i]? with
    | some (.allocated env serdev b) => (s.dev.probeSetup E env serdev b).map (fun r =>
      ⟨r.2, if r.1 ≠ 0 then .failed b :: s.probes.eraseIdx i else s.probes.eraseIdx i⟩)
    | _ => none
  | .probeUnwind i =>
    match s.probes[i]? with
    | some (.failed b) => some
      ⟨{ s.dev with ledger := SshDevice.errBusy b s.dev.ledger }, s.probes.eraseIdx i⟩
    | _ => none

variable {E : SshEnv} {s t : SshSystem}

lemma step_probeAlloc {env : SshDevice.ProbeEnv} {serdev : ℕ}
    (h : s.step E (.probeAlloc env serdev) = some t) :
    (∃ status l, SshDevice.probeAlloc env s.dev.ledger = (.error status, l) ∧
      t = { s with dev := { s.dev with ledger := l } }) ∨
    ∃ b l, SshDevice.probeAlloc env s.dev.ledger = (.ok b, l) ∧
      t = ⟨{ s.dev with ledger := l }, .allocated env serdev b :: s.probes⟩ := by
  simp only [step] at h
  generalize SshDevice.probeAlloc env s.dev.ledger = alloc at h
  obtain ⟨result, l⟩ := alloc
  cases result with
  | error status =>
    cases h
    exact .inl ⟨status, l, rfl, rfl⟩
  | ok b =>
    cases h
    exact .inr ⟨b, l, rfl, rfl⟩

lemma step_probeSetup {i : ℕ} (h : s.step E (.probeSetup i) = some t) :
    ∃ env serdev b r, s.probes[i]? = some (.allocated env serdev b) ∧
      s.dev.probeSetup E env serdev b = some r ∧
      t = ⟨r.2, if r.1 ≠ 0 then .failed b :: s.probes.eraseIdx i else s.probes.eraseIdx i⟩ := by
  simp only [step] at h
  split at h
  · rename_i env serdev b hi
    obtain ⟨r, hr, rfl⟩ := Option.map_eq_some_iff.mp h
    exact ⟨env, serdev, b, r, hi, hr, rfl⟩
  · cases h

lemma step_probeUnwind {i : ℕ} (h : s.step E (.probeUnwind i) = some t) :
    ∃ b, s.probes[i]? = some (.failed b) ∧
      t = ⟨{ s.dev with ledger := SshDevice.errBusy b s.dev.ledger }, s.probes.eraseIdx i⟩ := by
  simp only [step] at h
  split at h
  · rename_i b hi
    cases h
    exact ⟨b, hi, rfl⟩
  · cases h

end SshSystem

/-! ### The handler table during a request -/

section Handler

variable {E : SshEnv}

lemma SshLine.step_handler (l : SshLine) (ec : SamSshEc) :
    (l.step E ec).events.handler = ec.events.handler := by
  unfold SshLine.step
  have h := sshEval_step E ec l.mem l.size
  generalize (sshEval E ec l.mem l.size).2 = ec' at h ⊢
  cases h with
  | log log => rfl
  | event _ _ =>
    unfold SamSshEc.dispatch SamSshEc.queueEvent
    split_ifs
    · rfl
    · rfl
    · rfl
  | ctrl _ _ _ _ => rfl
  | cmd _ _ _ _ _ => rfl

lemma SshRqstCall.step_handler {c : SshRqstCall} {pc pc' : SshPc} {ec ec' : SamSshEc}
    {a : Act SshLine} (h : c.step E pc ec a = some (pc', ec')) :
    ec'.events.handler = ec.events.handler := by
  cases a with
  | event l =>
    cases h
    exact l.step_handler ec
  | step v =>
    cases pc with
    | waitAck _ _ =>
      simp only [step, advanceStep] at h
      split_ifs at h
      cases h
      rfl
    | waitResponse _ _ =>
      simp only [step, advanceStep] at h
      split_ifs at h
      cases h
      rfl
    | returned _ _ => cases h
    | _ =>
      cases h
      rfl
  | timeout =>
    cases pc with
    | waitAck _ _ =>
      simp only [step, timeoutStep] at h
      split_ifs at h
      cases h
      rfl
    | waitResponse _ _ =>
      simp only [step, timeoutStep] at h
      split_ifs at h
      cases h
      rfl
    | _ => cases h

/-- A request leaves the handler table alone. -/
lemma handler_rqst (rqst : SurfaceSamSshRqst) (result : Option SurfaceSamSshBuf)
    (o : Schedule SshLine) (ec : SamSshEc) :
    (Prog.complete (SshLine.step E) (surfaceSamSshRqstUnlocked E rqst result) o ec).2.events.handler =
      ec.events.handler := by
  obtain ⟨acts, hrun⟩ : ∃ acts,
      Prog.run (SshLine.step E) acts (surfaceSamSshRqstUnlocked E rqst result) ec = some _ :=
    Prog.complete_run _ o ec
  have hexec := Prog.run_eq_some_iff.mp hrun
  rw [SshRqstCall.exec_rqst E ⟨rqst, result⟩, Option.map_eq_some_iff] at hexec
  obtain ⟨s, hs, heq⟩ := hexec
  rw [← (Prod.mk.inj heq).2]
  exact Machine.run_invariant (I := fun t => t.2.events.handler = ec.events.handler) hs rfl
    fun t a u ht hu => (SshRqstCall.step_handler hu).trans ht

end Handler

/-! ### What the operations do -/

namespace SshDevice

variable {E : SshEnv} {d : SshDevice}

lemma acquire_unlocked (hlock : d.lock = false) :
    d.surfaceSamSshAcquire = some { d with lock := true } := by
  unfold surfaceSamSshAcquire
  rw [hlock]
  rfl

lemma acquire_locked (hlock : d.lock = true) : d.surfaceSamSshAcquire = none := by
  unfold surfaceSamSshAcquire
  rw [hlock]
  rfl

/-- Taking the mutex and giving it back changes nothing. -/
lemma eq_of_unlocked (hlock : d.lock = false) : { d with lock := false } = d := by
  rw [← hlock]

lemma acquireInit_locked (hlock : d.lock = true) : d.surfaceSamSshAcquireInit = none := by
  unfold surfaceSamSshAcquireInit
  rw [acquire_locked hlock]
  rfl

lemma acquireInit_uninitialized (hlock : d.lock = false) (hstate : d.state = .uninitialized) :
    d.surfaceSamSshAcquireInit = some (false, d) := by
  unfold surfaceSamSshAcquireInit
  rw [acquire_unlocked hlock]
  refine (if_pos hstate).trans ?_
  change some (false, { d with lock := false }) = _
  rw [eq_of_unlocked hlock]

lemma acquireInit_initialized (hlock : d.lock = false) (hstate : d.state ≠ .uninitialized) :
    d.surfaceSamSshAcquireInit = some (true, { d with lock := true }) := by
  unfold surfaceSamSshAcquireInit
  rw [acquire_unlocked hlock]
  exact if_neg hstate

lemma consumerRegister_eq (hlock : d.lock = false) (link : Bool) :
    d.surfaceSamSshConsumerRegister link = some (
      if d.state = .uninitialized then (-enxio, d)
      else if link then (0, d) else (-efault, { d with lock := true })) := by
  by_cases hstate : d.state = .uninitialized
  · unfold surfaceSamSshConsumerRegister
    rw [if_pos hstate, acquireInit_uninitialized hlock hstate]
    rfl
  · unfold surfaceSamSshConsumerRegister
    rw [if_neg hstate, acquireInit_initialized hlock hstate]
    cases link with
    | true =>
      change some ((0 : ℤ), { d with lock := false }) = _
      rw [eq_of_unlocked hlock]
      rfl
    | false => rfl

lemma rqst_eq (hlock : d.lock = false) (rqst : SurfaceSamSshRqst)
    (result : Option SurfaceSamSshBuf) (o : Schedule SshLine) :
    d.surfaceSamSshRqst E rqst result o = some (
      if d.state = .uninitialized then (-enxio, d)
      else if d.state = .suspended then (-eperm, d) else d.request E rqst result o) := by
  unfold surfaceSamSshRqst
  split_ifs with hstate hsuspended
  · rw [acquireInit_uninitialized hlock hstate]
    rfl
  · rw [acquireInit_initialized hlock hstate]
    refine (if_pos hsuspended).trans ?_
    change some (-eperm, { d with lock := false }) = _
    rw [eq_of_unlocked hlock]
  · rw [acquireInit_initialized hlock hstate]
    refine (if_neg hsuspended).trans ?_
    conv_rhs => rw [← eq_of_unlocked hlock]
    rfl

lemma eventSource_eq (hlock : d.lock = false) (cid tc unknown : UInt8) (rqid : UInt16)
    (o : Schedule SshLine) :
    d.eventSource E cid tc unknown rqid o = some (
      if samRqidIsEvent rqid = false then (-einval, d)
      else if d.state = .uninitialized then (-enxio, d)
      else if d.state = .suspended then (-eperm, d)
      else d.request E (eventSourceRqst cid tc unknown rqid) (some controlBuf) o) := by
  cases hevent : samRqidIsEvent rqid with
  | false =>
    unfold eventSource
    rw [hevent]
    rfl
  | true =>
    unfold eventSource
    rw [hevent, if_neg (by decide)]
    exact rqst_eq hlock (eventSourceRqst cid tc unknown rqid) (some controlBuf) o

lemma changeHandler_eq (hlock : d.lock = false) (rqid : UInt16) (fn : KPtr)
    (delay : Option (SurfaceSamSshEvent → ℕ)) (data : KPtr) :
    d.changeHandler rqid fn delay data = some (
      if samRqidIsEvent rqid = false then (-einval, d)
      else if d.state = .uninitialized then (-enxio, d)
      else (0, d.setHandler (rqid.toNat - 1) fn delay data)) := by
  cases hevent : samRqidIsEvent rqid with
  | false =>
    unfold changeHandler
    rw [hevent]
    rfl
  | true =>
    unfold changeHandler
    rw [hevent, if_neg (by decide), if_neg (by decide)]
    split_ifs with hstate
    · rw [acquireInit_uninitialized hlock hstate]
      rfl
    · rw [acquireInit_initialized hlock hstate]
      conv_rhs => rw [← eq_of_unlocked hlock]
      rfl

lemma suspend_eq (hlock : d.lock = false) (o : Schedule SshLine) :
    d.surfaceSamSshSuspend E o = some (
      if d.state = .uninitialized then (0, d)
      else ((d.surfaceSamSshEcSuspend E o).1,
        { (d.surfaceSamSshEcSuspend E o).2 with state := .suspended })) := by
  unfold surfaceSamSshSuspend
  split_ifs with hstate
  · rw [acquireInit_uninitialized hlock hstate]
    rfl
  · rw [acquireInit_initialized hlock hstate]
    conv_rhs => rw [← eq_of_unlocked hlock]
    rfl

lemma resume_eq (hlock : d.lock = false) (o : Schedule SshLine) :
    d.surfaceSamSshResume E o = some (
      if d.state = .uninitialized then (0, d)
      else { d with state := .initialized }.surfaceSamSshEcResume E o) := by
  unfold surfaceSamSshResume
  split_ifs with hstate
  · rw [acquireInit_uninitialized hlock hstate]
    rfl
  · rw [acquireInit_initialized hlock hstate]
    conv_rhs => rw [← eq_of_unlocked hlock]
    rfl

lemma remove_eq (hlock : d.lock = false) (serdev : ℕ) (o : Schedule SshLine) :
    d.surfaceSamSshRemove E serdev o = some (
      if d.state = .uninitialized then d else (d.surfaceSamSshEcSuspend E o).2.teardown serdev) := by
  unfold surfaceSamSshRemove
  split_ifs with hstate
  · rw [acquireInit_uninitialized hlock hstate]
    rfl
  · rw [acquireInit_initialized hlock hstate]
    conv_rhs => rw [← eq_of_unlocked hlock]
    rfl

/-- What the part of probe that holds the mutex comes to. -/
inductive SetupResult (serdev : ℕ) (b : ProbeBufs) (d : SshDevice) : ℤ × SshDevice → Prop
  | busy (state : d.state ≠ .uninitialized) : SetupResult serdev b d (-ebusy, d)
  | failed (state : d.state = .uninitialized) {status : ℤ} (nonzero : status ≠ 0) (ec : SamSshEc)
    (opened : ℕ → Bool) (handler : ec.events.handler = d.ec.events.handler) :
    SetupResult serdev b d
      (status, { d.probeInit serdev b with state := .uninitialized, ec := ec, opened := opened })
  | done (state : d.state = .uninitialized) (ec : SamSshEc)
    (handler : ec.events.handler = d.ec.events.handler) :
    SetupResult serdev b d
      (0, { d.probeInit serdev b with ec := ec, opened := Function.update d.opened serdev true })

lemma probeSetup_result (hlock : d.lock = false) (env : ProbeEnv) (serdev : ℕ) (b : ProbeBufs) :
    ∃ r, d.probeSetup E env serdev b = some r ∧ SetupResult serdev b d r := by
  by_cases hstate : d.state = .uninitialized
  swap
  · refine ⟨(-ebusy, d), ?_, .busy hstate⟩
    unfold probeSetup
    rw [acquire_unlocked hlock]
    refine (if_pos hstate).trans ?_
    change some (-ebusy, { d with lock := false }) = _
    rw [eq_of_unlocked hlock]
  · have hhandler (d₁ : SshDevice) (h : d₁.ec.events.handler = d.ec.events.handler) :
        (d₁.surfaceSamSshEcResume E env.resume).2.ec.events.handler = d.ec.events.handler :=
      (handler_rqst _ _ _ _).trans h
    have hinit : { d with lock := false }.state = .uninitialized := hstate
    unfold probeSetup
    rw [acquire_unlocked hlock]
    simp only [Option.bind_eq_bind, Option.bind_some]
    rw [if_neg (not_not.mpr hstate)]
    conv => enter [1, r, 2]; rw [← eq_of_unlocked hlock]
    split_ifs with hopen hwalk hstatus hsysfs
    · exact ⟨_, rfl, .failed hinit hopen _ d.opened rfl⟩
    · exact ⟨_, rfl, .failed hinit hwalk _ _ rfl⟩
    · exact ⟨_, rfl, .failed hinit hstatus _ _ (hhandler _ rfl)⟩
    · exact ⟨_, rfl, .failed hinit hsysfs _ _ (hhandler _ rfl)⟩
    · exact ⟨_, rfl, .done hinit _ (hhandler _ rfl)⟩

lemma SetupResult.lock {serdev : ℕ} {b : ProbeBufs} {r : ℤ × SshDevice}
    (h : SetupResult serdev b d r) : r.2.lock = d.lock := by
  cases h with
  | busy _ => rfl
  | failed _ _ _ _ _ => rfl
  | done _ _ _ => rfl

/-- A whole probe: it fails before it takes the mutex, or it sets the EC up and releases what
it has allocated if that fails. -/
lemma surfaceSamSshProbe_cases (hlock : d.lock = false) (env : ProbeEnv) (serdev : ℕ) :
    (∃ status l, probeAlloc env d.ledger = (.error status, l) ∧
      d.surfaceSamSshProbe E env serdev = some (status, { d with ledger := l })) ∨
    ∃ b l r, probeAlloc env d.ledger = (.ok b, l) ∧
      SetupResult serdev b { d with ledger := l } r ∧
      d.surfaceSamSshProbe E env serdev = some (r.1,
        if r.1 ≠ 0 then { r.2 with ledger := errBusy b r.2.ledger } else r.2) := by
  unfold surfaceSamSshProbe
  generalize probeAlloc env d.ledger = alloc
  obtain ⟨result, l⟩ := alloc
  cases result with
  | error status => exact .inl ⟨status, l, rfl, rfl⟩
  | ok b =>
    obtain ⟨r, hr, hresult⟩ :=
      probeSetup_result (E := E) (d := { d with ledger := l }) hlock env serdev b
    refine .inr ⟨b, l, r, rfl, hresult, ?_⟩
    dsimp only
    rw [hr]
    simp only [Option.bind_eq_bind, Option.bind_some]
    split_ifs with hstatus
    · rfl
    · rw [not_not.mp hstatus]
      rfl

/-! While the mutex is held, what returns has not tried to take it. -/

lemma eventSource_locked (hlock : d.lock = true) {cid tc unknown : UInt8} {rqid : UInt16}
    {o : Schedule SshLine} {r : ℤ × SshDevice}
    (h : d.eventSource E cid tc unknown rqid o = some r) : r.2 = d := by
  unfold eventSource at h
  split_ifs at h
  · cases h
    rfl
  · rw [acquireInit_locked hlock] at h
    cases h

lemma changeHandler_locked (hlock : d.lock = true) {rqid : UInt16} {fn data : KPtr}
    {delay : Option (SurfaceSamSshEvent → ℕ)} {r : ℤ × SshDevice}
    (h : d.changeHandler rqid fn delay data = some r) : r.2 = d := by
  unfold changeHandler at h
  split_ifs at h
  · cases h
    rfl
  · rw [acquireInit_locked hlock] at h
    cases h

lemma probeSetup_locked (hlock : d.lock = true) (env : ProbeEnv) (serdev : ℕ) (b : ProbeBufs) :
    d.probeSetup E env serdev b = none := by
  unfold probeSetup
  rw [acquire_locked hlock]
  rfl

end SshDevice

section Calls

variable {E : SshEnv} {d : SshDevice}

lemma EcCall.run_held (hlock : d.lock = true) {c : EcCall} {r : ℤ × SshDevice}
    (h : c.run E d = some r) : r.2 = d ∨ ∃ env serdev status l, c = .probe env serdev ∧
      SshDevice.probeAlloc env d.ledger = (.error status, l) ∧ r.2 = { d with ledger := l } := by
  have hinit := SshDevice.acquireInit_locked hlock
  cases c with
  | consumerRegister link =>
    change d.surfaceSamSshConsumerRegister link = some r at h
    unfold SshDevice.surfaceSamSshConsumerRegister at h
    rw [hinit] at h
    cases h
  | enableEventSource tc unknown rqid o => exact .inl (SshDevice.eventSource_locked hlock h)
  | disableEventSource tc unknown rqid o => exact .inl (SshDevice.eventSource_locked hlock h)
  | setDelayedEventHandler rqid fn delay data =>
    exact .inl (SshDevice.changeHandler_locked hlock h)
  | removeEventHandler rqid => exact .inl (SshDevice.changeHandler_locked hlock h)
  | rqst rqst result o =>
    change d.surfaceSamSshRqst E rqst result o = some r at h
    unfold SshDevice.surfaceSamSshRqst at h
    rw [hinit] at h
    cases h
  | suspend o =>
    change d.surfaceSamSshSuspend E o = some r at h
    unfold SshDevice.surfaceSamSshSuspend at h
    rw [hinit] at h
    cases h
  | resume o =>
    change d.surfaceSamSshResume E o = some r at h
    unfold SshDevice.surfaceSamSshResume at h
    rw [hinit] at h
    cases h
  | probe env serdev =>
    change d.surfaceSamSshProbe E env serdev = some r at h
    unfold SshDevice.surfaceSamSshProbe at h
    generalize halloc : SshDevice.probeAlloc env d.ledger = alloc at h
    obtain ⟨result, l⟩ := alloc
    cases result with
    | error status =>
      cases h
      exact .inr ⟨env, serdev, status, l, rfl, halloc, rfl⟩
    | ok b =>
      simp only at h
      rw [SshDevice.probeSetup_locked (d := { d with ledger := l }) hlock] at h
      cases h
  | remove serdev o =>
    change (d.surfaceSamSshRemove E serdev o).map _ = some r at h
    unfold SshDevice.surfaceSamSshRemove at h
    rw [hinit] at h
    cases h

/-- What a call can do to the EC. -/
inductive SshDevice.Change (d : SshDevice) : SshDevice → Prop
  | unchanged : Change d d
  | lost : Change d { d with lock := true }
  | requested (state : d.state ≠ .uninitialized) (state' : SshEcState)
    (initialized : state' ≠ .uninitialized) (ec : SamSshEc) :
    Change d { d with state := state', ec := ec }
  | handler (state : d.state ≠ .uninitialized) (i : ℕ) (fn : KPtr)
    (delay : Option (SurfaceSamSshEvent → ℕ)) (data : KPtr) :
    Change d (d.setHandler i fn delay data)
  | aborted {env : SshDevice.ProbeEnv} {status : ℤ} {l : Ledger}
    (alloc : SshDevice.probeAlloc env d.ledger = (.error status, l)) :
    Change d { d with ledger := l }
  | probed {env : SshDevice.ProbeEnv} {serdev : ℕ} {b : SshDevice.ProbeBufs} {l : Ledger}
    {r : ℤ × SshDevice} (alloc : SshDevice.probeAlloc env d.ledger = (.ok b, l))
    (result : SshDevice.SetupResult serdev b { d with ledger := l } r) :
    Change d (if r.1 ≠ 0 then { r.2 with ledger := SshDevice.errBusy b r.2.ledger } else r.2)
  | removed (state : d.state ≠ .uninitialized) (ec : SamSshEc) (serdev : ℕ) :
    Change d ({ d with ec := ec }.teardown serdev)

lemma SshDevice.eventSource_change (hlock : d.lock = false) {cid tc unknown : UInt8}
    {rqid : UInt16} {o : Schedule SshLine} {r : ℤ × SshDevice}
    (h : d.eventSource E cid tc unknown rqid o = some r) : d.Change r.2 := by
  rw [eventSource_eq hlock, Option.some_inj] at h
  rw [← h]
  split_ifs with hevent hstate hsuspended
  · exact .unchanged
  · exact .unchanged
  · exact .unchanged
  · exact .requested hstate d.state hstate _

lemma SshDevice.changeHandler_change (hlock : d.lock = false) {rqid : UInt16} {fn data : KPtr}
    {delay : Option (SurfaceSamSshEvent → ℕ)} {r : ℤ × SshDevice}
    (h : d.changeHandler rqid fn delay data = some r) : d.Change r.2 := by
  rw [changeHandler_eq hlock, Option.some_inj] at h
  rw [← h]
  split_ifs with hevent hstate
  · exact .unchanged
  · exact .unchanged
  · exact .handler hstate _ fn delay data

lemma EcCall.run_change {c : EcCall} {r : ℤ × SshDevice} (h : c.run E d = some r) :
    d.Change r.2 := by
  cases hlock : d.lock with
  | true =>
    rcases EcCall.run_held hlock h with hr | ⟨_, _, _, _, -, halloc, hr⟩
    · rw [hr]
      exact .unchanged
    · rw [hr]
      exact .aborted halloc
  | false =>
    cases c with
    | consumerRegister link =>
      change d.surfaceSamSshConsumerRegister link = some r at h
      rw [SshDevice.consumerRegister_eq hlock, Option.some_inj] at h
      rw [← h]
      split_ifs
      · exact .unchanged
      · exact .unchanged
      · exact .lost
    | enableEventSource tc unknown rqid o => exact SshDevice.eventSource_change hlock h
    | disableEventSource tc unknown rqid o => exact SshDevice.eventSource_change hlock h
    | setDelayedEventHandler rqid fn delay data =>
      exact SshDevice.changeHandler_change hlock h
    | removeEventHandler rqid => exact SshDevice.changeHandler_change hlock h
    | rqst rqst result o =>
      change d.surfaceSamSshRqst E rqst result o = some r at h
      rw [SshDevice.rqst_eq hlock, Option.some_inj] at h
      rw [← h]
      split_ifs with hstate hsuspended
      · exact .unchanged
      · exact .unchanged
      · exact .requested hstate d.state hstate _
    | suspend o =>
      change d.surfaceSamSshSuspend E o = some r at h
      rw [SshDevice.suspend_eq hlock, Option.some_inj] at h
      rw [← h]
      split_ifs with hstate
      · exact .unchanged
      · exact .requested hstate .suspended (by decide) _
    | resume o =>
      change d.surfaceSamSshResume E o = some r at h
      rw [SshDevice.resume_eq hlock, Option.some_inj] at h
      rw [← h]
      split_ifs with hstate
      · exact .unchanged
      · exact .requested hstate .initialized (by decide) _
    | probe env serdev =>
      rcases SshDevice.surfaceSamSshProbe_cases (E := E) hlock env serdev with
        ⟨status, l, halloc, hrun⟩ | ⟨b, l, r', halloc, hresult, hrun⟩
      · cases hrun.symm.trans h
        exact .aborted halloc
      · cases hrun.symm.trans h
        exact .probed halloc hresult
    | remove serdev o =>
      change (d.surfaceSamSshRemove E serdev o).map _ = some r at h
      rw [SshDevice.remove_eq hlock] at h
      cases h
      dsimp only
      split_ifs with hstate
      · exact .unchanged
      · exact .removed hstate _ serdev

end Calls

/-! ### A probe where all goes well -/

/-- A first request that is acknowledged and answered in time. -/
def firstAnswer : Schedule SshLine := fun n =>
  let recv (m : SshMessage) : SshLine :=
    ⟨fun i => (m.bytes kernelEnv).getD i 0, (m.bytes kernelEnv).length⟩
  ⟨if n = 3 then [recv (.ctrl ⟨.ack, 0, 0, 0⟩)]
    else if n = 6 then [recv (.cmd ⟨0, 1, 1, 0, 1, 0, 0, 0, 0x16, [0], by decide⟩)] else [], 0⟩

def goodProbe : SshDevice.ProbeEnv := ⟨0, true, true, true, true, true, 0, 0, firstAnswer, 0⟩

lemma goodProbe_run : ∃ s, Machine.run (SshSystem.step kernelEnv) .static
      [.call (.probe goodProbe 0)] = some s ∧ s.dev.lock = false ∧ s.dev.state = .initialized := by
  have hrun : (Machine.run (SshSystem.step kernelEnv) .static [.call (.probe goodProbe 0)]).any
      (fun s => decide (s.dev.lock = false ∧ s.dev.state = .initialized)) = true := by
    decide +kernel
  obtain ⟨s, hs, hdev⟩ := (Option.any_eq_true _ _).mp hrun
  exact ⟨s, hs, of_decide_eq_true hdev⟩

end SurfaceSam
