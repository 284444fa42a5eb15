import SurfaceSam.Ec.Power
import SurfaceSam.Ssh.RoundTrip

/-!
# Answers of the EC

What the clients of the EC get for their requests. Whenever no call is under way, the receiver waits
for nothing and has its FIFO, so that a request that is acknowledged and answered in time returns
the answer, whatever has been done before.
-/

namespace SurfaceSam

open Devlib

/-! ### The FIFO during a request -/

section Fifo

variable {E : SshEnv}

lemma SshLine.step_size (l : SshLine) (ec : SamSshEc) :
    (l.step E ec).receiver.fifo.size = ec.receiver.fifo.size := by
  have h := l.step_recv (E := E) ec
  generalize l.step E ec = ec' at h
  cases h with
  | none _ hreceiver _ _ => rw [hreceiver]
  | ctrl _ _ heq =>
    rw [heq]
    rfl
  | cmd _ _ _ heq =>
    rw [heq]
    rfl

lemma SshRqstCall.step_size {c : SshRqstCall} {pc pc' : SshPc} {ec ec' : SamSshEc}
    {a : Act SshLine} (h : c.step E pc ec a = some (pc', ec')) :
    ec'.receiver.fifo.size = ec.receiver.fifo.size := by
  cases a with
  | event l =>
    cases h
    exact l.step_size ec
  | step v =>
    cases pc with
    | waitAck _ _ =>
      simp only [step, advanceStep] at h
      split_ifs at h
      cases h
      rfl
    | waitResponse _ _ =>
      simp only [step, advanceStep] at h
      split_ifs at h
      cases h
      rfl
    | returned _ _ => cases h
    | _ =>
      cases h
      rfl
  | timeout =>
    cases pc with
    | waitAck _ _ =>
      simp only [step, timeoutStep] at h
      split_ifs at h
      cases h
      rfl
    | waitResponse _ _ =>
      simp only [step, timeoutStep] at h
      split_ifs at h
      cases h
      rfl
    | _ => cases h

/-- A request leaves the FIFO as large as it is. -/
lemma size_rqst (rqst : SurfaceSamSshRqst) (result : Option SurfaceSamSshBuf)
    (o : Schedule SshLine) (ec : SamSshEc) :
    (Prog.complete (SshLine.step E) (surfaceSamSshRqstUnlocked E rqst result) o
      ec).2.receiver.fifo.size = ec.receiver.fifo.size := by
  obtain ⟨acts, hrun⟩ : ∃ acts,
      Prog.run (SshLine.step E) acts (surfaceSamSshRqstUnlocked E rqst result) ec = some _ :=
    Prog.complete_run _ o ec
  have hexec := Prog.run_eq_some_iff.mp hrun
  rw [SshRqstCall.exec_rqst E ⟨rqst, result⟩, Option.map_eq_some_iff] at hexec
  obtain ⟨s, hs, heq⟩ := hexec
  rw [← (Prod.mk.inj heq).2]
  exact Machine.run_invariant (I := fun t => t.2.receiver.fifo.size = ec.receiver.fifo.size) hs rfl
    fun t a u ht hu => (SshRqstCall.step_size hu).trans ht

end Fifo

/-! ### The receiver between calls -/

namespace SshDevice

variable {E : SshEnv} {d d' : SshDevice} {rqst : SurfaceSamSshRqst}

/-- The receiver waits for nothing, and has its FIFO from the probe to the removal. -/
structure Listens (d : SshDevice) : Prop where
  idle : d.ec.Idle
  size : d.state ≠ .uninitialized → d.ec.receiver.fifo.size = sshReadBufLen

lemma Listens.congr (h : d.Listens) (hreceiver : d'.ec.receiver = d.ec.receiver)
    (hstate : d'.state ≠ .uninitialized → d.state ≠ .uninitialized) : d'.Listens := by
  refine ⟨⟨?_, ?_⟩, fun hinit => ?_⟩
  · rw [hreceiver]
    exact h.idle.state
  · rw [hreceiver]
    exact h.idle.fifo
  · rw [hreceiver]
    exact h.size (hstate hinit)

lemma idle_request (h : d.ec.Idle) (result : Option SurfaceSamSshBuf) (o : Schedule SshLine) :
    (d.request E rqst result o).2.ec.Idle := by
  by_cases hcdl : rqst.cdl.toNat ≤ surfaceSamSshMaxRqstPayload
  · exact (rqst_asks result o h hcdl).idle
  · exact (request_refused result o h (Nat.lt_of_not_le hcdl)).2

lemma Listens.request (h : d.Listens) (result : Option SurfaceSamSshBuf) (o : Schedule SshLine) :
    (d.request E rqst result o).2.Listens :=
  ⟨idle_request h.idle result o, fun hinit => (size_rqst rqst result o d.ec).trans (h.size hinit)⟩

/-- The calls for event sources, and requests of clients. -/
lemma Listens.gated {r : ℤ × SshDevice} (h : d.Listens) (result : Option SurfaceSamSshBuf)
    (o : Schedule SshLine) (hr : r = if d.state = .uninitialized then (-enxio, d)
      else if d.state = .suspended then (-eperm, d) else d.request E rqst result o) :
    r.2.Listens := by
  rw [hr]
  split_ifs
  · exact h
  · exact h
  · exact h.request result o

lemma Listens.eventSource {cid tc unknown : UInt8} {rqid : UInt16} {o : Schedule SshLine}
    {r : ℤ × SshDevice} (h : d.Listens) (hlock : d.lock = false)
    (hr : d.eventSource E cid tc unknown rqid o = some r) : r.2.Listens := by
  rw [eventSource_eq hlock, Option.some_inj] at hr
  rw [← hr]
  by_cases hevent : samRqidIsEvent rqid = false
  · rw [if_pos hevent]
    exact h
  · rw [if_neg hevent]
    exact h.gated (some controlBuf) o rfl

lemma Listens.changeHandler {rqid : UInt16} {fn data : KPtr}
    {delay : Option (SurfaceSamSshEvent → ℕ)} {r : ℤ × SshDevice} (h : d.Listens)
    (hlock : d.lock = false) (hr : d.changeHandler rqid fn delay data = some r) :
    r.2.Listens := by
  rw [changeHandler_eq hlock, Option.some_inj] at hr
  rw [← hr]
  split_ifs
  · exact h
  · exact h
  · exact h.congr rfl id

/-- The part of a probe that holds the mutex. -/
lemma Listens.probeSetup {env : ProbeEnv} {serdev : ℕ} {b : ProbeBufs} {r : ℤ × SshDevice}
    (h : d.Listens) (hr : d.probeSetup E env serdev b = some r) : r.2.Listens := by
  cases hlock : d.lock with
  | true =>
    rw [probeSetup_locked hlock] at hr
    cases hr
  | false =>
    unfold SshDevice.probeSetup at hr
    rw [acquire_unlocked hlock] at hr
    simp only [Option.bind_eq_bind, Option.bind_some] at hr
    have hinit : (({ d with lock := true }.probeInit serdev b).serdevDeviceOpen serdev).Listens :=
      ⟨⟨h.idle.state, rfl⟩, fun _ => rfl⟩
    have hresumed : ((({ d with lock := true }.probeInit serdev b).serdevDeviceOpen
        serdev).surfaceSamSshEcResume E env.resume).2.Listens :=
      hinit.request (some controlBuf) env.resume
    split_ifs at hr
    · cases hr
      exact h.congr rfl id
    · cases hr
      exact hinit.congr rfl fun _ => SshEcState.noConfusion
    · cases hr
      exact hinit.congr rfl fun _ => SshEcState.noConfusion
    · cases hr
      exact hresumed.congr rfl fun _ => SshEcState.noConfusion
    · cases hr
      exact hresumed.congr rfl fun _ => SshEcState.noConfusion
    · cases hr
      exact hresumed.congr rfl id

end SshDevice

lemma EcCall.run_listens {E : SshEnv} {d : SshDevice} {c : EcCall} {r : ℤ × SshDevice}
    (h : d.Listens) (hr : c.run E d = some r) : r.2.Listens := by
  cases hlock : d.lock with
  | true =>
    obtain heq | ⟨_, _, _, _, -, -, heq⟩ := EcCall.run_held hlock hr
    · exact heq ▸ h
    · exact heq ▸ h.congr rfl id
  | false =>
    cases c with
    | consumerRegister link =>
      change d.surfaceSamSshConsumerRegister link = some r at hr
      rw [SshDevice.consumerRegister_eq hlock, Option.some_inj] at hr
      rw [← hr]
      split_ifs
      · exact h
      · exact h
      · exact h.congr rfl id
    | enableEventSource tc unknown rqid o => exact h.eventSource hlock hr
    | disableEventSource tc unknown rqid o => exact h.eventSource hlock hr
    | setDelayedEventHandler rqid fn delay data => exact h.changeHandler hlock hr
    | removeEventHandler rqid => exact h.changeHandler hlock hr
    | rqst rqst result o =>
      change d.surfaceSamSshRqst E rqst result o = some r at hr
      rw [SshDevice.rqst_eq hlock, Option.some_inj] at hr
      exact h.gated result o hr.symm
    | suspend o =>
      change d.surfaceSamSshSuspend E o = some r at hr
      rw [SshDevice.suspend_eq hlock, Option.some_inj] at hr
      rw [← hr]
      split_ifs with hstate
      · exact h
      · exact (h.request (some controlBuf) o).congr rfl fun _ => hstate
    | resume o =>
      change d.surfaceSamSshResume E o = some r at hr
      rw [SshDevice.resume_eq hlock, Option.some_inj] at hr
      rw [← hr]
      split_ifs with hstate
      · exact h
      · have hresumed : { d with state := .initialized }.Listens := ⟨h.idle, fun _ => h.size hstate⟩
        exact hresumed.request (some controlBuf) o
    | probe env serdev =>
      change d.surfaceSamSshProbe E env serdev = some r at hr
      unfold SshDevice.surfaceSamSshProbe at hr
      generalize SshDevice.probeAlloc env d.ledger = alloc at hr
      obtain ⟨status | b, l⟩ := alloc
      · cases hr
        exact h.congr rfl id
      · obtain ⟨⟨status, d'⟩, hsetup, hr⟩ := Option.bind_eq_some_iff.mp hr
        have hl : { d with ledger := l }.Listens := h.congr rfl id
        have hd' := hl.probeSetup hsetup
        dsimp only at hr
        split_ifs at hr
        · cases hr
          exact hd'.congr rfl id
        · cases hr
          exact hd'
    | remove serdev o =>
      change (d.surfaceSamSshRemove E serdev o).map _ = some r at hr
      rw [SshDevice.remove_eq hlock] at hr
      cases hr
      dsimp only
      split_ifs
      · exact h
      · exact ⟨⟨rfl, rfl⟩, fun hinit => absurd rfl hinit⟩

namespace SshSystem

variable {E : SshEnv} {s t : SshSystem} {a : EcAction}

lemma step_listens (h : s.dev.Listens) (hstep : s.step E a = some t) : t.dev.Listens := by
  cases a with
  | call c =>
    obtain ⟨r, hr, rfl⟩ := Option.map_eq_some_iff.mp hstep
    exact EcCall.run_listens h hr
  | receive l =>
    cases hstep
    obtain ⟨-, hreceiver, -, -⟩ := l.step_discard (E := E) h.idle.state
    exact h.congr hreceiver id
  | probeAlloc env serdev =>
    obtain ⟨_, _, -, rfl⟩ | ⟨_, _, -, rfl⟩ := step_probeAlloc hstep
    · exact h.congr rfl id
    · exact h.congr rfl id
  | probeSetup i =>
    obtain ⟨_, _, _, _, -, hr, rfl⟩ := step_probeSetup hstep
    exact h.probeSetup hr
  | probeUnwind i =>
    obtain ⟨_, -, rfl⟩ := step_probeUnwind hstep
    exact h.congr rfl id

lemma listens_reached (h : Machine.Reaches (SshSystem.step E) (fun _ _ => True) .static s) :
    s.dev.Listens :=
  h.invariant (I := fun s => s.dev.Listens)
    ⟨⟨rfl, rfl⟩, fun hinit => absurd rfl hinit⟩ fun _ _ _ ht _ hstep => step_listens ht hstep

end SshSystem

/-! ### What a client gets -/

lemma sshGetResponse_cap (E : SshEnv) (buf : SurfaceSamSshBuf) (packet : SshFifoPacket) :
    (sshGetResponse E buf packet).Returns (fun r => r.2.cap = buf.cap) := by
  unfold sshGetResponse
  refine Prog.Returns.bind Prog.returns_true fun signalled _ => ?_
  cases signalled with
  | false => exact rfl
  | true =>
    refine Prog.Returns.bind Prog.returns_true fun packet _ => ?_
    split_ifs
    · exact rfl
    · refine Prog.Returns.bind (Q := fun res => res.cap = buf.cap) ?_ fun res hres => ?_
      · exact fun _ => (rfl : buf.cap = buf.cap)
      · refine Prog.Returns.bind Prog.returns_true fun _ _ => ?_
        exact Prog.Returns.bind Prog.returns_true fun _ _ => hres

/-- A request hands back the buffer it has been given. -/
lemma surfaceSamSshRqstUnlocked_cap (E : SshEnv) (rqst : SurfaceSamSshRqst)
    (buf : SurfaceSamSshBuf) : (surfaceSamSshRqstUnlocked E rqst (some buf)).Returns
      (fun r => ∃ res, r.2 = some res ∧ res.cap = buf.cap) := by
  have hunfilled : ∃ res, some buf = some res ∧ res.cap = buf.cap := ⟨buf, rfl, rfl⟩
  have htransact : (sshTransact E rqst (some buf)).Returns
      (fun r => ∃ res, r.2 = some res ∧ res.cap = buf.cap) := by
    unfold sshTransact
    refine Prog.Returns.bind Prog.returns_true fun sent _ => ?_
    cases sent with
    | failed status => exact hunfilled
    | gaveUp => exact hunfilled
    | acked packet =>
      refine Prog.Returns.bind Prog.returns_true fun _ _ => ?_
      dsimp only
      split_ifs
      · exact Prog.Returns.bind (sshGetResponse_cap E buf packet) fun r hr => ⟨r.2, rfl, hr⟩
      · exact hunfilled
  unfold surfaceSamSshRqstUnlocked
  split_ifs
  · exact hunfilled
  · refine Prog.Returns.bind Prog.returns_true fun _ _ =>
      Prog.Returns.bind Prog.returns_true fun _ _ => ?_
    refine Prog.Returns.bind htransact fun r hr => ?_
    exact Prog.Returns.bind Prog.returns_true fun _ _ => hr

namespace SshDevice

section Clients

variable (E : SshEnv) (rqst : SurfaceSamSshRqst) (buf : SurfaceSamSshBuf) (o : Schedule SshLine)

/-- The result buffer after `surface_sam_ssh_rqst`. -/
def resultBuf (d : SshDevice) : SurfaceSamSshBuf :=
  if d.state = .initialized then
    (Prog.complete (SshLine.step E) (surfaceSamSshRqstUnlocked E rqst (some buf)) o
      d.ec).1.2.getD buf
  else buf

/-- `surface_sam_ssh_rqst` with the result buffer that it leaves to its caller. -/
def clientRqst (d : SshDevice) : Option ((ℤ × SurfaceSamSshBuf) × SshDevice) :=
  (d.surfaceSamSshRqst E rqst (some buf) o).map fun r =>
    ((r.1, d.resultBuf E rqst buf o), r.2)

/-- In the run under the schedule, the message of the request is acknowledged and then answered
with `m`, in time. -/
def Answered (m : SshCmdMessage) (d : SshDevice) : Prop :=
  ∃ lines lines' v v' acts, SshReplies E d.ec.awaits m .nothing 2 acts ∧
    Prog.run (SshLine.step E) (sshBegin lines lines' v v' ++ acts)
      (surfaceSamSshRqstUnlocked E rqst (some buf)) d.ec =
        some (Prog.complete (SshLine.step E) (surfaceSamSshRqstUnlocked E rqst (some buf)) o d.ec)

end Clients

variable {E : SshEnv} {d d' : SshDevice} {rqst : SurfaceSamSshRqst} {buf : SurfaceSamSshBuf}
  {o : Schedule SshLine} {m : SshCmdMessage} {r : ℤ × SurfaceSamSshBuf}

/-- A call that has returned has had the mutex. -/
lemma lock_of_clientRqst (h : d.clientRqst E rqst buf o = some (r, d')) : d.lock = false := by
  cases hlock : d.lock with
  | false => rfl
  | true =>
    unfold clientRqst surfaceSamSshRqst at h
    rw [acquireInit_locked hlock] at h
    cases h

lemma clientRqst_initialized (rqst : SurfaceSamSshRqst) (buf : SurfaceSamSshBuf)
    (o : Schedule SshLine) (hlock : d.lock = false) (hstate : d.state = .initialized) :
    d.clientRqst E rqst buf o =
      some (((d.request E rqst (some buf) o).1, d.resultBuf E rqst buf o),
        (d.request E rqst (some buf) o).2) := by
  unfold clientRqst
  rw [rqst_eq hlock, hstate]
  rfl

/-- Only an EC that is initialized and awake is asked. -/
lemma state_of_clientRqst (h : d.clientRqst E rqst buf o = some (r, d')) (hnxio : r.1 ≠ -enxio)
    (hperm : r.1 ≠ -eperm) : d.state = .initialized := by
  have hlock := lock_of_clientRqst h
  unfold clientRqst at h
  rw [rqst_eq hlock] at h
  obtain ⟨⟨status, d''⟩, hr, heq⟩ := Option.map_eq_some_iff.mp h
  rw [Option.some_inj] at hr
  have hstatus : status = r.1 := congrArg (fun x => x.1.1) heq
  cases hstate : d.state with
  | initialized => rfl
  | uninitialized =>
    rw [if_pos hstate] at hr
    cases hr
    exact absurd hstatus.symm hnxio
  | suspended =>
    rw [hstate, if_neg SshEcState.noConfusion, if_pos rfl] at hr
    cases hr
    exact absurd hstatus.symm hperm

lemma cap_clientRqst (h : d.clientRqst E rqst buf o = some (r, d')) : r.2.cap = buf.cap := by
  obtain ⟨r', -, heq⟩ := Option.map_eq_some_iff.mp h
  cases heq
  unfold resultBuf
  split_ifs
  · obtain ⟨acts, hrun⟩ : ∃ acts, Prog.run (SshLine.step E) acts
        (surfaceSamSshRqstUnlocked E rqst (some buf)) d.ec = some _ := Prog.complete_run _ o d.ec
    obtain ⟨res, hres, hcap⟩ := Prog.run_wp
      (Q := fun r _ => ∃ res, r.2 = some res ∧ res.cap = buf.cap)
      (surfaceSamSshRqstUnlocked_cap E rqst buf).wp hrun
    rw [hres]
    exact hcap
  · rfl

/-- A request that is made, and is not too long, is sent, whatever comes of it. -/
lemma clientRqst_sent (hidle : d.ec.Idle) (h : d.clientRqst E rqst buf o = some (r, d'))
    (hstate : d.state = .initialized) (hcdl : rqst.cdl.toNat ≤ surfaceSamSshMaxRqstPayload) :
    SamSshEc.Sent E rqst d.ec d'.ec := by
  rw [clientRqst_initialized rqst buf o (lock_of_clientRqst h) hstate] at h
  cases h
  obtain ⟨τ, htrace, ⟨status, hmem⟩, -⟩ := (rqst_asks (E := E) (some buf) o hidle hcdl).trace
  refine ⟨status, ?_⟩
  change _ ∈ (Prog.complete _ _ o d.ec).2.trace.drop _
  rwa [htrace, List.drop_left]

/-- A request that is answered is not too long. -/
lemma Answered.cdl (h : d.Answered E rqst buf o m) :
    rqst.cdl.toNat ≤ surfaceSamSshMaxRqstPayload := by
  obtain ⟨lines, lines', v, v', acts, -, hrun⟩ := h
  by_contra hcdl
  have hrqst : surfaceSamSshRqstUnlocked E rqst (some buf) = .done (-einval, some buf) :=
    if_pos (Nat.lt_of_not_le hcdl)
  rw [hrqst] at hrun
  have hexec := Prog.run_eq_some_iff.mp hrun
  simp only [sshBegin, List.append_assoc] at hexec
  rw [Prog.exec_events] at hexec
  cases hexec

/-- It returns the payload of the answer. -/
lemma Answered.complete (h : d.Answered E rqst buf o m) (hidle : d.ec.Idle)
    (hsize : d.ec.receiver.fifo.size = sshReadBufLen) (hsnc : rqst.snc ≠ 0)
    (hcap : m.pld.length ≤ buf.cap.toNat) :
    (Prog.complete (SshLine.step E) (surfaceSamSshRqstUnlocked E rqst (some buf)) o d.ec).1 =
      (0, some (buf.filled m)) := by
  have hcdl := h.cdl
  obtain ⟨lines, lines', v, v', acts, hreplies, hrun⟩ := h
  generalize Prog.complete _ _ o d.ec = r at hrun ⊢
  have hexec := Prog.run_eq_some_iff.mp hrun
  let c : SshRqstCall := ⟨rqst, some buf⟩
  have henter : c.enter = .writeMsg := if_neg (Nat.not_lt.mpr hcdl)
  obtain ⟨ec₀, hbegin, htrying⟩ := SshRqstCall.run_begin (E := E) (c := c) (m := m)
    lines lines' v v' hidle hsize hsnc
  rw [SshRqstCall.exec_rqst E c, henter, Machine.run_append, hbegin] at hexec
  obtain ⟨⟨pc, ec'⟩, hacts, heq⟩ := Option.map_eq_some_iff.mp hexec
  obtain ⟨hdone, -⟩ := Prod.mk.inj heq
  have hanswering : SshPc.Answering buf d.ec.awaits m 2 .nothing ec₀.receiver
      (.flush 2 ⟨0, 0, 0⟩) := htrying
  obtain ⟨budget, hanswered⟩ := hreplies.answering rfl hsnc hcap rfl hanswering hacts
  -- the only place where the program has come to its end
  cases pc with
  | returned status result =>
    obtain ⟨rfl, rfl, -⟩ := hanswered
    exact (Prog.done.inj hdone).symm
  | _ => cases hdone

/-- What a client gets from an EC that is awake, when it is answered in time. -/
lemma clientRqst_answered (h : d.Listens) (hlock : d.lock = false) (hstate : d.state = .initialized)
    (hsnc : rqst.snc ≠ 0) (hcap : m.pld.length ≤ buf.cap.toNat)
    (hanswered : d.Answered E rqst buf o m) :
    ∃ d', d.clientRqst E rqst buf o = some ((0, buf.filled m), d') ∧
      SamSshEc.Sent E rqst d.ec d'.ec := by
  have hsize : d.ec.receiver.fifo.size = sshReadBufLen := by
    apply h.size
    rw [hstate]
    exact SshEcState.noConfusion
  have hcomplete := hanswered.complete h.idle hsize hsnc hcap
  have hresult : d.clientRqst E rqst buf o =
      some ((0, buf.filled m), (d.request E rqst (some buf) o).2) := by
    rw [clientRqst_initialized rqst buf o hlock hstate, resultBuf, if_pos hstate, SshDevice.request, hcomplete]
    rfl
  exact ⟨_, hresult, clientRqst_sent h.idle hresult hstate hanswered.cdl⟩

end SshDevice

/-- It is a step of the system. -/
lemma SshSystem.step_clientRqst {E : SshEnv} {s : SshSystem} {d : SshDevice}
    {rqst : SurfaceSamSshRqst} {buf : SurfaceSamSshBuf} {o : Schedule SshLine}
    {r : ℤ × SurfaceSamSshBuf} (h : s.dev.clientRqst E rqst buf o = some (r, d)) :
    s.step E (.call (.rqst rqst (some buf) o)) = some { s with dev := d } := by
  obtain ⟨r', hr', heq⟩ := Option.map_eq_some_iff.mp h
  cases heq
  exact Option.map_eq_some_iff.mpr ⟨r', hr', rfl⟩

end SurfaceSam
