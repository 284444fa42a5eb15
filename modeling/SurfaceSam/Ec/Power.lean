import SurfaceSam.Devlib.Trace
import SurfaceSam.Ec.System
import SurfaceSam.Ssh.RequestIds

/-!
# What the EC is told

The commands that are handed to the serial device in a run of the driver, as an EC that gets
them all reads them; the driver does not depend on whether a write succeeds. One command puts
the EC to sleep and one wakes it up; while it sleeps it is not to be given any other.
-/

namespace SurfaceSam

open Devlib

/-! ### What a request writes -/

section Writes

variable {E : SshEnv} {c : SshRqstCall} {rqst : SurfaceSamSshRqst} {ec₀ ec ec' : SamSshEc}
  {pc pc' : SshPc}

/-- Nothing has been written yet, and what is written next is the command message. -/
inductive SshPc.Unsent (E : SshEnv) (rqst : SurfaceSamSshRqst) (ec₀ : SamSshEc) :
    SshPc → SamSshEc → Prop
  | writeMsg {ec : SamSshEc} (counter : ec.counter = ec₀.counter) : Unsent E rqst ec₀ .writeMsg ec
  | restart {ec : SamSshEc} (writer : ec.writer = sshMsgCmd E rqst ec₀) :
    Unsent E rqst ec₀ .restart ec
  | flush {ec : SamSshEc} (tries : ℕ) (packet : SshFifoPacket)
    (writer : ec.writer = sshMsgCmd E rqst ec₀) : Unsent E rqst ec₀ (.flush tries packet) ec

/-- Since the EC was `ec₀`, the command message of the request has been handed to the serial
device, whatever the status of that write. -/
def SamSshEc.Sent (E : SshEnv) (rqst : SurfaceSamSshRqst) (ec₀ ec : SamSshEc) : Prop :=
  ∃ status, .write (sshMsgCmd E rqst ec₀) status ∈ ec.trace.drop ec₀.trace.length

lemma SamSshEc.Sent.mono (h : SamSshEc.Sent E rqst ec₀ ec) (htrace : ec.trace <+: ec'.trace) :
    SamSshEc.Sent E rqst ec₀ ec' := by
  obtain ⟨status, hmem⟩ := h
  obtain ⟨τ, hτ⟩ := htrace
  refine ⟨status, ?_⟩
  rw [← hτ, List.drop_append]
  exact List.mem_append_left _ hmem

/-- Received messages are noted, and nothing else that a request has left behind changes. -/
lemma SshLine.step_kept (l : SshLine) (ec : SamSshEc) :
    ec.trace <+: (l.step E ec).trace ∧ (l.step E ec).counter = ec.counter ∧
      (l.step E ec).writer = ec.writer := by
  have h := l.step_recv (E := E) ec
  generalize l.step E ec = ec' at h
  cases h with
  | none htrace _ hcounter hwriter => exact ⟨htrace ▸ List.prefix_refl _, hcounter, hwriter⟩
  | ctrl _ _ heq =>
    rw [heq]
    exact ⟨List.prefix_append _ _, rfl, rfl⟩
  | cmd _ _ _ heq =>
    rw [heq]
    exact ⟨List.prefix_append _ _, rfl, rfl⟩

/-- No step of a request takes back what has been observed. -/
lemma SshRqstCall.step_trace {a : Act SshLine} (h : c.step E pc ec a = some (pc', ec')) :
    ec.trace <+: ec'.trace := by
  cases a with
  | event l =>
    cases h
    exact (l.step_kept ec).1
  | step v =>
    cases pc with
    | waitAck _ _ =>
      simp only [step, advanceStep] at h
      split_ifs at h
      cases h
      exact List.prefix_refl _
    | waitResponse _ _ =>
      simp only [step, advanceStep] at h
      split_ifs at h
      cases h
      exact List.prefix_refl _
    | returned _ _ => cases h
    | flush _ _ =>
      cases h
      exact List.prefix_append _ _
    | takeAck _ _ =>
      cases h
      exact List.prefix_append _ _
    | takeResponse _ _ =>
      cases h
      exact List.prefix_append _ _
    | flushAck _ =>
      cases h
      exact List.prefix_append _ _
    | _ =>
      cases h
      exact List.prefix_refl _
  | timeout =>
    cases pc with
    | waitAck _ _ =>
      simp only [step, timeoutStep] at h
      split_ifs at h
      cases h
      exact List.prefix_refl _
    | waitResponse _ _ =>
      simp only [step, timeoutStep] at h
      split_ifs at h
      cases h
      exact List.prefix_refl _
    | _ => cases h

/-- The first write of a request is that of its command message. -/
lemma SshPc.Unsent.step {a : Act SshLine} (h : pc.Unsent E c.rqst ec₀ ec)
    (htrace : ec₀.trace <+: ec.trace) (hstep : c.step E pc ec a = some (pc', ec')) :
    pc'.Unsent E c.rqst ec₀ ec' ∨ SamSshEc.Sent E c.rqst ec₀ ec' := by
  cases a with
  | event l =>
    cases hstep
    obtain ⟨-, hcounter, hwriter⟩ := l.step_kept (E := E) ec
    refine .inl ?_
    cases h with
    | writeMsg counter => exact .writeMsg (hcounter.trans counter)
    | restart writer => exact .restart (hwriter.trans writer)
    | flush tries packet writer => exact .flush tries packet (hwriter.trans writer)
  | step v =>
    cases h with
    | writeMsg counter =>
      cases hstep
      exact .inl (.restart (sshMsgCmd_congr counter))
    | restart writer =>
      cases hstep
      exact .inl (.flush _ _ writer)
    | flush tries packet writer =>
      cases hstep
      refine .inr ⟨v, ?_⟩
      rw [← writer]
      dsimp only
      rw [List.drop_append_of_le_length htrace.length_le]
      exact List.mem_append_right _ (List.mem_singleton_self _)
  | timeout =>
    cases h with
    | writeMsg _ => cases hstep
    | restart _ => cases hstep
    | flush _ _ _ => cases hstep

lemma SshRqstCall.run_sent {acts : List (Act SshLine)} (hpc : pc.Unsent E c.rqst ec₀ ec)
    (htrace : ec₀.trace <+: ec.trace)
    (hrun : Machine.run (c.machine E) (pc, ec) acts = some (pc', ec')) :
    pc'.Unsent E c.rqst ec₀ ec' ∨ SamSshEc.Sent E c.rqst ec₀ ec' := by
  let I (t : SshPc × SamSshEc) : Prop := ec₀.trace <+: t.2.trace ∧
    (t.1.Unsent E c.rqst ec₀ t.2 ∨ SamSshEc.Sent E c.rqst ec₀ t.2)
  have hI : I (pc', ec') := by
    refine Machine.run_invariant (I := I) hrun ⟨htrace, .inl hpc⟩ ?_
    rintro ⟨pc, ec⟩ a ⟨pc', ec'⟩ ⟨htrace, hsent⟩ hstep
    have hkept := SshRqstCall.step_trace hstep
    refine ⟨htrace.trans hkept, ?_⟩
    cases hsent with
    | inl hunsent => exact hunsent.step htrace hstep
    | inr hsent => exact .inr (hsent.mono hkept)
  exact hI.2

/-- A request writes its command message, once or more, and ACKs. -/
structure SamSshEc.Asks (E : SshEnv) (rqst : SurfaceSamSshRqst) (ec₀ ec : SamSshEc) : Prop where
  trace : ∃ τ, ec.trace = ec₀.trace ++ τ ∧
    (∃ status, .write (sshMsgCmd E rqst ec₀) status ∈ τ) ∧
    ∀ data status, .write data status ∈ τ →
      data = sshMsgCmd E rqst ec₀ ∨ ∃ seq, data = sshMsgAck E seq
  idle : ec.Idle

lemma rqst_asks (result : Option SurfaceSamSshBuf) (o : Schedule SshLine) (hidle : ec.Idle)
    (hcdl : rqst.cdl.toNat ≤ surfaceSamSshMaxRqstPayload) :
    SamSshEc.Asks E rqst ec
      (Prog.complete (SshLine.step E) (surfaceSamSshRqstUnlocked E rqst result) o ec).2 := by
  obtain ⟨acts, hrun⟩ : ∃ acts,
      Prog.run (SshLine.step E) acts (surfaceSamSshRqstUnlocked E rqst result) ec = some _ :=
    Prog.complete_run _ o ec
  generalize Prog.complete (SshLine.step E) (surfaceSamSshRqstUnlocked E rqst result) o ec = r at hrun
  obtain ⟨r, ec'⟩ := r
  obtain ⟨_, hpost⟩ := Prog.run_wp (wp_surfaceSamSshRqstUnlocked result hidle) hrun
  obtain ⟨τ, hτ, hwrites⟩ := (Prog.run_wp (wp_surfaceSamSshRqstUnlocked_rqid result hidle hcdl)
    hrun).trace
  refine ⟨⟨τ, hτ, ?_, hwrites⟩, hpost.state, hpost.fifo⟩
  have hexec := Prog.run_eq_some_iff.mp hrun
  rw [SshRqstCall.exec_rqst E ⟨rqst, result⟩, Option.map_eq_some_iff] at hexec
  obtain ⟨⟨pc, ec''⟩, hs, heq⟩ := hexec
  obtain ⟨hdone, rfl⟩ := Prod.mk.inj heq
  have henter : (SshRqstCall.mk rqst result).enter = .writeMsg := if_neg (Nat.not_lt_of_le hcdl)
  rw [henter] at hs
  have hsent := SshRqstCall.run_sent (.writeMsg rfl) (List.prefix_refl _) hs
  cases hsent with
  | inl hunsent =>
    cases hunsent with
    | writeMsg _ => cases hdone
    | restart _ => cases hdone
    | flush _ _ _ => cases hdone
  | inr hsent =>
    obtain ⟨status, hmem⟩ := hsent
    change ec''.trace = _ at hτ
    rw [hτ, List.drop_left] at hmem
    exact ⟨status, hmem⟩

end Writes

/-! ### The EC -/

/-- What the EC has been told last, if all writes get through. -/
inductive EcPower where
  | off
  | awake
  | asleep
  deriving DecidableEq, Repr

/-- Target category and command id of a command message. -/
def msgCommand (data : List UInt8) : UInt8 × UInt8 := (data.getD 9 0, data.getD 15 0)

/-- The commands of `surface_sam_ssh_ec_resume` and `surface_sam_ssh_ec_suspend`. -/
def ecResumeCommand : UInt8 × UInt8 := (0x01, 0x16)
def ecSuspendCommand : UInt8 × UInt8 := (0x01, 0x15)

namespace EcPower

/-- It is not put to sleep before it has been woken up once, and while it sleeps it gets no other
commands. -/
def told (p : EcPower) (command : UInt8 × UInt8) : Option EcPower :=
  if command = ecResumeCommand then some .awake
  else if command = ecSuspendCommand then if p = .off then none else some .asleep
  else if p = .awake then some .awake else none

/-- What is written to the line; ACKs are no commands. -/
def step : Machine EcPower (List UInt8)
  | p, data => if isCmdMsg data then p.told (msgCommand data) else some p

end EcPower

/-- The bytes that are handed to the serial device, also in a write that fails. -/
def SshObs.written : SshObs → Option (List UInt8)
  | .write data _ => some data
  | _ => none

namespace EcPower

variable {E : SshEnv} {rqst : SurfaceSamSshRqst} {ec : SamSshEc} {p q : EcPower}
  {command : UInt8 × UInt8}

lemma told_told (h : p.told command = some q) : q.told command = some q := by
  unfold told at h ⊢
  split_ifs at h with hresume hsuspend hoff hawake
  · rw [if_pos hresume]
    exact h
  · cases h
    rw [if_neg hresume, if_pos hsuspend]
    rfl
  · cases h
    rw [if_neg hresume, if_neg hsuspend, if_pos rfl]

lemma step_sshMsgCmd : p.step (sshMsgCmd E rqst ec) = p.told (rqst.tc, rqst.cid) := by
  have hcmd : isCmdMsg (sshMsgCmd E rqst ec) := rfl
  rw [step, if_pos hcmd]
  rfl

lemma step_sshMsgAck (seq : UInt8) : p.step (sshMsgAck E seq) = some p := by
  have hack : ¬isCmdMsg (sshMsgAck E seq) := by
    change ¬sshFrameTypeAck = sshFrameTypeCmd
    decide
  rw [step, if_neg hack]

/-- Hearing the same command again changes nothing. -/
lemma run_told {datas : List (List UInt8)} (htold : p.told (rqst.tc, rqst.cid) = some q)
    (hmem : sshMsgCmd E rqst ec ∈ datas)
    (hdatas : ∀ data ∈ datas, data = sshMsgCmd E rqst ec ∨ ∃ seq, data = sshMsgAck E seq) :
    Machine.run step p datas = some q := by
  have hrun : ∀ p, p.told (rqst.tc, rqst.cid) = some q → Machine.run step p datas =
      some (if sshMsgCmd E rqst ec ∈ datas then q else p) := by
    clear htold hmem
    induction datas with
    | nil => exact fun p _ => rfl
    | cons data datas ih =>
      intro p htold
      rw [List.forall_mem_cons] at hdatas
      rw [Machine.run]
      obtain rfl | ⟨seq, rfl⟩ := hdatas.1
      · rw [step_sshMsgCmd, htold, Option.bind_some, ih hdatas.2 q (told_told htold), ite_self,
          if_pos List.mem_cons_self]
      · rw [step_sshMsgAck, Option.bind_some, ih hdatas.2 p htold]
        have hne : sshMsgCmd E rqst ec ≠ sshMsgAck E seq := (sshMsgAck_ne_sshMsgCmd seq ec).symm
        simp only [List.mem_cons, hne, false_or]
  rw [hrun p htold, if_pos hmem]

end EcPower

/-! ### Runs of the driver -/

namespace SshDevice

variable {E : SshEnv} {d : SshDevice} {p q : EcPower} {rqst : SurfaceSamSshRqst}

/-- What the serial device has been given so far tells the EC what the driver takes it for. -/
structure Told (d : SshDevice) (p : EcPower) : Prop where
  run : Machine.run EcPower.step .off (d.ec.trace.filterMap SshObs.written) = some p
  idle : d.ec.Idle
  initialized : d.state = .initialized → p = .awake
  suspended : d.state = .suspended → p = .asleep

/-- The EC has been woken up once. -/
lemma Told.ne_off (h : d.Told p) (hstate : d.state ≠ .uninitialized) : p ≠ .off := by
  cases hd : d.state with
  | uninitialized => exact absurd hd hstate
  | initialized =>
    rw [h.initialized hd]
    decide
  | suspended =>
    rw [h.suspended hd]
    decide

/-- A request that is sent. -/
lemma request_told (result : Option SurfaceSamSshBuf) (o : Schedule SshLine)
    (hrun : Machine.run EcPower.step .off (d.ec.trace.filterMap SshObs.written) = some p)
    (hidle : d.ec.Idle) (htold : p.told (rqst.tc, rqst.cid) = some q)
    (hcdl : rqst.cdl.toNat ≤ surfaceSamSshMaxRqstPayload) :
    Machine.run EcPower.step .off
        ((d.request E rqst result o).2.ec.trace.filterMap SshObs.written) = some q ∧
      (d.request E rqst result o).2.ec.Idle := by
  have hasks := rqst_asks (E := E) result o hidle hcdl
  obtain ⟨τ, htrace, ⟨status, hmem⟩, hwrites⟩ := hasks.trace
  refine ⟨?_, hasks.idle⟩
  change Machine.run _ _ ((Prog.complete (SshLine.step E) (surfaceSamSshRqstUnlocked E rqst result) o
    d.ec).2.trace.filterMap SshObs.written) = _
  rw [htrace, List.filterMap_append, Machine.run_append, hrun, Option.bind_some]
  refine EcPower.run_told htold (List.mem_filterMap.mpr ⟨_, hmem, rfl⟩) ?_
  intro data hdata
  obtain ⟨o, ho, hwritten⟩ := List.mem_filterMap.mp hdata
  cases o with
  | write data' status =>
    cases hwritten
    exact hwrites _ _ ho
  | _ => cases hwritten

/-- A request with too long a payload is not sent. -/
lemma request_refused (result : Option SurfaceSamSshBuf) (o : Schedule SshLine)
    (hidle : d.ec.Idle) (hcdl : surfaceSamSshMaxRqstPayload < rqst.cdl.toNat) :
    (d.request E rqst result o).2.ec.trace = d.ec.trace ∧
      (d.request E rqst result o).2.ec.Idle := by
  have hrqst : surfaceSamSshRqstUnlocked E rqst result = .done (-einval, result) := if_pos hcdl
  have hstart : SshUntouched d.ec d.ec.writer d.ec := ⟨hidle, rfl, rfl, rfl⟩
  have hend := (SshUntouched.stable (E := E)).events (o 0).events hstart
  unfold request
  rw [hrqst]
  exact ⟨hend.trace, hend.idle⟩

lemma Told.congr {d' : SshDevice} (h : d.Told p) (htrace : d'.ec.trace = d.ec.trace)
    (hidle : d'.ec.Idle) (hstate : d'.state = d.state) : d'.Told p := by
  refine ⟨?_, hidle, ?_, ?_⟩
  · rw [htrace]
    exact h.run
  · rw [hstate]
    exact h.initialized
  · rw [hstate]
    exact h.suspended

/-- A request that does not put the EC to sleep, made while the driver takes it to be awake. -/
lemma Told.request (h : d.Told p) (hstate : d.state = .initialized)
    (hcommand : (rqst.tc, rqst.cid) ≠ ecSuspendCommand) (result : Option SurfaceSamSshBuf)
    (o : Schedule SshLine) : (d.request E rqst result o).2.Told p := by
  by_cases hcdl : rqst.cdl.toNat ≤ surfaceSamSshMaxRqstPayload
  · have hawake := h.initialized hstate
    have htold : p.told (rqst.tc, rqst.cid) = some p := by
      rw [EcPower.told, hawake, if_neg hcommand, if_pos rfl, ite_self]
    obtain ⟨hrun, hidle⟩ := request_told result o h.run h.idle htold hcdl
    refine ⟨hrun, hidle, fun _ => hawake, fun hsuspended => ?_⟩
    cases hstate.symm.trans hsuspended
  · obtain ⟨htrace, hidle⟩ := request_refused result o h.idle (Nat.lt_of_not_le hcdl)
    exact h.congr htrace hidle rfl

/-- The EC is woken up, whatever the driver took it for. -/
lemma resume_told (o : Schedule SshLine)
    (hrun : Machine.run EcPower.step .off (d.ec.trace.filterMap SshObs.written) = some p)
    (hidle : d.ec.Idle) :
    Machine.run EcPower.step .off
        ((d.surfaceSamSshEcResume E o).2.ec.trace.filterMap SshObs.written) = some .awake ∧
      (d.surfaceSamSshEcResume E o).2.ec.Idle :=
  request_told (some controlBuf) o hrun hidle (if_pos rfl) (Nat.zero_le _)

lemma suspend_told (o : Schedule SshLine) (h : d.Told p) (hstate : d.state ≠ .uninitialized) :
    Machine.run EcPower.step .off
        ((d.surfaceSamSshEcSuspend E o).2.ec.trace.filterMap SshObs.written) = some .asleep ∧
      (d.surfaceSamSshEcSuspend E o).2.ec.Idle := by
  have htold : p.told ecSuspendCommand = some .asleep := by
    rw [EcPower.told, if_neg (by decide), if_pos rfl, if_neg (h.ne_off hstate)]
  exact request_told (some controlBuf) o h.run h.idle htold (Nat.zero_le _)

/-- The calls for event sources, and requests of clients. -/
lemma Told.gated {r : ℤ × SshDevice} (h : d.Told p)
    (hcommand : (rqst.tc, rqst.cid) ≠ ecSuspendCommand) (result : Option SurfaceSamSshBuf)
    (o : Schedule SshLine) (hr : r = if d.state = .uninitialized then (-enxio, d)
      else if d.state = .suspended then (-eperm, d) else d.request E rqst result o) :
    r.2.Told p := by
  rw [hr]
  split_ifs with huninit hsuspended
  · exact h
  · exact h
  · refine h.request ?_ hcommand result o
    cases hstate : d.state with
    | uninitialized => exact absurd hstate huninit
    | initialized => rfl
    | suspended => exact absurd hstate hsuspended

lemma Told.eventSource {cid tc unknown : UInt8} {rqid : UInt16} {o : Schedule SshLine}
    {r : ℤ × SshDevice} (h : d.Told p) (hlock : d.lock = false) (hcid : (0x01, cid) ≠ ecSuspendCommand)
    (hr : d.eventSource E cid tc unknown rqid o = some r) : r.2.Told p := by
  rw [eventSource_eq hlock, Option.some_inj] at hr
  rw [← hr]
  by_cases hevent : samRqidIsEvent rqid = false
  · rw [if_pos hevent]
    exact h
  · rw [if_neg hevent]
    have hcommand : ((eventSourceRqst cid tc unknown rqid).tc,
        (eventSourceRqst cid tc unknown rqid).cid) ≠ ecSuspendCommand := hcid
    exact h.gated hcommand (some controlBuf) o rfl

lemma Told.setHandler (h : d.Told p) (i : ℕ) (fn : KPtr) (delay : Option (SurfaceSamSshEvent → ℕ))
    (data : KPtr) : (d.setHandler i fn delay data).Told p :=
  h.congr rfl ⟨h.idle.state, h.idle.fifo⟩ rfl

/-- The part of a probe that holds the mutex. -/
lemma Told.probeSetup {env : ProbeEnv} {serdev : ℕ} {b : ProbeBufs} {r : ℤ × SshDevice}
    (h : d.Told p) (hr : d.probeSetup E env serdev b = some r) : ∃ q, r.2.Told q := by
  cases hlock : d.lock with
  | true =>
    rw [probeSetup_locked hlock] at hr
    cases hr
  | false =>
    unfold SshDevice.probeSetup at hr
    rw [acquire_unlocked hlock] at hr
    simp only [Option.bind_eq_bind, Option.bind_some] at hr
    have hinit : (({ d with lock := true }.probeInit serdev b).serdevDeviceOpen serdev).ec.Idle :=
      ⟨h.idle.state, rfl⟩
    have hresumed := resume_told (E := E)
      (d := ({ d with lock := true }.probeInit serdev b).serdevDeviceOpen serdev) env.resume h.run hinit
    split_ifs at hr with hstate hopen hwalk hresume hsysfs
    · cases hr
      exact ⟨p, h.congr rfl h.idle rfl⟩
    · cases hr
      exact ⟨p, h.run, hinit, SshEcState.noConfusion, SshEcState.noConfusion⟩
    · cases hr
      exact ⟨p, h.run, hinit, SshEcState.noConfusion, SshEcState.noConfusion⟩
    · cases hr
      exact ⟨.awake, hresumed.1, hresumed.2, SshEcState.noConfusion, SshEcState.noConfusion⟩
    · cases hr
      exact ⟨.awake, hresumed.1, hresumed.2, SshEcState.noConfusion, SshEcState.noConfusion⟩
    · cases hr
      exact ⟨.awake, hresumed.1, hresumed.2, fun _ => rfl, SshEcState.noConfusion⟩

end SshDevice

/-- No client puts the EC to sleep by a request of its own. -/
def EcCall.ordinary : EcCall → Bool
  | .rqst r _ _ => (r.tc, r.cid) != ecSuspendCommand
  | _ => true

lemma EcCall.run_told {E : SshEnv} {d : SshDevice} {p : EcPower} {c : EcCall} {r : ℤ × SshDevice}
    (h : d.Told p) (hc : c.ordinary = true) (hr : c.run E d = some r) : ∃ q, r.2.Told q := by
  cases hlock : d.lock with
  | true =>
    obtain heq | ⟨_, _, _, _, -, -, heq⟩ := EcCall.run_held hlock hr
    · exact ⟨p, heq ▸ h⟩
    · exact ⟨p, heq ▸ h.congr rfl h.idle rfl⟩
  | false =>
    cases c with
    | consumerRegister link =>
      change d.surfaceSamSshConsumerRegister link = some r at hr
      rw [SshDevice.consumerRegister_eq hlock, Option.some_inj] at hr
      rw [← hr]
      split_ifs
      · exact ⟨p, h⟩
      · exact ⟨p, h⟩
      · exact ⟨p, h.congr rfl h.idle rfl⟩
    | enableEventSource tc unknown rqid o => exact ⟨p, h.eventSource hlock (by decide) hr⟩
    | disableEventSource tc unknown rqid o => exact ⟨p, h.eventSource hlock (by decide) hr⟩
    | setDelayedEventHandler rqid fn delay data =>
      change d.changeHandler rqid fn delay data = some r at hr
      rw [SshDevice.changeHandler_eq hlock, Option.some_inj] at hr
      rw [← hr]
      split_ifs
      · exact ⟨p, h⟩
      · exact ⟨p, h⟩
      · exact ⟨p, h.setHandler _ fn delay data⟩
    | removeEventHandler rqid =>
      change d.changeHandler rqid none none none = some r at hr
      rw [SshDevice.changeHandler_eq hlock, Option.some_inj] at hr
      rw [← hr]
      split_ifs
      · exact ⟨p, h⟩
      · exact ⟨p, h⟩
      · exact ⟨p, h.setHandler _ none none none⟩
    | rqst rqst result o =>
      change d.surfaceSamSshRqst E rqst result o = some r at hr
      rw [SshDevice.rqst_eq hlock, Option.some_inj] at hr
      exact ⟨p, h.gated (bne_iff_ne.mp hc) result o hr.symm⟩
    | suspend o =>
      change d.surfaceSamSshSuspend E o = some r at hr
      rw [SshDevice.suspend_eq hlock, Option.some_inj] at hr
      rw [← hr]
      split_ifs with hstate
      · exact ⟨p, h⟩
      · obtain ⟨hrun, hidle⟩ := SshDevice.suspend_told (E := E) o h hstate
        exact ⟨.asleep, hrun, hidle, SshEcState.noConfusion, fun _ => rfl⟩
    | resume o =>
      change d.surfaceSamSshResume E o = some r at hr
      rw [SshDevice.resume_eq hlock, Option.some_inj] at hr
      rw [← hr]
      split_ifs with hstate
      · exact ⟨p, h⟩
      · obtain ⟨hrun, hidle⟩ := SshDevice.resume_told (E := E)
          (d := { d with state := .initialized }) o h.run h.idle
        exact ⟨.awake, hrun, hidle, fun _ => rfl, SshEcState.noConfusion⟩
    | probe env serdev =>
      change d.surfaceSamSshProbe E env serdev = some r at hr
      unfold SshDevice.surfaceSamSshProbe at hr
      generalize SshDevice.probeAlloc env d.ledger = alloc at hr
      obtain ⟨status | b, l⟩ := alloc
      · cases hr
        exact ⟨p, h.congr rfl h.idle rfl⟩
      · obtain ⟨⟨status, d'⟩, hsetup, hr⟩ := Option.bind_eq_some_iff.mp hr
        have hl : { d with ledger := l }.Told p := h.congr rfl h.idle rfl
        obtain ⟨q, hq⟩ := hl.probeSetup hsetup
        dsimp only at hr
        split_ifs at hr
        · cases hr
          exact ⟨q, hq.congr rfl hq.idle rfl⟩
        · cases hr
          exact ⟨q, hq⟩
    | remove serdev o =>
      change (d.surfaceSamSshRemove E serdev o).map _ = some r at hr
      rw [SshDevice.remove_eq hlock] at hr
      cases hr
      dsimp only
      split_ifs with hstate
      · exact ⟨p, h⟩
      · obtain ⟨hrun, hidle⟩ := SshDevice.suspend_told (E := E) o h hstate
        exact ⟨.asleep, hrun, ⟨rfl, rfl⟩, SshEcState.noConfusion, SshEcState.noConfusion⟩

def EcAction.ordinary : EcAction → Bool
  | .call c => c.ordinary
  | _ => true

namespace SshSystem

variable {E : SshEnv} {s t : SshSystem} {p : EcPower} {a : EcAction}

lemma step_told (h : s.dev.Told p) (ha : a.ordinary = true) (hstep : s.step E a = some t) :
    ∃ q, t.dev.Told q := by
  cases a with
  | call c =>
    obtain ⟨r, hr, rfl⟩ := Option.map_eq_some_iff.mp hstep
    exact EcCall.run_told h ha hr
  | receive l =>
    cases hstep
    obtain ⟨htrace, -, -, -⟩ := l.step_discard (E := E) h.idle.state
    exact ⟨p, h.congr htrace (SamSshEc.Idle.stable l _ h.idle) rfl⟩
  | probeAlloc env serdev =>
    obtain ⟨_, _, -, rfl⟩ | ⟨_, _, -, rfl⟩ := step_probeAlloc hstep
    · exact ⟨p, h.congr rfl h.idle rfl⟩
    · exact ⟨p, h.congr rfl h.idle rfl⟩
  | probeSetup i =>
    obtain ⟨_, _, _, _, -, hr, rfl⟩ := step_probeSetup hstep
    exact h.probeSetup hr
  | probeUnwind i =>
    obtain ⟨_, -, rfl⟩ := step_probeUnwind hstep
    exact ⟨p, h.congr rfl h.idle rfl⟩

end SshSystem

/-- Whatever is called in whatever order, and whatever fails: the serial device is given the
command that wakes up the EC before any other, and from the command that puts the EC to sleep to
the next that wakes it up it is given no other. When the driver takes the EC to be awake or
asleep, the last such command has been the one that says so. -/
theorem sshSystem_power (E : SshEnv) (s : SshSystem)
    (h : Machine.Reaches (SshSystem.step E) (fun _ a => a.ordinary = true) .static s) :
    ∃ p, Machine.run EcPower.step .off (s.dev.ec.trace.filterMap SshObs.written) = some p ∧
      (s.dev.state = .initialized → p = .awake) ∧ (s.dev.state = .suspended → p = .asleep) := by
  have htold : ∃ p, s.dev.Told p := by
    refine h.invariant (I := fun s => ∃ p, s.dev.Told p) ?_ ?_
    · exact ⟨.off, rfl, ⟨rfl, rfl⟩, SshEcState.noConfusion, SshEcState.noConfusion⟩
    · rintro t a u ⟨p, hp⟩ ha hstep
      exact SshSystem.step_told hp ha hstep
  obtain ⟨p, hp⟩ := htold
  exact ⟨p, hp.run, hp.initialized, hp.suspended⟩

/-- Nothing is answered any more. -/
def silentLine : Schedule SshLine := fun _ => ⟨[], 0⟩

/-- The EC sleeps, and a request made then is not handed to the serial device. -/
theorem sshSystem_power_asleep :
    let rqst : SurfaceSamSshRqst := ⟨2, 0, 3, 0, 0, fun _ => 0⟩
    let acts : List EcAction := [.call (.probe goodProbe 0), .call (.rqst rqst none silentLine),
      .call (.suspend silentLine), .call (.rqst rqst none silentLine)]
    ∃ s, Machine.run (SshSystem.step kernelEnv) .static acts = some s ∧
      Machine.run EcPower.step .off (s.dev.ec.trace.filterMap SshObs.written) = some .asleep := by
  intro rqst acts
  obtain ⟨s, hs, hstate⟩ := Option.map_eq_some_iff.mp
    (show (Machine.run (SshSystem.step kernelEnv) .static acts).map (fun s => s.dev.state) =
      some .suspended by decide +kernel)
  have hreached := Machine.reaches_of_run (C := fun _ a => EcAction.ordinary a = true) hs
    (Machine.Trace.meets_of_forall (D := fun a => EcAction.ordinary a = true) (by decide))
  obtain ⟨p, hrun, -, hsuspended⟩ := sshSystem_power kernelEnv s hreached
  exact ⟨s, hs, hsuspended hstate ▸ hrun⟩

end SurfaceSam
