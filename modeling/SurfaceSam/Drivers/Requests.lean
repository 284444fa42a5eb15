import SurfaceSam.Dtx.Ioctl
import SurfaceSam.Ec.Answers
import SurfaceSam.San.Opreg
import SurfaceSam.Sysfs.Response

/-!
# Requests of the drivers

Requests of ACPI and of user space on their way through the drivers to the EC, and answers on their
way back. Each of them is made in some state that the EC can be in between calls, and is answered in
time.
-/

namespace SurfaceSam

open Devlib

lemma SurfaceSamSshBuf.slice_filled (buf : SurfaceSamSshBuf) (m : SshCmdMessage) :
    (buf.filled m).data.slice 0 (buf.filled m).len.toNat = m.pld := by
  rw [SurfaceSamSshBuf.filled, m.toNat_length_pld]
  exact Memory.slice_memcpy_same _ 0 _

/-! ### ACPI -/

/-- The result buffer of `san_rqst` before try `i`, where `ssh i` is what try `i` comes to. -/
def sanResult (ssh : ℕ → ℤ × SurfaceSamSshBuf) : ℕ → SurfaceSamSshBuf
  | 0 => ⟨surfaceSamSshMaxRqstResponse, 0, fun _ => 0⟩
  | i + 1 => (ssh i).2

/-- The first `n` tries of a request, from the states `s` to the states `t`. Between two of them
there may be anything. -/
structure SanTries (E : SshEnv) (rqst : SurfaceSamSshRqst) (o : ℕ → Schedule SshLine)
    (ssh : ℕ → ℤ × SurfaceSamSshBuf) (s : ℕ → SshSystem) (t : ℕ → SshDevice) (n : ℕ) :
    Prop where
  reached : ∀ i < n, Machine.Reaches (SshSystem.step E) (fun _ _ => True) .static (s i)
  asked : ∀ i < n, (s i).dev.clientRqst E rqst (sanResult ssh i) (o i) = some (ssh i, t i)

section San

variable {E : SshEnv} {rqst : SurfaceSamSshRqst} {o : ℕ → Schedule SshLine}
  {ssh : ℕ → ℤ × SurfaceSamSshBuf} {s : ℕ → SshSystem} {t : ℕ → SshDevice} {n i k : ℕ}
  {m : SshCmdMessage} {buffer : GsbBuffer} {function : UInt32}

lemma SanTries.cap (h : SanTries E rqst o ssh s t n) (hi : i ≤ n) :
    (sanResult ssh i).cap = surfaceSamSshMaxRqstResponse := by
  induction i with
  | zero => rfl
  | succ i ih => exact (SshDevice.cap_clientRqst (h.asked i hi)).trans (ih (Nat.le_of_lt hi))

/-- A try that is answered. -/
lemma SanTries.answered (h : SanTries E rqst o ssh s t n) (hi : i < n)
    (hstate : (s i).dev.state = .initialized) (hsnc : rqst.snc ≠ 0)
    (hanswered : (s i).dev.Answered E rqst (sanResult ssh i) (o i) m) :
    ssh i = (0, (sanResult ssh i).filled m) := by
  have hasked := h.asked i hi
  have hcap : m.pld.length ≤ (sanResult ssh i).cap.toNat := by
    rw [h.cap (Nat.le_of_lt hi)]
    exact Nat.le_trans m.length_pld (by decide)
  obtain ⟨d', hcall, -⟩ := SshDevice.clientRqst_answered (SshSystem.listens_reached (h.reached i hi))
    (SshDevice.lock_of_clientRqst hasked) hstate hsnc hcap hanswered
  rw [hasked, Option.some_inj] at hcall
  exact (Prod.mk.inj hcall).1

/-- Tries that are not refused are sent. -/
lemma SanTries.sent (h : SanTries E rqst o ssh s t n) (hi : i < n)
    (hcdl : rqst.cdl.toNat ≤ surfaceSamSshMaxRqstPayload)
    (hstatus : (ssh i).1 = -eio ∨ (ssh i).1 = 0) : SamSshEc.Sent E rqst (s i).dev.ec (t i).ec := by
  refine SshDevice.clientRqst_sent (SshSystem.listens_reached (h.reached i hi)).idle
    (h.asked i hi) (SshDevice.state_of_clientRqst (h.asked i hi) ?_ ?_) hcdl
  · rcases hstatus with hstatus | hstatus
    · rw [hstatus]
      decide
    · rw [hstatus]
      decide
  · rcases hstatus with hstatus | hstatus
    · rw [hstatus]
      decide
    · rw [hstatus]
      decide

/-- All tries up to the first that succeeds have ended with -EIO. -/
lemma run_sanOpregHandler_rqst (haccess : accessorType function = acpiGsbAccessAttribRawProcess)
    (hcv : buffer.data 0 = 0x01) (hvalid : buffer.Valid) (hk : k < 5)
    (hfailed : ∀ i < k, (ssh i).1 = -eio) (hstatus : (ssh k).1 = 0) :
    (sanOpregHandler ssh true function 0 buffer).run buffer.data =
      ⟨.ok, List.replicate (k + 1) buffer.rqst, none,
        sanRqstAnswer buffer buffer.rqst (ssh k).1 (ssh k).2⟩ := by
  have hne : buffer.len ≠ 0 := by
    intro hzero
    have hlen := hvalid.len
    rw [hzero] at hlen
    exact absurd hlen (by decide)
  obtain ⟨k', hk', hbefore, hlast, hrun⟩ := run_sanRqst_valid ssh hvalid
  have hle : k' ≤ k := by
    by_contra hlt
    have heio := hbefore k (Nat.lt_of_not_le hlt)
    rw [hstatus] at heio
    exact absurd heio (by decide)
  have hge : k ≤ k' := by
    by_contra hlt
    exact hlast (by omega) (hfailed k' (Nat.lt_of_not_le hlt))
  rw [Nat.le_antisymm hle hge] at hrun
  unfold sanOpregHandler gsbCv
  rw [if_neg (not_not.mpr rfl), if_neg (not_not.mpr haccess), if_neg hne]
  simp only [Reading.run_bind, Reading.run_cell, hcv, if_true]
  exact hrun

end San

/-- A valid package of ACPI is sent as the message that it asks for, in each try, and when a try is
answered, the payload of the answer is in the buffer. -/
theorem sanOpregHandler_relays (E : SshEnv) (ssh : ℕ → ℤ × SurfaceSamSshBuf) (function : UInt32)
    (buffer : GsbBuffer) (o : ℕ → Schedule SshLine) (s : ℕ → SshSystem) (t : ℕ → SshDevice)
    (k : ℕ) (m : SshCmdMessage) (haccess : accessorType function = acpiGsbAccessAttribRawProcess)
    (hcv : buffer.data 0 = 0x01) (hvalid : buffer.Valid) (hsnc : buffer.rqst.snc ≠ 0) (hk : k < 5)
    (htries : SanTries E buffer.rqst o ssh s t (k + 1)) (hfailed : ∀ i < k, (ssh i).1 = -eio)
    (hstate : (s k).dev.state = .initialized)
    (hanswered : (s k).dev.Answered E buffer.rqst (sanResult ssh k) (o k) m) :
    let r := (sanOpregHandler ssh true function 0 buffer).run buffer.data
    r.requests = List.replicate (k + 1) buffer.rqst ∧
      (∀ i ≤ k, SamSshEc.Sent E buffer.rqst (s i).dev.ec (t i).ec) ∧
      r.buffer.status = 0 ∧ r.buffer.len.toNat = m.pld.length + 2 ∧
      r.buffer.out = ⟨0, UInt8.ofNat m.pld.length, m.pld⟩ := by
  have hssh := htries.answered (Nat.lt_succ_self k) hstate hsnc hanswered
  have hstatus : (ssh k).1 = 0 := by rw [hssh]
  have hrun := run_sanOpregHandler_rqst haccess hcv hvalid hk hfailed hstatus
  have hanswers : (sanRqstAnswer buffer buffer.rqst (ssh k).1 (ssh k).2).Answers buffer (ssh k).1
      (ssh k).2 := by
    refine sanRqstAnswer_answers fun _ => ⟨?_, fun hzero => absurd hzero hsnc⟩
    rw [hssh]
    exact m.toNat_length_pld.trans_le (Nat.le_trans m.length_pld (by decide))
  have hout : (sanRqstAnswer buffer buffer.rqst (ssh k).1 (ssh k).2).out =
      ⟨0, UInt8.ofNat m.pld.length, m.pld⟩ := by
    refine (hanswers.success hstatus).1.trans ?_
    rw [hssh, SurfaceSamSshBuf.slice_filled]
    rfl
  have hlen := hanswers.len
  rw [hout] at hlen
  intro r
  rw [show r = _ from hrun]
  refine ⟨rfl, fun i hi => ?_, hanswers.gsbStatus, hlen.trans ?_, hout⟩
  · refine htries.sent (Nat.lt_succ_of_le hi) hanswered.cdl ?_
    obtain hlt | rfl := Nat.lt_or_eq_of_le hi
    · exact .inl (hfailed i hlt)
    · exact .inr hstatus
  · exact congrArg (· + 2) m.toNat_length_pld

section Answers

/-- What is received when a message comes in. -/
def receivedLine (m : SshMessage) : SshLine :=
  ⟨fun i => (m.bytes kernelEnv).getD i 0, (m.bytes kernelEnv).length⟩

/-- A request at once gets the ACK of its message and the response. -/
def promptAnswer (seq : UInt8) (m : SshCmdMessage) : List (Act SshLine) :=
  [.step 0, .event (receivedLine (.ctrl ⟨.ack, 0, 0, seq⟩)), .event (receivedLine (.cmd m))] ++
    List.replicate 9 (.step 0)

lemma replies_promptAnswer {expect : SshExpect} {m : SshCmdMessage}
    (hevent : samRqidIsEvent m.rqid = false) (hrqid : m.rqid = expect.rqid) :
    SshReplies kernelEnv expect m .nothing 2 (promptAnswer expect.seq m) := by
  have hslice (bytes : List UInt8) :
      Memory.slice (fun i => bytes.getD i 0) 0 bytes.length = bytes := by
    apply List.ext_getElem
    · exact Memory.length_slice _ _ _
    · intro i _ hi
      simp [hi]
  let l := receivedLine (.ctrl ⟨.ack, 0, 0, expect.seq⟩)
  obtain ⟨hack, htype, hseq⟩ : CtrlComplete kernelEnv l.mem 10 ∧ l.mem 2 = sshFrameTypeAck ∧
      l.mem 5 = expect.seq :=
    SshCtrlMessage.inMemory ⟨.ack, 0, 0, expect.seq⟩ (Nat.le_refl 10) (hslice _)
  have hsteps (n : ℕ) :
      SshReplies kernelEnv expect m .responded 2 (List.replicate n (.step 0)) := by
    induction n with
    | zero => exact .done
    | succ n ih => exact .step (Int.le_refl 0) ih
  exact .step (Int.le_refl 0) (.ack hack htype hseq
    (.response ⟨Nat.le_refl _, hslice _⟩ hevent hrqid (hsteps 9)))

/-- There is a schedule under which the answer comes so. -/
lemma exists_answered {d : SshDevice} {rqst : SurfaceSamSshRqst} {buf : SurfaceSamSshBuf}
    {m : SshCmdMessage} (hevent : samRqidIsEvent m.rqid = false) (hrqid : m.rqid = d.ec.awaits.rqid)
    (hrun : (Prog.run (SshLine.step kernelEnv)
      (sshBegin [] [] 0 0 ++ promptAnswer d.ec.awaits.seq m)
      (surfaceSamSshRqstUnlocked kernelEnv rqst (some buf)) d.ec).isSome = true) :
    ∃ o, d.Answered kernelEnv rqst buf o m := by
  obtain ⟨r, hr⟩ := Option.isSome_iff_exists.mp hrun
  obtain ⟨o, ho⟩ := Prog.run_complete hr
  exact ⟨o, [], [], 0, 0, _, replies_promptAnswer hevent hrqid, ho ▸ hr⟩

end Answers

/-- A battery is asked for its state. Nothing answers the first try; the answer to the second has
three bytes. -/
theorem sanOpregHandler_relays_second_try :
    let data := [0x01, 0x02, 0x01, 0x01, 0x01, 0x01, 0x02, 0x00, 0xab, 0xcd]
    let buffer : GsbBuffer := ⟨0xff, 10, fun i => data.getD i 0⟩
    ∃ ssh s t, SamSshEc.Sent kernelEnv buffer.rqst s t ∧
      ((sanOpregHandler ssh true 0x000F0001 0 buffer).run buffer.data).buffer.out =
        ⟨0, 3, [7, 8, 9]⟩ := by
  intro data buffer
  let buf : SurfaceSamSshBuf := ⟨surfaceSamSshMaxRqstResponse, 0, fun _ => 0⟩
  let m : SshCmdMessage := ⟨0, 1, 2, 0, 1, 1, 32, 0, 1, [7, 8, 9], by decide⟩
  obtain ⟨s, hs, hcall⟩ := (Option.any_eq_true _ _).mp
    (show (Machine.run (SshSystem.step kernelEnv) .static [.call (.probe goodProbe 0)]).any
      (fun s => (s.dev.clientRqst kernelEnv buffer.rqst buf silentLine).any fun r =>
        decide (r.1.1 = -eio ∧ r.2.lock = false ∧ r.2.state = .initialized ∧
          r.2.ec.awaits.rqid = m.rqid) &&
        (Prog.run (SshLine.step kernelEnv) (sshBegin [] [] 0 0 ++ promptAnswer r.2.ec.awaits.seq m)
          (surfaceSamSshRqstUnlocked kernelEnv buffer.rqst (some r.1.2)) r.2.ec).isSome) = true by
      decide +kernel)
  obtain ⟨⟨r, d⟩, hr, hd⟩ := (Option.any_eq_true _ _).mp hcall
  obtain ⟨hfacts, hrun⟩ := Bool.and_eq_true_iff.mp hd
  obtain ⟨heio, hlock, hstate, hrqid⟩ := of_decide_eq_true hfacts
  obtain ⟨o, hanswered⟩ := exists_answered (by decide) hrqid.symm hrun
  have hreached := Machine.reaches_of_run (C := fun _ _ => True) hs
    (Machine.Trace.meets_of_forall (D := fun _ => True) fun _ _ => trivial)
  have hreached' := hreached.tail trivial (SshSystem.step_clientRqst hr)
  have hcap : m.pld.length ≤ r.2.cap.toNat := by
    rw [SshDevice.cap_clientRqst hr]
    decide
  obtain ⟨d', hr', -⟩ := SshDevice.clientRqst_answered (SshSystem.listens_reached hreached') hlock
    hstate (by decide : buffer.rqst.snc ≠ 0) hcap hanswered
  have htries : SanTries kernelEnv buffer.rqst (fun i => if i = 0 then silentLine else o)
      (fun i => if i = 0 then r else (0, r.2.filled m))
      (fun i => if i = 0 then s else { s with dev := d }) (fun i => if i = 0 then d else d') 2 := by
    constructor
    · intro i hi
      obtain rfl | rfl : i = 0 ∨ i = 1 := by omega
      · exact hreached
      · exact hreached'
    · intro i hi
      obtain rfl | rfl : i = 0 ∨ i = 1 := by omega
      · exact hr
      · exact hr'
  have hfailed (i : ℕ) (hi : i < 1) : (if i = 0 then r else (0, r.2.filled m)).1 = -eio := by
    rw [if_pos (by omega)]
    exact heio
  obtain ⟨-, hsent, -, -, hout⟩ := sanOpregHandler_relays kernelEnv _ 0x000F0001 buffer _ _ _ 1 m
    (by decide) rfl (by decide) (by decide) (by decide) htries hfailed hstate hanswered
  exact ⟨_, _, _, hsent 1 (Nat.le_refl 1), hout⟩

/-! ### User space -/

/-- After its probe the EC is asked something, and answers. -/
lemma exists_probed_answered (rqst : SurfaceSamSshRqst) (buf : SurfaceSamSshBuf) (m : SshCmdMessage)
    (hevent : samRqidIsEvent m.rqid = false)
    (h : (Machine.run (SshSystem.step kernelEnv) .static [.call (.probe goodProbe 0)]).any (fun s =>
      decide (s.dev.lock = false ∧ s.dev.state = .initialized ∧ s.dev.ec.awaits.rqid = m.rqid) &&
      (Prog.run (SshLine.step kernelEnv) (sshBegin [] [] 0 0 ++ promptAnswer s.dev.ec.awaits.seq m)
        (surfaceSamSshRqstUnlocked kernelEnv rqst (some buf)) s.dev.ec).isSome) = true) :
    ∃ s o, Machine.Reaches (SshSystem.step kernelEnv) (fun _ _ => True) .static s ∧
      s.dev.lock = false ∧ s.dev.state = .initialized ∧ s.dev.Answered kernelEnv rqst buf o m := by
  obtain ⟨s, hs, hd⟩ := (Option.any_eq_true _ _).mp h
  obtain ⟨hfacts, hrun⟩ := Bool.and_eq_true_iff.mp hd
  obtain ⟨hlock, hstate, hrqid⟩ := of_decide_eq_true hfacts
  obtain ⟨o, hanswered⟩ := exists_answered hevent hrqid.symm hrun
  exact ⟨s, o, Machine.reaches_of_run hs
    (Machine.Trace.meets_of_forall (D := fun _ => True) fun _ _ => trivial), hlock, hstate, hanswered⟩

/-- The EC is asked for its mode, whatever comes of it, and an answer of one byte is what user
space gets: as the value of the command, as an event, and as the switch of the input device. -/
theorem dtxOpmode_relays (E : SshEnv) (s : SshSystem) (data : Memory UInt8) (o : Schedule SshLine)
    (hreach : Machine.Reaches (SshSystem.step E) (fun _ _ => True) .static s)
    (hlock : s.dev.lock = false) (hstate : s.dev.state = .initialized) :
    ∃ r d, s.dev.clientRqst E opmodeRqst ⟨1, 0, data⟩ o = some (r, d) ∧
      SamSshEc.Sent E opmodeRqst s.dev.ec d.ec ∧
      ∀ m mode, m.pld = [mode] → s.dev.Answered E opmodeRqst ⟨1, 0, data⟩ o m →
        surfaceDtxIoctl DtxCmd.getOpmode ⟨opmodeAnswer (r.1, some r.2), true⟩ true =
            (some opmodeRqst, ⟨0, some mode.toNat⟩) ∧
          surfaceDtxUpdateOpmpde (opmodeAnswer (r.1, some r.2)) =
            [.pushEvent ⟨0x11, 0x0D, mode, 0x00⟩, .reportTabletMode (mode == 0x00)] := by
  have hlistens := SshSystem.listens_reached hreach
  have hcall := SshDevice.clientRqst_initialized (E := E) opmodeRqst ⟨1, 0, data⟩ o hlock hstate
  refine ⟨_, _, hcall, SshDevice.clientRqst_sent hlistens.idle hcall hstate (by decide),
    fun m mode hpld hanswered => ?_⟩
  have hcap : m.pld.length ≤ (1 : UInt8).toNat := by
    rw [hpld]
    exact Nat.le_refl 1
  obtain ⟨d, hcall', -⟩ := SshDevice.clientRqst_answered hlistens hlock hstate
    (by decide : opmodeRqst.snc ≠ 0) hcap hanswered
  rw [(Prod.mk.inj (Option.some_inj.mp (hcall.symm.trans hcall'))).1]
  have hanswer : AnsweredWith
      (opmodeAnswer (0, some (SurfaceSamSshBuf.filled ⟨1, 0, data⟩ m))) mode := by
    refine Prod.ext rfl ?_
    exact (SurfaceSamSshBuf.slice_filled _ m).trans hpld
  have hquery := surfaceSamQueryOpmpde_answered hanswer
  refine ⟨?_, ?_⟩
  · have hreply : ioctlReply DtxCmd.getOpmode
        ⟨opmodeAnswer (0, some (SurfaceSamSshBuf.filled ⟨1, 0, data⟩ m)), true⟩ =
          ⟨0, some mode.toNat⟩ := by
      rw [ioctlReply, if_pos rfl, dtxCmdGetOpmode]
      simp only [hquery]
      exact if_neg (by omega)
    exact congrArg (Prod.mk (some opmodeRqst)) hreply
  · have hswitch : ((mode.toNat : ℤ) == 0x00) = (mode == 0x00) := by
      rw [Bool.eq_iff_iff, beq_iff_eq, beq_iff_eq, ← UInt8.toNat_inj]
      exact Int.natCast_eq_zero
    unfold surfaceDtxUpdateOpmpde
    simp only [hquery, toU8_toNat, hswitch]

/-- The base is a laptop. -/
theorem dtxOpmode_relays_laptop : ∃ s d answer, SamSshEc.Sent kernelEnv opmodeRqst s d ∧
    surfaceDtxIoctl DtxCmd.getOpmode ⟨answer, true⟩ true = (some opmodeRqst, ⟨0, some 1⟩) ∧
    surfaceDtxUpdateOpmpde answer = [.pushEvent ⟨0x11, 0x0D, 1, 0x00⟩, .reportTabletMode false] := by
  let m : SshCmdMessage := ⟨0, 1, 0x11, 0, 1, 0, 32, 0, 0x0D, [1], by decide⟩
  obtain ⟨s, o, hreached, hlock, hstate, hanswered⟩ := exists_probed_answered opmodeRqst
    ⟨1, 0, fun _ => 0⟩ m (by decide) (by decide +kernel)
  obtain ⟨r, d, -, hsent, hrelays⟩ := dtxOpmode_relays kernelEnv s (fun _ => 0) o hreached hlock
    hstate
  obtain ⟨hioctl, hupdate⟩ := hrelays m 1 rfl hanswered
  exact ⟨_, _, _, hsent, hioctl, hupdate⟩

end SurfaceSam
