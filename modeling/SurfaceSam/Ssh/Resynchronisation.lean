import SurfaceSam.Ssh.Separation

/-!
# Staying in step with the line

A message whose end is known should be consumed up to its end, whether it is handled or
dropped. One exit of the command handler falls short of this: a response that does not fit
into the FIFO is left after the length of a control message.
-/

namespace SurfaceSam

open Devlib

/-- The first `size` bytes of `mem` begin with a whole control message; its checksum may be
wrong. -/
structure CtrlExtent (mem : Memory UInt8) (size : ℕ) : Prop where
  le_size : 10 ≤ size
  syn : SshSynOk mem
  type : SshCtrlType (mem 2)
  ter : mem.slice 8 2 = [0xff, 0xff]

/-- The first `size` bytes of `mem` begin with a whole command message with a valid header;
the checksum of the payload may be wrong. -/
structure CmdExtent (E : SshEnv) (mem : Memory UInt8) (size : ℕ) : Prop
    extends CmdHeader E mem size where
  msg_le : 10 + (mem 3).toNat ≤ size
  frameType : mem 8 = sshFrameTypeCmd

/-- The first `size` bytes of `mem` begin with a message that is known to have `n` bytes. -/
inductive Extent (E : SshEnv) (mem : Memory UInt8) (size : ℕ) : ℕ → Prop
  | ctrl (h : CtrlExtent mem size) : Extent E mem size 10
  | cmd (h : CmdExtent E mem size) : Extent E mem size (10 + (mem 3).toNat)

/-- The response the request waits for is at the start of `mem`, and the FIFO has no room
for it. -/
structure ResponseOverflow (E : SshEnv) (ec : SamSshEc) (mem : Memory UInt8) : Prop where
  type : mem 2 = sshFrameTypeCmd
  len : mem 3 ≠ 0
  crc : mem.slice (8 + (mem 3).toNat) 2 = crcBytes E (mem.slice 8 (mem 3).toNat)
  event : samRqidIsEvent (rqidOf (mem 13) (mem 14)) = false
  state : ec.receiver.state = .command
  rqid : ec.receiver.expect.rqid = rqidOf (mem 13) (mem 14)
  full : ec.receiver.fifo.kfifoAvail < 3 + (mem 3 - 8).toNat

section Eval

variable {E : SshEnv} {mem : Memory UInt8} {size : ℕ}

/-- A control message takes ten bytes at every exit. -/
lemma sshEval_ctrlExtent (ec : SamSshEc) (h : CtrlExtent mem size) :
    (sshEval E ec mem size).1 = 10 := by
  have hsize := h.le_size
  rw [sshEval_eq, if_neg (by omega), if_neg (not_not_intro h.syn), if_pos h.type,
    sshReceiveMsgCtrl_run, if_neg (by omega), if_neg (not_not_intro h.ter)]
  split_ifs
  · rfl
  · rfl

lemma CmdExtent.complete (h : CmdExtent E mem size)
    (hcrc : mem.slice (8 + (mem 3).toNat) 2 = crcBytes E (mem.slice 8 (mem 3).toNat)) :
    CmdComplete E mem size :=
  ⟨h.toCmdHeader, h.msg_le, h.frameType, hcrc⟩

lemma sshEval_badPayload (ec : SamSshEc) (h : CmdExtent E mem size)
    (hcrc : mem.slice (8 + (mem 3).toNat) 2 ≠ crcBytes E (mem.slice 8 (mem 3).toNat)) :
    sshEval E ec mem size = (10 + (mem 3).toNat, ec.diag .invalidCrcCmdPld) := by
  have hsize := h.le_size
  have hmsg := h.msg_le
  rw [sshEval_eq, if_neg (by omega), if_neg (not_not_intro h.syn),
    if_neg (by rw [h.type]; exact not_ctrlType_cmd), if_pos h.type,
    sshReceiveMsgCmd_run E ec mem size h.type, if_neg (by omega), if_neg (not_not_intro h.crc),
    if_neg (by omega), if_neg (not_not_intro h.frameType), if_pos hcrc]

/-- What the command handler returns, exit by exit. -/
lemma SamSshEc.fst_onCmd (ec : SamSshEc) (len : UInt8) (work : SshEventWork) (pld : List UInt8) :
    (ec.onCmd E len work pld).1 = 10 + len.toNat ∨
      (ec.onCmd E len work pld).1 = 10 ∧ samRqidIsEvent work.event.rqid = false ∧
        ec.receiver.state = .command ∧ ec.receiver.expect.rqid = work.event.rqid ∧
        ec.receiver.fifo.kfifoAvail < 3 + (len - 8).toNat := by
  rcases ec.onCmd_cases (E := E) len work pld with
    ⟨-, h⟩ | ⟨hevent, ⟨d, -, h⟩ | ⟨hstate, hrqid, hfull, h⟩ | ⟨-, -, -, h⟩⟩
  · exact .inl (by rw [h])
  · exact .inl (by rw [h])
  · exact .inr ⟨by rw [h], hevent, hstate, hrqid, hfull⟩
  · exact .inl (by rw [h])

lemma ResponseOverflow.sshEval {ec : SamSshEc} (h : ResponseOverflow E ec mem)
    (hext : CmdExtent E mem size) : (sshEval E ec mem size).1 = 10 := by
  have hnot : ¬samRqidIsEvent (eventWorkAt mem).event.rqid = true := by
    rw [Bool.not_eq_true]
    exact h.event
  have hmatch : ¬ec.receiver.expect.rqid ≠ (eventWorkAt mem).event.rqid := not_not_intro h.rqid
  have hfull : ¬3 + (mem 3 - 8).toNat ≤ ec.receiver.fifo.kfifoAvail := by
    have := h.full
    omega
  rw [sshEval_cmd ec (hext.complete h.crc)]
  unfold SamSshEc.onCmd
  rw [if_neg hnot, if_neg (not_not_intro h.state), if_neg hmatch, if_neg hfull]

lemma sshEval_cmdExtent (ec : SamSshEc) (h : CmdExtent E mem size) :
    (sshEval E ec mem size).1 = 10 + (mem 3).toNat ↔ ¬ResponseOverflow E ec mem := by
  constructor
  · intro hlen hover
    have hten := hover.sshEval h
    have hpos : (mem 3).toNat ≠ 0 := fun hz => hover.len (UInt8.toNat_inj.mp hz)
    omega
  · intro hnot
    by_cases hcrc : mem.slice (8 + (mem 3).toNat) 2 = crcBytes E (mem.slice 8 (mem 3).toNat)
    · rw [sshEval_cmd ec (h.complete hcrc)]
      rcases ec.fst_onCmd (E := E) (mem 3) (eventWorkAt mem) (mem.slice 16 (mem 3 - 8).toNat) with
        hlen | ⟨hlen, hevent, hstate, hrqid, hfull⟩
      · exact hlen
      · rw [hlen]
        by_contra hne
        apply hnot
        refine ⟨h.type, ?_, hcrc, hevent, hstate, hrqid, hfull⟩
        intro hz
        rw [hz] at hne
        exact hne rfl
    · rw [sshEval_badPayload ec h hcrc]

end Eval

/-- A message whose end is known is consumed exactly up to its end, so that the loop goes on
with the byte behind it, if and only if it is not a response that overflows the FIFO. -/
theorem sshEval_extent_iff (E : SshEnv) (ec : SamSshEc) :
    (∀ (mem : Memory UInt8) (size n : ℕ), Extent E mem size n →
      ((sshEval E ec mem size).1 = n ↔ ¬ResponseOverflow E ec mem)) ∧
    ∀ (mem : Memory UInt8) (len offs fuel n : ℕ), offs < len →
      Extent E (mem.shift offs) (len - offs) n → ¬ResponseOverflow E ec (mem.shift offs) →
      drain (sshEval E) mem len (fuel + 1) offs ec =
        drain (sshEval E) mem len fuel (offs + n) (sshEval E ec (mem.shift offs) (len - offs)).2 := by
  have hiff (mem : Memory UInt8) (size n : ℕ) (h : Extent E mem size n) :
      (sshEval E ec mem size).1 = n ↔ ¬ResponseOverflow E ec mem := by
    cases h with
    | ctrl h =>
      refine iff_of_true (sshEval_ctrlExtent ec h) (fun hover => ?_)
      have htype := h.type
      rw [hover.type] at htype
      exact not_ctrlType_cmd htype
    | cmd h => exact sshEval_cmdExtent ec h
  refine ⟨hiff, ?_⟩
  intro mem len offs fuel n hoffs hext hnot
  have hused := (hiff _ _ _ hext).mpr hnot
  have hpos : n ≠ 0 := by
    cases hext with
    | ctrl _ => decide
    | cmd _ => omega
  exact drain_consume (sshEval E) mem len offs fuel n ec _ hoffs hpos (Prod.ext hused rfl)

instance (mem : Memory UInt8) (size : ℕ) : Decidable (CtrlExtent mem size) :=
  decidable_of_iff (10 ≤ size ∧ SshSynOk mem ∧ SshCtrlType (mem 2) ∧ mem.slice 8 2 = [0xff, 0xff])
    ⟨fun ⟨h, i, j, k⟩ => ⟨h, i, j, k⟩, fun h => ⟨h.le_size, h.syn, h.type, h.ter⟩⟩

/-- An ACK with a wrong checksum in front of other bytes. -/
theorem sshEval_extent_iff_badAck :
    let mem := Memory.memcpy (fun _ => 0xaa) 0 [0xaa, 0x55, 0x40, 0, 0, 5, 1, 2, 0xff, 0xff]
    (sshEval kernelEnv sshEc mem 30).1 = 10 := by
  intro mem
  have hext : CtrlExtent mem 30 := by decide
  refine ((sshEval_extent_iff kernelEnv sshEc).1 mem 30 10 (.ctrl hext)).mpr (fun hover => ?_)
  exact absurd hover.type (by decide)

/-! ### How the FIFO gets full -/

def SshMessage.retry : SshMessage := .ctrl ⟨.retry, 0x00, 0x00, 0x00⟩

def SshMessage.ack (seq : UInt8) : SshMessage := .ctrl (SshCtrlMessage.ack seq)

/-- The receiver with `n` RETRY packets more in its FIFO. -/
def SshReceiver.withRetries (rcv : SshReceiver) (n : ℕ) : SshReceiver where
  state := rcv.state
  signal := rcv.signal + n
  fifo := ⟨rcv.fifo.size, rcv.fifo.data ++ (List.replicate n [0x04, 0, 0]).flatten⟩
  expect := rcv.expect

section Retries

variable {E : SshEnv} {p : SshPort}

lemma SshReceiver.onCtrl_retry (rcv : SshReceiver) (hstate : rcv.state = .control)
    (hroom : 3 ≤ rcv.fifo.kfifoAvail) : rcv.onCtrl sshFrameTypeRetry 0 = rcv.withRetries 1 := by
  have hmatch : sshFrameTypeRetry = sshFrameTypeAck → 0 = rcv.expect.seq :=
    fun h => absurd h (by decide)
  unfold SshReceiver.onCtrl SshReceiver.withRetries
  rw [if_pos ⟨hstate, hmatch, hroom⟩, if_neg (by decide)]
  congr 1
  have hdata := rcv.fifo.data_kfifoIn (SshFifoPacket.mk sshFrameTypeRetry 0 0).bytes hroom
  generalize hfifo : rcv.fifo.kfifoIn _ = fifo at hdata ⊢
  have hsize : fifo.size = rcv.fifo.size := by
    rw [← hfifo]
    rfl
  cases fifo
  simp only at hdata hsize
  rw [hdata, hsize]
  rfl

lemma SshReceiver.withRetries_add (rcv : SshReceiver) (m n : ℕ) :
    (rcv.withRetries m).withRetries n = rcv.withRetries (m + n) := by
  unfold SshReceiver.withRetries
  dsimp only
  rw [List.replicate_add, List.flatten_append, List.append_assoc, Nat.add_assoc]

lemma SshReceiver.kfifoAvail_withRetries (rcv : SshReceiver) (n : ℕ) :
    (rcv.withRetries n).fifo.kfifoAvail = rcv.fifo.kfifoAvail - 3 * n := by
  simp [SshReceiver.withRetries, Kfifo.kfifoAvail, Nat.mul_comm]
  omega

/-- RETRY messages are taken as long as there is room. -/
lemma receiveAlone_retries (n : ℕ) (hcap : p.evalBuf.cap.toNat = sshEvalBufLen)
    (hlen : p.evalBuf.len = 0) (hstate : p.ec.receiver.state = .control)
    (hroom : 3 * n ≤ p.ec.receiver.fifo.kfifoAvail) :
    let q := receiveAlone E p (List.replicate n SshMessage.retry)
    q.evalBuf.cap.toNat = sshEvalBufLen ∧ q.evalBuf.len = 0 ∧
      q.ec.receiver = p.ec.receiver.withRetries n := by
  induction n generalizing p with
  | zero => exact ⟨hcap, hlen, by simp [receiveAlone, SshReceiver.withRetries]⟩
  | succ n ih =>
    have hfits : SshMessage.retry.Fits p.ec := fun _ _ => by omega
    obtain ⟨hec, hcap', hlen'⟩ := sshReceiveBuf_alone (E := E) hcap hlen hfits
    have hreceiver : (sshReceiveBuf E p (SshMessage.retry.bytes E)).2.ec.receiver =
        p.ec.receiver.withRetries 1 := by
      rw [hec]
      exact (p.ec.receiver_onCtrl _ _).trans (p.ec.receiver.onCtrl_retry hstate (by omega))
    have hrest := ih (p := (sshReceiveBuf E p (SshMessage.retry.bytes E)).2) (by rw [hcap', hcap])
      hlen' (by rw [hreceiver]; exact hstate)
      (by rw [hreceiver, SshReceiver.kfifoAvail_withRetries]; omega)
    rw [hreceiver, SshReceiver.withRetries_add, Nat.add_comm 1 n] at hrest
    exact hrest

/-- The ACK behind them is taken too, and the response is waited for next. -/
lemma receiveAlone_retries_ack (n : ℕ) (hcap : p.evalBuf.cap.toNat = sshEvalBufLen)
    (hlen : p.evalBuf.len = 0) (hstate : p.ec.receiver.state = .control)
    (hpld : p.ec.receiver.expect.pld = true)
    (hroom : 3 * (n + 1) ≤ p.ec.receiver.fifo.kfifoAvail) (r : SshPort)
    (hr : r = receiveAlone E p (List.replicate n SshMessage.retry ++
      [SshMessage.ack p.ec.receiver.expect.seq])) :
    r.ec.receiver.state = .command ∧ r.ec.receiver.expect = p.ec.receiver.expect ∧
      r.ec.receiver.fifo.kfifoAvail = p.ec.receiver.fifo.kfifoAvail - 3 * (n + 1) := by
  obtain ⟨hcap', hlen', hreceiver⟩ := receiveAlone_retries (E := E) n hcap hlen hstate (by omega)
  generalize hq : receiveAlone E p (List.replicate n SshMessage.retry) = q at hcap' hlen' hreceiver
  have havail : q.ec.receiver.fifo.kfifoAvail = p.ec.receiver.fifo.kfifoAvail - 3 * n := by
    rw [hreceiver, SshReceiver.kfifoAvail_withRetries]
  have hstate' : q.ec.receiver.state = .control := by
    rw [hreceiver]
    exact hstate
  have hexpect : q.ec.receiver.expect = p.ec.receiver.expect := by
    rw [hreceiver]
    rfl
  have hfits : (SshMessage.ack p.ec.receiver.expect.seq).Fits q.ec := fun _ _ => by omega
  obtain ⟨hec, -, -⟩ := sshReceiveBuf_alone (E := E) hcap' hlen' hfits
  have hrcv : r.ec.receiver =
      q.ec.receiver.onCtrl sshFrameTypeAck p.ec.receiver.expect.seq := by
    rw [hr]
    unfold receiveAlone
    rw [List.foldl_append]
    change (sshReceiveBuf E (receiveAlone E p _) _).2.ec.receiver = _
    rw [hq, hec]
    exact q.ec.receiver_onCtrl _ _
  unfold SshReceiver.onCtrl at hrcv
  rw [if_pos ⟨hstate', fun _ => by rw [hexpect], by omega⟩, if_pos rfl, hexpect, if_pos hpld] at hrcv
  rw [hrcv]
  refine ⟨rfl, rfl, ?_⟩
  dsimp only
  rw [Kfifo.kfifoAvail_kfifoIn _ _ (by simp; omega), havail]
  simp
  omega

end Retries

/-- While a request waits for its ACK, 103 RETRY messages and the ACK come in before it runs
again. Its response then overflows the FIFO and is left after ten of its 218 bytes. -/
theorem sshEval_extent_false :
    let rqst : SurfaceSamSshRqst := ⟨0x02, 0x01, 0x0b, 1, 0, fun _ => 0⟩
    let p := (initializeReceiver sshEc (fun _ => 0)).sshReceiverRestart rqst
    let q := receiveAlone kernelEnv p
      (List.replicate 103 SshMessage.retry ++ [SshMessage.ack p.ec.receiver.expect.seq])
    let response : SshCmdMessage := ⟨0, 9, 2, 0, 1, 0, 0, 0, 4, List.replicate 200 7,
      Nat.le_trans (Nat.le_of_eq List.length_replicate) (by decide)⟩
    let mem := Memory.memcpy (fun _ => 0) 0 (response.bytes kernelEnv)
    Extent kernelEnv mem 218 218 ∧ (sshEval kernelEnv q.ec mem 218).1 = 10 := by
  intro rqst p q response mem
  have hlen : (response.bytes kernelEnv).length = 218 := by decide +kernel
  have hmem : mem.slice 0 (response.bytes kernelEnv).length = response.bytes kernelEnv :=
    Memory.slice_memcpy_same _ _ _
  obtain ⟨h, hlen3, hwork, -⟩ := response.inMemory (Nat.le_of_eq hlen) hmem
  have hext : CmdExtent kernelEnv mem 218 := ⟨h.toCmdHeader, h.msg_le, h.frameType⟩
  have hmsg : 10 + (mem 3).toNat = 218 := by
    rw [hlen3]
    decide +kernel
  have hrqid : rqidOf (mem 13) (mem 14) = 0 := by
    change (eventWorkAt mem).event.rqid = 0
    rw [hwork]
    decide +kernel
  have hfull : 3 + (mem 3 - 8).toNat = 203 := by
    rw [hlen3]
    decide +kernel
  have hroom : p.ec.receiver.fifo.kfifoAvail = 512 := rfl
  obtain ⟨hstate, hexpect, havail⟩ := receiveAlone_retries_ack (E := kernelEnv) (p := p) 103
    rfl rfl rfl rfl (by rw [hroom]; decide) q rfl
  clear_value q
  have hover : ResponseOverflow kernelEnv q.ec mem := by
    refine ⟨hext.type, ?_, h.frameCrc, ?_, hstate, ?_, ?_⟩
    · intro hz
      rw [hz] at hmsg
      cases hmsg
    · rw [hrqid]
      decide
    · rw [hrqid, hexpect]
      rfl
    · rw [hroom] at havail
      omega
  have hn : Extent kernelEnv mem 218 (10 + (mem 3).toNat) := .cmd hext
  rw [hmsg] at hn
  exact ⟨hn, hover.sshEval hext⟩

end SurfaceSam
