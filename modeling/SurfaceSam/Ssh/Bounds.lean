import SurfaceSam.Ssh.Message
import SurfaceSam.Ssh.Probe

/-!
# What the parser reads

Which bytes an evaluation looks at. All size checks bound the message from above; a
command message whose length byte is smaller than the command header gets past them.
-/

namespace SurfaceSam

open Devlib

/-- Length of the message that begins at `mem`, as its header announces it. -/
def sshMsgLen (mem : Memory UInt8) : ℕ :=
  if mem 2 = sshFrameTypeCmd then sshMsgLenCmdBase + (mem 3).toNat else sshMsgLenCtrl

section Within

variable {E : SshEnv} {mem : Memory UInt8} {n : ℕ}

@[simp] lemma within_sshIsValidSyn (ptr : ℕ) :
    (sshIsValidSyn ptr).Within n mem ↔ ptr < n ∧ (mem ptr = 0xaa → ptr + 1 < n) := by
  simp [sshIsValidSyn]

@[simp] lemma within_sshIsValidTer (ptr : ℕ) :
    (sshIsValidTer ptr).Within n mem ↔ ptr < n ∧ (mem ptr = 0xff → ptr + 1 < n) := by
  simp [sshIsValidTer]

/-- The checksum is read up to its first wrong byte. -/
lemma within_sshIsValidCrc {begin fin : ℕ} (hle : begin ≤ fin) (hfin : fin + 2 ≤ n) :
    (sshIsValidCrc E begin fin).Within n mem := by
  simp only [sshIsValidCrc, Reading.within_bind, Reading.within_block, Reading.within_cell,
    Reading.within_ite, Reading.within_pure]
  refine ⟨?_, ?_, ?_, ?_⟩
  · omega
  · omega
  · intro _
    exact ⟨by omega, trivial⟩
  · intro _
    trivial

@[simp] lemma SshFrameCtrl.within_type (ctrl : ℕ) :
    (SshFrameCtrl.type ctrl).Within n mem ↔ ctrl < n := Reading.within_cell ctrl

@[simp] lemma SshFrameCtrl.within_len (ctrl : ℕ) :
    (SshFrameCtrl.len ctrl).Within n mem ↔ ctrl + 1 < n := Reading.within_cell _

@[simp] lemma SshFrameCtrl.within_seq (ctrl : ℕ) :
    (SshFrameCtrl.seq ctrl).Within n mem ↔ ctrl + 3 < n := Reading.within_cell _

lemma within_sshHandleEvent (ec : SamSshEc) (hn : 8 ≤ n) :
    (sshHandleEvent E ec).Within n mem ↔
      (E.kzalloc ec.events.allocs = true →
        16 ≤ n ∧ (((mem 3).toUInt16 - 8).toNat = 0 ∨ 16 + ((mem 3).toUInt16 - 8).toNat ≤ n)) := by
  simp only [sshHandleEvent, Reading.within_bind, Reading.within_ite, Reading.within_pure,
    Reading.within_block, Reading.within_cell, SshFrameCtrl.within_len, SshFrameCtrl.within_seq,
    SshFrameCmd.rqidHi, SshFrameCmd.rqidLo, SshFrameCmd.tc, SshFrameCmd.iid, SshFrameCmd.cid,
    SshFrameCtrl.run_len]
  simp only [Bool.not_eq_false]
  constructor
  · rintro ⟨-, -, h⟩ halloc
    obtain ⟨-, -, -, -, -, hcid, hpld, -⟩ := h halloc
    exact ⟨hcid, hpld⟩
  · intro h
    refine ⟨by simp; omega, fun _ => trivial, fun halloc => ?_⟩
    obtain ⟨h16, hpld⟩ := h halloc
    refine ⟨?_, ?_, ?_, ?_, ?_, ?_, hpld, fun _ => trivial, fun _ => trivial⟩
    all_goals
      simp
      omega

lemma within_sshReceiveMsgCtrl (ec : SamSshEc) (size : ℕ) (hn : 10 ≤ size → 10 ≤ n) :
    (sshReceiveMsgCtrl E ec size).Within n mem := by
  simp only [sshReceiveMsgCtrl, Reading.within_bind, Reading.within_ite, Reading.within_pure,
    within_sshIsValidTer, SshFrameCtrl.within_type, SshFrameCtrl.within_seq]
  simp only [sshMsgLenCtrl, sshFrameOffsTerm, sshFrameOffsCtrlCrc, sshFrameOffsCtrl,
    sshBytelenSync, sshBytelenCtrl, sshBytelenCrc, sshBytelenTerm]
  refine ⟨fun _ => trivial, fun hsize => ⟨⟨by omega, fun _ => by omega⟩, fun _ => trivial,
    fun _ => ⟨within_sshIsValidCrc (by omega) (by omega), fun _ => trivial,
    fun _ => ⟨fun _ => trivial, fun _ => ⟨by omega, by omega, fun _ => trivial,
    fun _ => ⟨fun _ => trivial, fun _ => trivial⟩⟩⟩⟩⟩⟩

/-- Behind the checks of a command message nothing bounds what is read from below. -/
lemma within_sshReceiveMsgCmd (ec : SamSshEc) (size : ℕ) (hsyn : SshSynOk mem)
    (htype : mem 2 = sshFrameTypeCmd) (h8 : 8 ≤ size → 8 ≤ n)
    (hmsg : 10 + (mem 3).toNat ≤ size → 10 + (mem 3).toNat ≤ n) :
    (sshReceiveMsgCmd E ec size).Within n mem ↔ (CmdComplete E mem size → 15 ≤ n ∧
      (samRqidIsEvent (rqidOf (mem 13) (mem 14)) = true → (sshHandleEvent E ec).Within n mem) ∧
      (samRqidIsEvent (rqidOf (mem 13) (mem 14)) = false → ec.receiver.state = .command →
        ec.receiver.expect.rqid = rqidOf (mem 13) (mem 14) →
        3 + (mem 3 - 8).toNat ≤ ec.receiver.fifo.kfifoAvail →
        (mem 3 - 8).toNat = 0 ∨ 16 + (mem 3 - 8).toNat ≤ n)) := by
  simp only [sshReceiveMsgCmd, Reading.within_bind, Reading.within_ite, Reading.within_pure,
    Reading.within_block, Reading.within_cell, Reading.run_cell, SshFrameCtrl.within_len,
    SshFrameCtrl.within_type, SshFrameCtrl.within_seq, SshFrameCtrl.run_len, SshFrameCmd.type,
    SshFrameCmd.rqidLo, SshFrameCmd.rqidHi, sshIsValidCrc_run]
  simp only [sshMsgLenCmdBase, sshFrameOffsTerm, sshFrameOffsCtrlCrc, sshFrameOffsCtrl,
    sshFrameOffsCmd, sshFrameOffsCmdPld, sshBytelenSync, sshBytelenCtrl, sshBytelenCrc,
    sshBytelenCmdframe, Nat.reduceAdd, Nat.reduceSub, Nat.add_sub_cancel_left,
    SshFifoPacket.length_bytes, not_not, implies_true, true_and, and_true, ne_eq,
    Nat.not_lt, Bool.not_eq_true, Bool.not_eq_false', decide_eq_true_eq]
  constructor
  · intro h hc
    obtain ⟨-, hctrl⟩ := h hc.le_size
    obtain ⟨-, hcmd⟩ := hctrl (decide_eq_true hc.crc)
    obtain ⟨-, hframe⟩ := hcmd hc.msg_le
    obtain ⟨-, htail⟩ := hframe hc.frameType
    obtain ⟨h14, -, hevent, hresp⟩ := htail hc.frameCrc
    refine ⟨h14, hevent, fun hne hstate hrqid hroom => ?_⟩
    obtain ⟨-, -, hpld⟩ := hresp hne hstate hrqid
    exact hpld hroom
  · intro h hsize
    have hn := h8 hsize
    refine ⟨within_sshIsValidCrc (by omega) (by omega), fun hcrc => ⟨by omega, fun hlen => ?_⟩⟩
    have hn' := hmsg hlen
    refine ⟨by omega, fun hframe => ⟨within_sshIsValidCrc (by omega) (by omega), fun hfcrc => ?_⟩⟩
    obtain ⟨h15, hevent, hresp⟩ := h
      ⟨⟨hsize, hsyn, htype, of_decide_eq_true hcrc⟩, hlen, hframe, hfcrc⟩
    exact ⟨h15, by omega, hevent, fun hne hstate hrqid =>
      ⟨by omega, by omega, hresp hne hstate hrqid⟩⟩

/-- An evaluation stays inside the bytes it is given and inside the message it looks at
exactly if a complete command message has room for what is read of its frame. -/
theorem within_sshEvalBuf (ec : SamSshEc) (size : ℕ) :
    (sshEvalBuf E ec size).Within (min size (sshMsgLen mem)) mem ↔ (CmdComplete E mem size →
      5 ≤ (mem 3).toNat ∧
      (samRqidIsEvent (rqidOf (mem 13) (mem 14)) = true → E.kzalloc ec.events.allocs = true →
        8 ≤ (mem 3).toNat) ∧
      (samRqidIsEvent (rqidOf (mem 13) (mem 14)) = false → ec.receiver.state = .command →
        ec.receiver.expect.rqid = rqidOf (mem 13) (mem 14) →
        3 + (mem 3 - 8).toNat ≤ ec.receiver.fifo.kfifoAvail → 8 ≤ (mem 3).toNat)) := by
  simp only [sshEvalBuf, Reading.within_bind, Reading.within_ite, Reading.within_pure,
    within_sshIsValidSyn, SshFrameCtrl.within_type, SshFrameCtrl.run_type, sshIsValidSyn_run,
    implies_true, true_and, and_true, Bool.not_eq_true, Bool.not_eq_false', decide_eq_true_eq,
    Nat.not_lt]
  have hlen : 10 ≤ sshMsgLen mem := by
    unfold sshMsgLen
    split_ifs
    · simp
    · simp
  constructor
  · intro h hc
    have hsize := hc.le_size
    have hmsg := hc.msg_le
    have hmin : min size (sshMsgLen mem) = 10 + (mem 3).toNat := by
      rw [sshMsgLen, if_pos hc.type]
      exact Nat.min_eq_right hmsg
    obtain ⟨-, htype⟩ := h (by simp; omega)
    obtain ⟨-, -, hcmd⟩ := htype hc.syn
    have hne : ¬SshCtrlType (mem 2) := by
      rw [hc.type]
      exact not_ctrlType_cmd
    have hread := hcmd hne hc.type
    rw [hmin, within_sshReceiveMsgCmd ec size hc.syn hc.type (by omega) (by omega)] at hread
    obtain ⟨h15, hevent, hresp⟩ := hread hc
    refine ⟨by omega, fun he halloc => ?_, fun he hstate hrqid hroom => ?_⟩
    · obtain ⟨-, hpld⟩ := (within_sshHandleEvent ec (by omega)).mp (hevent he) halloc
      by_contra hlt
      rw [toNat_toUInt16_sub_eight_of_lt (by omega)] at hpld
      omega
    · have hpld := hresp he hstate hrqid hroom
      by_contra hlt
      rw [toNat_sub_eight_of_lt (by omega)] at hpld
      omega
  · intro h hsize
    simp only [sshBytelenSync, sshBytelenCtrl, sshFrameOffsCtrl] at hsize ⊢
    refine ⟨⟨by omega, fun _ => by omega⟩, fun hsyn => ⟨by omega, fun _ => ?_, fun hne htype => ?_⟩⟩
    · exact within_sshReceiveMsgCtrl ec size (by omega)
    · have hmsg : sshMsgLen mem = 10 + (mem 3).toNat := by
        rw [sshMsgLen, if_pos htype]
        rfl
      rw [within_sshReceiveMsgCmd ec size hsyn htype (by omega) (by omega)]
      intro hc
      have hle := hc.msg_le
      obtain ⟨h5, hevent, hresp⟩ := h hc
      refine ⟨by omega, fun he => ?_, fun he hstate hrqid hroom => ?_⟩
      · rw [within_sshHandleEvent ec (by omega)]
        intro halloc
        have h8 := hevent he halloc
        rw [toNat_toUInt16_sub_eight h8]
        omega
      · have h8 := hresp he hstate hrqid hroom
        rw [toNat_sub_eight h8]
        omega

end Within

/-! ### Safety of an evaluation -/

/-- An evaluation reads only received bytes, and only of the message it looks at; and the
payload of a command message it accepts is the bytes between the command header, which is
complete, and the frame checksum. -/
structure SshEvalSafe (E : SshEnv) (ec : SamSshEc) (mem : Memory UInt8) (size : ℕ) : Prop where
  received : (sshEvalBuf E ec size).Within size mem
  message : (sshEvalBuf E ec size).Within (sshMsgLen mem) mem
  event : ∀ work, (sshEval E ec mem size).2.events.queueAck = ec.events.queueAck ++ [work] →
    8 ≤ (mem 3).toNat ∧ work.event.len.toNat = (mem 3).toNat - 8 ∧
      work.event.pld = mem.slice 16 ((mem 3).toNat - 8)
  response : ∀ len seq rqid pld,
    (sshEval E ec mem size).2.trace = ec.trace ++ [.cmd len seq rqid pld] →
    8 ≤ (mem 3).toNat ∧ pld = mem.slice 16 ((mem 3).toNat - 8) ∧
      (sshEval E ec mem size).2.receiver.fifo.data =
        ec.receiver.fifo.data ++ [sshFrameTypeCmd, seq, UInt8.ofNat ((mem 3).toNat - 8)] ++ pld

/-- The bytes are a complete valid command message without room for a command header, and
more of it is read than there is: always if not even the request id fits, else if it is
taken for an event or for the response. -/
def SshShortCmd (E : SshEnv) (ec : SamSshEc) (mem : Memory UInt8) (size : ℕ) : Prop :=
  CmdComplete E mem size ∧ (mem 3).toNat < 8 ∧
    ((mem 3).toNat < 5 ∨
    (samRqidIsEvent (rqidOf (mem 13) (mem 14)) = true ∧ E.kzalloc ec.events.allocs = true) ∨
    (samRqidIsEvent (rqidOf (mem 13) (mem 14)) = false ∧ ec.receiver.state = .command ∧
      ec.receiver.expect.rqid = rqidOf (mem 13) (mem 14) ∧
      3 + (mem 3 - 8).toNat ≤ ec.receiver.fifo.kfifoAvail))

section Safe

variable {E : SshEnv} {ec : SamSshEc} {mem : Memory UInt8} {size : ℕ}

lemma within_sshEvalBuf_iff :
    (sshEvalBuf E ec size).Within (min size (sshMsgLen mem)) mem ↔ ¬SshShortCmd E ec mem size := by
  rw [within_sshEvalBuf]
  constructor
  · rintro h ⟨hc, hlt, hshort⟩
    obtain ⟨h5, hevent, hresp⟩ := h hc
    rcases hshort with hshort | ⟨he, halloc⟩ | ⟨he, hstate, hrqid, hroom⟩
    · omega
    · have h8 := hevent he halloc
      omega
    · have h8 := hresp he hstate hrqid hroom
      omega
  · intro h hc
    refine ⟨?_, fun he halloc => ?_, fun he hstate hrqid hroom => ?_⟩
    · by_contra hlt
      exact h ⟨hc, by omega, .inl (by omega)⟩
    · by_contra hlt
      exact h ⟨hc, by omega, .inr (.inl ⟨he, halloc⟩)⟩
    · by_contra hlt
      exact h ⟨hc, by omega, .inr (.inr ⟨he, hstate, hrqid, hroom⟩)⟩

/-- Except for short command messages, an evaluation depends on the received bytes alone. -/
theorem sshEval_congr {mem' : Memory UInt8} (h : ¬SshShortCmd E ec mem size)
    (hsame : ∀ i < size, mem i = mem' i) : sshEval E ec mem size = sshEval E ec mem' size := by
  have hread := within_sshEvalBuf_iff.mpr h
  apply (Reading.run_congr _ _).1
  intro i hi
  exact hsame i (Nat.lt_of_lt_of_le (hread i hi) (Nat.min_le_left _ _))

/-- The payload of an event message with a complete command header. -/
lemma eventWorkAt_pld (h8 : 8 ≤ (mem 3).toNat) :
    (eventWorkAt mem).event.len.toNat = (mem 3).toNat - 8 ∧
      (eventWorkAt mem).event.pld = mem.slice 16 ((mem 3).toNat - 8) := by
  have hlt := (mem 3).toNat_lt
  have h16 := toNat_toUInt16_sub_eight h8
  constructor
  · change ((mem 3).toUInt16 - 8).toUInt8.toNat = _
    rw [UInt16.toNat_toUInt8, h16]
    omega
  · change mem.slice 16 ((mem 3).toUInt16 - 8).toNat = _
    rw [h16]

/-- Only an event message adds a work item. -/
lemma SshEvalStep.of_queueAck {ec' : SamSshEc} (h : SshEvalStep E ec mem size ec')
    {work : SshEventWork} (hgrow : ec'.events.queueAck = ec.events.queueAck ++ [work]) :
    CmdComplete E mem size ∧ samRqidIsEvent (rqidOf (mem 13) (mem 14)) = true ∧
      E.kzalloc ec.events.allocs = true ∧ work = eventWorkAt mem := by
  cases h with
  | log log => simp at hgrow
  | ctrl _ _ _ _ => simp [SamSshEc.acceptCtrl] at hgrow
  | cmd _ _ _ _ _ => simp [SamSshEc.acceptCmd] at hgrow
  | event hc he =>
    rw [SamSshEc.queueAck_dispatch] at hgrow
    split_ifs at hgrow with halloc
    · exact ⟨hc, he, halloc, by simpa using hgrow.symm⟩
    · simp at hgrow

/-- Only a response adds a command to the trace. -/
lemma SshEvalStep.of_trace {ec' : SamSshEc} (h : SshEvalStep E ec mem size ec')
    {len seq : UInt8} {rqid : UInt16} {pld : List UInt8}
    (hgrow : ec'.trace = ec.trace ++ [.cmd len seq rqid pld]) :
    CmdComplete E mem size ∧ samRqidIsEvent (rqidOf (mem 13) (mem 14)) = false ∧
      ec.receiver.state = .command ∧ ec.receiver.expect.rqid = rqidOf (mem 13) (mem 14) ∧
      3 + (mem 3 - 8).toNat ≤ ec.receiver.fifo.kfifoAvail ∧
      pld = mem.slice 16 (mem 3 - 8).toNat ∧ ec' = ec.acceptCmd (mem 3) seq rqid pld := by
  cases h with
  | log log => simp at hgrow
  | event _ _ =>
    unfold SamSshEc.dispatch SamSshEc.queueEvent at hgrow
    split_ifs at hgrow
    · simp [SamSshEc.diag, SamSshEc.countAlloc] at hgrow
    · simp [SamSshEc.countAlloc] at hgrow
    · simp [SamSshEc.countAlloc] at hgrow
  | ctrl _ _ _ _ => simp [SamSshEc.acceptCtrl] at hgrow
  | cmd hc he hstate hrqid hroom =>
    obtain ⟨-, rfl, rfl, rfl⟩ : mem 3 = len ∧ mem 5 = seq ∧ (eventWorkAt mem).event.rqid = rqid ∧
        mem.slice 16 (mem 3 - 8).toNat = pld := by
      simpa [SamSshEc.acceptCmd] using hgrow
    exact ⟨hc, he, hstate, hrqid, hroom, rfl, rfl⟩

/-- A response that finds room goes to the FIFO whole. -/
lemma data_acceptCmd {len seq : UInt8} {rqid : UInt16} {pld : List UInt8}
    (hpld : pld.length = (len - 8).toNat)
    (hroom : 3 + (len - 8).toNat ≤ ec.receiver.fifo.kfifoAvail) :
    (ec.acceptCmd len seq rqid pld).receiver.fifo.data =
      ec.receiver.fifo.data ++ [sshFrameTypeCmd, seq, len - 8] ++ pld := by
  have h := ec.receiver.fifo.data_kfifoIn_kfifoIn
    (SshFifoPacket.mk sshFrameTypeCmd seq (len - 8)).bytes pld (by simp [hpld]; omega)
  exact h

end Safe

/-- The parser is safe exactly on the bytes that are no short command message. -/
theorem sshEvalSafe_iff (E : SshEnv) (ec : SamSshEc) (mem : Memory UInt8) (size : ℕ) :
    SshEvalSafe E ec mem size ↔ ¬SshShortCmd E ec mem size := by
  rw [← within_sshEvalBuf_iff]
  constructor
  · intro h
    exact h.received.min h.message
  · intro h
    have hread := (within_sshEvalBuf ec size).mp h
    refine ⟨fun i hi => ?_, fun i hi => ?_, fun work hgrow => ?_, fun len seq rqid pld hgrow => ?_⟩
    · exact Nat.lt_of_lt_of_le (h i hi) (Nat.min_le_left _ _)
    · exact Nat.lt_of_lt_of_le (h i hi) (Nat.min_le_right _ _)
    · obtain ⟨hc, he, halloc, rfl⟩ := (sshEval_step E ec mem size).of_queueAck hgrow
      have h8 := (hread hc).2.1 he halloc
      exact ⟨h8, eventWorkAt_pld h8⟩
    · obtain ⟨hc, he, hstate, hrqid, hroom, hpld, hres⟩ :=
        (sshEval_step E ec mem size).of_trace hgrow
      have h8 := (hread hc).2.2 he hstate hrqid hroom
      have hlen : mem 3 - 8 = UInt8.ofNat ((mem 3).toNat - 8) := by
        rw [← toNat_sub_eight h8, UInt8.ofNat_toNat]
      refine ⟨h8, by rw [hpld, toNat_sub_eight h8], ?_⟩
      rw [hres, data_acceptCmd (by simp [hpld]) hroom, hlen]

/-- A command message with length byte 1 for no request: its request id is taken from
behind its end, and behind the end of what has been received. -/
theorem sshEvalSafe_short_cmd :
    let frame : List UInt8 := [0x80, 1, 0, 0]
    let bytes := [0xaa, 0x55] ++ frame ++ crcBytes kernelEnv frame ++ [0x80] ++
      crcBytes kernelEnv [0x80]
    ¬SshEvalSafe kernelEnv sshEc (fun i => bytes.getD i 0) bytes.length := by
  intro frame bytes hsafe
  have hread : (sshEvalBuf kernelEnv sshEc bytes.length).offsets (fun i => bytes.getD i 0) =
      [0, 1, 2, 2, 3, 4, 5, 6, 7, 3, 8, 8, 9, 10, 14, 13] := by decide +kernel
  have h14 : 14 < bytes.length := hsafe.received 14 (by rw [hread]; decide)
  exact absurd h14 (by decide +kernel)

end SurfaceSam
