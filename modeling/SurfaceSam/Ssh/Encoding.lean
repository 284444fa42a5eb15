import SurfaceSam.Ssh.Message
import SurfaceSam.Ssh.Probe
import SurfaceSam.Ssh.Request

/-!
# What is written and what is read

The two writers of the driver against the parser: the bytes of a request are the encoding of
a command message that the parser reads back with its request id and payload, and both ways
of writing an ACK give the bytes of the same control message.
-/

namespace SurfaceSam

open Devlib

/-! ### Request ids -/

lemma toNat_lowByte (v : UInt16) : (lowByte v).toNat = v.toNat % 256 := by
  unfold lowByte
  rw [UInt16.toNat_toUInt8, UInt16.toNat_and]
  change (v.toNat &&& (2 ^ 8 - 1)) % 2 ^ 8 = _
  rw [Nat.and_two_pow_sub_one_eq_mod]
  omega

lemma toNat_highByte (v : UInt16) : (highByte v).toNat = v.toNat / 256 := by
  have hlt := v.toNat_lt
  unfold highByte
  rw [UInt16.toNat_toUInt8, UInt16.toNat_shiftRight]
  change (v.toNat >>> 8) % 2 ^ 8 = _
  rw [Nat.shiftRight_eq_div_pow]
  omega

lemma toNat_rqidOf (lo hi : UInt8) : (rqidOf lo hi).toNat = hi.toNat * 256 + lo.toNat := by
  have hlo := lo.toNat_lt
  have hhi := hi.toNat_lt
  unfold rqidOf
  rw [UInt16.toNat_or, UInt16.toNat_shiftLeft, UInt8.toNat_toUInt16, UInt8.toNat_toUInt16]
  change (hi.toNat <<< 8) % 2 ^ 16 ||| lo.toNat = _
  have hmod : (hi.toNat <<< 8) % 2 ^ 16 = hi.toNat <<< 8 := by
    rw [Nat.shiftLeft_eq]
    omega
  rw [hmod, ← Nat.shiftLeft_add_eq_or_of_lt hlo, Nat.shiftLeft_eq]

/-- The little-endian bytes of a request id are read back as the same id. -/
@[simp] lemma rqidOf_bytes (rqid : UInt16) : rqidOf (lowByte rqid) (highByte rqid) = rqid := by
  apply UInt16.toNat_inj.mp
  rw [toNat_rqidOf, toNat_lowByte, toNat_highByte]
  omega

/-- Events use the request ids below `2 ^ 5`, without zero. -/
lemma samRqidIsEvent_iff (rqid : UInt16) :
    samRqidIsEvent rqid = true ↔ 0 < rqid.toNat ∧ rqid.toNat < 32 := by
  have hzero : rqid ≠ 0 ↔ 0 < rqid.toNat := by
    rw [Nat.pos_iff_ne_zero, ne_eq, ne_eq, ← UInt16.toNat_inj]
    rfl
  have hmask : (rqid ||| 31) = 31 ↔ rqid.toNat < 32 := by
    rw [← UInt16.toNat_inj, UInt16.toNat_or]
    change rqid.toNat ||| 31 = 31 ↔ _
    constructor
    · intro h
      have hle := @Nat.left_le_or rqid.toNat 31
      omega
    · intro h
      have hlt : rqid.toNat ||| 31 < 2 ^ 5 := Nat.or_lt_two_pow h (by decide)
      have hge := @Nat.right_le_or rqid.toNat 31
      omega
  have hbits : ((1 : UInt16) <<< 5) - 1 = 31 := rfl
  rw [← hzero, ← hmask]
  unfold samRqidIsEvent
  simp [hbits]

/-- The id of a request has its low five bits clear, whatever the shift cuts off. -/
theorem samRqidIsEvent_samRqidToRqst (rqid : UInt16) :
    samRqidIsEvent (samRqidToRqst rqid) = false := by
  rw [Bool.eq_false_iff]
  intro h
  rw [samRqidIsEvent_iff, samRqidToRqst, UInt16.toNat_shiftLeft] at h
  change 0 < (rqid.toNat <<< 5) % 2 ^ 16 ∧ (rqid.toNat <<< 5) % 2 ^ 16 < 32 at h
  rw [Nat.shiftLeft_eq] at h
  omega

/-! ### The command message of a request -/

/-- The message a request is sent as. -/
def SshCmdMessage.ofRqst (counter : SshCounters) (rqst : SurfaceSamSshRqst)
    (hcdl : rqst.cdl.toNat ≤ surfaceSamSshMaxRqstPayload) : SshCmdMessage where
  pad := 0x00
  seq := counter.seq
  tc := rqst.tc
  outgoing := 0x01
  incoming := 0x00
  iid := rqst.iid
  rqidLo := lowByte (samRqidToRqst counter.rqid)
  rqidHi := highByte (samRqidToRqst counter.rqid)
  cid := rqst.cid
  pld := rqst.pld.slice 0 rqst.cdl.toNat
  length_pld := by rwa [Memory.length_slice]

section OfRqst

variable {counter : SshCounters} {rqst : SurfaceSamSshRqst}
  (hcdl : rqst.cdl.toNat ≤ surfaceSamSshMaxRqstPayload)

lemma SshCmdMessage.len_ofRqst :
    (SshCmdMessage.ofRqst counter rqst hcdl).len = UInt8.ofNat sshBytelenCmdframe + rqst.cdl := by
  apply UInt8.toNat_inj.mp
  rw [SshCmdMessage.toNat_len, UInt8.toNat_add]
  simp only [surfaceSamSshMaxRqstPayload] at hcdl
  change 8 + (rqst.pld.slice 0 rqst.cdl.toNat).length = (8 + rqst.cdl.toNat) % 2 ^ 8
  rw [Memory.length_slice]
  omega

lemma SshCmdMessage.rqid_ofRqst :
    (SshCmdMessage.ofRqst counter rqst hcdl).rqid = samRqidToRqst counter.rqid :=
  rqidOf_bytes _

/-- What the six write helpers leave in the buffer is the encoding of that message. -/
lemma sshWriteMsgCmd_writer (E : SshEnv) (ec : SamSshEc) :
    (ec.sshWriteMsgCmd E rqst).writer = (SshCmdMessage.ofRqst ec.counter rqst hcdl).bytes E := by
  unfold SshCmdMessage.bytes SshCmdMessage.ctrlFrame
  rw [SshCmdMessage.len_ofRqst]
  simp only [SamSshEc.sshWriteMsgCmd, SamSshEc.sshWriteCmd, SamSshEc.sshWriteHdr,
    SamSshEc.sshWriteSyn, SamSshEc.sshWriteCrc, SamSshEc.sshWriteU16, SamSshEc.sshWriteBuf,
    SamSshEc.sshWriterReset, List.nil_append, List.append_assoc]
  rfl

end OfRqst

/-! ### The ACK of an event -/

/-- The buffer on the stack of `surface_sam_ssh_send_ack`; `buf` is what lay there before. -/
def sshSendAckBuf (E : SshEnv) (seq : UInt8) (buf : Memory UInt8) : Memory UInt8 :=
  let buf := buf.memcpy 0 [0xaa, 0x55, 0x40, 0x00, 0x00, seq]
  let crc := E.sshCrc (buf.slice sshFrameOffsCtrl sshBytelenCtrl)
  let buf := buf.memcpy 6 [lowByte crc, highByte crc]
  buf.memcpy 8 [0xff, 0xff]

def surfaceSamSshSendAck (E : SshEnv) (seq : UInt8) (buf : Memory UInt8) : Prog SamSshEc ℤ :=
  .choose
    (fun status ec => { ec with
      trace := ec.trace ++ [.write ((sshSendAckBuf E seq buf).slice 0 sshMsgLenCtrl) status] })
    (fun status => .done (if 0 ≤ status then 0 else status))

def SshCtrlMessage.ack (seq : UInt8) : SshCtrlMessage := ⟨.ack, 0x00, 0x00, seq⟩

lemma sshWriteMsgAck_writer (E : SshEnv) (ec : SamSshEc) (seq : UInt8) :
    (ec.sshWriteMsgAck E seq).writer = (SshCtrlMessage.ack seq).bytes E := rfl

lemma sshSendAckBuf_slice (E : SshEnv) (seq : UInt8) (buf : Memory UInt8) :
    (sshSendAckBuf E seq buf).slice 0 sshMsgLenCtrl = (SshCtrlMessage.ack seq).bytes E := by
  have hhead : (buf.memcpy 0 [0xaa, 0x55, 0x40, 0x00, 0x00, seq]).slice 0 6 =
      [0xaa, 0x55, 0x40, 0x00, 0x00, seq] := Memory.slice_memcpy_same _ _ _
  have hframe : (buf.memcpy 0 [0xaa, 0x55, 0x40, 0x00, 0x00, seq]).slice 2 4 =
      (SshCtrlMessage.ack seq).frame := by
    have h := congrArg (List.drop 2) hhead
    rwa [Memory.drop_slice] at h
  unfold sshSendAckBuf
  simp only [sshFrameOffsCtrl, sshBytelenSync, sshBytelenCtrl, hframe]
  have hcrc := Memory.slice_memcpy_append (buf.memcpy 0 [0xaa, 0x55, 0x40, 0x00, 0x00, seq]) 6
    (crcBytes E (SshCtrlMessage.ack seq).frame)
  have hter := Memory.slice_memcpy_append ((buf.memcpy 0 [0xaa, 0x55, 0x40, 0x00, 0x00, seq]).memcpy 6
    (crcBytes E (SshCtrlMessage.ack seq).frame)) 8 [0xff, 0xff]
  rw [hhead] at hcrc
  refine hter.trans ?_
  change Memory.slice _ 0 (6 + 2) ++ _ = _
  rw [show Memory.slice _ 0 (6 + 2) = _ from hcrc]
  rfl

/-- Both ways of sending an ACK write the same bytes. -/
theorem surfaceSamSshSendAck_eq (E : SshEnv) (seq : UInt8) (buf : Memory UInt8) (ec : SamSshEc)
    (status : ℤ) :
    ∃ ec', Prog.run (SshLine.step E) [.step status] (surfaceSamSshSendAck E seq buf) ec =
        some (if 0 ≤ status then 0 else status, ec') ∧
      ec'.trace = ec.trace ++ [.write (ec.sshWriteMsgAck E seq).writer status] := by
  refine ⟨_, rfl, ?_⟩
  rw [sshSendAckBuf_slice, sshWriteMsgAck_writer]

/-! ### Reading them back -/

/-- The first bytes of `mem` are `bytes`, and at least these are offered. -/
structure Offers (mem : Memory UInt8) (size : ℕ) (bytes : List UInt8) : Prop where
  le_size : bytes.length ≤ size
  slice : mem.slice 0 bytes.length = bytes

section Decode

variable {E : SshEnv} {mem : Memory UInt8} {size : ℕ}

/-- A waited-for response is taken whole. -/
lemma sshEval_response (rcv : SamSshEc) (m : SshCmdMessage) (hmem : Offers mem size (m.bytes E))
    (hevent : samRqidIsEvent m.rqid = false) (hstate : rcv.receiver.state = .command)
    (hrqid : rcv.receiver.expect.rqid = m.rqid)
    (hroom : 3 + m.pld.length ≤ rcv.receiver.fifo.kfifoAvail) :
    sshEval E rcv mem size = ((m.bytes E).length, rcv.acceptCmd m.len m.seq m.rqid m.pld) := by
  obtain ⟨hcomplete, hlen, hwork, hpld⟩ := m.inMemory hmem.le_size hmem.slice
  have hlen8 : (m.len - 8).toNat = m.pld.length := by
    rw [toNat_sub_eight (by rw [m.toNat_len]; omega), m.toNat_len]
    omega
  rw [sshEval_cmd rcv hcomplete, hpld, hlen, hwork, m.length_bytes]
  unfold SamSshEc.onCmd
  have hnot : ¬samRqidIsEvent m.work.event.rqid = true := by
    rw [Bool.not_eq_true]
    exact hevent
  have hmatch : ¬rcv.receiver.expect.rqid ≠ m.work.event.rqid := not_not_intro hrqid
  rw [if_neg hnot, if_neg (not_not_intro hstate), if_neg hmatch, if_pos (by rw [hlen8]; exact hroom)]
  rfl

/-- A waited-for ACK is taken. -/
lemma sshEval_ack (rcv : SamSshEc) (seq : UInt8)
    (hmem : Offers mem size ((SshCtrlMessage.ack seq).bytes E)) :
    (sshEval E rcv mem size).1 = 10 ∧
      (rcv.receiver.state = .control → rcv.receiver.expect.seq = seq →
        3 ≤ rcv.receiver.fifo.kfifoAvail →
        (sshEval E rcv mem size).2 = rcv.acceptCtrl sshFrameTypeAck seq) := by
  obtain ⟨hcomplete, htype, hseq⟩ := (SshCtrlMessage.ack seq).inMemory hmem.le_size hmem.slice
  rw [sshEval_ctrl rcv hcomplete, htype, hseq]
  refine ⟨rfl, fun hstate hexpect hroom => ?_⟩
  change rcv.onCtrl sshFrameTypeAck seq = _
  unfold SamSshEc.onCtrl
  rw [if_neg (not_not_intro hstate), if_neg (fun h => h.2 hexpect.symm), if_pos hroom]

lemma fifo_acceptCmd (rcv : SamSshEc) (m : SshCmdMessage)
    (hroom : 3 + m.pld.length ≤ rcv.receiver.fifo.kfifoAvail) :
    (rcv.acceptCmd m.len m.seq m.rqid m.pld).receiver.fifo.data =
      rcv.receiver.fifo.data ++ ([0x80, m.seq, UInt8.ofNat m.pld.length] ++ m.pld) := by
  have hlen : m.len - 8 = UInt8.ofNat m.pld.length := by
    apply UInt8.toNat_inj.mp
    have h := m.length_pld
    simp only [surfaceSamSshMaxRqstPayload] at h
    rw [toNat_sub_eight (by rw [m.toNat_len]; omega), m.toNat_len, UInt8.toNat_ofNat']
    omega
  rw [← List.append_assoc, ← hlen]
  exact Kfifo.data_kfifoIn_kfifoIn _ _ _ hroom

end Decode

/-- A request that may be sent is written in `18 + cdl` bytes, within the write buffer, and a
receiver that waits for its request id reads exactly these bytes back as its payload. The two
writers of an ACK agree, and it is read back in ten bytes. A request that is too long is
refused before anything changes. -/
theorem sshWriteMsg_decoded (E : SshEnv) :
    (∀ (ec : SamSshEc) (rqst : SurfaceSamSshRqst),
      rqst.cdl.toNat ≤ surfaceSamSshMaxRqstPayload →
      let msg := (ec.sshWriteMsgCmd E rqst).writer
      msg.length = 18 + rqst.cdl.toNat ∧ msg.length ≤ sshWriteBufLen ∧
      ∀ (rcv : SamSshEc) (mem : Memory UInt8) (size : ℕ), Offers mem size msg →
        rcv.receiver.state = .command →
        rcv.receiver.expect.rqid = samRqidToRqst ec.counter.rqid →
        3 + rqst.cdl.toNat ≤ rcv.receiver.fifo.kfifoAvail →
        let r := sshEval E rcv mem size
        r.1 = 18 + rqst.cdl.toNat ∧ r.2.log = rcv.log ∧ r.2.receiver.state = .discard ∧
          r.2.receiver.signal = rcv.receiver.signal + 1 ∧
          r.2.receiver.fifo.data = rcv.receiver.fifo.data ++
            ([0x80, ec.counter.seq, rqst.cdl] ++ rqst.pld.slice 0 rqst.cdl.toNat)) ∧
    (∀ (ec : SamSshEc) (seq : UInt8),
      let msg := (ec.sshWriteMsgAck E seq).writer
      (∀ (buf : Memory UInt8) (status : ℤ), ∃ ec',
        Prog.run (SshLine.step E) [.step status] (surfaceSamSshSendAck E seq buf) ec =
          some (if 0 ≤ status then 0 else status, ec') ∧
        ec'.trace = ec.trace ++ [.write msg status]) ∧
      msg.length = 10 ∧
      ∀ (rcv : SamSshEc) (mem : Memory UInt8) (size : ℕ), Offers mem size msg →
        let r := sshEval E rcv mem size
        r.1 = 10 ∧ (rcv.receiver.state = .control → rcv.receiver.expect.seq = seq →
          3 ≤ rcv.receiver.fifo.kfifoAvail →
          r.2.log = rcv.log ∧
            r.2.receiver.state = (if rcv.receiver.expect.pld then .command else .discard) ∧
            r.2.receiver.signal = rcv.receiver.signal + 1 ∧
            r.2.receiver.fifo.data = rcv.receiver.fifo.data ++ [0x40, seq, 0])) ∧
    ∀ (rqst : SurfaceSamSshRqst) (result : Option SurfaceSamSshBuf) (ec : SamSshEc),
      surfaceSamSshMaxRqstPayload < rqst.cdl.toNat →
      Prog.run (SshLine.step E) [] (surfaceSamSshRqstUnlocked E rqst result) ec =
        some ((-einval, result), ec) := by
  refine ⟨?_, ?_, ?_⟩
  · intro ec rqst hcdl msg
    obtain ⟨m, hm⟩ : ∃ m, m = SshCmdMessage.ofRqst ec.counter rqst hcdl := ⟨_, rfl⟩
    have hmsg : msg = m.bytes E := by
      rw [hm]
      exact sshWriteMsgCmd_writer hcdl E ec
    have hseq : m.seq = ec.counter.seq := by rw [hm]; rfl
    have hid : m.rqid = samRqidToRqst ec.counter.rqid := by rw [hm, SshCmdMessage.rqid_ofRqst]
    have hpld : m.pld = rqst.pld.slice 0 rqst.cdl.toNat := by rw [hm]; rfl
    have hcount : m.pld.length = rqst.cdl.toNat := by rw [hpld, Memory.length_slice]
    have hlen : msg.length = 18 + rqst.cdl.toNat := by
      rw [hmsg, SshCmdMessage.length_bytes, SshCmdMessage.toNat_len, hcount]
      omega
    refine ⟨hlen, ?_, ?_⟩
    · simp only [surfaceSamSshMaxRqstPayload] at hcdl
      simp
      omega
    intro rcv mem size hmem hstate hrqid hroom r
    have hevent : samRqidIsEvent m.rqid = false := by
      rw [hid]
      exact samRqidIsEvent_samRqidToRqst _
    rw [← hid] at hrqid
    rw [← hcount] at hroom
    have hr : r = ((m.bytes E).length, rcv.acceptCmd m.len m.seq m.rqid m.pld) :=
      sshEval_response rcv m (hmsg ▸ hmem) hevent hstate hrqid hroom
    have hfifo := fifo_acceptCmd rcv m hroom
    rw [hcount, UInt8.ofNat_toNat, hseq, hpld] at hfifo
    rw [hr]
    refine ⟨?_, rfl, rfl, rfl, ?_⟩
    · rw [← hlen, hmsg]
    · rw [← hfifo, hseq, hpld]
  · intro ec seq msg
    refine ⟨fun buf status => surfaceSamSshSendAck_eq E seq buf ec status, rfl, ?_⟩
    intro rcv mem size hmem r
    obtain ⟨hused, haccept⟩ := sshEval_ack rcv seq hmem
    refine ⟨hused, fun hstate hexpect hroom => ?_⟩
    have hr : r.2 = rcv.acceptCtrl sshFrameTypeAck seq := haccept hstate hexpect hroom
    rw [hr]
    refine ⟨rfl, by simp [SamSshEc.acceptCtrl], rfl, ?_⟩
    exact Kfifo.data_kfifoIn _ _ hroom
  · intro rqst result ec hcdl
    unfold surfaceSamSshRqstUnlocked
    rw [if_pos hcdl]
    rfl

/-- A request with two payload bytes, read back with two more bytes behind it. -/
theorem sshWriteMsg_decoded_two :
    let rqst : SurfaceSamSshRqst := ⟨0x02, 0x01, 0x0b, 1, 2, fun i => if i = 0 then 7 else 9⟩
    let ec := { sshEc with counter := ⟨3, 0xffff⟩ }
    let rcv := { sshEc with receiver := ⟨.command, 0, ⟨512, [0x40, 3, 0]⟩, ⟨true, 3, 0xffe0⟩⟩ }
    let mem := Memory.memcpy (fun _ => 0xaa) 0 (ec.sshWriteMsgCmd kernelEnv rqst).writer
    (sshEval kernelEnv rcv mem 22).1 = 20 ∧
      (sshEval kernelEnv rcv mem 22).2.receiver.fifo.data = [0x40, 3, 0, 0x80, 3, 2, 7, 9] := by
  intro rqst ec rcv mem
  obtain ⟨hlen, -, hread⟩ := (sshWriteMsg_decoded kernelEnv).1 ec rqst (by decide)
  have hmem : Offers mem 22 (ec.sshWriteMsgCmd kernelEnv rqst).writer := by
    refine ⟨?_, Memory.slice_memcpy_same _ _ _⟩
    rw [hlen]
    decide
  obtain ⟨hused, -, -, -, hfifo⟩ := hread rcv mem 22 hmem rfl (by decide) (by decide)
  exact ⟨hused, hfifo⟩

end SurfaceSam
