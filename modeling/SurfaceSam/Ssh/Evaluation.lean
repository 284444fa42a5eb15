import SurfaceSam.Ssh.Receiver

/-!
# What one evaluation does

`ssh_eval_buf` has about fifteen exits. This file says once what each of them does: the
bytes either do not reach yet, or are a complete control or command message, or are
rejected with a diagnostic. All properties of the receiver are derived from these cases.
-/

namespace SurfaceSam

open Devlib

/-! ### The handlers on complete messages -/

def crcBytes (E : SshEnv) (frame : List UInt8) : List UInt8 :=
  [lowByte (E.sshCrc frame), highByte (E.sshCrc frame)]

/-- The work item of the event message at the start of `mem`. -/
def eventWorkAt (mem : Memory UInt8) : SshEventWork where
  event := {
    rqid := rqidOf (mem 13) (mem 14), tc := mem 9, iid := mem 12, cid := mem 15
    len := ((mem 3).toUInt16 - 8).toUInt8
    pld := mem.slice 16 ((mem 3).toUInt16 - 8).toNat }
  seq := mem 5

namespace SamSshEc

/-- The delay the registered delay function chooses for an event. -/
def delayOf (ec : SamSshEc) (event : SurfaceSamSshEvent) : ℕ :=
  match (ec.events.handler (event.rqid - 1).toNat).delay with
  | some delayFn => delayFn event
  | none => 0

def countAlloc (ec : SamSshEc) : SamSshEc :=
  { ec with events := { ec.events with allocs := ec.events.allocs + 1 } }

/-- Queues the work item for acknowledging and runs or queues its event part. -/
def queueEvent (ec : SamSshEc) (work : SshEventWork) : SamSshEc :=
  if ec.delayOf work.event = surfaceSamSshEventImmediate then
    { ec with events := { ec.events with
      queueAck := ec.events.queueAck ++ [work], immediate := ec.events.immediate ++ [work] } }
  else
    { ec with events := { ec.events with
      queueAck := ec.events.queueAck ++ [work]
      queueEvt := ec.events.queueEvt ++ [(work, ec.delayOf work.event)] } }

def dispatch (E : SshEnv) (ec : SamSshEc) (work : SshEventWork) : SamSshEc :=
  if E.kzalloc ec.events.allocs = false then ec.countAlloc.diag .eventAllocFailed
  else ec.countAlloc.queueEvent work

/-- A control message is accepted for the request. -/
def acceptCtrl (ec : SamSshEc) (type seq : UInt8) : SamSshEc :=
  { ec with
    receiver := { ec.receiver with
      state :=
        if type = sshFrameTypeAck then
          if ec.receiver.expect.pld then .command else .discard
        else ec.receiver.state
      signal := ec.receiver.signal + 1
      fifo := ec.receiver.fifo.kfifoIn (SshFifoPacket.mk type seq 0).bytes }
    trace := ec.trace ++ [.ctrl type seq] }

/-- A command message is accepted as the response to the request. -/
def acceptCmd (ec : SamSshEc) (len seq : UInt8) (rqid : UInt16) (pld : List UInt8) :
    SamSshEc :=
  { ec with
    receiver := { ec.receiver with
      state := .discard
      signal := ec.receiver.signal + 1
      fifo := (ec.receiver.fifo.kfifoIn
        (SshFifoPacket.mk sshFrameTypeCmd seq (len - 8)).bytes).kfifoIn pld }
    trace := ec.trace ++ [.cmd len seq rqid pld] }

/-- A valid control message arrives. -/
def onCtrl (ec : SamSshEc) (type seq : UInt8) : SamSshEc :=
  if ec.receiver.state ≠ .control then ec.diag .ctrlNotExpected
  else if type = sshFrameTypeAck ∧ seq ≠ ec.receiver.expect.seq then ec.diag .ackNotMatching
  else if 3 ≤ ec.receiver.fifo.kfifoAvail then ec.acceptCtrl type seq
  else ec.diag .fifoFull

/-- A valid command message with length byte `len` arrives; `work` is the work item it
makes if it is an event, `pld` the payload it hands over if it is a response. -/
def onCmd (E : SshEnv) (ec : SamSshEc) (len : UInt8) (work : SshEventWork)
    (pld : List UInt8) : ℕ × SamSshEc :=
  if samRqidIsEvent work.event.rqid then (10 + len.toNat, ec.dispatch E work)
  else if ec.receiver.state ≠ .command then (10 + len.toNat, ec.diag .cmdNotExpected)
  else if ec.receiver.expect.rqid ≠ work.event.rqid then
    (10 + len.toNat, ec.diag .cmdNotMatching)
  else if 3 + (len - 8).toNat ≤ ec.receiver.fifo.kfifoAvail then
    (10 + len.toNat, ec.acceptCmd len work.seq work.event.rqid pld)
  else (10, ec.diag .fifoFull)

end SamSshEc

/-! ### Complete messages in memory -/

def SshSynOk (mem : Memory UInt8) : Prop := mem.slice 0 2 = [0xaa, 0x55]
  deriving Decidable

def SshHeaderCrcOk (E : SshEnv) (mem : Memory UInt8) : Prop :=
  mem.slice 6 2 = crcBytes E (mem.slice 2 4)
  deriving Decidable

def SshCtrlType (type : UInt8) : Prop := type = sshFrameTypeAck ∨ type = sshFrameTypeRetry
  deriving Decidable

/-- The first `size` bytes of `mem` begin with a complete valid control message. -/
structure CtrlComplete (E : SshEnv) (mem : Memory UInt8) (size : ℕ) : Prop where
  le_size : 10 ≤ size
  syn : SshSynOk mem
  type : SshCtrlType (mem 2)
  ter : mem.slice 8 2 = [0xff, 0xff]
  crc : SshHeaderCrcOk E mem

/-- The first `size` bytes of `mem` begin with a valid header of a command message. -/
structure CmdHeader (E : SshEnv) (mem : Memory UInt8) (size : ℕ) : Prop where
  le_size : 8 ≤ size
  syn : SshSynOk mem
  type : mem 2 = sshFrameTypeCmd
  crc : SshHeaderCrcOk E mem

/-- The first `size` bytes of `mem` begin with a complete valid command message. -/
structure CmdComplete (E : SshEnv) (mem : Memory UInt8) (size : ℕ) : Prop
    extends CmdHeader E mem size where
  msg_le : 10 + (mem 3).toNat ≤ size
  frameType : mem 8 = sshFrameTypeCmd
  frameCrc : mem.slice (8 + (mem 3).toNat) 2 = crcBytes E (mem.slice 8 (mem 3).toNat)

/-- The first `size` bytes of `mem` do not decide yet what they are. -/
inductive SshNeedMore (E : SshEnv) (mem : Memory UInt8) (size : ℕ) : Prop
  | start (h : size < 6)
  | ctrl (h : size < 10) (syn : SshSynOk mem) (type : SshCtrlType (mem 2))
  | header (h : size < 8) (syn : SshSynOk mem) (type : mem 2 = sshFrameTypeCmd)
  | frame (h : size < 10 + (mem 3).toNat) (header : CmdHeader E mem size)

/-! ### Results of the parser functions -/

section Run

variable (E : SshEnv) (ec : SamSshEc) (mem : Memory UInt8) (size : ℕ)

@[simp] lemma sshIsValidSyn_run (ptr : ℕ) :
    (sshIsValidSyn ptr).run mem = decide (mem.slice ptr 2 = [0xaa, 0x55]) := by
  simp [sshIsValidSyn, Memory.slice_succ]

@[simp] lemma sshIsValidTer_run (ptr : ℕ) :
    (sshIsValidTer ptr).run mem = decide (mem.slice ptr 2 = [0xff, 0xff]) := by
  simp [sshIsValidTer, Memory.slice_succ]

@[simp] lemma sshIsValidCrc_run (begin fin : ℕ) :
    (sshIsValidCrc E begin fin).run mem =
      decide (mem.slice fin 2 = crcBytes E (mem.slice begin (fin - begin))) := by
  simp [sshIsValidCrc, Memory.slice_succ, crcBytes]

@[simp] lemma SshFrameCtrl.run_type (ctrl : ℕ) : (SshFrameCtrl.type ctrl).run mem = mem ctrl :=
  Reading.run_cell mem ctrl

@[simp] lemma SshFrameCtrl.run_len (ctrl : ℕ) :
    (SshFrameCtrl.len ctrl).run mem = mem (ctrl + 1) := Reading.run_cell mem _

@[simp] lemma SshFrameCtrl.run_seq (ctrl : ℕ) :
    (SshFrameCtrl.seq ctrl).run mem = mem (ctrl + 3) := Reading.run_cell mem _

lemma sshHandleEvent_run : (sshHandleEvent E ec).run mem = ec.dispatch E (eventWorkAt mem) := by
  simp only [sshHandleEvent, Reading.run_bind, Reading.run_ite, Reading.run_pure, Reading.run_block,
    SshFrameCmd.rqidHi, SshFrameCmd.rqidLo, SshFrameCmd.tc, SshFrameCmd.iid, SshFrameCmd.cid,
    SshFrameCtrl.run_len, SshFrameCtrl.run_seq, Reading.run_cell]
  unfold SamSshEc.dispatch SamSshEc.queueEvent SamSshEc.delayOf
  rfl

lemma not_decide_iff {P : Prop} [Decidable P] : (!decide P) = true ↔ ¬P := by simp

lemma sshReceiveMsgCtrl_run : (sshReceiveMsgCtrl E ec size).run mem =
    if size < 10 then (0, ec)
    else if mem.slice 8 2 ≠ [0xff, 0xff] then (size, ec.diag .invalidTer)
    else if ¬SshHeaderCrcOk E mem then (10, ec.diag .invalidCrcCtrl)
    else (10, ec.onCtrl (mem 2) (mem 5)) := by
  simp only [sshReceiveMsgCtrl, Reading.run_bind, Reading.run_ite, Reading.run_pure,
    sshIsValidTer_run, sshIsValidCrc_run, SshFrameCtrl.run_type, SshFrameCtrl.run_seq]
  refine if_congr Iff.rfl rfl (if_congr not_decide_iff rfl (if_congr not_decide_iff rfl ?_))
  unfold SamSshEc.onCtrl
  simp only [apply_ite (Prod.mk (10 : ℕ))]
  exact if_congr Iff.rfl rfl (if_congr Iff.rfl rfl (if_congr Iff.rfl rfl rfl))

lemma sshReceiveMsgCmd_run (htype : mem 2 = sshFrameTypeCmd) : (sshReceiveMsgCmd E ec size).run mem =
    if size < 8 then (0, ec)
    else if ¬SshHeaderCrcOk E mem then (size, ec.diag .invalidCrcCmdCtrl)
    else if size < 10 + (mem 3).toNat then (0, ec)
    else if mem 8 ≠ sshFrameTypeCmd then (size, ec.diag (.invalidFrameType (mem 8)))
    else if mem.slice (8 + (mem 3).toNat) 2 ≠ crcBytes E (mem.slice 8 (mem 3).toNat) then
      (10 + (mem 3).toNat, ec.diag .invalidCrcCmdPld)
    else ec.onCmd E (mem 3) (eventWorkAt mem) (mem.slice 16 (mem 3 - 8).toNat) := by
  simp only [sshReceiveMsgCmd, Reading.run_bind, Reading.run_ite, Reading.run_pure,
    Reading.run_block, Reading.run_cell, sshIsValidCrc_run, sshHandleEvent_run, SshFrameCtrl.run_type,
    SshFrameCtrl.run_len, SshFrameCtrl.run_seq, SshFrameCmd.type, SshFrameCmd.rqidLo, SshFrameCmd.rqidHi]
  refine if_congr Iff.rfl rfl (if_congr not_decide_iff rfl (if_congr Iff.rfl rfl
    (if_congr Iff.rfl rfl (if_congr (by simp) rfl ?_))))
  unfold SamSshEc.onCmd SamSshEc.acceptCmd
  rw [← htype]
  exact if_congr Iff.rfl rfl (if_congr Iff.rfl rfl (if_congr Iff.rfl rfl (if_congr Iff.rfl rfl rfl)))

lemma sshEval_eq : sshEval E ec mem size =
    if size < 6 then (0, ec)
    else if ¬SshSynOk mem then (size, ec.diag .invalidSyn)
    else if SshCtrlType (mem 2) then (sshReceiveMsgCtrl E ec size).run mem
    else if mem 2 = sshFrameTypeCmd then (sshReceiveMsgCmd E ec size).run mem
    else (size, ec.diag (.unknownFrameType (mem 2))) := by
  simp only [sshEval, sshEvalBuf, Reading.run_bind, Reading.run_ite, Reading.run_pure,
    sshIsValidSyn_run, SshFrameCtrl.run_type]
  exact if_congr Iff.rfl rfl (if_congr not_decide_iff rfl (if_congr Iff.rfl rfl
    (if_congr Iff.rfl rfl rfl)))

end Run

/-! ### The cases of an evaluation -/

section Cases

variable {E : SshEnv} {mem : Memory UInt8} {size : ℕ}

lemma not_ctrlType_cmd : ¬SshCtrlType sshFrameTypeCmd := by decide

theorem sshEval_needMore (ec : SamSshEc) (h : SshNeedMore E mem size) :
    sshEval E ec mem size = (0, ec) := by
  rw [sshEval_eq]
  cases h with
  | start h => rw [if_pos h]
  | ctrl h syn type =>
    rw [if_neg (not_not_intro syn), if_pos type, sshReceiveMsgCtrl_run, if_pos h, ite_self]
  | header h syn type =>
    rw [if_neg (not_not_intro syn), type, if_neg not_ctrlType_cmd, if_pos rfl,
      sshReceiveMsgCmd_run E ec mem size type, if_pos h, ite_self]
  | frame h header =>
    have hsize := header.le_size
    rw [if_neg (by omega), if_neg (not_not_intro header.syn), header.type,
      if_neg not_ctrlType_cmd, if_pos rfl, sshReceiveMsgCmd_run E ec mem size header.type,
      if_neg (by omega), if_neg (not_not_intro header.crc), if_pos h]

theorem sshEval_ctrl (ec : SamSshEc) (h : CtrlComplete E mem size) :
    sshEval E ec mem size = (10, ec.onCtrl (mem 2) (mem 5)) := by
  have hsize := h.le_size
  rw [sshEval_eq, if_neg (by omega), if_neg (not_not_intro h.syn), if_pos h.type,
    sshReceiveMsgCtrl_run, if_neg (by omega), if_neg (not_not_intro h.ter),
    if_neg (not_not_intro h.crc)]

theorem sshEval_cmd (ec : SamSshEc) (h : CmdComplete E mem size) :
    sshEval E ec mem size =
      ec.onCmd E (mem 3) (eventWorkAt mem) (mem.slice 16 (mem 3 - 8).toNat) := by
  have hsize := h.le_size
  have hmsg := h.msg_le
  rw [sshEval_eq, if_neg (by omega), if_neg (not_not_intro h.syn),
    if_neg (by rw [h.type]; exact not_ctrlType_cmd), if_pos h.type,
    sshReceiveMsgCmd_run E ec mem size h.type, if_neg (by omega), if_neg (not_not_intro h.crc),
    if_neg (by omega), if_neg (not_not_intro h.frameType), if_neg (not_not_intro h.frameCrc)]

/-- Bytes that are neither incomplete nor a valid message are thrown away, at least one and
never more than there are. -/
theorem sshEval_cases (E : SshEnv) (ec : SamSshEc) (mem : Memory UInt8) (size : ℕ) :
    SshNeedMore E mem size ∨ CtrlComplete E mem size ∨ CmdComplete E mem size ∨
      ∃ n d, 0 < n ∧ n ≤ size ∧ d ≠ .fifoFull ∧ sshEval E ec mem size = (n, ec.diag d) := by
  by_cases hsize : size < 6
  · exact .inl (.start hsize)
  by_cases hsyn : SshSynOk mem
  swap
  · refine .inr (.inr (.inr ⟨size, .invalidSyn, by omega, Nat.le_refl _, by simp, ?_⟩))
    rw [sshEval_eq, if_neg hsize, if_pos hsyn]
  by_cases hctrl : SshCtrlType (mem 2)
  · have heval : sshEval E ec mem size = (sshReceiveMsgCtrl E ec size).run mem := by
      rw [sshEval_eq, if_neg hsize, if_neg (not_not_intro hsyn), if_pos hctrl]
    rw [sshReceiveMsgCtrl_run] at heval
    by_cases h10 : size < 10
    · exact .inl (.ctrl h10 hsyn hctrl)
    rw [if_neg h10] at heval
    by_cases hter : mem.slice 8 2 = [0xff, 0xff]
    swap
    · rw [if_pos hter] at heval
      exact .inr (.inr (.inr ⟨size, .invalidTer, by omega, Nat.le_refl _, by simp, heval⟩))
    rw [if_neg (not_not_intro hter)] at heval
    by_cases hcrc : SshHeaderCrcOk E mem
    · exact .inr (.inl ⟨by omega, hsyn, hctrl, hter, hcrc⟩)
    · rw [if_pos hcrc] at heval
      exact .inr (.inr (.inr ⟨10, .invalidCrcCtrl, by omega, by omega, by simp, heval⟩))
  by_cases hcmd : mem 2 = sshFrameTypeCmd
  swap
  · refine .inr (.inr (.inr ⟨size, .unknownFrameType (mem 2), by omega, Nat.le_refl _, by simp, ?_⟩))
    rw [sshEval_eq, if_neg hsize, if_neg (not_not_intro hsyn), if_neg hctrl, if_neg hcmd]
  have heval : sshEval E ec mem size = (sshReceiveMsgCmd E ec size).run mem := by
    rw [sshEval_eq, if_neg hsize, if_neg (not_not_intro hsyn), if_neg hctrl, if_pos hcmd]
  rw [sshReceiveMsgCmd_run E ec mem size hcmd] at heval
  by_cases h8 : size < 8
  · exact .inl (.header h8 hsyn hcmd)
  rw [if_neg h8] at heval
  by_cases hcrc : SshHeaderCrcOk E mem
  swap
  · rw [if_pos hcrc] at heval
    exact .inr (.inr (.inr ⟨size, .invalidCrcCmdCtrl, by omega, Nat.le_refl _, by simp, heval⟩))
  rw [if_neg (not_not_intro hcrc)] at heval
  have header : CmdHeader E mem size := ⟨by omega, hsyn, hcmd, hcrc⟩
  by_cases hmsg : size < 10 + (mem 3).toNat
  · exact .inl (.frame hmsg header)
  rw [if_neg hmsg] at heval
  by_cases htype : mem 8 = sshFrameTypeCmd
  swap
  · rw [if_pos htype] at heval
    exact .inr (.inr (.inr ⟨size, .invalidFrameType (mem 8), by omega, Nat.le_refl _, by simp, heval⟩))
  rw [if_neg (not_not_intro htype)] at heval
  by_cases hframe : mem.slice (8 + (mem 3).toNat) 2 = crcBytes E (mem.slice 8 (mem 3).toNat)
  · exact .inr (.inr (.inl ⟨header, by omega, htype, hframe⟩))
  · rw [if_pos hframe] at heval
    exact .inr (.inr (.inr ⟨_, .invalidCrcCmdPld, by omega, by omega, by simp, heval⟩))

end Cases

/-! ### The cases of the handlers -/

namespace SamSshEc

variable {E : SshEnv} (ec : SamSshEc)

lemma queueAck_dispatch (work : SshEventWork) : (ec.dispatch E work).events.queueAck =
    if E.kzalloc ec.events.allocs = true then ec.events.queueAck ++ [work]
    else ec.events.queueAck := by
  unfold dispatch queueEvent
  cases E.kzalloc ec.events.allocs
  · rfl
  · simp only [Bool.true_eq_false, if_false, if_true]
    split_ifs
    · rfl
    · rfl

lemma handler_dispatch (work : SshEventWork) :
    (ec.dispatch E work).events.handler = ec.events.handler := by
  unfold dispatch queueEvent
  split_ifs
  · rfl
  · rfl
  · rfl

/-- A control message is dropped, finds no room in the FIFO, or is accepted. -/
theorem onCtrl_cases (type seq : UInt8) :
    (∃ d, d ≠ .fifoFull ∧ ec.onCtrl type seq = ec.diag d) ∨
    (ec.receiver.state = .control ∧ (type = sshFrameTypeAck → seq = ec.receiver.expect.seq)) ∧
    ((ec.receiver.fifo.kfifoAvail < 3 ∧ ec.onCtrl type seq = ec.diag .fifoFull) ∨
    (3 ≤ ec.receiver.fifo.kfifoAvail ∧ ec.onCtrl type seq = ec.acceptCtrl type seq)) := by
  unfold onCtrl
  split_ifs with hstate hseq hroom
  · exact .inl ⟨_, by simp, rfl⟩
  · exact .inl ⟨_, by simp, rfl⟩
  · refine .inr ⟨⟨by simpa using hstate, fun ht => ?_⟩, .inr ⟨hroom, rfl⟩⟩
    by_contra hne
    exact hseq ⟨ht, hne⟩
  · refine .inr ⟨⟨by simpa using hstate, fun ht => ?_⟩, .inl ⟨by omega, rfl⟩⟩
    by_contra hne
    exact hseq ⟨ht, hne⟩

/-- A command message is an event, is dropped, finds no room in the FIFO, or is accepted. -/
theorem onCmd_cases (len : UInt8) (work : SshEventWork) (pld : List UInt8) :
    (samRqidIsEvent work.event.rqid = true ∧
      ec.onCmd E len work pld = (10 + len.toNat, ec.dispatch E work)) ∨
    samRqidIsEvent work.event.rqid = false ∧
    ((∃ d, d ≠ .fifoFull ∧ ec.onCmd E len work pld = (10 + len.toNat, ec.diag d)) ∨
    (ec.receiver.state = .command ∧ ec.receiver.expect.rqid = work.event.rqid ∧
      ec.receiver.fifo.kfifoAvail < 3 + (len - 8).toNat ∧
      ec.onCmd E len work pld = (10, ec.diag .fifoFull)) ∨
    (ec.receiver.state = .command ∧ ec.receiver.expect.rqid = work.event.rqid ∧
      3 + (len - 8).toNat ≤ ec.receiver.fifo.kfifoAvail ∧
      ec.onCmd E len work pld =
        (10 + len.toNat, ec.acceptCmd len work.seq work.event.rqid pld))) := by
  unfold onCmd
  split_ifs with hevent hstate hrqid hroom
  · exact .inl ⟨hevent, rfl⟩
  · exact .inr ⟨by simpa using hevent, .inl ⟨_, by simp, rfl⟩⟩
  · exact .inr ⟨by simpa using hevent, .inl ⟨_, by simp, rfl⟩⟩
  · exact .inr ⟨by simpa using hevent,
      .inr (.inr ⟨by simpa using hstate, by simpa using hrqid, hroom, rfl⟩)⟩
  · exact .inr ⟨by simpa using hevent,
      .inr (.inl ⟨by simpa using hstate, by simpa using hrqid, by omega, rfl⟩)⟩

end SamSshEc

/-- What one evaluation can do to the EC besides writing to the log. -/
inductive SshEvalStep (E : SshEnv) (ec : SamSshEc) (mem : Memory UInt8) (size : ℕ) :
    SamSshEc → Prop
  | log (log : List SshDiag) : SshEvalStep E ec mem size { ec with log := log }
  | event (h : CmdComplete E mem size)
    (event : samRqidIsEvent (eventWorkAt mem).event.rqid = true) :
    SshEvalStep E ec mem size (ec.dispatch E (eventWorkAt mem))
  | ctrl (h : CtrlComplete E mem size) (state : ec.receiver.state = .control)
    (seq : mem 2 = sshFrameTypeAck → mem 5 = ec.receiver.expect.seq)
    (room : 3 ≤ ec.receiver.fifo.kfifoAvail) :
    SshEvalStep E ec mem size (ec.acceptCtrl (mem 2) (mem 5))
  | cmd (h : CmdComplete E mem size)
    (event : samRqidIsEvent (eventWorkAt mem).event.rqid = false)
    (state : ec.receiver.state = .command)
    (rqid : ec.receiver.expect.rqid = (eventWorkAt mem).event.rqid)
    (room : 3 + (mem 3 - 8).toNat ≤ ec.receiver.fifo.kfifoAvail) :
    SshEvalStep E ec mem size (ec.acceptCmd (mem 3) (mem 5) (eventWorkAt mem).event.rqid
      (mem.slice 16 (mem 3 - 8).toNat))

theorem sshEval_step (E : SshEnv) (ec : SamSshEc) (mem : Memory UInt8) (size : ℕ) :
    SshEvalStep E ec mem size (sshEval E ec mem size).2 := by
  rcases sshEval_cases E ec mem size with h | h | h | ⟨n, d, -, -, -, h⟩
  · rw [sshEval_needMore ec h]
    exact .log ec.log
  · rw [sshEval_ctrl ec h]
    rcases ec.onCtrl_cases (mem 2) (mem 5) with
      ⟨d, -, hres⟩ | ⟨⟨hstate, hseq⟩, ⟨-, hres⟩ | ⟨hroom, hres⟩⟩
    · rw [hres]
      exact .log _
    · rw [hres]
      exact .log _
    · rw [hres]
      exact .ctrl h hstate hseq hroom
  · rw [sshEval_cmd ec h]
    rcases ec.onCmd_cases (E := E) (mem 3) (eventWorkAt mem) (mem.slice 16 (mem 3 - 8).toNat) with
      ⟨hevent, hres⟩ | ⟨hevent, ⟨d, -, hres⟩ | ⟨-, -, -, hres⟩ | ⟨hstate, hrqid, hroom, hres⟩⟩
    · rw [hres]
      exact .event h hevent
    · rw [hres]
      exact .log _
    · rw [hres]
      exact .log _
    · rw [hres]
      exact .cmd h hevent hstate hrqid hroom
  · rw [h]
    exact .log _

end SurfaceSam
