import SurfaceSam.Devlib.Interleaving
import SurfaceSam.Ssh.Receiver

/-!
# Requests

`surface_sam_ssh_rqst_unlocked` and everything it calls, as a program of atomic steps on
the EC. The receive callback runs between the steps, one evaluation at a time: it shares
the FIFO, the completion and the receiver state with the request, and only restarting and
discarding exclude it by the receiver lock.
-/

namespace SurfaceSam

open Devlib

@[simp] def einval : ℤ := 22
@[simp] def eio : ℤ := 5

/-! ### Writing messages -/

namespace SamSshEc

variable (E : SshEnv)

def sshWriterReset (ec : SamSshEc) : SamSshEc := { ec with writer := [] }

def sshWriteBuf (ec : SamSshEc) (buf : List UInt8) : SamSshEc :=
  { ec with writer := ec.writer ++ buf }

def sshWriteU16 (ec : SamSshEc) (v : UInt16) : SamSshEc := ec.sshWriteBuf [lowByte v, highByte v]

def sshWriteCrc (ec : SamSshEc) (buf : List UInt8) : SamSshEc := ec.sshWriteU16 (E.sshCrc buf)

def sshWriteSyn (ec : SamSshEc) : SamSshEc := ec.sshWriteBuf [0xaa, 0x55]

def sshWriteTer (ec : SamSshEc) : SamSshEc := ec.sshWriteBuf [0xff, 0xff]

def sshWriteHdr (ec : SamSshEc) (rqst : SurfaceSamSshRqst) : SamSshEc :=
  let hdr := [sshFrameTypeCmd, UInt8.ofNat sshBytelenCmdframe + rqst.cdl, 0x00, ec.counter.seq]
  (ec.sshWriteBuf hdr).sshWriteCrc E hdr

def sshWriteCmd (ec : SamSshEc) (rqst : SurfaceSamSshRqst) : SamSshEc :=
  let rqid := samRqidToRqst ec.counter.rqid
  let cmd := [sshFrameTypeCmd, rqst.tc, 0x01, 0x00, rqst.iid, lowByte rqid, highByte rqid, rqst.cid]
  let pld := rqst.pld.slice 0 rqst.cdl.toNat
  ((ec.sshWriteBuf cmd).sshWriteBuf pld).sshWriteCrc E (cmd ++ pld)

def sshWriteAck (ec : SamSshEc) (seq : UInt8) : SamSshEc :=
  let ack := [sshFrameTypeAck, 0x00, 0x00, seq]
  (ec.sshWriteBuf ack).sshWriteCrc E ack

def sshWriteMsgCmd (ec : SamSshEc) (rqst : SurfaceSamSshRqst) : SamSshEc :=
  ((ec.sshWriterReset.sshWriteSyn).sshWriteHdr E rqst).sshWriteCmd E rqst

def sshWriteMsgAck (ec : SamSshEc) (seq : UInt8) : SamSshEc :=
  ((ec.sshWriterReset.sshWriteSyn).sshWriteAck E seq).sshWriteTer

/-! ### Receiver transitions of a request -/

/-- Without `eval_buf.len`, see `SshPort.sshReceiverRestart`. -/
def sshReceiverRestart (ec : SamSshEc) (rqst : SurfaceSamSshRqst) : SamSshEc :=
  { ec with receiver := { ec.receiver with
      state := .control
      signal := 0
      expect := {
        pld := rqst.snc != 0, seq := ec.counter.seq, rqid := samRqidToRqst ec.counter.rqid } } }

/-- Without `eval_buf.len`, see `SshPort.sshReceiverDiscard`. -/
def sshReceiverDiscard (ec : SamSshEc) : SamSshEc :=
  { ec with receiver := { ec.receiver with
      state := .discard, fifo := ec.receiver.fifo.kfifoReset } }

end SamSshEc

def SshPort.sshReceiverRestart (p : SshPort) (rqst : SurfaceSamSshRqst) : SshPort where
  ec := p.ec.sshReceiverRestart rqst
  evalBuf := { p.evalBuf with len := 0 }

def SshPort.sshReceiverDiscard (p : SshPort) : SshPort where
  ec := p.ec.sshReceiverDiscard
  evalBuf := { p.evalBuf with len := 0 }

/-! ### Steps of a request -/

def sshWriterFlush : Prog SamSshEc ℤ :=
  .choose (fun status ec => { ec with trace := ec.trace ++ [.write ec.writer status] })
    (fun status => .done (if 0 ≤ status then 0 else status))

/-- `wait_for_completion_timeout`: the result says whether the completion was signalled. -/
def waitForCompletionTimeout : Prog SamSshEc Bool :=
  .wait (fun ec => 0 < ec.receiver.signal)
    (fun ec => { ec with receiver := { ec.receiver with signal := ec.receiver.signal - 1 } }) .done

/-- The packet after the bytes `out` have been copied over its beginning. -/
def SshFifoPacket.load (packet : SshFifoPacket) (out : List UInt8) : SshFifoPacket where
  type := out.getD 0 packet.type
  seq := out.getD 1 packet.seq
  len := out.getD 2 packet.len

/-- `kfifo_out` of the `n` next bytes of the FIFO. -/
def SamSshEc.kfifoOut (ec : SamSshEc) (n : ℕ) : List UInt8 × SamSshEc :=
  let r := ec.receiver.fifo.kfifoOut n
  (r.1, { ec with receiver := { ec.receiver with fifo := r.2 } })

/-- `kfifo_out` into `packet`. -/
def kfifoOutPacket (packet : SshFifoPacket) : Prog SamSshEc SshFifoPacket :=
  .atomic
    (fun ec =>
      let r := ec.kfifoOut 3
      { r.2 with trace := ec.trace ++ [.packet (packet.load r.1)] })
    (fun ec => .done (packet.load (ec.kfifoOut 3).1))

/-- `kfifo_out` into the result buffer, and setting its length. -/
def kfifoOutResult (result : SurfaceSamSshBuf) (len : UInt8) : Prog SamSshEc SurfaceSamSshBuf :=
  .atomic (fun ec => (ec.kfifoOut len.toNat).2)
    (fun ec => .done {
      cap := result.cap, len := len
      data := result.data.memcpy 0 (ec.kfifoOut len.toNat).1 })

/-- How sending the command message ends. -/
inductive SshSent where
  | failed (status : ℤ)
  | acked (packet : SshFifoPacket)
  | gaveUp

/-- "send command, try to get an ack response", with the number of tries left. -/
def sshSendCommand : ℕ → SshFifoPacket → Prog SamSshEc SshSent
  | 0, _ => return .gaveUp
  | tries + 1, packet => do
    let status ← sshWriterFlush
    if status ≠ 0 then return .failed status
    else if ← waitForCompletionTimeout then
      let packet ← kfifoOutPacket packet
      if packet.type = sshFrameTypeAck then return .acked packet
      else sshSendCommand tries packet
    else sshSendCommand tries packet

def SshCounters.advance (counter : SshCounters) : SshCounters where
  seq := counter.seq + 1
  rqid := counter.rqid + 1

/-- "get command response/payload" and "send ACK". -/
def sshGetResponse (E : SshEnv) (result : SurfaceSamSshBuf) (packet : SshFifoPacket) :
    Prog SamSshEc (ℤ × SurfaceSamSshBuf) := do
  if ← waitForCompletionTimeout then
    let packet ← kfifoOutPacket packet
    if result.cap < packet.len then return (-einval, result)
    else
      let result ← kfifoOutResult result packet.len
      Prog.modify (fun ec => ec.sshWriteMsgAck E packet.seq)
      let status ← sshWriterFlush
      return (status, result)
  else return (-eio, result)

/-- The part of a request between restarting and discarding. -/
def sshTransact (E : SshEnv) (rqst : SurfaceSamSshRqst) (result : Option SurfaceSamSshBuf) :
    Prog SamSshEc (ℤ × Option SurfaceSamSshBuf) := do
  match ← sshSendCommand sshNumRetry ⟨0, 0, 0⟩ with
  | .failed status => return (status, result)
  | .gaveUp => return (-eio, result)
  | .acked packet =>
    Prog.modify (fun ec => { ec with counter := ec.counter.advance })
    match result with
    | none => return (0, none)
    | some result =>
      if rqst.snc ≠ 0 then
        let (status, result) ← sshGetResponse E result packet
        return (status, some result)
      else return (0, some result)

def surfaceSamSshRqstUnlocked (E : SshEnv) (rqst : SurfaceSamSshRqst)
    (result : Option SurfaceSamSshBuf) : Prog SamSshEc (ℤ × Option SurfaceSamSshBuf) := do
  if surfaceSamSshMaxRqstPayload < rqst.cdl.toNat then return (-einval, result)
  else
    Prog.modify (fun ec => ec.sshWriteMsgCmd E rqst)
    Prog.modify (fun ec => ec.sshReceiverRestart rqst)
    let r ← sshTransact E rqst result
    Prog.modify SamSshEc.sshReceiverDiscard
    return r

/-! ### The receive callback as the environment -/

/-- One evaluation: the bytes it is given and their number. -/
structure SshLine where
  mem : Memory UInt8
  size : ℕ

def SshLine.step (E : SshEnv) (l : SshLine) (ec : SamSshEc) : SamSshEc :=
  (sshEval E ec l.mem l.size).2

/-- A call of the receive callback is a sequence of evaluations. -/
lemma sshReceiveBuf_evals (E : SshEnv) (p : SshPort) (buf : List UInt8) :
    ∃ ls, (sshReceiveBuf E p buf).2.ec = Prog.events (SshLine.step E) ls p.ec := by
  have hdrain (mem : Memory UInt8) (len fuel offs : ℕ) (ec : SamSshEc) :
      ∃ ls, (drain (sshEval E) mem len fuel offs ec).2 = Prog.events (SshLine.step E) ls ec := by
    induction fuel generalizing offs ec with
    | zero => exact ⟨[], rfl⟩
    | succ fuel ih =>
      simp only [drain]
      split_ifs
      · exact ⟨[⟨mem.shift offs, len - offs⟩], rfl⟩
      · obtain ⟨ls, hls⟩ := ih (offs + (sshEval E ec (mem.shift offs) (len - offs)).1)
          (sshEval E ec (mem.shift offs) (len - offs)).2
        exact ⟨⟨mem.shift offs, len - offs⟩ :: ls, hls⟩
      · exact ⟨[], rfl⟩
  exact hdrain _ _ _ _ _

end SurfaceSam
