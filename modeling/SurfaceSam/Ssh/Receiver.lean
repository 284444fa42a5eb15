import SurfaceSam.Devlib.Framing
import SurfaceSam.Ssh.Protocol

/-!
# The receive path

`ssh_receive_buf` and everything it calls. The message handlers read the evaluation buffer
through `Reading`, so that the bytes they look at are part of their meaning; offsets count
from the start of the message under evaluation.
-/

namespace SurfaceSam

open Devlib

def sshIsValidSyn (ptr : ℕ) : Reading UInt8 Bool := do
  if (← .cell ptr) = 0xaa then return (← .cell (ptr + 1)) = 0x55 else return false

def sshIsValidTer (ptr : ℕ) : Reading UInt8 Bool := do
  if (← .cell ptr) = 0xff then return (← .cell (ptr + 1)) = 0xff else return false

/-- The checksum of the bytes from `begin` to `fin` stands, little-endian, at `fin`. -/
def sshIsValidCrc (E : SshEnv) (begin fin : ℕ) : Reading UInt8 Bool := do
  let crc := E.sshCrc (← .block begin (fin - begin))
  if (← .cell fin) = lowByte crc then return (← .cell (fin + 1)) = highByte crc
  else return false

def sshHandleEvent (E : SshEnv) (ec : SamSshEc) : Reading UInt8 SamSshEc := do
  let ctrlLen ← SshFrameCtrl.len sshFrameOffsCtrl
  let pldLen : UInt16 := ctrlLen.toUInt16 - 8
  let events := { ec.events with allocs := ec.events.allocs + 1 }
  if E.kzalloc ec.events.allocs = false then
    return { ec with events := events }.diag .eventAllocFailed
  else
    let seq ← SshFrameCtrl.seq sshFrameOffsCtrl
    let rqidHi ← SshFrameCmd.rqidHi sshFrameOffsCmd
    let rqidLo ← SshFrameCmd.rqidLo sshFrameOffsCmd
    let tc ← SshFrameCmd.tc sshFrameOffsCmd
    let iid ← SshFrameCmd.iid sshFrameOffsCmd
    let cid ← SshFrameCmd.cid sshFrameOffsCmd
    let pld ← .block sshFrameOffsCmdPld pldLen.toNat
    let event : SurfaceSamSshEvent := {
      rqid := rqidOf rqidLo rqidHi, tc := tc, iid := iid, cid := cid
      len := pldLen.toUInt8, pld := pld }
    let work : SshEventWork := { event := event, seq := seq }
    let queueAck := events.queueAck ++ [work]
    let delay := match (events.handler (event.rqid - 1).toNat).delay with
      | some delayFn => delayFn event
      | none => 0
    if delay = surfaceSamSshEventImmediate then
      return { ec with events := { events with
        queueAck := queueAck, immediate := events.immediate ++ [work] } }
    else
      return { ec with events := { events with
        queueAck := queueAck, queueEvt := events.queueEvt ++ [(work, delay)] } }

def sshReceiveMsgCtrl (E : SshEnv) (ec : SamSshEc) (size : ℕ) :
    Reading UInt8 (ℕ × SamSshEc) := do
  let rcv := ec.receiver
  if size < sshMsgLenCtrl then return (0, ec)
  else if !(← sshIsValidTer sshFrameOffsTerm) then
    return (size, ec.diag .invalidTer)
  else if !(← sshIsValidCrc E sshFrameOffsCtrl sshFrameOffsCtrlCrc) then
    return (sshMsgLenCtrl, ec.diag .invalidCrcCtrl)
  else if rcv.state ≠ .control then
    return (sshMsgLenCtrl, ec.diag .ctrlNotExpected)
  else
    let type ← SshFrameCtrl.type sshFrameOffsCtrl
    let seq ← SshFrameCtrl.seq sshFrameOffsCtrl
    if type = sshFrameTypeAck ∧ seq ≠ rcv.expect.seq then
      return (sshMsgLenCtrl, ec.diag .ackNotMatching)
    else
      let packet : SshFifoPacket := { type := type, seq := seq, len := 0 }
      if packet.bytes.length ≤ rcv.fifo.kfifoAvail then
        let state : SshReceiverState :=
          if type = sshFrameTypeAck then
            if rcv.expect.pld then .command else .discard
          else rcv.state
        return (sshMsgLenCtrl, { ec with
          receiver := { rcv with
            state := state, signal := rcv.signal + 1, fifo := rcv.fifo.kfifoIn packet.bytes }
          trace := ec.trace ++ [.ctrl type seq] })
      else
        return (sshMsgLenCtrl, ec.diag .fifoFull)

def sshReceiveMsgCmd (E : SshEnv) (ec : SamSshEc) (size : ℕ) :
    Reading UInt8 (ℕ × SamSshEc) := do
  let rcv := ec.receiver
  if size < sshBytelenSync + sshBytelenCtrl + sshBytelenCrc then return (0, ec)
  else if !(← sshIsValidCrc E sshFrameOffsCtrl sshFrameOffsCtrlCrc) then
    return (size, ec.diag .invalidCrcCmdCtrl)
  else
    let ctrlLen ← SshFrameCtrl.len sshFrameOffsCtrl
    let msgLen := sshMsgLenCmdBase + ctrlLen.toNat
    if size < msgLen then return (0, ec)
    else
      let type ← SshFrameCmd.type sshFrameOffsCmd
      if type ≠ sshFrameTypeCmd then
        return (size, ec.diag (.invalidFrameType type))
      else if !(← sshIsValidCrc E sshFrameOffsCmd (sshFrameOffsCmd + ctrlLen.toNat)) then
        return (msgLen, ec.diag .invalidCrcCmdPld)
      else
        let rqidHi ← SshFrameCmd.rqidHi sshFrameOffsCmd
        let rqidLo ← SshFrameCmd.rqidLo sshFrameOffsCmd
        let rqid := rqidOf rqidLo rqidHi
        if samRqidIsEvent rqid then
          return (msgLen, ← sshHandleEvent E ec)
        else if rcv.state ≠ .command then
          return (msgLen, ec.diag .cmdNotExpected)
        else if rcv.expect.rqid ≠ rqid then
          return (msgLen, ec.diag .cmdNotMatching)
        else
          let packet : SshFifoPacket := {
            type := ← SshFrameCtrl.type sshFrameOffsCtrl
            seq := ← SshFrameCtrl.seq sshFrameOffsCtrl
            len := ctrlLen - 8 }
          if packet.bytes.length + packet.len.toNat ≤ rcv.fifo.kfifoAvail then
            let pld ← .block sshFrameOffsCmdPld packet.len.toNat
            return (msgLen, { ec with
              receiver := { rcv with
                state := .discard, signal := rcv.signal + 1
                fifo := (rcv.fifo.kfifoIn packet.bytes).kfifoIn pld }
              trace := ec.trace ++ [.cmd ctrlLen packet.seq rqid pld] })
          else
            return (sshMsgLenCtrl, ec.diag .fifoFull)

def sshEvalBuf (E : SshEnv) (ec : SamSshEc) (size : ℕ) : Reading UInt8 (ℕ × SamSshEc) := do
  if size < sshBytelenSync + sshBytelenCtrl then return (0, ec)
  else if !(← sshIsValidSyn 0) then return (size, ec.diag .invalidSyn)
  else
    let type ← SshFrameCtrl.type sshFrameOffsCtrl
    if type = sshFrameTypeAck ∨ type = sshFrameTypeRetry then sshReceiveMsgCtrl E ec size
    else if type = sshFrameTypeCmd then sshReceiveMsgCmd E ec size
    else return (size, ec.diag (.unknownFrameType type))

/-- The EC together with its evaluation buffer. -/
structure SshPort where
  ec : SamSshEc
  evalBuf : EvalBuf

/-- One evaluation, on the memory behind the pointer it is given. -/
def sshEval (E : SshEnv) : Evaluator SamSshEc UInt8 :=
  fun ec mem size => (sshEvalBuf E ec size).run mem

/-- Conversion of an `int` to `size_t`. -/
def sizeT (i : ℤ) : ℕ := (i % 2 ^ 64).toNat

/-- The receive callback: returns the number of bytes taken from the chunk `buf`. -/
def sshReceiveBuf (E : SshEnv) (p : SshPort) (buf : List UInt8) : ℕ × SshPort :=
  let b := p.evalBuf
  -- copy to eval-buffer
  let used := min buf.length (sizeT (b.cap.toNat - b.len.toNat : ℤ))
  let ptr := b.ptr.memcpy b.len.toNat (buf.take used)
  let len := b.len + UInt16.ofNat used
  -- evaluate buffer until we need more bytes or eval-buf is empty
  let (offs, ec) := drain (sshEval E) ptr len.toNat len.toNat 0 p.ec
  -- throw away the evaluated parts
  let rest := len - UInt16.ofNat offs
  (used, { ec := ec, evalBuf := { b with len := rest, ptr := ptr.memmove offs rest.toNat } })

end SurfaceSam
