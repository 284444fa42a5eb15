import Mathlib.Algebra.Group.Int.Defs
import Mathlib.Algebra.Group.Nat.Defs
import SurfaceSam.Devlib.Kfifo
import SurfaceSam.Devlib.Reading

/-!
# Frames and driver state of the Surface Serial Hub

Constants, wire frames and the part of `struct sam_ssh_ec` that the receive path and a
request work on. Bytes and counters have the widths of the source, so that every
truncation is the one of the C code; buffer sizes and offsets are natural numbers.

The evaluation buffer is kept beside the rest of the receiver: the message handlers get a
pointer into it and never touch its fields.
-/

namespace SurfaceSam

open Devlib

@[simp] def surfaceSamSshMaxRqstPayload : ℕ := 255 - 10
def surfaceSamSshMaxRqstResponse : UInt8 := 251
@[simp] def surfaceSamSshRqidEventBits : ℕ := 5
/-- `(unsigned long) -1`. -/
@[simp] def surfaceSamSshEventImmediate : ℕ := 2 ^ 64 - 1

@[simp] def sshBytelenSync : ℕ := 2
@[simp] def sshBytelenTerm : ℕ := 2
@[simp] def sshBytelenCrc : ℕ := 2
@[simp] def sshBytelenCtrl : ℕ := 4
@[simp] def sshBytelenCmdframe : ℕ := 8

@[simp] def sshMaxWrite : ℕ :=
  sshBytelenSync + sshBytelenCtrl + sshBytelenCrc + sshBytelenCmdframe +
    surfaceSamSshMaxRqstPayload + sshBytelenCrc

@[simp] def sshMsgLenCtrl : ℕ :=
  sshBytelenSync + sshBytelenCtrl + sshBytelenCrc + sshBytelenTerm

/-- Without payload and command frame. -/
@[simp] def sshMsgLenCmdBase : ℕ :=
  sshBytelenSync + sshBytelenCtrl + sshBytelenCrc + sshBytelenCrc

@[simp] def sshNumRetry : ℕ := 3
@[simp] def sshWriteBufLen : ℕ := sshMaxWrite
@[simp] def sshReadBufLen : ℕ := 512
@[simp] def sshEvalBufLen : ℕ := sshMaxWrite

@[simp] def sshFrameTypeCmd : UInt8 := 0x80
@[simp] def sshFrameTypeAck : UInt8 := 0x40
@[simp] def sshFrameTypeRetry : UInt8 := 0x04

@[simp] def sshFrameOffsCtrl : ℕ := sshBytelenSync
@[simp] def sshFrameOffsCtrlCrc : ℕ := sshFrameOffsCtrl + sshBytelenCtrl
@[simp] def sshFrameOffsTerm : ℕ := sshFrameOffsCtrlCrc + sshBytelenCrc
@[simp] def sshFrameOffsCmd : ℕ := sshFrameOffsTerm
@[simp] def sshFrameOffsCmdPld : ℕ := sshFrameOffsCmd + sshBytelenCmdframe

/-! ### Wire frames -/

namespace SshFrameCtrl

/-- `ctrl->type` for a control frame at offset `ctrl`. -/
def type (ctrl : ℕ) : Reading UInt8 UInt8 := .cell ctrl
/-- `ctrl->len`, without CRC. -/
def len (ctrl : ℕ) : Reading UInt8 UInt8 := .cell (ctrl + 1)
def seq (ctrl : ℕ) : Reading UInt8 UInt8 := .cell (ctrl + 3)

end SshFrameCtrl

namespace SshFrameCmd

/-- `cmd->type` for a command frame at offset `cmd`. -/
def type (cmd : ℕ) : Reading UInt8 UInt8 := .cell cmd
def tc (cmd : ℕ) : Reading UInt8 UInt8 := .cell (cmd + 1)
def iid (cmd : ℕ) : Reading UInt8 UInt8 := .cell (cmd + 4)
def rqidLo (cmd : ℕ) : Reading UInt8 UInt8 := .cell (cmd + 5)
def rqidHi (cmd : ℕ) : Reading UInt8 UInt8 := .cell (cmd + 6)
def cid (cmd : ℕ) : Reading UInt8 UInt8 := .cell (cmd + 7)

end SshFrameCmd

/-- `(rqid_hi << 8) | rqid_lo`. -/
def rqidOf (lo hi : UInt8) : UInt16 := (hi.toUInt16 <<< 8) ||| lo.toUInt16

def samRqidToRqst (rqid : UInt16) : UInt16 := rqid <<< 5

def samRqidIsEvent (rqid : UInt16) : Bool :=
  let mask : UInt16 := ((1 : UInt16) <<< 5) - 1
  rqid != 0 && (rqid ||| mask) == mask

/-! ### Driver state -/

structure SurfaceSamSshEvent where
  rqid : UInt16
  tc : UInt8
  iid : UInt8
  cid : UInt8
  len : UInt8
  pld : List UInt8
  deriving DecidableEq, Repr

/-- The event data of `struct ssh_event_work`. -/
structure SshEventWork where
  event : SurfaceSamSshEvent
  seq : UInt8
  deriving DecidableEq, Repr

/-- The delay function of a registered handler, with its data pointer applied. -/
structure SshEventHandler where
  delay : Option (SurfaceSamSshEvent → ℕ)

/-- Event handling as far as the receiver drives it: the handler table, the work items
queued for acknowledging, those queued for handling with their delays, and those whose
event part was run inside the receive callback. `allocs` counts the allocations tried. -/
structure SshEvents where
  handler : ℕ → SshEventHandler
  queueAck : List SshEventWork
  queueEvt : List (SshEventWork × ℕ)
  immediate : List SshEventWork
  allocs : ℕ

structure SshCounters where
  seq : UInt8
  rqid : UInt16
  deriving DecidableEq, Repr

inductive SshReceiverState where
  | discard | control | command
  deriving DecidableEq, Repr

structure SshExpect where
  pld : Bool
  seq : UInt8
  rqid : UInt16
  deriving DecidableEq, Repr

/-- `signal` is the count of the completion. -/
structure SshReceiver where
  state : SshReceiverState
  signal : ℕ
  fifo : Kfifo UInt8
  expect : SshExpect

structure SurfaceSamSshRqst where
  tc : UInt8
  iid : UInt8
  cid : UInt8
  snc : UInt8
  cdl : UInt8
  pld : Memory UInt8

structure SurfaceSamSshBuf where
  cap : UInt8
  len : UInt8
  data : Memory UInt8

structure SshFifoPacket where
  type : UInt8
  seq : UInt8
  len : UInt8
  deriving DecidableEq, Repr

/-- The memory image of a packet header. -/
def SshFifoPacket.bytes (p : SshFifoPacket) : List UInt8 := [p.type, p.seq, p.len]

@[simp] lemma SshFifoPacket.length_bytes (p : SshFifoPacket) : p.bytes.length = 3 := rfl

/-- What the receive path writes to the kernel log. -/
inductive SshDiag where
  | invalidSyn | unknownFrameType (type : UInt8)
  | invalidTer | invalidCrcCtrl | ctrlNotExpected | ackNotMatching
  | invalidCrcCmdCtrl | invalidFrameType (type : UInt8) | invalidCrcCmdPld
  | cmdNotExpected | cmdNotMatching | fifoFull | eventAllocFailed
  deriving DecidableEq, Repr

/-- What happens between the driver and the line, for specifications only: a control or
command message is accepted for the request, the request takes a packet from the FIFO, or
it calls `serdev_device_write`. -/
inductive SshObs where
  | ctrl (type seq : UInt8)
  | cmd (len seq : UInt8) (rqid : UInt16) (pld : List UInt8)
  | packet (packet : SshFifoPacket)
  | write (data : List UInt8) (status : ℤ)
  deriving DecidableEq, Repr

/-- The part of `struct sam_ssh_ec` that requests and received messages work on. The
writer is given by the bytes between `data` and `ptr`. -/
structure SamSshEc where
  counter : SshCounters
  writer : List UInt8
  receiver : SshReceiver
  events : SshEvents
  log : List SshDiag
  trace : List SshObs

def SamSshEc.diag (ec : SamSshEc) (d : SshDiag) : SamSshEc := { ec with log := ec.log ++ [d] }

/-- The evaluation buffer; `ptr` is the memory from its first byte on. -/
structure EvalBuf where
  cap : UInt16
  len : UInt16
  ptr : Memory UInt8

/-- What lies outside the driver: the CRC function of the kernel and the outcome of each
atomic allocation. -/
structure SshEnv where
  crcCcittFalse : UInt16 → List UInt8 → UInt16
  kzalloc : ℕ → Bool

def SshEnv.sshCrc (E : SshEnv) (buf : List UInt8) : UInt16 := E.crcCcittFalse 0xffff buf

/-- Low and high byte of a little-endian halfword. -/
def lowByte (v : UInt16) : UInt8 := (v &&& 0xff).toUInt8
def highByte (v : UInt16) : UInt8 := (v >>> 8).toUInt8

end SurfaceSam
