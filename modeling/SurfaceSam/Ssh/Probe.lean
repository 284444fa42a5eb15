import SurfaceSam.Ssh.Receiver

/-!
# The receiver that probe sets up

The state in which `surface_sam_ssh_probe` hands the EC to the receive callback, in the middle
of the function: the first request behind it is its own, the one that resumes the EC. And a
concrete environment: the checksum as the kernel computes it, and allocations that succeed.
-/

namespace SurfaceSam

open Devlib

def crcCcittFalseByte (crc : UInt16) (byte : UInt8) : UInt16 :=
  Nat.repeat (fun c : UInt16 => if c &&& 0x8000 != 0 then (c <<< 1) ^^^ 0x1021 else c <<< 1) 8
    (crc ^^^ (byte.toUInt16 <<< 8))

/-- CRC-CCITT with polynomial 0x1021, most significant bit first, without final inversion. -/
def crcCcittFalse (crc : UInt16) (buffer : List UInt8) : UInt16 :=
  buffer.foldl crcCcittFalseByte crc

-- the check value of the algorithm, on the digits 1 to 9
example : crcCcittFalse 0xffff [49, 50, 51, 52, 53, 54, 55, 56, 57] = 0x29b1 := by decide +kernel

def kernelEnv : SshEnv where
  crcCcittFalse := crcCcittFalse
  kzalloc := fun _ => true

/-- "initialize receiver" of `surface_sam_ssh_probe`: `evalBuf` and the FIFO are fresh, the
request counters and the handler table keep their values. -/
def initializeReceiver (ec : SamSshEc) (evalBuf : Memory UInt8) : SshPort where
  ec := { ec with
    writer := []
    receiver := { ec.receiver with signal := 0, fifo := ⟨sshReadBufLen, []⟩ } }
  evalBuf := { cap := UInt16.ofNat sshEvalBufLen, len := 0, ptr := evalBuf }

/-- `static struct sam_ssh_ec ssh_ec`. -/
def sshEc : SamSshEc where
  counter := ⟨0, 0⟩
  writer := []
  receiver := ⟨.discard, 0, ⟨0, []⟩, ⟨false, 0, 0⟩⟩
  events := ⟨fun _ => ⟨none⟩, [], [], [], 0⟩
  log := []
  trace := []

/-- The control request without payload. -/
def controlRqst (cid : UInt8) : SurfaceSamSshRqst where
  tc := 0x01
  iid := 0x00
  cid := cid
  snc := 0x01
  cdl := 0x00
  pld := fun _ => 0

/-- The result buffer `buf[1]` of a control request. -/
def controlBuf : SurfaceSamSshBuf := ⟨1, 0, fun _ => 0x00⟩

lemma cap_initializeReceiver (ec : SamSshEc) (evalBuf : Memory UInt8) :
    (initializeReceiver ec evalBuf).evalBuf.cap.toNat = sshEvalBufLen := rfl

end SurfaceSam
