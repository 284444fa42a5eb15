import SurfaceSam.Ssh.Evaluation

/-!
# Well-formed messages

The messages of the protocol as data, their bytes on the line, and what the receiver does
with each of them. A byte string that passes all checks of the receiver and has a length
byte between 8 and 253 is the encoding of exactly such a message, and an evaluation of a
buffer that begins with one handles it and consumes its bytes.
-/

namespace SurfaceSam

open Devlib

inductive SshCtrlKind where
  | ack | retry
  deriving DecidableEq, Repr

def SshCtrlKind.type : SshCtrlKind → UInt8
  | ack => sshFrameTypeAck
  | retry => sshFrameTypeRetry

structure SshCtrlMessage where
  kind : SshCtrlKind
  len : UInt8
  pad : UInt8
  seq : UInt8
  deriving DecidableEq, Repr

/-- A command message; its bytes fit into the evaluation buffer. -/
structure SshCmdMessage where
  pad : UInt8
  seq : UInt8
  tc : UInt8
  outgoing : UInt8
  incoming : UInt8
  iid : UInt8
  rqidLo : UInt8
  rqidHi : UInt8
  cid : UInt8
  pld : List UInt8
  length_pld : pld.length ≤ surfaceSamSshMaxRqstPayload

inductive SshMessage where
  | ctrl (m : SshCtrlMessage)
  | cmd (m : SshCmdMessage)

namespace SshCtrlMessage

def frame (m : SshCtrlMessage) : List UInt8 := [m.kind.type, m.len, m.pad, m.seq]

@[simp] lemma length_frame (m : SshCtrlMessage) : m.frame.length = 4 := rfl

def bytes (E : SshEnv) (m : SshCtrlMessage) : List UInt8 :=
  [0xaa, 0x55] ++ (m.frame ++ (crcBytes E m.frame ++ [0xff, 0xff]))

@[simp] lemma length_bytes (E : SshEnv) (m : SshCtrlMessage) : (m.bytes E).length = 10 := rfl

end SshCtrlMessage

namespace SshCmdMessage

def len (m : SshCmdMessage) : UInt8 := UInt8.ofNat (8 + m.pld.length)

def rqid (m : SshCmdMessage) : UInt16 := rqidOf m.rqidLo m.rqidHi

def ctrlFrame (m : SshCmdMessage) : List UInt8 := [sshFrameTypeCmd, m.len, m.pad, m.seq]

@[simp] lemma length_ctrlFrame (m : SshCmdMessage) : m.ctrlFrame.length = 4 := rfl

def cmdFrame (m : SshCmdMessage) : List UInt8 :=
  [sshFrameTypeCmd, m.tc, m.outgoing, m.incoming, m.iid, m.rqidLo, m.rqidHi, m.cid] ++ m.pld

def bytes (E : SshEnv) (m : SshCmdMessage) : List UInt8 :=
  [0xaa, 0x55] ++ (m.ctrlFrame ++ (crcBytes E m.ctrlFrame ++
    (m.cmdFrame ++ crcBytes E m.cmdFrame)))

/-- The work item an event message makes. -/
def work (m : SshCmdMessage) : SshEventWork where
  event := {
    rqid := m.rqid, tc := m.tc, iid := m.iid, cid := m.cid
    len := UInt8.ofNat m.pld.length, pld := m.pld }
  seq := m.seq

lemma toNat_len (m : SshCmdMessage) : m.len.toNat = 8 + m.pld.length := by
  have h := m.length_pld
  simp only [surfaceSamSshMaxRqstPayload] at h
  rw [len, UInt8.toNat_ofNat']
  omega

lemma length_bytes (E : SshEnv) (m : SshCmdMessage) :
    (m.bytes E).length = 10 + m.len.toNat := by
  rw [toNat_len]
  simp [bytes, ctrlFrame, cmdFrame, crcBytes]
  omega

end SshCmdMessage

namespace SshMessage

def bytes (E : SshEnv) : SshMessage → List UInt8
  | ctrl m => m.bytes E
  | cmd m => m.bytes E

/-- What the receiver does with a message. -/
def handle (E : SshEnv) (ec : SamSshEc) : SshMessage → SamSshEc
  | ctrl m => ec.onCtrl m.kind.type m.seq
  | cmd m => (ec.onCmd E m.len m.work m.pld).2

lemma ten_le_length_bytes (E : SshEnv) (m : SshMessage) : 10 ≤ (m.bytes E).length := by
  cases m with
  | ctrl m => exact Nat.le_of_eq (m.length_bytes E).symm
  | cmd m =>
    have h := m.length_bytes E
    change 10 ≤ (m.bytes E).length
    omega

lemma length_bytes_le (E : SshEnv) (m : SshMessage) : (m.bytes E).length ≤ sshEvalBufLen := by
  cases m with
  | ctrl m => exact Nat.le_trans (Nat.le_of_eq (m.length_bytes E)) (by decide)
  | cmd m =>
    have h := m.length_bytes E
    have hlen := m.toNat_len
    have hpld := m.length_pld
    simp at hpld
    change (m.bytes E).length ≤ 263
    omega

lemma bytes_ne_nil (E : SshEnv) (m : SshMessage) : m.bytes E ≠ [] := by
  have h := m.ten_le_length_bytes E
  rintro hnil
  simp [hnil] at h

end SshMessage

/-! ### Payload lengths -/

section Lengths

variable {len : UInt8}

lemma toNat_sub_eight (h : 8 ≤ len.toNat) : (len - 8).toNat = len.toNat - 8 := by
  have hlt := len.toNat_lt
  rw [UInt8.toNat_sub]
  change (2 ^ 8 - 8 + len.toNat) % 2 ^ 8 = _
  omega

lemma toNat_toUInt16_sub_eight (h : 8 ≤ len.toNat) :
    (len.toUInt16 - 8).toNat = len.toNat - 8 := by
  have hlt := len.toNat_lt
  rw [UInt16.toNat_sub, UInt8.toNat_toUInt16]
  change (2 ^ 16 - 8 + len.toNat) % 2 ^ 16 = _
  omega

/-- With a length byte below eight the payload length wraps around. -/
lemma toNat_sub_eight_of_lt (h : len.toNat < 8) : (len - 8).toNat = 248 + len.toNat := by
  rw [UInt8.toNat_sub]
  change (2 ^ 8 - 8 + len.toNat) % 2 ^ 8 = _
  omega

lemma toNat_toUInt16_sub_eight_of_lt (h : len.toNat < 8) :
    (len.toUInt16 - 8).toNat = 65528 + len.toNat := by
  rw [UInt16.toNat_sub, UInt8.toNat_toUInt16]
  change (2 ^ 16 - 8 + len.toNat) % 2 ^ 16 = _
  omega

end Lengths

/-! ### Messages in memory -/

section InMemory

variable {E : SshEnv} {mem : Memory UInt8} {size : ℕ}

/-- The bytes of a control message in memory pass all checks and carry its fields. -/
lemma SshCtrlMessage.inMemory (m : SshCtrlMessage) (hsize : 10 ≤ size)
    (hmem : mem.slice 0 (m.bytes E).length = m.bytes E) :
    CtrlComplete E mem size ∧ mem 2 = m.kind.type ∧ mem 5 = m.seq := by
  obtain ⟨hsyn, h⟩ := Memory.slice_eq_append.mp hmem
  obtain ⟨hframe, h⟩ := Memory.slice_eq_append.mp h
  obtain ⟨hcrc, hter⟩ := Memory.slice_eq_append.mp h
  have htype : mem 2 = m.kind.type := Memory.eq_of_slice_eq hframe 0 (by simp)
  have hseq : mem 5 = m.seq := Memory.eq_of_slice_eq hframe 3 (by simp)
  refine ⟨⟨hsize, hsyn, ?_, hter, ?_⟩, htype, hseq⟩
  · rw [htype]
    cases m.kind with
    | ack => exact .inl rfl
    | retry => exact .inr rfl
  · change mem.slice 6 2 = crcBytes E (mem.slice 2 4)
    rw [show mem.slice 2 4 = m.frame from hframe]
    exact hcrc

/-- The bytes of a command message in memory pass all checks and carry its fields. -/
lemma SshCmdMessage.inMemory (m : SshCmdMessage) (hsize : (m.bytes E).length ≤ size)
    (hmem : mem.slice 0 (m.bytes E).length = m.bytes E) :
    CmdComplete E mem size ∧ mem 3 = m.len ∧ eventWorkAt mem = m.work ∧
      mem.slice 16 (mem 3 - 8).toNat = m.pld := by
  have hbytes := m.length_bytes E
  have hlen := m.toNat_len
  obtain ⟨hsyn, h⟩ := Memory.slice_eq_append.mp hmem
  obtain ⟨hctrl, h⟩ := Memory.slice_eq_append.mp h
  obtain ⟨hcrc, h⟩ := Memory.slice_eq_append.mp h
  obtain ⟨hframe, hframeCrc⟩ := Memory.slice_eq_append.mp h
  have hm3 : mem 3 = m.len := Memory.eq_of_slice_eq hctrl 1 (by simp)
  have hm5 : mem 5 = m.seq := Memory.eq_of_slice_eq hctrl 3 (by simp)
  have hframeLen : m.cmdFrame.length = m.len.toNat := by
    rw [hlen]
    simp [cmdFrame]
    omega
  have hfield (i : ℕ) (hi : i < 8) : mem (8 + i) = m.cmdFrame.get ⟨i, by omega⟩ :=
    Memory.eq_of_slice_eq hframe i (by omega)
  have hpld : mem.slice 16 m.pld.length = m.pld := (Memory.slice_eq_append.mp hframe).2
  have hslice8 : mem.slice 8 m.len.toNat = m.cmdFrame := by
    rw [← hframeLen]
    exact hframe
  have hpld8 : (mem 3 - 8).toNat = m.pld.length := by
    rw [hm3, toNat_sub_eight (by omega)]
    omega
  have hpld16 : ((mem 3).toUInt16 - 8).toNat = m.pld.length := by
    rw [hm3, toNat_toUInt16_sub_eight (by omega)]
    omega
  have hwork : eventWorkAt mem = m.work := by
    have hlen8 : ((mem 3).toUInt16 - 8).toUInt8 = UInt8.ofNat m.pld.length := by
      apply UInt8.toNat_inj.mp
      rw [UInt16.toNat_toUInt8, hpld16, UInt8.toNat_ofNat']
    unfold eventWorkAt SshCmdMessage.work SshCmdMessage.rqid
    rw [hlen8, hpld16, hpld, hm5]
    congr 2
    · rw [hfield 5 (by decide), hfield 6 (by decide)]
      rfl
    · exact hfield 1 (by decide)
    · exact hfield 4 (by decide)
    · exact hfield 7 (by decide)
  refine ⟨⟨⟨?_, hsyn, Memory.eq_of_slice_eq hctrl 0 (by simp), ?_⟩, ?_, ?_, ?_⟩, hm3, hwork, ?_⟩
  · omega
  · change mem.slice 6 2 = crcBytes E (mem.slice 2 4)
    rw [show mem.slice 2 4 = m.ctrlFrame from hctrl]
    exact hcrc
  · rw [hm3]
    omega
  · exact hfield 0 (by decide)
  · rw [hm3, hslice8, ← hframeLen]
    exact hframeCrc
  · rw [hpld8, hpld]

end InMemory

end SurfaceSam
