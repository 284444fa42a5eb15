import SurfaceSam.Devlib.Reading
import SurfaceSam.Ec.Device

/-!
# Requests from ACPI

The handler of the SAN operation region. ACPI passes a buffer in which input and output share
their bytes; the handler reads a package from it, sends it to the EC as an SSH request, and
writes the answer over it.
-/

namespace SurfaceSam

open Devlib

/-! ### Packages -/

structure GsbBuffer where
  status : UInt8
  len : UInt8
  data : Memory UInt8

/-- `buffer->data.in.cv`, where the fields below have it, too. -/
def gsbCv : Reading UInt8 UInt8 := .cell 0

namespace GsbDataRqsx

def tc : Reading UInt8 UInt8 := .cell 1
def tid : Reading UInt8 UInt8 := .cell 2
def iid : Reading UInt8 UInt8 := .cell 3
def snc : Reading UInt8 UInt8 := .cell 4
def cid : Reading UInt8 UInt8 := .cell 5
def cdl : Reading UInt8 UInt8 := .cell 6
/-- Offset of the payload. -/
def pld : ℕ := 8

end GsbDataRqsx

namespace GsbDataEtwl

def etw3 : Reading UInt8 UInt8 := .cell 1
def etw4 : Reading UInt8 UInt8 := .cell 2
/-- Offset of the message. -/
def msg : ℕ := 3

end GsbDataEtwl

/-- `struct gsb_data_out` with its payload. -/
structure GsbDataOut where
  status : UInt8
  len : UInt8
  pld : List UInt8

def GsbDataOut.bytes (out : GsbDataOut) : List UInt8 := out.status :: out.len :: out.pld

namespace GsbBuffer

/-- The answer is written over the package. -/
def answer (buffer : GsbBuffer) (status len : UInt8) (out : GsbDataOut) : GsbBuffer :=
  ⟨status, len, buffer.data.memcpy 0 out.bytes⟩

/-- `buffer->data.out`, as it is read. -/
def out (buffer : GsbBuffer) : GsbDataOut :=
  ⟨buffer.data 0, buffer.data 1, buffer.data.slice 2 (buffer.data 1).toNat⟩

/-- The request that a package asks for; its payload is left where it is. -/
def rqst (buffer : GsbBuffer) : SurfaceSamSshRqst where
  tc := buffer.data 1
  iid := buffer.data 3
  cid := buffer.data 5
  snc := buffer.data 4
  cdl := buffer.data 6
  pld := buffer.data.shift GsbDataRqsx.pld

end GsbBuffer

/-! ### The handler -/

inductive AcpiStatus where
  | ok
  | noMemory
  deriving DecidableEq, Repr

/-- What a call of the handler has done: the calls of `surface_sam_ssh_rqst` it has made, what
it has printed of an ETWL package, and the buffer it leaves. -/
structure SanReturn where
  status : AcpiStatus
  requests : List SurfaceSamSshRqst
  etwl : Option (UInt8 × UInt8 × List UInt8)
  buffer : GsbBuffer

/-- Nothing but a message in the log. -/
def SanReturn.untouched (buffer : GsbBuffer) : SanReturn := ⟨.ok, [], none, buffer⟩

def sanRqstRetry : ℕ := 5

def sanValidateRqsx (buffer : GsbBuffer) : Reading UInt8 Bool := do
  if buffer.len < 8 then return false
  else
    let cdl ← GsbDataRqsx.cdl
    if (cdl.toNat : ℤ) ≠ buffer.len.toNat - 8 then return false
    else
      let tid ← GsbDataRqsx.tid
      if tid ≠ 0x01 then return false
      else return true

/-- `%.*s`: up to `n` bytes of a string. -/
def printString (off : ℕ) : ℕ → Reading UInt8 (List UInt8)
  | 0 => return []
  | n + 1 => do
    let c ← .cell off
    if c = 0 then return []
    else
      let cs ← printString (off + 1) n
      return c :: cs

def sanEtwl (buffer : GsbBuffer) : Reading UInt8 SanReturn := do
  if buffer.len < 3 then return .untouched buffer
  else
    let etw3 ← GsbDataEtwl.etw3
    let etw4 ← GsbDataEtwl.etw4
    let msg ← printString GsbDataEtwl.msg (buffer.len.toNat - 3)
    -- indicate success
    return ⟨.ok, [], some (etw3, etw4, msg), { buffer with status := 0x00, len := 0x00 }⟩

section Rqst

-- for each call of `surface_sam_ssh_rqst`, its status and the result buffer after it
variable (ssh : ℕ → ℤ × SurfaceSamSshBuf)

/-- The tries from `try` on, with the number of tries left; results in the number of calls
made. Each of them reads the payload. -/
def sanRqstTries (rqst : SurfaceSamSshRqst) (try_ : ℕ) (r : ℤ × SurfaceSamSshBuf) :
    ℕ → Reading UInt8 (ℕ × ℤ × SurfaceSamSshBuf)
  | 0 => return (try_, r)
  | n + 1 => do
    let _ ← Reading.block GsbDataRqsx.pld rqst.cdl.toNat
    if (ssh try_).1 ≠ -eio then return (try_ + 1, ssh try_)
    else sanRqstTries rqst (try_ + 1) (ssh try_) n

/-- Of the answer to a request. -/
def sanRqstAnswer (buffer : GsbBuffer) (rqst : SurfaceSamSshRqst) (status : ℤ)
    (result : SurfaceSamSshBuf) : GsbBuffer :=
  if rqst.tc = 0x11 ∧ rqst.cid = 0x0D ∧ status = -eperm then
    -- "Base state quirk"
    buffer.answer 0x00 0x03 ⟨0x00, 0x01, [0x01]⟩
  else if status = 0 then
    buffer.answer 0x00 (result.len + 2)
      ⟨0x00, result.len, result.data.slice 0 result.len.toNat⟩
  else buffer.answer 0x00 0x02 ⟨0x01, 0x00, []⟩

def sanRqst (kzalloc : Bool) (buffer : GsbBuffer) : Reading UInt8 SanReturn := do
  let valid ← sanValidateRqsx buffer
  if !valid then return .untouched buffer
  else
    let tc ← GsbDataRqsx.tc
    let iid ← GsbDataRqsx.iid
    let cid ← GsbDataRqsx.cid
    let snc ← GsbDataRqsx.snc
    let cdl ← GsbDataRqsx.cdl
    let rqst : SurfaceSamSshRqst := ⟨tc, iid, cid, snc, cdl, buffer.data.shift GsbDataRqsx.pld⟩
    if !kzalloc then return { SanReturn.untouched buffer with status := .noMemory }
    else
      let (calls, status, result) ← sanRqstTries ssh rqst 0
        (0, ⟨surfaceSamSshMaxRqstResponse, 0, fun _ => 0⟩) sanRqstRetry
      return ⟨.ok, List.replicate calls rqst, none, sanRqstAnswer buffer rqst status result⟩

def sanRqsg (buffer : GsbBuffer) : Reading UInt8 SanReturn := do
  let valid ← sanValidateRqsx buffer
  if !valid then return .untouched buffer
  else
    let _ ← GsbDataRqsx.tc
    let _ ← GsbDataRqsx.cid
    let _ ← GsbDataRqsx.iid
    return .untouched buffer

/-- `ACPI_GSB_ACCESS_ATTRIB_RAW_PROCESS`. -/
def acpiGsbAccessAttribRawProcess : UInt32 := 0x0F

/-- The access type in the upper half of `function`. -/
def accessorType (function : UInt32) : UInt32 := (0xFFFF0000 &&& function) >>> 16

def sanOpregHandler (kzalloc : Bool) (function : UInt32) (command : UInt64) (buffer : GsbBuffer) :
    Reading UInt8 SanReturn := do
  if command ≠ 0 then return .untouched buffer
  else if accessorType function ≠ acpiGsbAccessAttribRawProcess then return .untouched buffer
  -- buffer must have at least contain the command-value
  else if buffer.len = 0 then return .untouched buffer
  else
    let cv ← gsbCv
    if cv = 0x01 then sanRqst ssh kzalloc buffer
    else if cv = 0x02 then sanEtwl buffer
    else if cv = 0x03 then sanRqsg buffer
    else return .untouched buffer

end Rqst

/-! ### What is read and what comes out -/

namespace GsbBuffer

variable (buffer : GsbBuffer)

/-- `san_validate_rqsx` accepts the package. -/
structure Valid : Prop where
  len : 8 ≤ buffer.len.toNat
  cdl : (buffer.data 6).toNat = buffer.len.toNat - 8
  tid : buffer.data 2 = 0x01

instance : Decidable buffer.Valid :=
  decidable_of_iff (8 ≤ buffer.len.toNat ∧ (buffer.data 6).toNat = buffer.len.toNat - 8 ∧
    buffer.data 2 = 0x01) ⟨fun ⟨hlen, hcdl, htid⟩ => ⟨hlen, hcdl, htid⟩,
      fun ⟨hlen, hcdl, htid⟩ => ⟨hlen, hcdl, htid⟩⟩

end GsbBuffer

section Runs

variable {buffer : GsbBuffer} {mem : Memory UInt8}

lemma lt_ofNat_iff (a : UInt8) {n : ℕ} (hn : n < 256) : a < UInt8.ofNat n ↔ a.toNat < n := by
  rw [UInt8.lt_iff_toNat_lt, UInt8.toNat_ofNat_of_lt' hn]

lemma run_sanValidateRqsx :
    (sanValidateRqsx buffer).run buffer.data = decide buffer.Valid := by
  have hlen : buffer.len < 8 ↔ buffer.len.toNat < 8 := lt_ofNat_iff buffer.len (by decide)
  unfold sanValidateRqsx GsbDataRqsx.cdl GsbDataRqsx.tid
  simp only [Reading.run_ite, Reading.run_pure, Reading.run_bind, Reading.run_cell, hlen]
  split_ifs with h8 hcdl htid
  · exact (decide_eq_false fun h => absurd h.len (by omega)).symm
  · exact (decide_eq_false fun h => hcdl (by have := h.cdl; have := h.len; omega)).symm
  · exact (decide_eq_false fun h => htid h.tid).symm
  · exact (decide_eq_true ⟨by omega, by omega, not_not.mp htid⟩).symm

lemma within_sanValidateRqsx : (sanValidateRqsx buffer).Within buffer.len.toNat buffer.data := by
  have hlen : buffer.len < 8 ↔ buffer.len.toNat < 8 := lt_ofNat_iff buffer.len (by decide)
  unfold sanValidateRqsx GsbDataRqsx.cdl GsbDataRqsx.tid
  simp only [Reading.within_ite, Reading.within_pure, Reading.within_bind, Reading.within_cell,
    hlen, implies_true, true_and, and_true]
  intro h8
  exact ⟨by omega, fun _ => by omega⟩

lemma within_printString (mem : Memory UInt8) (off n : ℕ) :
    (printString off n).Within (off + n) mem := by
  induction n generalizing off with
  | zero => exact Reading.within_pure _
  | succ n ih =>
    have hrest : (printString (off + 1) n).Within (off + (n + 1)) mem := by
      have h := ih (off + 1)
      rwa [Nat.add_assoc, Nat.add_comm 1 n] at h
    simp only [printString, Reading.within_bind, Reading.within_cell, Reading.within_ite,
      Reading.within_pure, implies_true, true_and, and_true]
    exact ⟨by omega, fun _ => hrest⟩

lemma within_sanEtwl : (sanEtwl buffer).Within buffer.len.toNat mem := by
  have hlen : buffer.len < 3 ↔ buffer.len.toNat < 3 := lt_ofNat_iff buffer.len (by decide)
  unfold sanEtwl GsbDataEtwl.etw3 GsbDataEtwl.etw4 GsbDataEtwl.msg
  simp only [Reading.within_ite, Reading.within_pure, Reading.within_bind, Reading.within_cell,
    hlen, implies_true, true_and, and_true]
  intro h3
  refine ⟨by omega, by omega, ?_⟩
  have h := within_printString mem 3 (buffer.len.toNat - 3)
  rwa [Nat.add_sub_cancel' (Nat.le_of_not_lt h3)] at h

section Tries

variable (ssh : ℕ → ℤ × SurfaceSamSshBuf) (rqst : SurfaceSamSshRqst) (mem : Memory UInt8)

/-- Only -EIO leads to another try. -/
lemma run_sanRqstTries (n try_ : ℕ) (r : ℤ × SurfaceSamSshBuf) :
    ∃ k ≤ n, (sanRqstTries ssh rqst try_ r (n + 1)).run mem = (try_ + k + 1, ssh (try_ + k)) ∧
      (∀ i < k, (ssh (try_ + i)).1 = -eio) ∧ (k < n → (ssh (try_ + k)).1 ≠ -eio) := by
  induction n generalizing try_ r with
  | zero =>
    refine ⟨0, Nat.le_refl 0, ?_, fun i hi => absurd hi (Nat.not_lt_zero i),
      fun h => absurd h (Nat.lt_irrefl 0)⟩
    simp only [sanRqstTries, Reading.run_bind, Reading.run_pure, ite_self, Nat.add_zero]
  | succ n ih =>
    unfold sanRqstTries
    simp only [Reading.run_bind, Reading.run_ite, Reading.run_pure]
    by_cases hstatus : (ssh try_).1 = -eio
    · obtain ⟨k, hk, hrun, hbefore, hlast⟩ := ih (try_ + 1) (ssh try_)
      have hadd (i : ℕ) : try_ + 1 + i = try_ + (i + 1) := by omega
      rw [hadd] at hrun hlast
      refine ⟨k + 1, Nat.succ_le_succ hk, ?_, fun i hi => ?_, fun h => hlast (by omega)⟩
      · rw [if_neg (not_not.mpr hstatus)]
        exact hrun
      · cases i with
        | zero => exact hstatus
        | succ i =>
          rw [← hadd]
          exact hbefore i (by omega)
    · refine ⟨0, Nat.zero_le _, ?_, fun i hi => absurd hi (Nat.not_lt_zero i), fun _ => hstatus⟩
      rw [if_pos hstatus]
      rfl

lemma within_sanRqstTries (n try_ : ℕ) (r : ℤ × SurfaceSamSshBuf) :
    (sanRqstTries ssh rqst try_ r n).Within (8 + rqst.cdl.toNat) mem := by
  induction n generalizing try_ r with
  | zero => exact Reading.within_pure _
  | succ n ih =>
    unfold sanRqstTries GsbDataRqsx.pld
    simp only [Reading.within_bind, Reading.within_block, Reading.within_ite, Reading.within_pure]
    exact ⟨.inr (Nat.le_refl _), fun _ => trivial, fun _ => ih _ _⟩

end Tries

lemma within_sanRqst {ssh : ℕ → ℤ × SurfaceSamSshBuf} {kzalloc : Bool} :
    (sanRqst ssh kzalloc buffer).Within buffer.len.toNat buffer.data := by
  unfold sanRqst GsbDataRqsx.tc GsbDataRqsx.iid GsbDataRqsx.cid GsbDataRqsx.snc GsbDataRqsx.cdl
  simp only [Reading.within_bind, Reading.within_ite, Reading.within_pure, Reading.within_cell,
    Reading.run_cell, run_sanValidateRqsx, Bool.not_eq_true', decide_eq_false_iff_not, not_not,
    implies_true, true_and, and_true]
  refine ⟨within_sanValidateRqsx, fun hvalid => ?_⟩
  have hlen := hvalid.len
  refine ⟨by omega, by omega, by omega, by omega, by omega, fun _ => ?_⟩
  -- the payload ends where the package does
  intro i hi
  have hlt := within_sanRqstTries _ _ _ _ _ _ i hi
  have hcdl := hvalid.cdl
  dsimp only at hlt
  omega

lemma within_sanRqsg : (sanRqsg buffer).Within buffer.len.toNat buffer.data := by
  unfold sanRqsg GsbDataRqsx.tc GsbDataRqsx.cid GsbDataRqsx.iid
  simp only [Reading.within_bind, Reading.within_ite, Reading.within_pure, Reading.within_cell,
    run_sanValidateRqsx, Bool.not_eq_true', decide_eq_false_iff_not, not_not, implies_true,
    true_and, and_true]
  refine ⟨within_sanValidateRqsx, fun hvalid => ?_⟩
  have hlen := hvalid.len
  exact ⟨by omega, by omega, by omega⟩

lemma run_sanRqsg : (sanRqsg buffer).run mem = .untouched buffer := by
  unfold sanRqsg
  simp only [Reading.run_bind, Reading.run_ite, Reading.run_pure, ite_self]

end Runs

namespace GsbBuffer

variable (buffer : GsbBuffer)

/-- A package that the handler only reports. -/
def Ignored : Prop :=
  buffer.len = 0 ∨ (buffer.data 0 ≠ 0x01 ∧ buffer.data 0 ≠ 0x02 ∧ buffer.data 0 ≠ 0x03) ∨
    (buffer.data 0 = 0x01 ∧ (buffer.len.toNat < 8 ∨
      (buffer.data 6).toNat ≠ buffer.len.toNat - 8 ∨ buffer.data 2 ≠ 0x01)) ∨
    (buffer.data 0 = 0x02 ∧ buffer.len.toNat < 3) ∨ buffer.data 0 = 0x03

variable {buffer : GsbBuffer}

/-- An answer is read as it has been written. -/
lemma out_answer {status len : UInt8} {out : GsbDataOut} (h : out.len.toNat = out.pld.length) :
    (buffer.answer status len out).out = out := by
  have hbytes := Memory.slice_memcpy_same buffer.data 0 out.bytes
  have hlen : out.bytes.length = out.len.toNat + 2 := by
    rw [h]
    rfl
  have hcell (i : ℕ) (hi : i < out.bytes.length) :
      (buffer.data.memcpy 0 out.bytes) i = out.bytes[i] := by
    have hslice := Memory.eq_of_slice_eq hbytes i hi
    rwa [Nat.zero_add] at hslice
  have hpld : (buffer.data.memcpy 0 out.bytes).slice 2 out.len.toNat = out.pld := by
    have hdrop := Memory.drop_slice (buffer.data.memcpy 0 out.bytes) 0 out.bytes.length 2
    rw [hbytes, hlen, Nat.add_sub_cancel, Nat.zero_add] at hdrop
    exact hdrop.symm
  have h0 : (buffer.data.memcpy 0 out.bytes) 0 = out.status := hcell 0 (by omega)
  have h1 : (buffer.data.memcpy 0 out.bytes) 1 = out.len := hcell 1 (by omega)
  unfold GsbBuffer.out answer
  simp only [h0, h1, hpld]

/-- Bytes behind an answer stay. -/
lemma data_answer {status len : UInt8} {out : GsbDataOut} {i : ℕ} (h : out.pld.length + 2 ≤ i) :
    (buffer.answer status len out).data i = buffer.data i := by
  apply dif_neg
  intro hi
  have hlt : i - 0 < out.pld.length + 2 := hi.2
  omega

end GsbBuffer

/-- The base state query of a suspended EC. -/
def IsBaseStateQuirk (rqst : SurfaceSamSshRqst) (status : ℤ) : Prop :=
  rqst.tc = 0x11 ∧ rqst.cid = 0x0D ∧ status = -eperm

/-- The buffer holds the answer to a request that has ended with the given status and result. -/
structure GsbBuffer.Answers (after before : GsbBuffer) (status : ℤ) (result : SurfaceSamSshBuf) :
    Prop where
  gsbStatus : after.status = 0
  len : after.len.toNat = after.out.len.toNat + 2
  quirk : IsBaseStateQuirk before.rqst status → after.out = ⟨0x00, 0x01, [0x01]⟩
  success : status = 0 →
    after.out = ⟨0x00, result.len, result.data.slice 0 result.len.toNat⟩ ∧
      (before.rqst.snc = 0 → after.out.len = 0)
  failure : ¬IsBaseStateQuirk before.rqst status → status ≠ 0 → after.out = ⟨0x01, 0x00, []⟩
  rest : ∀ i, after.len.toNat ≤ i → after.data i = before.data i

lemma sanRqstAnswer_answers {buffer : GsbBuffer} {status : ℤ} {result : SurfaceSamSshBuf}
    (hresult : status = 0 → result.len.toNat ≤ 251 ∧ (buffer.rqst.snc = 0 → result.len = 0)) :
    (sanRqstAnswer buffer buffer.rqst status result).Answers buffer status result := by
  unfold sanRqstAnswer
  split_ifs with hquirk hstatus
  · have hout : (buffer.answer 0x00 0x03 ⟨0x00, 0x01, [0x01]⟩).out = _ := GsbBuffer.out_answer rfl
    have hne : status ≠ 0 := by
      rw [hquirk.2.2]
      decide
    exact ⟨rfl, by rw [hout]; rfl, fun _ => hout, fun h => absurd h hne,
      fun h => absurd hquirk h, fun i hi => GsbBuffer.data_answer hi⟩
  · obtain ⟨hlen, hsnc⟩ := hresult hstatus
    have hout : (buffer.answer 0x00 (result.len + 2)
        ⟨0x00, result.len, result.data.slice 0 result.len.toNat⟩).out = _ :=
      GsbBuffer.out_answer (Memory.length_slice _ _ _).symm
    -- the length does not wrap
    have hadd : (result.len + 2).toNat = result.len.toNat + 2 := by
      rw [UInt8.toNat_add]
      change (result.len.toNat + 2) % 256 = result.len.toNat + 2
      exact Nat.mod_eq_of_lt (by omega)
    refine ⟨rfl, ?_, fun h => absurd h hquirk, fun _ => ⟨hout, fun h => ?_⟩,
      fun _ h => absurd hstatus h, fun i hi => GsbBuffer.data_answer ?_⟩
    · rw [hout]
      exact hadd
    · rw [hout]
      exact hsnc h
    · rw [Memory.length_slice]
      exact hadd ▸ hi
  · have hout : (buffer.answer 0x00 0x02 ⟨0x01, 0x00, []⟩).out = _ := GsbBuffer.out_answer rfl
    exact ⟨rfl, by rw [hout]; rfl, fun h => absurd h hquirk, fun h => absurd h hstatus,
      fun _ _ => hout, fun i hi => GsbBuffer.data_answer hi⟩

/-- What a call of the handler does with a package. -/
structure SanTranslates (ssh : ℕ → ℤ × SurfaceSamSshBuf) (buffer : GsbBuffer) (r : SanReturn) :
    Prop where
  status : r.status = .ok
  ignored : buffer.Ignored → r.buffer = buffer ∧ r.requests = []
  etwl : buffer.data 0 = 0x02 → 3 ≤ buffer.len.toNat →
    r.buffer = { buffer with status := 0, len := 0 } ∧ r.requests = []
  /-- Try `k` is the last. -/
  rqst : buffer.data 0 = 0x01 → buffer.Valid → ∃ k < 5,
    r.requests = List.replicate (k + 1) buffer.rqst ∧ (∀ i < k, (ssh i).1 = -eio) ∧
    (k + 1 < 5 → (ssh k).1 ≠ -eio) ∧ r.buffer.Answers buffer (ssh k).1 (ssh k).2

section Handler

variable {ssh : ℕ → ℤ × SurfaceSamSshBuf} {buffer : GsbBuffer}

lemma run_sanRqst_invalid {kzalloc : Bool} (h : ¬buffer.Valid) :
    (sanRqst ssh kzalloc buffer).run buffer.data = .untouched buffer := by
  unfold sanRqst
  simp only [Reading.run_bind, run_sanValidateRqsx, h, decide_false, Bool.not_false, if_true,
    Reading.run_pure]

/-- A valid request is tried until a call ends with another status than -EIO. -/
lemma run_sanRqst_valid (ssh : ℕ → ℤ × SurfaceSamSshBuf) (h : buffer.Valid) : ∃ k < 5,
    (∀ i < k, (ssh i).1 = -eio) ∧ (k + 1 < 5 → (ssh k).1 ≠ -eio) ∧
    (sanRqst ssh true buffer).run buffer.data =
      ⟨.ok, List.replicate (k + 1) buffer.rqst, none,
        sanRqstAnswer buffer buffer.rqst (ssh k).1 (ssh k).2⟩ := by
  obtain ⟨k, hk, hrun, hbefore, hlast⟩ := run_sanRqstTries ssh buffer.rqst buffer.data 4 0
    (0, ⟨surfaceSamSshMaxRqstResponse, 0, fun _ => 0⟩)
  simp only [Nat.zero_add] at hrun hbefore hlast
  refine ⟨k, Nat.lt_succ_of_le hk, hbefore, fun h5 => hlast (by omega), ?_⟩
  unfold GsbBuffer.rqst at hrun
  unfold sanRqst GsbDataRqsx.tc GsbDataRqsx.iid GsbDataRqsx.cid GsbDataRqsx.snc GsbDataRqsx.cdl
    sanRqstRetry
  simp only [Reading.run_bind, Reading.run_cell, run_sanValidateRqsx, h, decide_true,
    Bool.not_true, Bool.false_eq_true, if_false, hrun]
  rfl

lemma SanTranslates.untouched (hetwl : ¬(buffer.data 0 = 0x02 ∧ 3 ≤ buffer.len.toNat))
    (hrqst : ¬(buffer.data 0 = 0x01 ∧ buffer.Valid)) :
    SanTranslates ssh buffer (.untouched buffer) where
  status := rfl
  ignored _ := ⟨rfl, rfl⟩
  etwl hcv hlen := absurd ⟨hcv, hlen⟩ hetwl
  rqst hcv hvalid := absurd ⟨hcv, hvalid⟩ hrqst

lemma sanEtwl_translates (hcv : buffer.data 0 = 0x02) (hlen : buffer.len ≠ 0) :
    SanTranslates ssh buffer ((sanEtwl buffer).run buffer.data) := by
  have hlen3 : buffer.len < 3 ↔ buffer.len.toNat < 3 := lt_ofNat_iff buffer.len (by decide)
  have hne : ¬(buffer.data 0 = 0x01 ∧ buffer.Valid) := by
    rw [hcv]
    exact fun h => absurd h.1 (by decide)
  unfold sanEtwl
  rw [Reading.run_ite]
  split_ifs with hshort
  · refine .untouched (fun h => ?_) hne
    have hlt := hlen3.mp hshort
    omega
  · simp only [Reading.run_bind, Reading.run_pure]
    refine ⟨rfl, fun hignored => ?_, fun _ _ => ⟨rfl, rfl⟩, fun h hvalid => absurd ⟨h, hvalid⟩ hne⟩
    rcases hignored with h | ⟨-, h, -⟩ | ⟨h, -⟩ | ⟨-, h⟩ | h
    · exact absurd h hlen
    · exact absurd hcv h
    · rw [hcv] at h
      exact absurd h (by decide)
    · exact absurd (hlen3.mpr h) hshort
    · rw [hcv] at h
      exact absurd h (by decide)

lemma sanRqst_translates (hcv : buffer.data 0 = 0x01)
    (hssh : ∀ i, (ssh i).1 = 0 →
      (ssh i).2.len.toNat ≤ 251 ∧ (buffer.rqst.snc = 0 → (ssh i).2.len = 0)) :
    SanTranslates ssh buffer ((sanRqst ssh true buffer).run buffer.data) := by
  have hne : ¬(buffer.data 0 = 0x02 ∧ 3 ≤ buffer.len.toNat) := by
    rw [hcv]
    exact fun h => absurd h.1 (by decide)
  by_cases hvalid : buffer.Valid
  · obtain ⟨k, hk, hbefore, hlast, hrun⟩ := run_sanRqst_valid ssh hvalid
    rw [hrun]
    refine ⟨rfl, fun hignored => ?_, fun h hlen => absurd ⟨h, hlen⟩ hne, fun _ _ =>
      ⟨k, hk, rfl, hbefore, hlast, sanRqstAnswer_answers (hssh k)⟩⟩
    have hlen := hvalid.len
    rcases hignored with h | ⟨h, -⟩ | ⟨-, h | h | h⟩ | ⟨h, -⟩ | h
    · rw [h] at hlen
      exact absurd hlen (by decide)
    · exact absurd hcv h
    · omega
    · exact absurd hvalid.cdl h
    · exact absurd hvalid.tid h
    · rw [hcv] at h
      exact absurd h (by decide)
    · rw [hcv] at h
      exact absurd h (by decide)
  · rw [run_sanRqst_invalid hvalid]
    exact .untouched hne fun h => hvalid h.2

end Handler

/-- The handler, called with command 0 and raw process access while memory can be allocated,
reads only the package, and does with it what the package asks for. -/
theorem sanOpregHandler_translates (ssh : ℕ → ℤ × SurfaceSamSshBuf) (function : UInt32)
    (command : UInt64) (buffer : GsbBuffer) (hcommand : command = 0)
    (haccess : accessorType function = acpiGsbAccessAttribRawProcess)
    (hssh : ∀ i, (ssh i).1 = 0 →
      (ssh i).2.len.toNat ≤ 251 ∧ (buffer.rqst.snc = 0 → (ssh i).2.len = 0)) :
    (sanOpregHandler ssh true function command buffer).Within buffer.len.toNat buffer.data ∧
      SanTranslates ssh buffer
        ((sanOpregHandler ssh true function command buffer).run buffer.data) := by
  unfold sanOpregHandler
  rw [if_neg (not_not.mpr hcommand), if_neg (not_not.mpr haccess)]
  by_cases hempty : buffer.len = 0
  · rw [if_pos hempty, hempty]
    refine ⟨Reading.within_pure _, .untouched (fun h => ?_) fun h => ?_⟩
    · have hlen := h.2
      rw [hempty] at hlen
      exact absurd hlen (by decide)
    · have hlen := h.2.len
      rw [hempty] at hlen
      exact absurd hlen (by decide)
  rw [if_neg hempty]
  have hpos : 0 < buffer.len.toNat := by
    rw [Nat.pos_iff_ne_zero]
    exact fun h => hempty (UInt8.toNat_inj.mp h)
  unfold gsbCv
  simp only [Reading.within_bind, Reading.within_cell, Reading.within_ite, Reading.within_pure,
    Reading.run_bind, Reading.run_cell, Reading.run_ite, Reading.run_pure, implies_true, and_true]
  refine ⟨⟨hpos, fun _ => within_sanRqst, fun _ => ⟨fun _ => within_sanEtwl,
    fun _ _ => within_sanRqsg⟩⟩, ?_⟩
  split_ifs with hrqst hetwl hrqsg
  · exact sanRqst_translates hrqst hssh
  · exact sanEtwl_translates hetwl hempty
  · rw [run_sanRqsg]
    exact .untouched (fun h => hetwl h.1) fun h => hrqst h.1
  · exact .untouched (fun h => hetwl h.1) fun h => hrqst h.1

/-- A battery is asked for its state, with a payload of two bytes; the first try fails. -/
theorem sanOpregHandler_translates_second_try :
    let data := [0x01, 0x02, 0x01, 0x01, 0x01, 0x01, 0x02, 0x00, 0xab, 0xcd]
    let buffer : GsbBuffer := ⟨0xff, 10, fun i => data.getD i 0⟩
    let ssh : ℕ → ℤ × SurfaceSamSshBuf := fun i =>
      if i = 0 then (-eio, ⟨251, 0, fun _ => 0⟩) else (0, ⟨251, 3, fun _ => 7⟩)
    let r := (sanOpregHandler ssh true 0x000F0001 0 buffer).run buffer.data
    SanTranslates ssh buffer r ∧ r.requests.map (fun rqst => rqst.pld.slice 0 2) =
        [[0xab, 0xcd], [0xab, 0xcd]] ∧
      r.buffer.len = 5 ∧ r.buffer.out.len = 3 ∧ r.buffer.out.pld = [7, 7, 7] := by
  intro data buffer ssh r
  have hssh (i : ℕ) (hstatus : (ssh i).1 = 0) :
      (ssh i).2.len.toNat ≤ 251 ∧ (buffer.rqst.snc = 0 → (ssh i).2.len = 0) := by
    have hsnc : buffer.rqst.snc ≠ 0 := by decide
    by_cases hi : i = 0
    · rw [hi] at hstatus
      exact absurd hstatus (by decide)
    · have hresult : ssh i = (0, ⟨251, 3, fun _ => 7⟩) := if_neg hi
      rw [hresult]
      exact ⟨by decide, fun h => absurd h hsnc⟩
  obtain ⟨-, htranslates⟩ :=
    sanOpregHandler_translates ssh 0x000F0001 0 buffer rfl (by decide) hssh
  exact ⟨htranslates, by decide, by decide, by decide, by decide⟩

end SurfaceSam
