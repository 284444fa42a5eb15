import SurfaceSam.Devlib.Arrays
import SurfaceSam.Ssh.Request

/-!
# The debug attribute

Requests from user space through the `rqst` attribute in sysfs: what is written there is
parsed and sent as a request, and the response is kept in a buffer from which it can be read.
-/

namespace SurfaceSam

open Devlib

/-- The static buffers `sam_ssh_debug_rqst_buf_*`. -/
inductive RqstBuf where
  | sysfs
  | pld
  | res
  deriving DecidableEq, Repr

def RqstBuf.size : RqstBuf → ℕ
  | sysfs => surfaceSamSshMaxRqstResponse.toNat + 1
  | pld => surfaceSamSshMaxRqstPayload
  | res => surfaceSamSshMaxRqstResponse.toNat

abbrev RqstBufs := Arrays RqstBuf UInt8

/-- What comes of a call of `surface_sam_ssh_rqst`: its status, and what it has stored at the
start of the result buffer. -/
structure RqstReply where
  status : ℤ
  response : List UInt8

/-- The status of the call and the result buffer it leaves. -/
def RqstReply.ofResult (r : ℤ × SurfaceSamSshBuf) : RqstReply :=
  ⟨r.1, r.2.data.slice 0 r.2.len.toNat⟩

namespace RqstBufs

/-- The part of `rqst_write` before the call of `surface_sam_ssh_rqst`, as far as the request
that is handed to it. -/
def rqstParse (buf : Memory UInt8) (offs : ℤ) (count : ℕ) (s : RqstBufs) :
    Except ℤ (SurfaceSamSshRqst × RqstBufs) :=
  -- check basic write constraints
  if offs ≠ 0 ∨ surfaceSamSshMaxRqstPayload + 5 < count then .error (-einval)
  -- payload length should be consistent with data provided
  else if sizeT (schar (buf 4) + 5) ≠ count then .error (-einval)
  else
    let s := s.memcpy .pld 0 (buf.slice 5 (sizeT (count - 5)))
    .ok (⟨buf 0, buf 1, buf 2, buf 3, buf 4, s.mem .pld⟩, s)

/-- The part behind the call, if that has succeeded. -/
def rqstStore (count : ℕ) (len : UInt8) (s : RqstBufs) : ℤ × RqstBufs :=
  let s := s.memcpy .sysfs 0 [len]
  let s := s.memcpy .sysfs 1 ((s.mem .res).slice 0 len.toNat)
  let s := s.memset .sysfs (len.toNat + 1) 0
    (sizeT (surfaceSamSshMaxRqstResponse.toNat + 1 - len.toNat : ℤ))
  (count, s)

def rqstWrite (surfaceSamSshRqst : SurfaceSamSshRqst → RqstReply) (buf : Memory UInt8) (offs : ℤ)
    (count : ℕ) (s : RqstBufs) : ℤ × RqstBufs :=
  match s.rqstParse buf offs count with
  | .error status => (status, s)
  | .ok (rqst, s) =>
    let reply := surfaceSamSshRqst rqst
    let s := s.memcpy .res 0 reply.response
    if reply.status ≠ 0 then (reply.status, s)
    else rqstStore count (UInt8.ofNat reply.response.length) s

/-- The bytes that are read. -/
def rqstRead (offs : ℤ) (count : ℕ) (s : RqstBufs) : Except ℤ (List UInt8) :=
  if offs < 0 ∨ surfaceSamSshMaxRqstResponse.toNat < sizeT (count + offs) then .error (-einval)
  else .ok ((s.mem .sysfs).slice offs.toNat count)

/-! ### What is accepted -/

variable {buf : Memory UInt8} {count : ℕ} {s t : RqstBufs} {rqst : SurfaceSamSshRqst}

/-- What `rqst_write` is to make of `count` bytes at offset 0: it hands exactly the well-formed
requests to `surface_sam_ssh_rqst`, as they stand in the bytes, looks at no other bytes, and
stores no more than the payload buffer can hold. -/
structure ParsesRqst (buf : Memory UInt8) (count : ℕ) (s : RqstBufs) : Prop where
  accepts : (∃ r, s.rqstParse buf 0 count = .ok r) ↔
    5 ≤ count ∧ count ≤ 250 ∧ count = 5 + (buf 4).toNat
  fields : ∀ rqst t, s.rqstParse buf 0 count = .ok (rqst, t) →
    rqst.tc = buf 0 ∧ rqst.iid = buf 1 ∧ rqst.cid = buf 2 ∧ rqst.snc = buf 3 ∧ rqst.cdl = buf 4 ∧
      rqst.pld.slice 0 rqst.cdl.toNat = buf.slice 5 (count - 5)
  given : ∀ buf' : Memory UInt8, (∀ i < count, buf' i = buf i) →
    s.rqstParse buf' 0 count = s.rqstParse buf 0 count
  copied : ∀ rqst t, s.rqstParse buf 0 count = .ok (rqst, t) →
    ∃ n ≤ 245, t.stores = s.stores ++ [⟨.pld, 0, n⟩]

lemma sizeT_of_lt {z : ℤ} (h₀ : 0 ≤ z) (h : z < 2 ^ 64) : sizeT z = z.toNat := by
  unfold sizeT
  rw [Int.emod_eq_of_lt h₀ h]

lemma sizeT_of_neg {z : ℤ} (h₀ : z < 0) (h : -2 ^ 64 ≤ z) : sizeT z = (z + 2 ^ 64).toNat := by
  unfold sizeT
  omega

/-- The length check, for what passes the first one. The signed length byte is right up to 127;
from 251 on it stands for a count below that of the header. -/
lemma lengthCheck_iff (b : UInt8) (hcount : count ≤ 250) :
    sizeT (schar b + 5) = count ↔
      b.toNat < 128 ∧ count = 5 + b.toNat ∨ b.toNat = 251 + count ∧ count < 5 := by
  have hb : b.toNat < 256 := b.toNat_lt
  rw [schar_eq]
  by_cases hpos : b.toNat < 128
  · rw [if_pos hpos, sizeT_of_lt (by omega) (by omega)]
    omega
  · rw [if_neg hpos]
    by_cases hsmall : b.toNat < 251
    · rw [sizeT_of_neg (by omega) (by omega)]
      omega
    · rw [sizeT_of_lt (by omega) (by omega)]
      omega

lemma rqstParse_ok_iff :
    (∃ r, s.rqstParse buf 0 count = .ok r) ↔ count ≤ 250 ∧
      ((buf 4).toNat < 128 ∧ count = 5 + (buf 4).toNat ∨
        (buf 4).toNat = 251 + count ∧ count < 5) := by
  unfold rqstParse
  by_cases hcount : count ≤ 250
  · have hsize : ¬((0 : ℤ) ≠ 0 ∨ surfaceSamSshMaxRqstPayload + 5 < count) := by
      rintro (h | h)
      · exact h rfl
      · exact absurd h (Nat.not_lt_of_le hcount)
    rw [if_neg hsize, ← lengthCheck_iff _ hcount]
    by_cases hlen : sizeT (schar (buf 4) + 5) = count
    · rw [if_neg (not_not.mpr hlen)]
      exact iff_of_true ⟨_, rfl⟩ ⟨hcount, hlen⟩
    · rw [if_pos hlen]
      exact iff_of_false nofun fun h => hlen h.2
  · rw [if_pos (.inr (Nat.lt_of_not_le hcount))]
    exact iff_of_false nofun fun h => hcount h.1

lemma sizeT_payload (h : 5 ≤ count) (hcount : count ≤ 250) : sizeT ((count : ℤ) - 5) = count - 5 := by
  rw [sizeT_of_lt (by omega) (by omega)]
  omega

/-- What is handed on. -/
lemma rqstParse_eq {offs : ℤ} (h : s.rqstParse buf offs count = .ok (rqst, t)) :
    t = s.memcpy .pld 0 (buf.slice 5 (sizeT (count - 5))) ∧
      rqst = ⟨buf 0, buf 1, buf 2, buf 3, buf 4, t.mem .pld⟩ := by
  unfold rqstParse at h
  split_ifs at h
  cases h
  exact ⟨rfl, rfl⟩

/-- Bytes 0 to 4 decide, together with the payload. -/
lemma rqstParse_congr {buf' : Memory UInt8} (hcount : 5 ≤ count)
    (h : ∀ i < count, buf' i = buf i) : s.rqstParse buf' 0 count = s.rqstParse buf 0 count := by
  have hslice : buf'.slice 5 (count - 5) = buf.slice 5 (count - 5) :=
    Memory.slice_congr fun i hi => h _ (by omega)
  unfold rqstParse
  by_cases hsize : (0 : ℤ) ≠ 0 ∨ surfaceSamSshMaxRqstPayload + 5 < count
  · rw [if_pos hsize, if_pos hsize]
  · have hlt : count ≤ 250 := Nat.le_of_not_lt fun hlt => hsize (.inr hlt)
    rw [if_neg hsize, if_neg hsize, h 0 (by omega), h 1 (by omega), h 2 (by omega), h 3 (by omega),
      h 4 (by omega), sizeT_payload hcount hlt, hslice]

/-- For counts below the header, the byte behind them tells whether the request is accepted. -/
lemma rqstParse_beyond (buf : Memory UInt8) (s : RqstBufs) (hcount : count < 5) :
    ∃ buf' : Memory UInt8, (∀ i < count, buf' i = buf i) ∧
      s.rqstParse buf' 0 count ≠ s.rqstParse buf 0 count := by
  have haccept (b : UInt8) : (∃ r, s.rqstParse (Function.update buf 4 b) 0 count = .ok r) ↔
      b.toNat = 251 + count := by
    rw [rqstParse_ok_iff, Function.update_self]
    omega
  have hself : (∃ r, s.rqstParse buf 0 count = .ok r) ↔ (buf 4).toNat = 251 + count := by
    rw [rqstParse_ok_iff]
    omega
  have hbelow (b : UInt8) : ∀ i < count, Function.update buf 4 b i = buf i :=
    fun i hi => Function.update_of_ne (by omega) _ _
  by_cases hlen : (buf 4).toNat = 251 + count
  · refine ⟨_, hbelow 0, fun heq => ?_⟩
    have hzero := (haccept 0).mp (heq ▸ hself.mpr hlen)
    simp at hzero
    omega
  · refine ⟨_, hbelow (UInt8.ofNat (251 + count)), fun heq => hlen (hself.mp ?_)⟩
    rw [← heq, haccept]
    simp
    omega

end RqstBufs

open RqstBufs

/-- What is written to the attribute is parsed as it should be exactly if it has a whole header
and is not a well-formed request with 128 bytes of payload or more. -/
theorem rqstWrite_parses_iff (buf : Memory UInt8) (count : ℕ) (s : RqstBufs) :
    ParsesRqst buf count s ↔ 5 ≤ count ∧
      ¬(128 ≤ (buf 4).toNat ∧ count ≤ 250 ∧ count = 5 + (buf 4).toNat) := by
  constructor
  · intro h
    constructor
    · by_contra hcount
      obtain ⟨buf', hbelow, hne⟩ := rqstParse_beyond buf s (Nat.lt_of_not_le hcount)
      exact hne (h.given buf' hbelow)
    · rintro ⟨hlarge, hcount, hlen⟩
      obtain ⟨-, ⟨hlt, -⟩ | ⟨-, hlt⟩⟩ := rqstParse_ok_iff.mp (h.accepts.mpr ⟨by omega, hcount, hlen⟩)
      · omega
      · omega
  · rintro ⟨hcount, hlarge⟩
    constructor
    · rw [rqstParse_ok_iff]
      omega
    · intro rqst t h
      obtain ⟨hle, hlen⟩ := rqstParse_ok_iff.mp ⟨_, h⟩
      obtain ⟨rfl, rfl⟩ := rqstParse_eq h
      have hcdl : (buf 4).toNat = (buf.slice 5 (count - 5)).length := by
        rw [Memory.length_slice]
        omega
      refine ⟨rfl, rfl, rfl, rfl, rfl, ?_⟩
      rw [sizeT_payload hcount hle, Arrays.mem_memcpy_self]
      dsimp only
      rw [hcdl]
      exact Memory.slice_memcpy_same _ 0 _
    · exact fun buf' => rqstParse_congr hcount
    · intro rqst t h
      obtain ⟨hle, -⟩ := rqstParse_ok_iff.mp ⟨_, h⟩
      obtain ⟨rfl, -⟩ := rqstParse_eq h
      refine ⟨count - 5, by omega, ?_⟩
      rw [Arrays.stores_memcpy, sizeT_payload hcount hle, Memory.length_slice]

/-- A well-formed request with 128 bytes of payload is rejected. Three bytes with 254 behind them
are taken for a request, of which nearly all of the memory is copied. -/
theorem rqstWrite_misparses :
    let large : Memory UInt8 := fun i => if i = 4 then 128 else 0
    let short : Memory UInt8 := fun i => if i = 4 then 254 else 0
    let s : RqstBufs := ⟨fun _ _ => 0, []⟩
    s.rqstParse large 0 133 = .error (-einval) ∧ ¬ParsesRqst large 133 s ∧
      ∃ rqst t, s.rqstParse short 0 3 = .ok (rqst, t) ∧
        t.stores = [⟨.pld, 0, 0xfffffffffffffffe⟩] ∧ ¬ParsesRqst short 3 s := by
  intro large short s
  have hlarge : s.rqstParse large 0 133 = .error (-einval) := rfl
  obtain ⟨⟨rqst, t⟩, hshort⟩ : ∃ r, s.rqstParse short 0 3 = .ok r :=
    rqstParse_ok_iff.mpr ⟨by decide, .inr ⟨rfl, by decide⟩⟩
  have hstores : t.stores = [⟨.pld, 0, 0xfffffffffffffffe⟩] := by
    rw [(rqstParse_eq hshort).1, Arrays.stores_memcpy, Memory.length_slice]
    rfl
  refine ⟨hlarge, fun h => ?_, rqst, t, hshort, hstores, fun h => ?_⟩
  · obtain ⟨r, hr⟩ := h.accepts.mpr ⟨by decide, by decide, rfl⟩
    rw [hlarge] at hr
    cases hr
  · exact absurd (h.accepts.mp ⟨_, hshort⟩).1 (by decide)

/-- `performance_state_request` of the script that uses the attribute, which sets a performance
mode. -/
def performanceStateRequest (state : UInt8) : List UInt8 :=
  [0x03, 0x00, 0x03, 0x00, 0x04, state, 0x00, 0x00, 0x00]

/-- The request that asks for the performance mode. -/
def performanceModeQuery : List UInt8 := [0x03, 0x00, 0x02, 0x01, 0x00]

end SurfaceSam
