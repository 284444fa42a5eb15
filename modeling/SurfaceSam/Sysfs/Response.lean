import Mathlib.Algebra.GroupWithZero.Nat
import SurfaceSam.Ssh.Reply
import SurfaceSam.Sysfs.Rqst

/-!
# Responses in the debug attribute

What a successful write to the attribute leaves in its buffers, and what can be read from it
afterwards.
-/

namespace SurfaceSam

open Devlib

/-- What is to be read from the attribute: the length of the response and the response, filled
up with zeros. -/
def attributeBytes (response : List UInt8) : List UInt8 :=
  UInt8.ofNat response.length :: (response ++ List.replicate (251 - response.length) 0)

namespace RqstBufs

/-- A write that succeeds, with the response it gets. -/
structure WritesResponse (ssh : SurfaceSamSshRqst → RqstReply) (buf : Memory UInt8) (offs : ℤ)
    (count : ℕ) (s : RqstBufs) (response : List UInt8) (t : RqstBufs) : Prop where
  sent : ∃ rqst u, s.rqstParse buf offs count = .ok (rqst, u) ∧ ssh rqst = ⟨0, response⟩
  length : response.length ≤ 251
  result : s.rqstWrite ssh buf offs count = ((count : ℤ), t)

/-- Nothing is stored outside the buffers, and the response is there to be read. -/
structure KeepsResponse (s : RqstBufs) (response : List UInt8) (t : RqstBufs) : Prop where
  confined : ∃ new, t.stores = s.stores ++ new ∧ ∀ st ∈ new, st.Within RqstBuf.size
  contents : (t.mem .sysfs).slice 0 252 = attributeBytes response

/-! ### Writing -/

variable {s t u : RqstBufs} {buf : Memory UInt8} {offs : ℤ} {count : ℕ} {response : List UInt8}
  {rqst : SurfaceSamSshRqst} {ssh : SurfaceSamSshRqst → RqstReply}

/-- A request that gets its response makes the write succeed. -/
lemma writesResponse_of_reply (hparse : s.rqstParse buf offs count = .ok (rqst, u))
    (hreply : ssh rqst = ⟨0, response⟩) (hlen : response.length ≤ 251) :
    WritesResponse ssh buf offs count s response
      (rqstStore count (UInt8.ofNat response.length) (u.memcpy .res 0 response)).2 := by
  refine ⟨⟨rqst, u, hparse, hreply⟩, hlen, ?_⟩
  simp only [rqstWrite, hparse, hreply]
  rfl

/-- So does a run of the request that ends with status 0: what it has stored is the response. -/
lemma writesResponse_of_run {E : SshEnv} {acts : List (Act SshLine)} {ec ec' : SamSshEc}
    {res : SurfaceSamSshBuf} (hparse : s.rqstParse buf offs count = .ok (rqst, u))
    (hidle : ec.Idle) (hrun : Prog.run (SshLine.step E) acts (surfaceSamSshRqstUnlocked E rqst
      (some ⟨surfaceSamSshMaxRqstResponse, 0, u.mem .res⟩)) ec = some ((0, some res), ec'))
    (hssh : ssh rqst = .ofResult (0, res)) :
    ∃ response t, WritesResponse ssh buf offs count s response t := by
  obtain ⟨response, hlen, hres⟩ := surfaceSamSshRqstUnlocked_reply hidle hrun
  obtain rfl := Option.some_inj.mp hres
  have htoNat : (UInt8.ofNat response.length).toNat = response.length :=
    UInt8.toNat_ofNat_of_lt' (Nat.lt_of_le_of_lt hlen (by decide))
  have hreply : ssh rqst = ⟨0, response⟩ := by
    rw [hssh, RqstReply.ofResult, htoNat]
    exact congrArg (RqstReply.mk 0) (Memory.slice_memcpy_same _ 0 response)
  exact ⟨response, _, writesResponse_of_reply hparse hreply hlen⟩

lemma toNat_length (h : response.length ≤ 251) :
    (UInt8.ofNat response.length).toNat = response.length := by
  rw [UInt8.toNat_ofNat']
  omega

/-- The bytes that are cleared, from the end of the response on. -/
lemma sizeT_rest (h : response.length ≤ 251) :
    sizeT (surfaceSamSshMaxRqstResponse.toNat + 1 - response.length : ℤ) =
      252 - response.length := by
  have hmax : surfaceSamSshMaxRqstResponse.toNat = 251 := rfl
  rw [hmax, sizeT_of_lt (by omega) (by omega)]
  omega

/-- The stores of a write that succeeds. The last of them is always one byte too long. -/
lemma rqstStore_stores (h : response.length ≤ 251) :
    (s.rqstStore count (UInt8.ofNat response.length)).2.stores = s.stores ++
      [⟨.sysfs, 0, 1⟩, ⟨.sysfs, 1, response.length⟩,
        ⟨.sysfs, response.length + 1, 252 - response.length⟩] := by
  simp only [rqstStore, toNat_length h, sizeT_rest h, Arrays.stores_memset, Arrays.stores_memcpy,
    Memory.length_slice, List.append_assoc]
  rfl

/-- The result buffer, with the byte behind it. -/
lemma rqstStore_slice (count : ℕ) (h : response.length ≤ 251)
    (hres : (s.mem .res).slice 0 response.length = response) :
    ((s.rqstStore count (UInt8.ofNat response.length)).2.mem .sysfs).slice 0 253 =
      attributeBytes response ++ [0] := by
  have hother : (s.memcpy .sysfs 0 [UInt8.ofNat response.length]).mem .res = s.mem .res :=
    Arrays.mem_memcpy_of_ne nofun
  have hlast (mem : Memory UInt8) (k : ℕ) (zeros : List UInt8) (hk : k + zeros.length = 253) :
      (mem.memcpy k zeros).slice 0 253 = mem.slice 0 k ++ zeros := by
    rw [← hk, Memory.slice_memcpy_append]
  have hzeros : List.replicate (252 - response.length) (0 : UInt8) =
      List.replicate (251 - response.length) 0 ++ [0] := by
    rw [← List.replicate_succ']
    congr 1
    omega
  simp only [rqstStore, toNat_length h, sizeT_rest h, hother, hres, Arrays.memset,
    Arrays.mem_memcpy_self]
  rw [hlast _ _ _ (by rw [List.length_replicate]; omega), Nat.add_comm response.length 1,
    Memory.slice_memcpy_append]
  have hfirst := Memory.slice_memcpy_same (s.mem .sysfs) 0 [UInt8.ofNat response.length]
  rw [List.length_singleton] at hfirst
  rw [hfirst, hzeros]
  simp [attributeBytes]

/-- A write that succeeds, step by step. -/
lemma WritesResponse.stages (h : WritesResponse ssh buf offs count s response t) :
    ∃ rqst u, s.rqstParse buf offs count = .ok (rqst, u) ∧
      t = (rqstStore count (UInt8.ofNat response.length) (u.memcpy .res 0 response)).2 := by
  obtain ⟨rqst, u, hparse, hreply⟩ := h.sent
  have hresult := h.result
  simp only [rqstWrite, hparse, hreply] at hresult
  exact ⟨rqst, u, hparse, (congrArg Prod.snd hresult).symm⟩

lemma slice_response (u : RqstBufs) :
    ((u.memcpy .res 0 response).mem .res).slice 0 response.length = response := by
  rw [Arrays.mem_memcpy_self]
  exact Memory.slice_memcpy_same _ 0 _

lemma WritesResponse.contents (h : WritesResponse ssh buf offs count s response t) :
    (t.mem .sysfs).slice 0 252 = attributeBytes response := by
  obtain ⟨_, u, -, rfl⟩ := h.stages
  have hslice := rqstStore_slice count h.length (slice_response u)
  rw [show (253 : ℕ) = 252 + 1 from rfl, Memory.slice_add] at hslice
  exact (List.append_inj' hslice rfl).1

/-- What is stored: the payload, the response, and three times in the result buffer. -/
lemma WritesResponse.stores (h : WritesResponse ssh buf offs count s response t) :
    t.stores = s.stores ++ [⟨.pld, 0, sizeT (count - 5)⟩, ⟨.res, 0, response.length⟩,
      ⟨.sysfs, 0, 1⟩, ⟨.sysfs, 1, response.length⟩,
      ⟨.sysfs, response.length + 1, 252 - response.length⟩] := by
  obtain ⟨_, u, hparse, rfl⟩ := h.stages
  obtain ⟨hpayload, -⟩ := rqstParse_eq hparse
  rw [rqstStore_stores h.length, Arrays.stores_memcpy, hpayload, Arrays.stores_memcpy,
    Memory.length_slice]
  simp only [List.append_assoc]
  rfl

/-! ### Reading -/

/-- Reads of the given sizes, one behind the other. -/
def rqstReads (t : RqstBufs) : ℕ → List ℕ → Except ℤ (List UInt8)
  | _, [] => .ok []
  | offs, count :: counts => do
    let bytes ← t.rqstRead offs count
    let rest ← rqstReads t (offs + count) counts
    return bytes ++ rest

/-- How the script reads the response. -/
def readResponse (t : RqstBufs) : Except ℤ (List UInt8) := do
  let length ← t.rqstRead 0 1
  t.rqstRead 1 (length.headD 0).toNat

lemma rqstRead_eq (offs n : ℕ) (h : offs + n < 2 ^ 64) :
    t.rqstRead offs n =
      if offs + n ≤ 251 then .ok ((t.mem .sysfs).slice offs n) else .error (-einval) := by
  have hsum : sizeT ((n : ℤ) + offs) = offs + n := by
    rw [sizeT_of_lt (by omega) (by omega)]
    omega
  unfold rqstRead
  rw [hsum, Int.toNat_natCast]
  by_cases hle : offs + n ≤ 251
  · have hpass : ¬((offs : ℤ) < 0 ∨ surfaceSamSshMaxRqstResponse.toNat < offs + n) := by
      rintro (hneg | hlt)
      · omega
      · exact absurd hlt (Nat.not_lt_of_le hle)
    rw [if_pos hle, if_neg hpass]
  · rw [if_neg hle, if_pos (.inr (Nat.lt_of_not_le hle))]

/-- Reads within the attribute fail if one of them touches its last byte. -/
lemma rqstReads_eq {counts : List ℕ} {offs : ℕ} (h : offs + counts.sum ≤ 252) :
    t.rqstReads offs counts =
      if counts = [] ∨ offs + counts.sum ≤ 251 then .ok ((t.mem .sysfs).slice offs counts.sum)
      else .error (-einval) := by
  induction counts generalizing offs with
  | nil => rfl
  | cons n counts ih =>
    rw [List.sum_cons] at h ⊢
    rw [rqstReads, rqstRead_eq _ _ (by omega)]
    by_cases hread : offs + n ≤ 251
    · rw [if_pos hread, ih (by omega)]
      by_cases hrest : counts = [] ∨ offs + n + counts.sum ≤ 251
      · have hall : n :: counts = [] ∨ offs + (n + counts.sum) ≤ 251 := by
          right
          obtain rfl | hle := hrest
          · rw [List.sum_nil]
            omega
          · omega
        rw [if_pos hrest, if_pos hall, Memory.slice_add]
        rfl
      · have hall : ¬(n :: counts = [] ∨ offs + (n + counts.sum) ≤ 251) := by
          rintro (hnil | hle)
          · cases hnil
          · exact hrest (.inr (by omega))
        rw [if_neg hrest, if_neg hall]
        rfl
    · have hall : ¬(n :: counts = [] ∨ offs + (n + counts.sum) ≤ 251) := by
        rintro (hnil | hle)
        · cases hnil
        · omega
      rw [if_neg hread, if_neg hall]
      rfl

/-- What lies in the attribute. -/
lemma slice_of_contents (h : (t.mem .sysfs).slice 0 252 = attributeBytes response) {offs n : ℕ}
    (hle : offs + n ≤ 252) :
    (t.mem .sysfs).slice offs n = ((attributeBytes response).drop offs).take n := by
  rw [← h, Memory.drop_slice, Memory.take_slice, Nat.zero_add, Nat.min_eq_left (by omega)]

lemma readResponse_eq (h : (t.mem .sysfs).slice 0 252 = attributeBytes response)
    (hlen : response.length ≤ 251) :
    t.readResponse = if response.length ≤ 250 then .ok response else .error (-einval) := by
  have hfirst : t.rqstRead 0 1 = .ok [UInt8.ofNat response.length] := by
    have hread := rqstRead_eq (t := t) 0 1 (by decide)
    rw [if_pos (by decide), slice_of_contents h (by decide)] at hread
    exact hread
  have hsecond := rqstRead_eq (t := t) 1 response.length (by omega)
  rw [slice_of_contents h (by omega), attributeBytes, List.drop_succ_cons, List.drop_zero,
    List.take_left] at hsecond
  unfold readResponse
  rw [hfirst]
  change t.rqstRead 1 (UInt8.ofNat response.length).toNat = _
  rw [toNat_length hlen]
  refine hsecond.trans ?_
  simp only [Nat.add_comm 1, Nat.succ_le_succ_iff]

end RqstBufs

open RqstBufs

/-- A write that succeeds clears one byte behind the result buffer, whatever the request and the
response are. -/
theorem rqstWrite_overruns (ssh : SurfaceSamSshRqst → RqstReply) (buf : Memory UInt8) (offs : ℤ)
    (count : ℕ) (s t : RqstBufs) (response : List UInt8)
    (h : WritesResponse ssh buf offs count s response t) :
    ¬KeepsResponse s response t ∧ (t.mem .sysfs).slice 0 252 = attributeBytes response := by
  refine ⟨fun hkeeps => ?_, h.contents⟩
  obtain ⟨new, hnew, hwithin⟩ := hkeeps.confined
  rw [h.stores] at hnew
  have hlast : (⟨.sysfs, response.length + 1, 252 - response.length⟩ : Store RqstBuf).Within
      RqstBuf.size := by
    apply hwithin
    rw [← List.append_cancel_left hnew]
    simp
  have hsize : RqstBuf.sysfs.size = 252 := rfl
  have hlen := h.length
  unfold Store.Within at hlast
  rw [hsize] at hlast
  dsimp only at hlast
  omega

/-- The buffers before the first write. -/
def RqstBufs.zeroed : RqstBufs := ⟨fun _ _ => 0, []⟩

/-- What the first write makes of them, when `request` is answered with `response`. -/
def RqstBufs.answered (request response : List UInt8) : RqstBufs :=
  (zeroed.rqstWrite (fun _ => ⟨0, response⟩) (fun i => request.getD i 0) 0 request.length).2

lemma RqstBufs.writesResponse_answered {request response : List UInt8}
    (hparse : ∃ r, zeroed.rqstParse (fun i => request.getD i 0) 0 request.length = .ok r)
    (h : response.length ≤ 251) : WritesResponse (fun _ => ⟨0, response⟩)
      (fun i => request.getD i 0) 0 request.length zeroed response (answered request response) := by
  obtain ⟨⟨rqst, u⟩, hparse⟩ := hparse
  have hwrites : WritesResponse (fun _ => ⟨0, response⟩) (fun i => request.getD i 0) 0
      request.length zeroed response _ := writesResponse_of_reply hparse rfl h
  unfold answered
  rw [hwrites.result]
  exact hwrites

/-- The answer to the query for the performance mode. -/
def performanceModeAnswer : List UInt8 := [3, 0, 0, 0, 0, 0, 0, 0]

lemma writesResponse_performanceState : WritesResponse (fun _ => ⟨0, []⟩)
    (fun i => (performanceStateRequest 4).getD i 0) 0 9 zeroed []
    (answered (performanceStateRequest 4) []) :=
  writesResponse_answered ⟨_, rfl⟩ (Nat.zero_le _)

lemma writesResponse_performanceMode : WritesResponse (fun _ => ⟨0, performanceModeAnswer⟩)
    (fun i => performanceModeQuery.getD i 0) 0 5 zeroed performanceModeAnswer
    (answered performanceModeQuery performanceModeAnswer) :=
  writesResponse_answered ⟨_, rfl⟩ (by decide)

/-- The byte behind the result buffer is cleared when the script sets a mode, for which there is
no response, and when the mode is asked for. -/
theorem rqstWrite_overruns_modes :
    (¬KeepsResponse zeroed [] (answered (performanceStateRequest 4) []) ∧
      ((answered (performanceStateRequest 4) []).mem .sysfs).slice 0 252 = attributeBytes []) ∧
    ¬KeepsResponse zeroed performanceModeAnswer
        (answered performanceModeQuery performanceModeAnswer) ∧
      ((answered performanceModeQuery performanceModeAnswer).mem .sysfs).slice 0 252 =
        attributeBytes performanceModeAnswer :=
  ⟨rqstWrite_overruns _ _ 0 9 zeroed _ [] writesResponse_performanceState,
    rqstWrite_overruns _ _ 0 5 zeroed _ performanceModeAnswer writesResponse_performanceMode⟩

/-- The stores when the mode is asked for. The last one ends behind the 252 bytes of the result
buffer. -/
theorem rqstWrite_overruns_stores :
    let t := answered performanceModeQuery performanceModeAnswer
    WritesResponse (fun _ => ⟨0, performanceModeAnswer⟩) (fun i => performanceModeQuery.getD i 0) 0
        5 zeroed performanceModeAnswer t ∧
      t.stores = [⟨.pld, 0, 0⟩, ⟨.res, 0, 8⟩, ⟨.sysfs, 0, 1⟩, ⟨.sysfs, 1, 8⟩, ⟨.sysfs, 9, 244⟩] ∧
      RqstBuf.sysfs.size = 252 ∧ ¬KeepsResponse zeroed performanceModeAnswer t := by
  intro t
  have hstores := writesResponse_performanceMode.stores
  refine ⟨writesResponse_performanceMode, hstores, rfl, fun hkeeps => ?_⟩
  obtain ⟨new, hnew, hwithin⟩ := hkeeps.confined
  rw [hstores] at hnew
  cases hnew
  exact absurd (hwithin ⟨.sysfs, 9, 244⟩ (by decide)) (by decide)

/-- After a write that succeeds, reads one behind the other give what they should exactly if
they stop before the last byte of the attribute, and the script gets every response but those
of 251 bytes. -/
theorem rqstReads_ok_iff (ssh : SurfaceSamSshRqst → RqstReply) (buf : Memory UInt8) (offs : ℤ)
    (count : ℕ) (s t : RqstBufs) (response : List UInt8)
    (h : WritesResponse ssh buf offs count s response t) :
    (∀ (start : ℕ) (counts : List ℕ), start + counts.sum ≤ 252 →
      (t.rqstReads start counts = .ok (((attributeBytes response).drop start).take counts.sum) ↔
        counts = [] ∨ start + counts.sum ≤ 251)) ∧
    (t.readResponse = .ok response ↔ response.length ≤ 250) ∧
    (∀ (start n : ℕ) (bytes : List UInt8), start + n < 2 ^ 64 → t.rqstRead start n = .ok bytes →
      start + n ≤ 252 ∧ bytes = ((attributeBytes response).drop start).take n) := by
  refine ⟨fun start counts hwithin => ?_, ?_, fun start n bytes hsmall hread => ?_⟩
  · rw [rqstReads_eq hwithin, ← slice_of_contents h.contents hwithin]
    split_ifs with hend
    · exact iff_of_true rfl hend
    · exact iff_of_false nofun hend
  · rw [readResponse_eq h.contents h.length]
    split_ifs with hlen
    · exact iff_of_true rfl hlen
    · exact iff_of_false nofun hlen
  · rw [rqstRead_eq _ _ hsmall] at hread
    split_ifs at hread with hend
    cases hread
    exact ⟨by omega, slice_of_contents h.contents (by omega)⟩

/-- The way the script reads gives the mode that is asked for. -/
theorem rqstReads_ok_iff_mode :
    (answered performanceModeQuery performanceModeAnswer).readResponse =
      .ok performanceModeAnswer :=
  (rqstReads_ok_iff _ _ 0 5 zeroed _ performanceModeAnswer
    writesResponse_performanceMode).2.1.mpr (by decide)

/-- The 252 bytes of the attribute cannot be read, at once or in two halves. -/
theorem rqstReads_fails :
    let t := answered performanceModeQuery performanceModeAnswer
    WritesResponse (fun _ => ⟨0, performanceModeAnswer⟩) (fun i => performanceModeQuery.getD i 0) 0
        5 zeroed performanceModeAnswer t ∧
      t.rqstReads 0 [252] = .error (-einval) ∧ t.rqstReads 0 [126, 126] = .error (-einval) := by
  intro t
  refine ⟨writesResponse_performanceMode, ?_, ?_⟩
  · rw [rqstReads_eq (by decide), if_neg (by decide)]
  · rw [rqstReads_eq (by decide), if_neg (by decide)]

end SurfaceSam
