import Mathlib.Data.List.Chain
import SurfaceSam.Ssh.Transaction

/-!
# Matching replies to requests

Requests run one after the other, under the EC mutex. The controller answers a command
message with an ACK that echoes its sequence number and a response that echoes its request
id, at any later time. Which requests such a reply can be taken for depends on how the two
counters move, and they move only when a request has taken an ACK from the FIFO.
-/

namespace SurfaceSam

open Devlib

/-- A call of `surface_sam_ssh_rqst_unlocked` and what happens during it. -/
structure SshCall where
  rqst : SurfaceSamSshRqst
  result : Option SurfaceSamSshBuf
  acts : List (Act SshLine)

/-- What can be said about a call afterwards: the counters it started with, and what
happened between driver and line. -/
structure SshCallRecord where
  counter : SshCounters
  trace : List SshObs
  deriving DecidableEq, Repr

/-- A write that did not fail. -/
def SshObs.isHandedOut : SshObs → Bool
  | .write _ status => 0 ≤ status
  | _ => false

namespace SshCallRecord

/-- The sequence number its command message carries. -/
def seq (c : SshCallRecord) : UInt8 := c.counter.seq

/-- The request id its command message carries. -/
def rqid (c : SshCallRecord) : UInt16 := samRqidToRqst c.counter.rqid

/-- A command message was handed to the serial device. -/
def HandedOut (c : SshCallRecord) : Prop := ∃ o ∈ c.trace, o.isHandedOut

/-- The call took an ACK from the FIFO. -/
def Acked (c : SshCallRecord) : Prop := ∃ o ∈ c.trace, o.IsAckPacket
  deriving Decidable

end SshCallRecord

/-- The calls one after the other; `none` if one of them is not finished by its actions. -/
def runCalls (E : SshEnv) : List SshCall → SamSshEc → Option (List SshCallRecord × SamSshEc)
  | [], ec => some ([], ec)
  | c :: cs, ec =>
    (Prog.run (SshLine.step E) c.acts (surfaceSamSshRqstUnlocked E c.rqst c.result) ec).bind
      fun r => (runCalls E cs r.2).map fun rest =>
        (⟨ec.counter, r.2.trace.drop ec.trace.length⟩ :: rest.1, rest.2)

/-- The controller may send `m` as a reply to a command message of the call. -/
def SamReply (c : SshCallRecord) : SshMessage → Prop
  | .ctrl m => m.kind = .ack ∧ m.seq = c.seq
  | .cmd m => m.rqid = c.rqid

/-- What is observed when the receiver accepts the message. -/
def SshMessage.obs : SshMessage → SshObs
  | .ctrl m => .ctrl m.kind.type m.seq
  | .cmd m => .cmd m.len m.seq m.rqid m.pld

/-- Two calls differ in sequence number and request id, and no reply to the first is
accepted during the second. -/
structure SshKeptApart (c d : SshCallRecord) : Prop where
  seq : c.seq ≠ d.seq
  rqid : c.rqid ≠ d.rqid
  replies : ∀ m, SamReply c m → m.obs ∉ d.trace

/-! ### The counters over a run -/

/-- Between two calls in a row. -/
def SshNext (c d : SshCallRecord) : Prop :=
  (c.Acked → d.counter = c.counter.advance) ∧ (¬c.Acked → d.counter = c.counter)

section Runs

variable {E : SshEnv} {calls : List SshCall} {ec ec' : SamSshEc} {recs : List SshCallRecord}

lemma runCalls_cons {c : SshCall} (h : runCalls E (c :: calls) ec = some (recs, ec')) :
    ∃ r rest, Prog.run (SshLine.step E) c.acts
        (surfaceSamSshRqstUnlocked E c.rqst c.result) ec = some r ∧
      runCalls E calls r.2 = some (rest, ec') ∧
      recs = ⟨ec.counter, r.2.trace.drop ec.trace.length⟩ :: rest := by
  obtain ⟨r, hr, hmap⟩ := Option.bind_eq_some_iff.mp h
  obtain ⟨⟨rest, ec''⟩, hrest, heq⟩ := Option.map_eq_some_iff.mp hmap
  obtain ⟨rfl, rfl⟩ := Prod.mk.inj heq
  exact ⟨r, rest, hr, hrest, rfl⟩

/-- The record of a first call shows what its postcondition says. -/
lemma runCalls_first {c : SshCall} {r : (ℤ × Option SurfaceSamSshBuf) × SamSshEc} (hidle : ec.Idle)
    (hrun : Prog.run (SshLine.step E) c.acts (surfaceSamSshRqstUnlocked E c.rqst c.result) ec =
      some r) :
    SshRqstPost E c.rqst c.result ec (r.2.trace.drop ec.trace.length) r.1 r.2 := by
  obtain ⟨τ, hpost⟩ :=
    surfaceSamSshRqstUnlocked_spec E c.rqst c.result c.acts ec r.2 r.1 hidle hrun
  have hτ : r.2.trace.drop ec.trace.length = τ := by
    rw [hpost.trace, List.drop_left' rfl]
  rw [hτ]
  exact hpost

/-- In a run the counters go from call to call, and a call accepts only replies that match
its own sequence number and request id. -/
lemma runCalls_spec (hidle : ec.Idle) (h : runCalls E calls ec = some (recs, ec')) :
    (∀ c ∈ recs.head?, c.counter = ec.counter) ∧ recs.IsChain SshNext ∧
      ∀ c ∈ recs, ∃ pld, ∀ o ∈ c.trace, o.Matches ⟨pld, c.seq, c.rqid⟩ := by
  induction calls generalizing ec recs with
  | nil =>
    cases h
    exact ⟨by simp, .nil, by simp⟩
  | cons c calls ih =>
    obtain ⟨r, rest, hrun, hrest, rfl⟩ := runCalls_cons h
    have hpost := runCalls_first hidle hrun
    obtain ⟨hhead, hchain, hmatch⟩ := ih ⟨hpost.state, hpost.fifo⟩ hrest
    refine ⟨by simp, ?_, ?_⟩
    · rw [List.isChain_cons]
      refine ⟨fun d hd => ?_, hchain⟩
      unfold SshNext
      rw [hhead d hd]
      exact ⟨hpost.acked, hpost.notAcked⟩
    · intro d hd
      rcases List.mem_cons.mp hd with rfl | hd
      · exact ⟨_, hpost.matching⟩
      · exact hmatch d hd

/-- From one call to a later one, the counters have advanced once for each acknowledged
call between them. -/
lemma counter_of_chain (hchain : recs.IsChain SshNext) (i d : ℕ) (hd : i + d < recs.length) :
    ∃ m ≤ d, recs[i + d].counter.seq = recs[i].counter.seq + UInt8.ofNat m ∧
      recs[i + d].counter.rqid = recs[i].counter.rqid + UInt16.ofNat m ∧
      (0 < m ↔ ∃ k, ∃ hk : k < i + d, i ≤ k ∧ recs[k].Acked) := by
  induction d with
  | zero =>
    refine ⟨0, Nat.le_refl 0, by simp, by simp, by simp, ?_⟩
    rintro ⟨k, hk, hik, -⟩
    omega
  | succ d ih =>
    obtain ⟨m, hm, hseq, hrqid, hpos⟩ := ih (by omega)
    obtain ⟨hacked, hnot⟩ := List.isChain_iff_getElem.mp hchain (i + d) (by omega)
    by_cases hack : recs[i + d].Acked
    · have hnext := hacked hack
      refine ⟨m + 1, by omega, ?_, ?_, fun _ => ⟨i + d, by omega, by omega, hack⟩,
        fun _ => by omega⟩
      · have hs := congrArg SshCounters.seq hnext
        simp only [SshCounters.advance, hseq] at hs
        rw [UInt8.ofNat_add, ← UInt8.add_assoc]
        exact hs
      · have hr := congrArg SshCounters.rqid hnext
        simp only [SshCounters.advance, hrqid] at hr
        rw [UInt16.ofNat_add, ← UInt16.add_assoc]
        exact hr
    · have hnext := hnot hack
      refine ⟨m, by omega, ?_, ?_, ?_⟩
      · rw [← hseq]
        exact congrArg SshCounters.seq hnext
      · rw [← hrqid]
        exact congrArg SshCounters.rqid hnext
      · rw [hpos]
        constructor
        · rintro ⟨k, hk, hik, hka⟩
          exact ⟨k, by omega, hik, hka⟩
        · rintro ⟨k, hk, hik, hka⟩
          have hne : k ≠ i + d := by
            rintro rfl
            exact hack hka
          exact ⟨k, by omega, hik, hka⟩

end Runs

/-! ### Wrapping counters -/

lemma seq_add_ne {seq : UInt8} {m : ℕ} (hpos : 0 < m) (hm : m ≤ 255) :
    seq ≠ seq + UInt8.ofNat m := by
  intro h
  have hlt := seq.toNat_lt
  have hnat := congrArg UInt8.toNat h
  rw [UInt8.toNat_add, UInt8.toNat_ofNat'] at hnat
  omega

/-- The upper five bits of the counter are shifted out of the request id. -/
lemma toNat_samRqidToRqst (rqid : UInt16) :
    (samRqidToRqst rqid).toNat = rqid.toNat * 32 % 65536 := by
  rw [samRqidToRqst, UInt16.toNat_shiftLeft]
  change rqid.toNat <<< 5 % 2 ^ 16 = _
  rw [Nat.shiftLeft_eq]

lemma rqid_add_ne {rqid : UInt16} {m : ℕ} (hpos : 0 < m) (hm : m < 2048) :
    samRqidToRqst rqid ≠ samRqidToRqst (rqid + UInt16.ofNat m) := by
  intro h
  have hnat := congrArg UInt16.toNat h
  rw [toNat_samRqidToRqst, toNat_samRqidToRqst, UInt16.toNat_add, UInt16.toNat_ofNat'] at hnat
  omega

/-- A reply to another request id and sequence number does not match. -/
lemma SamReply.not_mem {c d : SshCallRecord} {m : SshMessage} {pld : Bool} (h : SamReply c m)
    (hseq : c.seq ≠ d.seq) (hrqid : c.rqid ≠ d.rqid)
    (hmatch : ∀ o ∈ d.trace, o.Matches ⟨pld, d.seq, d.rqid⟩) : m.obs ∉ d.trace := by
  intro hmem
  have hm := hmatch _ hmem
  cases m with
  | ctrl m =>
    obtain ⟨hkind, hs⟩ := h
    have hsame : m.seq = d.seq := hm (by rw [hkind]; rfl)
    exact hseq (hs ▸ hsame)
  | cmd m =>
    have hsame : m.rqid = d.rqid := hm
    exact hrqid (h ▸ hsame)

/-- In every run of requests, a call and a later one with fewer than 255 calls between them
are kept apart exactly if some call from the first on and before the second has taken an
ACK. -/
theorem sshKeptApart_iff (E : SshEnv) (calls : List SshCall) (ec ec' : SamSshEc)
    (recs : List SshCallRecord) (hidle : ec.Idle)
    (hrun : runCalls E calls ec = some (recs, ec')) (i j : ℕ) (hij : i < j)
    (hj : j < recs.length) (hgap : j - i - 1 < 255) :
    SshKeptApart recs[i] recs[j] ↔ ∃ k, ∃ hk : k < j, i ≤ k ∧ recs[k].Acked := by
  obtain ⟨-, hchain, hmatch⟩ := runCalls_spec hidle hrun
  obtain ⟨d, rfl⟩ := Nat.exists_eq_add_of_lt hij
  obtain ⟨m, hm, hseq, hrqid, hpos⟩ := counter_of_chain hchain i (d + 1) hj
  refine Iff.trans ?_ hpos
  constructor
  · intro h
    by_contra hzero
    obtain rfl : m = 0 := by omega
    have hsame : recs[i].counter.seq = recs[i + (d + 1)].counter.seq := by
      rw [hseq]
      exact (UInt8.add_zero _).symm
    exact h.seq hsame
  · intro hlt
    have hne : recs[i].seq ≠ recs[i + (d + 1)].seq := by
      unfold SshCallRecord.seq
      rw [hseq]
      exact seq_add_ne hlt (by omega)
    have hne' : recs[i].rqid ≠ recs[i + (d + 1)].rqid := by
      unfold SshCallRecord.rqid
      rw [hrqid]
      exact rqid_add_ne hlt (by omega)
    obtain ⟨pld, hlast⟩ := hmatch _ (List.getElem_mem hj)
    exact ⟨hne, hne', fun r hr => hr.not_mem hne hne' hlast⟩

/-! ### Behind the resume request -/

/-- The bytes of a message arrive as one chunk. -/
def receiveMsg (m : SshMessage) : Act SshLine :=
  .event ⟨fun i => (m.bytes kernelEnv).getD i 0, (m.bytes kernelEnv).length⟩

lemma length_resumeAnswer : ([0] : List UInt8).length ≤ surfaceSamSshMaxRqstPayload := by decide

/-- The request of the probe that resumes the EC, acknowledged and answered. -/
def resumeCall : SshCall where
  rqst := controlRqst 0x16
  result := some controlBuf
  acts := [.step 0, .step 0, .step 18, receiveMsg (.ctrl ⟨.ack, 0, 0, 0⟩), .step 0, .step 0,
    .step 0, receiveMsg (.cmd ⟨0, 1, 1, 0, 1, 0, 0, 0, 0x16, [0], length_resumeAnswer⟩), .step 0,
    .step 0, .step 0, .step 0, .step 10, .step 0]

/-- Three writes, and no ACK. -/
def unansweredActs : List (Act SshLine) :=
  [.step 0, .step 0, .step 18, .timeout, .step 18, .timeout, .step 18, .timeout, .step 0]

/-- What is to be seen of the last two of three calls. -/
def lastTwo (p : SshCallRecord → SshCallRecord → Bool) : List SshCallRecord → Bool
  | [_, c, d] => p c d
  | _ => false

lemma exists_of_lastTwo {E : SshEnv} {calls : List SshCall} {ec : SamSshEc}
    {p : SshCallRecord → SshCallRecord → Bool}
    (h : (runCalls E calls ec).any (fun r => lastTwo p r.1) = true) :
    ∃ b c d ec', runCalls E calls ec = some ([b, c, d], ec') ∧ p c d = true := by
  obtain ⟨⟨recs, ec'⟩, hrun, hrecs⟩ := (Option.any_eq_true _ _).mp h
  match recs, hrecs with
  | [b, c, d], hrecs => exact ⟨b, c, d, ec', hrun, hrecs⟩

/-- The resume request and two further ones, the first of which is acknowledged. -/
def ackedThenUnanswered : List SshCall :=
  let rqst : SurfaceSamSshRqst := ⟨1, 2, 3, 0, 0, fun _ => 0⟩
  [resumeCall,
    ⟨rqst, none, [.step 0, .step 0, .step 18, receiveMsg (.ctrl ⟨.ack, 0, 0, 1⟩), .step 0, .step 0,
      .step 0, .step 0]⟩,
    ⟨rqst, none, unansweredActs⟩]

/-- The two requests behind the resume request are both handed to the serial device. -/
theorem sshKeptApart_after_ack : ∃ b c d ec', runCalls kernelEnv ackedThenUnanswered
      (initializeReceiver sshEc (fun _ => 0)).ec = some ([b, c, d], ec') ∧
    c.HandedOut ∧ d.HandedOut ∧ SshKeptApart c d := by
  have hany : (runCalls kernelEnv ackedThenUnanswered
      (initializeReceiver sshEc (fun _ => 0)).ec).any (fun r => lastTwo (fun c d =>
        decide (c.Acked ∧ (∃ o ∈ c.trace, o.isHandedOut) ∧ ∃ o ∈ d.trace, o.isHandedOut)) r.1) =
      true := by decide +kernel
  obtain ⟨b, c, d, ec', hrun, hcd⟩ := exists_of_lastTwo hany
  obtain ⟨hack, hwc, hwd⟩ := of_decide_eq_true hcd
  have hlen : 2 < [b, c, d].length := Nat.lt_succ_self 2
  have happart := sshKeptApart_iff kernelEnv _ _ ec' [b, c, d] ⟨rfl, rfl⟩ hrun 1 2 (by decide) hlen
    (by decide)
  exact ⟨b, c, d, ec', hrun, hwc, hwd, happart.mpr ⟨1, by decide, by decide, hack⟩⟩

/-! ### A late reply -/

/-- The resume request, and two further requests for a response. The first of these is not
answered in time; during the second, only the ACK and the response to the first arrive. -/
def lateReply : List SshCall :=
  let rqst : SurfaceSamSshRqst := ⟨1, 2, 3, 1, 0, fun _ => 0⟩
  let result : Option SurfaceSamSshBuf := some ⟨4, 0, fun _ => 0⟩
  [resumeCall,
    ⟨rqst, result, unansweredActs⟩,
    ⟨rqst, result, [.step 0, .step 0, .step 18, receiveMsg (.ctrl ⟨.ack, 0, 0, 1⟩), .step 0,
      .step 0, .step 0, receiveMsg (.cmd ⟨0, 9, 1, 0, 1, 2, 0x20, 0, 3, [7, 8], by decide⟩),
      .step 0, .step 0, .step 0, .step 0, .step 10, .step 0]⟩]

/-- Both requests carry sequence number 1 and request id 0x0020, and the second takes the reply
to the first for its own. -/
theorem lateReply_taken : ∃ b c d ec', runCalls kernelEnv lateReply
      (initializeReceiver sshEc (fun _ => 0)).ec = some ([b, c, d], ec') ∧
    c.HandedOut ∧ d.HandedOut ∧ ¬SshKeptApart c d ∧
    .ctrl sshFrameTypeAck c.seq ∈ d.trace ∧ .cmd 10 9 c.rqid [7, 8] ∈ d.trace := by
  have hany : (runCalls kernelEnv lateReply
      (initializeReceiver sshEc (fun _ => 0)).ec).any (fun r => lastTwo (fun c d =>
        decide ((c.counter = ⟨1, 1⟩ ∧ d.counter = ⟨1, 1⟩) ∧
          (∃ o ∈ c.trace, o.isHandedOut) ∧ (∃ o ∈ d.trace, o.isHandedOut) ∧
          .ctrl sshFrameTypeAck 1 ∈ d.trace ∧ .cmd 10 9 0x20 [7, 8] ∈ d.trace)) r.1) =
      true := by decide +kernel
  obtain ⟨b, c, d, ec', hrun, hcd⟩ := exists_of_lastTwo hany
  obtain ⟨⟨hc, hd⟩, hwc, hwd, hack, hcmd⟩ := of_decide_eq_true hcd
  have hseq : c.seq = 1 := congrArg SshCounters.seq hc
  have hrqid : c.rqid = 0x20 := by
    unfold SshCallRecord.rqid
    rw [hc]
    decide
  refine ⟨b, c, d, ec', hrun, hwc, hwd, ?_, ?_, ?_⟩
  · intro h
    exact h.seq (congrArg SshCounters.seq (hc.trans hd.symm))
  · rw [hseq]
    exact hack
  · rw [hrqid]
    exact hcmd

end SurfaceSam
