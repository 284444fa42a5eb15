import SurfaceSam.Ssh.Encoding
import SurfaceSam.Ssh.Matching

/-!
# Request ids

The id of a request is a counter of acknowledged requests, shifted by the event bits. It is
computed twice, for the command message and for what the receiver waits for, and after each
2048 acknowledged requests it is zero.
-/

namespace SurfaceSam

open Devlib

/-- The request id in a command message. -/
def msgRqid (data : List UInt8) : UInt16 := rqidOf (data.getD 13 0) (data.getD 14 0)

/-- The message has a command frame, like a request and unlike an ACK. -/
def isCmdMsg (data : List UInt8) : Prop := data.getD 2 0 = sshFrameTypeCmd
  deriving Decidable

/-- The requests that have been acknowledged. -/
def ackedCalls (recs : List SshCallRecord) : List SshCallRecord := recs.filter fun d => d.Acked

/-- The request between `ec` and `ec'` has used one request id, for the messages that it has
written and for what the receiver has waited for; the id is valid, and none of the last 2046
acknowledged requests before it, out of `recs`, has had it. -/
structure SshRqidOk (recs : List SshCallRecord) (ec ec' : SamSshEc) : Prop where
  written : ∀ data status, .write data status ∈ ec'.trace.drop ec.trace.length →
    isCmdMsg data → msgRqid data = ec'.receiver.expect.rqid
  valid : ec'.receiver.expect.rqid ≠ 0
  request : samRqidIsEvent ec'.receiver.expect.rqid = false
  fresh : ∀ d ∈ (ackedCalls recs).reverse.take 2046, d.rqid ≠ ec'.receiver.expect.rqid

section Steps

variable {E : SshEnv} {rqst : SurfaceSamSshRqst} {ec₀ ec : SamSshEc} {α : Type}

/-- What is or has been written by a request is its command message or an ACK, and the
receiver expects the id of the request. -/
structure SshSingleRqid (E : SshEnv) (rqst : SurfaceSamSshRqst) (ec₀ ec : SamSshEc) : Prop where
  trace : ∃ τ, ec.trace = ec₀.trace ++ τ ∧ ∀ data status, .write data status ∈ τ →
    data = sshMsgCmd E rqst ec₀ ∨ ∃ seq, data = sshMsgAck E seq
  writer : ec.writer = sshMsgCmd E rqst ec₀ ∨ ∃ seq, ec.writer = sshMsgAck E seq
  expect : ec.receiver.expect.rqid = samRqidToRqst ec₀.counter.rqid

/-- One more observation. -/
lemma SshSingleRqid.observe {ec' : SamSshEc} {o : SshObs} (h : SshSingleRqid E rqst ec₀ ec)
    (htrace : ec'.trace = ec.trace ++ [o]) (hwriter : ec'.writer = ec.writer)
    (hexpect : ec'.receiver.expect = ec.receiver.expect)
    (ho : ∀ data status, o = .write data status → data = ec.writer) :
    SshSingleRqid E rqst ec₀ ec' := by
  obtain ⟨⟨τ, hτ, hwrites⟩, hw, hx⟩ := h
  refine ⟨⟨τ ++ [o], ?_, fun data status hmem => ?_⟩, ?_, ?_⟩
  · rw [htrace, hτ, List.append_assoc]
  · cases List.mem_append.mp hmem with
    | inl hold => exact hwrites data status hold
    | inr hnew =>
      rw [ho data status (List.mem_singleton.mp hnew).symm]
      exact hw
  · rw [hwriter]
    exact hw
  · rw [hexpect]
    exact hx

/-- A step that does not observe anything. -/
lemma SshSingleRqid.congr {ec' : SamSshEc} (h : SshSingleRqid E rqst ec₀ ec)
    (htrace : ec'.trace = ec.trace) (hwriter : ec'.writer = ec.writer)
    (hexpect : ec'.receiver.expect = ec.receiver.expect) : SshSingleRqid E rqst ec₀ ec' := by
  refine ⟨?_, ?_, ?_⟩
  · rw [htrace]
    exact h.trace
  · rw [hwriter]
    exact h.writer
  · rw [hexpect]
    exact h.expect

lemma SshSingleRqid.stable : Prog.Stable (SshLine.step E) (SshSingleRqid E rqst ec₀) := by
  intro l ec h
  have hstep := l.step_recv (E := E) ec
  generalize l.step E ec = ec' at hstep
  cases hstep with
  | none htrace hreceiver hcounter hwriter => exact h.congr htrace hwriter (by rw [hreceiver])
  | ctrl type seq heq =>
    rw [heq]
    exact h.observe rfl rfl rfl nofun
  | cmd len seq pld heq =>
    rw [heq]
    exact h.observe rfl rfl rfl nofun

lemma keeps_sshWriterFlush : sshWriterFlush.Keeps (SshSingleRqid E rqst ec₀) := by
  refine ⟨fun status ec h => h.observe rfl rfl rfl ?_, fun _ => trivial⟩
  intro data status' heq
  cases heq
  rfl

lemma keeps_waitForCompletionTimeout :
    waitForCompletionTimeout.Keeps (SshSingleRqid E rqst ec₀) :=
  ⟨fun _ h => h.congr rfl rfl rfl, fun _ => trivial⟩

lemma keeps_kfifoOutPacket (packet : SshFifoPacket) :
    (kfifoOutPacket packet).Keeps (SshSingleRqid E rqst ec₀) :=
  ⟨fun _ h => h.observe rfl rfl rfl nofun, fun _ => trivial⟩

lemma keeps_kfifoOutResult (result : SurfaceSamSshBuf) (len : UInt8) :
    (kfifoOutResult result len).Keeps (SshSingleRqid E rqst ec₀) :=
  ⟨fun _ h => h.congr rfl rfl rfl, fun _ => trivial⟩

lemma keeps_sshSendCommand (tries : ℕ) (packet : SshFifoPacket) :
    (sshSendCommand tries packet).Keeps (SshSingleRqid E rqst ec₀) := by
  induction tries generalizing packet with
  | zero => trivial
  | succ tries ih =>
    apply keeps_sshWriterFlush.bind
    intro status
    by_cases hstatus : status = 0
    · rw [if_neg (not_not_intro hstatus)]
      apply keeps_waitForCompletionTimeout.bind
      intro signalled
      cases signalled with
      | true =>
        rw [if_pos rfl]
        apply (keeps_kfifoOutPacket packet).bind
        intro packet'
        by_cases htype : packet'.type = sshFrameTypeAck
        · rw [if_pos htype]
          trivial
        · rw [if_neg htype]
          exact ih packet'
      | false => exact ih packet
    · rw [if_pos hstatus]
      trivial

lemma keeps_sshGetResponse (result : SurfaceSamSshBuf) (packet : SshFifoPacket) :
    (sshGetResponse E result packet).Keeps (SshSingleRqid E rqst ec₀) := by
  apply keeps_waitForCompletionTimeout.bind
  intro signalled
  cases signalled with
  | false => trivial
  | true =>
    rw [if_pos rfl]
    apply (keeps_kfifoOutPacket packet).bind
    intro packet'
    by_cases hcap : result.cap < packet'.len
    · rw [if_pos hcap]
      trivial
    · rw [if_neg hcap]
      apply (keeps_kfifoOutResult result packet'.len).bind
      intro result'
      refine ⟨fun ec h => ⟨h.trace, .inr ⟨packet'.seq, rfl⟩, h.expect⟩, fun _ => ?_⟩
      exact keeps_sshWriterFlush.bind fun _ => trivial

lemma keeps_sshTransact (result : Option SurfaceSamSshBuf) :
    (sshTransact E rqst result).Keeps (SshSingleRqid E rqst ec₀) := by
  apply (keeps_sshSendCommand sshNumRetry ⟨0, 0, 0⟩).bind
  intro sent
  cases sent with
  | failed status => trivial
  | gaveUp => trivial
  | acked packet =>
    refine ⟨fun ec h => h.congr rfl rfl rfl, fun _ => ?_⟩
    cases result with
    | none => trivial
    | some result =>
      change Prog.Keeps _ (if rqst.snc ≠ 0 then _ else _)
      by_cases hsnc : rqst.snc = 0
      · rw [if_neg (not_not_intro hsnc)]
        trivial
      · rw [if_pos hsnc]
        exact (keeps_sshGetResponse result packet).bind fun _ => trivial

/-- A request that is sent uses a single request id. -/
lemma wp_surfaceSamSshRqstUnlocked_rqid (result : Option SurfaceSamSshBuf) (hidle : ec₀.Idle)
    (hcdl : rqst.cdl.toNat ≤ surfaceSamSshMaxRqstPayload) :
    Prog.wp (SshLine.step E) (surfaceSamSshRqstUnlocked E rqst result)
      (fun _ => SshSingleRqid E rqst ec₀) ec₀ := by
  unfold surfaceSamSshRqstUnlocked
  rw [if_neg (Nat.not_lt_of_le hcdl)]
  have hstart : SshUntouched ec₀ ec₀.writer ec₀ := ⟨hidle, rfl, rfl, rfl⟩
  refine Prog.wp_atomic SshUntouched.stable hstart (fun t ht => ?_)
  have hwritten : SshUntouched ec₀ (sshMsgCmd E rqst ec₀) (t.sshWriteMsgCmd E rqst) :=
    ⟨⟨ht.idle.state, ht.idle.fifo⟩, ht.trace, ht.counter, sshMsgCmd_congr ht.counter⟩
  refine Prog.wp_atomic SshUntouched.stable hwritten (fun u hu => ?_)
  have hrestart : SshSingleRqid E rqst ec₀ (u.sshReceiverRestart rqst) := by
    refine ⟨⟨[], ?_, nofun⟩, .inl hu.writer, ?_⟩
    · rw [List.append_nil]
      exact hu.trace
    · rw [← hu.counter]
      rfl
  refine Prog.Keeps.wp ?_ SshSingleRqid.stable hrestart
  apply (keeps_sshTransact result).bind
  intro r
  exact ⟨fun ec h => h.congr rfl rfl rfl, fun _ => trivial⟩

end Steps

/-! ### The counter over a run -/

section Runs

variable {E : SshEnv} {calls : List SshCall} {ec ec' : SamSshEc} {recs : List SshCallRecord}

lemma ackedCalls_cons_of_acked {d : SshCallRecord} (h : d.Acked) :
    ackedCalls (d :: recs) = d :: ackedCalls recs := List.filter_cons_of_pos (decide_eq_true h)

lemma ackedCalls_cons_of_not {d : SshCallRecord} (h : ¬d.Acked) :
    ackedCalls (d :: recs) = ackedCalls recs :=
  List.filter_cons_of_neg fun hd => h (of_decide_eq_true hd)

lemma rqid_succ_add {c : UInt16} (n : ℕ) : c + 1 + UInt16.ofNat n = c + UInt16.ofNat (n + 1) := by
  rw [UInt16.ofNat_add, UInt16.add_comm (UInt16.ofNat n), UInt16.add_assoc]
  rfl

/-- The counter counts the acknowledged requests, and each of them has had its own count. -/
lemma runCalls_rqid (hidle : ec.Idle) (h : runCalls E calls ec = some (recs, ec')) :
    ec'.Idle ∧ ec'.counter.rqid = ec.counter.rqid + UInt16.ofNat (ackedCalls recs).length ∧
      ∀ n (hn : n < (ackedCalls recs).length),
        (ackedCalls recs)[n].counter.rqid = ec.counter.rqid + UInt16.ofNat n := by
  induction calls generalizing ec recs with
  | nil =>
    cases h
    exact ⟨hidle, (UInt16.add_zero _).symm, nofun⟩
  | cons c calls ih =>
    obtain ⟨r, rest, hrun, hrest, rfl⟩ := runCalls_cons h
    have hpost := runCalls_first hidle hrun
    obtain ⟨hidle', hcounter, hcounts⟩ := ih ⟨hpost.state, hpost.fifo⟩ hrest
    have hacked := hpost.acked
    have hnot := hpost.notAcked
    refine ⟨hidle', ?_⟩
    by_cases hack : SshCallRecord.Acked ⟨ec.counter, r.2.trace.drop ec.trace.length⟩
    · have hone : r.2.counter.rqid = ec.counter.rqid + 1 := by
        rw [hacked hack]
        rfl
      rw [hone] at hcounter hcounts
      simp only [ackedCalls_cons_of_acked hack]
      refine ⟨hcounter.trans (rqid_succ_add _), fun n hn => ?_⟩
      cases n with
      | zero => exact (UInt16.add_zero _).symm
      | succ n => exact (hcounts n (Nat.lt_of_succ_lt_succ hn)).trans (rqid_succ_add n)
    · rw [hnot hack] at hcounter hcounts
      simp only [ackedCalls_cons_of_not hack]
      exact ⟨hcounter, hcounts⟩

/-- The last of the acknowledged requests have had the counts right below. -/
lemma rqid_of_recent {c₀ : UInt16} {n : ℕ} {d : SshCallRecord} {acked : List SshCallRecord}
    (hcounts : ∀ n (hn : n < acked.length), acked[n].counter.rqid = c₀ + UInt16.ofNat n)
    (hd : d ∈ acked.reverse.take n) :
    ∃ m, 0 < m ∧ m ≤ n ∧ c₀ + UInt16.ofNat acked.length = d.counter.rqid + UInt16.ofNat m := by
  obtain ⟨k, hk, rfl⟩ := List.mem_iff_getElem.mp hd
  rw [List.length_take, List.length_reverse] at hk
  refine ⟨k + 1, Nat.succ_pos k, by omega, ?_⟩
  have hsum : acked.length - 1 - k + (k + 1) = acked.length := by omega
  rw [List.getElem_take, List.getElem_reverse, hcounts, UInt16.add_assoc, ← UInt16.ofNat_add, hsum]

end Runs

lemma samRqidToRqst_ofNat_ne_zero (n : ℕ) :
    samRqidToRqst (0 + UInt16.ofNat n) ≠ 0 ↔ n % 2048 ≠ 0 := by
  have hzero : samRqidToRqst (0 + UInt16.ofNat n) = 0 ↔
      (samRqidToRqst (0 + UInt16.ofNat n)).toNat = 0 := UInt16.toNat_inj.symm
  rw [Ne, hzero, toNat_samRqidToRqst, UInt16.zero_add, UInt16.toNat_ofNat']
  omega

/-- After any run of requests from the first of the probe on, a request that is sent uses a
request id as it should if and only if the number of requests acknowledged before is no multiple
of 2048. -/
theorem sshRqst_rqid_iff (E : SshEnv) (evalBuf : Memory UInt8) (calls : List SshCall)
    (recs : List SshCallRecord) (ec ec' : SamSshEc) (c : SshCall)
    (r : ℤ × Option SurfaceSamSshBuf)
    (hrun : runCalls E calls (initializeReceiver sshEc evalBuf).ec = some (recs, ec))
    (hcdl : c.rqst.cdl.toNat ≤ surfaceSamSshMaxRqstPayload)
    (hcall : Prog.run (SshLine.step E) c.acts (surfaceSamSshRqstUnlocked E c.rqst c.result) ec =
      some (r, ec')) :
    SshRqidOk recs ec ec' ↔ (ackedCalls recs).length % 2048 ≠ 0 := by
  obtain ⟨hidle, hcounter, hcounts⟩ := runCalls_rqid ⟨rfl, rfl⟩ hrun
  have hwp := wp_surfaceSamSshRqstUnlocked_rqid (E := E) c.result hidle hcdl
  have hsingle : SshSingleRqid E c.rqst ec ec' :=
    Prog.run_wp (Q := fun _ => SshSingleRqid E c.rqst ec) hwp hcall
  have hexpect := hsingle.expect
  have hvalid : ec'.receiver.expect.rqid ≠ 0 ↔ (ackedCalls recs).length % 2048 ≠ 0 := by
    rw [hexpect, hcounter]
    exact samRqidToRqst_ofNat_ne_zero _
  refine ⟨fun h => hvalid.mp h.valid, fun h => ⟨?_, hvalid.mpr h, ?_, ?_⟩⟩
  · intro data status hmem hcmd
    obtain ⟨τ, hτ, hwrites⟩ := hsingle.trace
    rw [hτ, List.drop_left' rfl] at hmem
    rw [hexpect]
    cases hwrites data status hmem with
    | inl heq =>
      rw [heq]
      exact rqidOf_bytes _
    | inr hack =>
      obtain ⟨seq, heq⟩ := hack
      rw [heq] at hcmd
      exact absurd hcmd (by decide : (0x40 : UInt8) ≠ 0x80)
  · rw [hexpect]
    exact samRqidIsEvent_samRqidToRqst _
  · intro d hd
    obtain ⟨m, hpos, hm, heq⟩ := rqid_of_recent hcounts hd
    rw [hexpect, hcounter, heq]
    exact rqid_add_ne hpos (by omega)

/-- A request behind the resume request, which nothing answers. -/
def secondCall : SshCall := ⟨⟨1, 2, 3, 0, 0, fun _ => 0⟩, none, unansweredActs⟩

/-- The first request behind the resume request is sent with the id 0x0020. -/
theorem sshRqst_rqid_second : ∃ recs ec r ec',
    runCalls kernelEnv [resumeCall] (initializeReceiver sshEc fun _ => 0).ec = some (recs, ec) ∧
    Prog.run (SshLine.step kernelEnv) secondCall.acts
      (surfaceSamSshRqstUnlocked kernelEnv secondCall.rqst none) ec = some (r, ec') ∧
    SshRqidOk recs ec ec' := by
  have hany : (runCalls kernelEnv [resumeCall] (initializeReceiver sshEc fun _ => 0).ec).any
      (fun q => (ackedCalls q.1).length = 1 ∧ (Prog.run (SshLine.step kernelEnv) secondCall.acts
        (surfaceSamSshRqstUnlocked kernelEnv secondCall.rqst none) q.2).isSome) = true := by
    decide +kernel
  obtain ⟨⟨recs, ec⟩, hrun, hq⟩ := (Option.any_eq_true _ _).mp hany
  obtain ⟨hone, hsome⟩ := of_decide_eq_true hq
  obtain ⟨⟨r, ec'⟩, hcall⟩ := Option.isSome_iff_exists.mp hsome
  have hok := sshRqst_rqid_iff kernelEnv _ _ recs ec ec' secondCall r hrun (by decide) hcall
  refine ⟨recs, ec, r, ec', hrun, hcall, hok.mpr ?_⟩
  rw [hone]
  decide

/-- The resume request of the probe, which succeeds, is sent with the id 0x0000, which is not
valid. -/
theorem sshRqst_rqid_zero : ∃ result ec',
    Prog.run (SshLine.step kernelEnv) resumeCall.acts
      (surfaceSamSshRqstUnlocked kernelEnv resumeCall.rqst resumeCall.result)
      (initializeReceiver sshEc fun _ => 0).ec = some ((0, result), ec') ∧
    (∃ data, .write data 18 ∈ ec'.trace ∧ isCmdMsg data ∧ msgRqid data = 0) ∧
    ¬SshRqidOk [] (initializeReceiver sshEc fun _ => 0).ec ec' := by
  have hany : (Prog.run (SshLine.step kernelEnv) resumeCall.acts
      (surfaceSamSshRqstUnlocked kernelEnv resumeCall.rqst resumeCall.result)
      (initializeReceiver sshEc fun _ => 0).ec).any (fun q => q.1.1 = 0 ∧
        q.2.receiver.expect.rqid = 0 ∧
        .write [170, 85, 128, 8, 0, 0, 89, 240, 128, 1, 1, 0, 0, 0, 0, 22, 137, 67] 18 ∈ q.2.trace) =
      true := by
    decide +kernel
  obtain ⟨⟨⟨status, result⟩, ec'⟩, hrun, hq⟩ := (Option.any_eq_true _ _).mp hany
  obtain ⟨rfl, hzero, hwrite⟩ := of_decide_eq_true hq
  exact ⟨result, ec', hrun, ⟨_, hwrite, by decide, by decide⟩, fun h => h.valid hzero⟩

end SurfaceSam
