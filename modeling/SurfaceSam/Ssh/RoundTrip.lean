import SurfaceSam.Ssh.Completion
import SurfaceSam.Ssh.Encoding

/-!
# Requests that are answered

The converse of what is known about a request that returns 0. When the ACK of its message and
then a response come in, the request ends by itself and returns the payload of that response,
wherever it was when they came and whatever else is received, also if up to two tries have
been answered with RETRY or not at all.
-/

namespace SurfaceSam

open Devlib

/-! ### What has been received -/

/-- How much of the answer to a request has been accepted. -/
inductive SshHeard where
  | nothing
  | acked
  | responded
  deriving DecidableEq

namespace SshQueued

def retry (seq : UInt8) : SshQueued := ⟨⟨sshFrameTypeRetry, seq, 0⟩, []⟩
def ack (seq : UInt8) : SshQueued := ⟨⟨sshFrameTypeAck, seq, 0⟩, []⟩
def response (m : SshCmdMessage) : SshQueued :=
  ⟨⟨sshFrameTypeCmd, m.seq, UInt8.ofNat m.pld.length⟩, m.pld⟩

end SshQueued

namespace SshHeard

def state : SshHeard → SshReceiverState
  | nothing => .control
  | acked => .command
  | responded => .discard

/-- The packets that follow the ACK. -/
def behindAck (m : SshCmdMessage) : SshHeard → List SshQueued
  | responded => [.response m]
  | _ => []

/-- The packets of the answer. -/
def queue (seq : UInt8) (m : SshCmdMessage) : SshHeard → List SshQueued
  | nothing => []
  | heard => .ack seq :: heard.behindAck m

end SshHeard

/-- The receiver when the packets `queue` are in the FIFO and the request has claimed some
signals of them. -/
structure SshHolds (expect : SshExpect) (heard : SshHeard) (queue : List SshQueued)
    (claimed : ℕ) (rcv : SshReceiver) : Prop where
  state : rcv.state = heard.state
  awaited : rcv.expect = expect
  size : rcv.fifo.size = sshReadBufLen
  signal : rcv.signal + claimed = queue.length
  data : rcv.fifo.data = queue.flatMap SshQueued.bytes

/-- The request has not come to the ACK yet: the tries that are left are enough for the RETRY
messages in the FIFO and for `budget` more tries that fail. -/
def SshTrying (expect : SshExpect) (m : SshCmdMessage) (budget : ℕ) (heard : SshHeard)
    (tries claimed : ℕ) (rcv : SshReceiver) : Prop :=
  tries < sshNumRetry ∧ ∃ seqs : List UInt8, seqs.length + budget ≤ tries ∧
    SshHolds expect heard (seqs.map .retry ++ heard.queue expect.seq m) claimed rcv

/-- The result buffer with the payload of the response. -/
def SurfaceSamSshBuf.filled (buf : SurfaceSamSshBuf) (m : SshCmdMessage) : SurfaceSamSshBuf where
  cap := buf.cap
  len := UInt8.ofNat m.pld.length
  data := buf.data.memcpy 0 m.pld

namespace SshPc

/-- A request that is being answered is at one of these points. -/
def Answering (buf : SurfaceSamSshBuf) (expect : SshExpect) (m : SshCmdMessage) (budget : ℕ)
    (heard : SshHeard) (rcv : SshReceiver) : SshPc → Prop
  | flush tries _ => SshTrying expect m budget heard tries 0 rcv
  | waitAck tries _ => SshTrying expect m budget heard tries 0 rcv
  | takeAck tries _ => SshTrying expect m budget heard tries 1 rcv
  | advance _ => heard ≠ .nothing ∧ SshHolds expect heard (heard.behindAck m) 0 rcv
  | waitResponse result _ =>
    result = buf ∧ heard ≠ .nothing ∧ SshHolds expect heard (heard.behindAck m) 0 rcv
  | takeResponse result _ =>
    result = buf ∧ heard = .responded ∧ SshHolds expect heard (heard.behindAck m) 1 rcv
  | takePayload result packet => result = buf ∧ packet.len = UInt8.ofNat m.pld.length ∧
    heard = .responded ∧ rcv.state = .discard ∧ rcv.fifo.data = m.pld
  | writeAck result _ => result = buf.filled m ∧ heard = .responded ∧ rcv.state = .discard
  | flushAck result => result = buf.filled m ∧ heard = .responded ∧ rcv.state = .discard
  | discard status result => status = 0 ∧ result = some (buf.filled m) ∧ heard = .responded ∧
    rcv.state = .discard
  | returned status result => status = 0 ∧ result = some (buf.filled m) ∧ heard = .responded ∧
    rcv.state = .discard
  | _ => False

/-- A bound for the steps the request has left. -/
def rest : SshPc → ℕ
  | flush tries _ => 3 * tries + 10
  | waitAck tries _ => 3 * tries + 9
  | takeAck tries _ => 3 * tries + 8
  | advance _ => 7
  | waitResponse _ _ => 6
  | takeResponse _ _ => 5
  | takePayload _ _ => 4
  | writeAck _ _ => 3
  | flushAck _ => 2
  | discard _ _ => 1
  | _ => 0

end SshPc

/-! ### Steps of the request -/

section Steps

variable {E : SshEnv} {c : SshRqstCall} {buf : SurfaceSamSshBuf} {expect : SshExpect}
  {m : SshCmdMessage} {budget tries : ℕ} {heard : SshHeard} {ec ec' : SamSshEc} {pc pc' : SshPc}
  {v : ℤ} {q : SshQueued} {queue : List SshQueued} {rcv : SshReceiver}

/-- When the completion has been waited for, there is a packet in the FIFO. -/
lemma SshHolds.queue_ne_nil (h : SshHolds expect heard queue 1 rcv) : queue ≠ [] := by
  rintro rfl
  cases h.signal

/-- The request claims a signal. -/
lemma SshHolds.claim (h : SshHolds expect heard queue 0 rcv) (hsignal : 0 < rcv.signal) :
    SshHolds expect heard queue 1 { rcv with signal := rcv.signal - 1 } where
  state := h.state
  awaited := h.awaited
  size := h.size
  signal := by
    have hcount := h.signal
    dsimp only
    omega
  data := h.data

lemma SshHolds.header (h : SshHolds expect heard (q :: queue) 1 ec.receiver) :
    (ec.kfifoOut 3).1 = q.packet.bytes ∧
      (ec.kfifoOut 3).2.receiver.fifo.data = q.pld ++ queue.flatMap SshQueued.bytes := by
  have hdata : ec.receiver.fifo.data =
      q.packet.bytes ++ (q.pld ++ queue.flatMap SshQueued.bytes) := by
    rw [h.data, List.flatMap_cons, SshQueued.bytes, List.append_assoc]
  constructor
  · change ec.receiver.fifo.data.take 3 = _
    rw [hdata]
    exact List.take_left' rfl
  · change ec.receiver.fifo.data.drop 3 = _
    rw [hdata]
    exact List.drop_left' rfl

/-- The request takes a packet without payload. -/
lemma SshHolds.take (h : SshHolds expect heard (q :: queue) 1 ec.receiver) (hpld : q.pld = []) :
    SshHolds expect heard queue 0 (ec.kfifoOut 3).2.receiver where
  state := h.state
  awaited := h.awaited
  size := h.size
  signal := Nat.add_right_cancel h.signal
  data := by
    rw [h.header.2, hpld]
    rfl

/-- Behind the RETRY messages comes the ACK. -/
lemma SshTrying.takeAck (h : SshTrying expect m budget heard tries 1 ec.receiver) :
    ((ec.kfifoOut 3).1 = [sshFrameTypeAck, expect.seq, 0] ∧ heard ≠ .nothing ∧
      SshHolds expect heard (heard.behindAck m) 0 (ec.kfifoOut 3).2.receiver) ∨
    ∃ tries' seq, tries = tries' + 1 ∧ (ec.kfifoOut 3).1 = [sshFrameTypeRetry, seq, 0] ∧
      SshTrying expect m budget heard tries' 0 (ec.kfifoOut 3).2.receiver := by
  obtain ⟨hlt, seqs, hbudget, hholds⟩ := h
  cases seqs with
  | nil =>
    left
    have hqueue : heard.queue expect.seq m ≠ [] := hholds.queue_ne_nil
    have hheard : heard ≠ .nothing := by
      rintro rfl
      exact hqueue rfl
    have hack : heard.queue expect.seq m = .ack expect.seq :: heard.behindAck m := by
      cases heard with
      | nothing => exact absurd rfl hheard
      | acked => rfl
      | responded => rfl
    rw [List.map_nil, List.nil_append, hack] at hholds
    exact ⟨hholds.header.1, hheard, hholds.take rfl⟩
  | cons seq seqs =>
    right
    rw [List.length_cons] at hbudget
    obtain ⟨tries, rfl⟩ : ∃ tries', tries = tries' + 1 := ⟨tries - 1, by omega⟩
    refine ⟨tries, seq, rfl, hholds.header.1, by omega, seqs, by omega, ?_⟩
    exact hholds.take rfl

lemma SshCmdMessage.toNat_length_pld (m : SshCmdMessage) :
    (UInt8.ofNat m.pld.length).toNat = m.pld.length := by
  have hlen := m.length_pld
  simp only [surfaceSamSshMaxRqstPayload] at hlen
  rw [UInt8.toNat_ofNat']
  omega

/-- What a step of the request does while its answer comes in. -/
lemma SshPc.Answering.step (hresult : c.result = some buf) (hsnc : c.rqst.snc ≠ 0)
    (hcap : m.pld.length ≤ buf.cap.toNat) (hv : 0 ≤ v)
    (h : pc.Answering buf expect m budget heard ec.receiver)
    (hstep : c.advanceStep E ec v pc = some (pc', ec')) :
    pc'.Answering buf expect m budget heard ec'.receiver ∧ pc'.rest < pc.rest := by
  cases pc with
  | flush tries packet =>
    simp only [SshRqstCall.advanceStep, if_neg (Int.not_lt.mpr hv)] at hstep
    cases hstep
    exact ⟨h, by simp [SshPc.rest]⟩
  | waitAck tries packet =>
    simp only [SshRqstCall.advanceStep] at hstep
    split_ifs at hstep with hsignal
    cases hstep
    obtain ⟨hlt, seqs, hbudget, hholds⟩ := h
    exact ⟨⟨hlt, seqs, hbudget, hholds.claim hsignal⟩, by simp [SshPc.rest]⟩
  | takeAck tries packet =>
    rcases SshTrying.takeAck h with ⟨hout, hheard, hholds⟩ | ⟨tries', seq, rfl, hout, htrying⟩
    · simp only [SshRqstCall.advanceStep, hout] at hstep
      cases hstep
      exact ⟨⟨hheard, hholds⟩, by simp [SshPc.rest, SshFifoPacket.load]⟩
    · simp only [SshRqstCall.advanceStep, hout] at hstep
      cases hstep
      exact ⟨htrying, by simp [SshPc.rest, SshFifoPacket.load, SshRqstCall.nextTry]; omega⟩
  | advance packet =>
    simp only [SshRqstCall.advanceStep, SshRqstCall.respond, hresult, if_pos hsnc] at hstep
    cases hstep
    exact ⟨⟨rfl, h⟩, by simp [SshPc.rest]⟩
  | waitResponse result packet =>
    obtain ⟨rfl, hheard, hholds⟩ := h
    simp only [SshRqstCall.advanceStep] at hstep
    split_ifs at hstep with hsignal
    cases hstep
    have hclaimed := hholds.claim hsignal
    cases heard with
    | nothing => exact absurd rfl hheard
    | acked => exact absurd rfl hclaimed.queue_ne_nil
    | responded => exact ⟨⟨rfl, rfl, hclaimed⟩, by simp [SshPc.rest]⟩
  | takeResponse result packet =>
    obtain ⟨rfl, rfl, hholds⟩ := h
    obtain ⟨hout, hdata⟩ := SshHolds.header hholds
    have hload : (packet.load (ec.kfifoOut 3).1).len = UInt8.ofNat m.pld.length := by
      rw [hout]
      rfl
    have hfits : ¬result.cap < UInt8.ofNat m.pld.length := by
      rw [UInt8.lt_iff_toNat_lt, m.toNat_length_pld]
      omega
    simp only [SshRqstCall.advanceStep, hload, if_neg hfits] at hstep
    cases hstep
    refine ⟨⟨rfl, hload, rfl, hholds.state, ?_⟩, by simp [SshPc.rest]⟩
    rw [hdata]
    exact List.append_nil _
  | takePayload result packet =>
    obtain ⟨rfl, hlen, rfl, hstate, hdata⟩ := h
    have hout : (ec.kfifoOut (UInt8.ofNat m.pld.length).toNat).1 = m.pld := by
      change ec.receiver.fifo.data.take _ = _
      rw [m.toNat_length_pld, hdata]
      exact List.take_length
    simp only [SshRqstCall.advanceStep, hlen, hout] at hstep
    cases hstep
    exact ⟨⟨rfl, rfl, hstate⟩, by simp [SshPc.rest]⟩
  | writeAck result packet =>
    simp only [SshRqstCall.advanceStep] at hstep
    cases hstep
    exact ⟨h, by simp [SshPc.rest]⟩
  | flushAck result =>
    obtain ⟨rfl, hrest⟩ := h
    simp only [SshRqstCall.advanceStep, if_pos hv] at hstep
    cases hstep
    exact ⟨⟨rfl, rfl, hrest⟩, by simp [SshPc.rest]⟩
  | discard status result =>
    obtain ⟨hstatus, hbuf, hheard, -⟩ := h
    simp only [SshRqstCall.advanceStep] at hstep
    cases hstep
    exact ⟨⟨hstatus, hbuf, hheard, rfl⟩, by simp [SshPc.rest]⟩
  | returned status result => cases hstep
  | _ => cases h

/-- A wait that runs into its timeout before the ACK costs one of the tries. -/
lemma SshPc.Answering.timeout (h : pc.Answering buf expect m (budget + 1) .nothing ec.receiver)
    (hstep : c.timeoutStep ec pc = some (pc', ec')) :
    pc'.Answering buf expect m budget .nothing ec'.receiver := by
  cases pc with
  | waitAck tries packet =>
    obtain ⟨hlt, seqs, hbudget, hholds⟩ := h
    simp only [SshRqstCall.timeoutStep] at hstep
    split_ifs at hstep with hsignal
    cases hstep
    obtain ⟨tries, rfl⟩ : ∃ tries', tries = tries' + 1 := ⟨tries - 1, by omega⟩
    exact ⟨by omega, seqs, by omega, hholds⟩
  | waitResponse result packet => exact absurd rfl h.2.1
  | _ => cases hstep

/-- Once the response is there, every packet that is waited for is. -/
lemma SshPc.Answering.exists_step
    (h : pc.Answering buf expect m budget .responded ec.receiver) (hrest : pc.rest ≠ 0) :
    ∃ s, c.advanceStep E ec 0 pc = some s := by
  cases pc with
  | waitAck tries packet =>
    obtain ⟨-, seqs, -, hholds⟩ := h
    have hsignal : 0 < ec.receiver.signal := by
      have hcount := hholds.signal
      rw [List.length_append] at hcount
      simp [SshHeard.queue] at hcount
      omega
    simp only [SshRqstCall.advanceStep, if_pos hsignal]
    exact ⟨_, rfl⟩
  | waitResponse result packet =>
    have hsignal : 0 < ec.receiver.signal := by
      have hcount := h.2.2.signal
      simp [SshHeard.behindAck] at hcount
      omega
    simp only [SshRqstCall.advanceStep, if_pos hsignal]
    exact ⟨_, rfl⟩
  | returned status result => exact absurd rfl hrest
  | writeMsg => cases h
  | restart => cases h
  | refused result packet => cases h
  | _ => exact ⟨_, rfl⟩

/-- The request comes to its end. -/
lemma SshPc.Answering.finishes (hresult : c.result = some buf) (hsnc : c.rqst.snc ≠ 0)
    (hcap : m.pld.length ≤ buf.cap.toNat)
    (h : pc.Answering buf expect m budget .responded ec.receiver) :
    ∃ n ec', Machine.run (c.machine E) (pc, ec) (List.replicate n (.step 0)) =
      some (.returned 0 (some (buf.filled m)), ec') := by
  induction hn : pc.rest using Nat.strongRecOn generalizing pc ec with
  | ind k ih =>
    by_cases hrest : pc.rest = 0
    · cases pc with
      | returned status result =>
        obtain ⟨rfl, rfl, -⟩ := h
        exact ⟨0, ec, rfl⟩
      | writeMsg => cases h
      | restart => cases h
      | refused result packet => cases h
      | _ => simp [SshPc.rest] at hrest
    · obtain ⟨⟨pc', ec'⟩, hstep⟩ := h.exists_step (E := E) (c := c) hrest
      obtain ⟨hnext, hlt⟩ := h.step hresult hsnc hcap (Int.le_refl 0) hstep
      obtain ⟨n, ec'', hrun⟩ := ih pc'.rest (hn ▸ hlt) hnext rfl
      refine ⟨n + 1, ec'', ?_⟩
      rw [List.replicate_succ, Machine.run]
      exact Option.bind_eq_some_iff.mpr ⟨(pc', ec'), hstep, hrun⟩

end Steps

/-! ### Steps of the line -/

/-- Bytes that are accepted as an ACK or a RETRY, or as the response, if the receiver waits for
one; nothing else is. -/
def SshLine.Answers (E : SshEnv) (expect : SshExpect) (l : SshLine) : SshHeard → Prop
  | .nothing => CtrlComplete E l.mem l.size ∧ (l.mem 2 = sshFrameTypeAck → l.mem 5 = expect.seq)
  | .acked => CmdComplete E l.mem l.size ∧ (eventWorkAt l.mem).event.rqid = expect.rqid
  | .responded => False

/-- The rest of a run in which what has not been heard yet comes in: at most `budget` tries fail
before the ACK, and the wait for the response does not run into its timeout. -/
inductive SshReplies (E : SshEnv) (expect : SshExpect) (m : SshCmdMessage) :
    SshHeard → ℕ → List (Act SshLine) → Prop
  | done {budget : ℕ} : SshReplies E expect m .responded budget []
  | step {heard : SshHeard} {budget : ℕ} {acts : List (Act SshLine)} {v : ℤ} (hv : 0 ≤ v)
    (h : SshReplies E expect m heard budget acts) :
    SshReplies E expect m heard budget (.step v :: acts)
  | timeout {budget : ℕ} {acts : List (Act SshLine)}
    (h : SshReplies E expect m .nothing budget acts) :
    SshReplies E expect m .nothing (budget + 1) (.timeout :: acts)
  | noise {heard : SshHeard} {budget : ℕ} {acts : List (Act SshLine)} {l : SshLine}
    (hl : ¬l.Answers E expect heard) (h : SshReplies E expect m heard budget acts) :
    SshReplies E expect m heard budget (.event l :: acts)
  | retry {budget : ℕ} {acts : List (Act SshLine)} {l : SshLine}
    (hl : CtrlComplete E l.mem l.size) (htype : l.mem 2 = sshFrameTypeRetry)
    (h : SshReplies E expect m .nothing budget acts) :
    SshReplies E expect m .nothing (budget + 1) (.event l :: acts)
  | ack {budget : ℕ} {acts : List (Act SshLine)} {l : SshLine}
    (hl : CtrlComplete E l.mem l.size) (htype : l.mem 2 = sshFrameTypeAck)
    (hseq : l.mem 5 = expect.seq) (h : SshReplies E expect m .acked budget acts) :
    SshReplies E expect m .nothing budget (.event l :: acts)
  | response {budget : ℕ} {acts : List (Act SshLine)} {l : SshLine}
    (hl : Offers l.mem l.size (m.bytes E)) (hevent : samRqidIsEvent m.rqid = false)
    (hrqid : m.rqid = expect.rqid) (h : SshReplies E expect m .responded budget acts) :
    SshReplies E expect m .acked budget (.event l :: acts)

section Line

variable {E : SshEnv} {c : SshRqstCall} {buf : SurfaceSamSshBuf} {expect : SshExpect}
  {m : SshCmdMessage} {budget tries claimed : ℕ} {heard : SshHeard} {ec ec' : SamSshEc}
  {pc pc' : SshPc} {l : SshLine} {q : SshQueued} {queue : List SshQueued}

lemma SshLine.receiver_of_not_answers (hstate : ec.receiver.state = heard.state)
    (hexpect : ec.receiver.expect = expect) (h : ¬l.Answers E expect heard) :
    (l.step E ec).receiver = ec.receiver := by
  unfold SshLine.step
  have hstep := sshEval_step E ec l.mem l.size
  generalize (sshEval E ec l.mem l.size).2 = ec' at hstep ⊢
  cases hstep with
  | log log => rfl
  | event _ _ => exact (ec.dispatch_request (E := E) _).2.1
  | ctrl hctrl hcontrol hseq _ =>
    cases heard with
    | nothing =>
      rw [hexpect] at hseq
      exact absurd ⟨hctrl, hseq⟩ h
    | acked => cases hcontrol.symm.trans hstate
    | responded => cases hcontrol.symm.trans hstate
  | cmd hcmd _ hcommand hrqid _ =>
    cases heard with
    | nothing => cases hcommand.symm.trans hstate
    | acked =>
      rw [hexpect] at hrqid
      exact absurd ⟨hcmd, hrqid.symm⟩ h
    | responded => cases hcommand.symm.trans hstate

/-- The packet `q` has been put into the FIFO. -/
structure SshReceiver.Pushed (q : SshQueued) (state : SshReceiverState) (rcv rcv' : SshReceiver) :
    Prop where
  state : rcv'.state = state
  awaited : rcv'.expect = rcv.expect
  size : rcv'.fifo.size = rcv.fifo.size
  signal : rcv'.signal = rcv.signal + 1
  data : rcv'.fifo.data = rcv.fifo.data ++ q.bytes

lemma SshHolds.push {rcv rcv' : SshReceiver} (h : SshHolds expect heard queue claimed rcv)
    (heard' : SshHeard) (hp : rcv.Pushed q heard'.state rcv') :
    SshHolds expect heard' (queue ++ [q]) claimed rcv' where
  state := hp.state
  awaited := hp.awaited.trans h.awaited
  size := hp.size.trans h.size
  signal := by
    have hcount := h.signal
    have hsignal := hp.signal
    rw [List.length_append, List.length_singleton]
    omega
  data := by rw [hp.data, h.data, List.flatMap_append, List.flatMap_singleton]

lemma SamSshEc.pushed_acceptCtrl (type seq : UInt8) (state : SshReceiverState)
    (hstate : (ec.acceptCtrl type seq).receiver.state = state)
    (hroom : 3 ≤ ec.receiver.fifo.kfifoAvail) :
    ec.receiver.Pushed ⟨⟨type, seq, 0⟩, []⟩ state (ec.acceptCtrl type seq).receiver where
  state := hstate
  awaited := rfl
  size := rfl
  signal := rfl
  data := ec.receiver.fifo.data_kfifoIn _ hroom

lemma SamSshEc.pushed_acceptCmd (m : SshCmdMessage)
    (hroom : 3 + m.pld.length ≤ ec.receiver.fifo.kfifoAvail) :
    ec.receiver.Pushed (.response m) .discard (ec.acceptCmd m.len m.seq m.rqid m.pld).receiver where
  state := rfl
  awaited := rfl
  size := rfl
  signal := rfl
  data := fifo_acceptCmd ec m hroom

lemma SshQueued.length_flatMap (hpld : ∀ q ∈ queue, q.pld = []) :
    (queue.flatMap SshQueued.bytes).length = 3 * queue.length := by
  induction queue with
  | nil => rfl
  | cons q queue ih =>
    have hq : q.pld = [] := hpld q List.mem_cons_self
    have hrest := ih (fun q hq => hpld q (List.mem_cons_of_mem _ hq))
    rw [List.flatMap_cons, List.length_append, hrest, SshQueued.bytes, hq, List.length_cons]
    simp
    omega

/-- There is room for the largest response behind the packets without payload. -/
lemma SshHolds.room {rcv : SshReceiver} (h : SshHolds expect heard queue claimed rcv)
    (hpld : ∀ q ∈ queue, q.pld = []) (hlen : queue.length ≤ sshNumRetry) :
    3 + surfaceSamSshMaxRqstPayload ≤ rcv.fifo.kfifoAvail := by
  have hdata : rcv.fifo.data.length = 3 * queue.length := by
    rw [h.data, SshQueued.length_flatMap hpld]
  have hsize := h.size
  simp only [sshNumRetry, surfaceSamSshMaxRqstPayload, sshReadBufLen, Kfifo.kfifoAvail] at *
  omega

lemma SshTrying.room {rcv : SshReceiver} (h : SshTrying expect m budget heard tries claimed rcv)
    (hheard : heard ≠ .responded) : 3 + surfaceSamSshMaxRqstPayload ≤ rcv.fifo.kfifoAvail := by
  obtain ⟨hlt, seqs, hbudget, hholds⟩ := h
  obtain ⟨hpld, hlen⟩ : (∀ q ∈ heard.queue expect.seq m, q.pld = []) ∧
      (heard.queue expect.seq m).length ≤ 1 := by
    cases heard with
    | nothing => exact ⟨by simp [SshHeard.queue], Nat.zero_le 1⟩
    | acked => exact ⟨by simp [SshHeard.queue, SshHeard.behindAck, SshQueued.ack], Nat.le_refl 1⟩
    | responded => exact absurd rfl hheard
  apply hholds.room
  · intro q hq
    rcases List.mem_append.mp hq with hq | hq
    · obtain ⟨seq, -, rfl⟩ := List.mem_map.mp hq
      rfl
    · exact hpld q hq
  · rw [List.length_append, List.length_map]
    omega

/-- Until the response is there the request has not come to the ACK, or waits behind it. -/
lemma SshPc.Answering.map {budget' : ℕ} {heard' : SshHeard} {rcv rcv' : SshReceiver}
    (hheard : heard ≠ .responded)
    (htrying : ∀ tries claimed, SshTrying expect m budget heard tries claimed rcv →
      SshTrying expect m budget' heard' tries claimed rcv')
    (hbehind : heard ≠ .nothing → SshHolds expect heard (heard.behindAck m) 0 rcv →
      heard' ≠ .nothing ∧ SshHolds expect heard' (heard'.behindAck m) 0 rcv')
    (h : pc.Answering buf expect m budget heard rcv) :
    pc.Answering buf expect m budget' heard' rcv' := by
  cases pc with
  | flush tries packet => exact htrying _ _ h
  | waitAck tries packet => exact htrying _ _ h
  | takeAck tries packet => exact htrying _ _ h
  | advance packet => exact hbehind h.1 h.2
  | waitResponse result packet => exact ⟨h.1, hbehind h.2.1 h.2.2⟩
  | takeResponse result packet => exact absurd h.2.1 hheard
  | takePayload result packet => exact absurd h.2.2.1 hheard
  | writeAck result packet => exact absurd h.2.1 hheard
  | flushAck result => exact absurd h.2.1 hheard
  | discard status result => exact absurd h.2.2.1 hheard
  | returned status result => exact absurd h.2.2.1 hheard
  | _ => cases h

lemma SshPc.Answering.state {rcv : SshReceiver} (h : pc.Answering buf expect m budget heard rcv) :
    rcv.state = heard.state := by
  have htrying {tries claimed : ℕ} (h : SshTrying expect m budget heard tries claimed rcv) :
      rcv.state = heard.state := by
    obtain ⟨-, seqs, -, hholds⟩ := h
    exact hholds.state
  have hdiscard (hheard : heard = .responded) (hstate : rcv.state = .discard) :
      rcv.state = heard.state := by
    rw [hstate, hheard]
    rfl
  cases pc with
  | flush tries packet => exact htrying h
  | waitAck tries packet => exact htrying h
  | takeAck tries packet => exact htrying h
  | advance packet => exact h.2.state
  | waitResponse result packet => exact h.2.2.state
  | takeResponse result packet => exact h.2.2.state
  | takePayload result packet => exact hdiscard h.2.2.1 h.2.2.2.1
  | writeAck result packet => exact hdiscard h.2.1 h.2.2
  | flushAck result => exact hdiscard h.2.1 h.2.2
  | discard status result => exact hdiscard h.2.2.1 h.2.2.2
  | returned status result => exact hdiscard h.2.2.1 h.2.2.2
  | _ => cases h

/-- What the receiver waits for then, and that there is room for it. -/
lemma SshPc.Answering.awaited {rcv : SshReceiver} (hheard : heard ≠ .responded)
    (h : pc.Answering buf expect m budget heard rcv) :
    rcv.expect = expect ∧ 3 + surfaceSamSshMaxRqstPayload ≤ rcv.fifo.kfifoAvail := by
  have htrying {tries claimed : ℕ} (h : SshTrying expect m budget heard tries claimed rcv) :
      rcv.expect = expect ∧ 3 + surfaceSamSshMaxRqstPayload ≤ rcv.fifo.kfifoAvail := by
    have hroom := h.room hheard
    obtain ⟨-, seqs, -, hholds⟩ := h
    exact ⟨hholds.awaited, hroom⟩
  have hbehind (hholds : SshHolds expect heard (heard.behindAck m) 0 rcv) :
      rcv.expect = expect ∧ 3 + surfaceSamSshMaxRqstPayload ≤ rcv.fifo.kfifoAvail := by
    have hnil : heard.behindAck m = [] := by
      cases heard with
      | responded => exact absurd rfl hheard
      | _ => rfl
    rw [hnil] at hholds
    exact ⟨hholds.awaited, hholds.room (by simp) (Nat.zero_le _)⟩
  cases pc with
  | flush tries packet => exact htrying h
  | waitAck tries packet => exact htrying h
  | takeAck tries packet => exact htrying h
  | advance packet => exact hbehind h.2
  | waitResponse result packet => exact hbehind h.2.2
  | takeResponse result packet => exact absurd h.2.1 hheard
  | takePayload result packet => exact absurd h.2.2.1 hheard
  | writeAck result packet => exact absurd h.2.1 hheard
  | flushAck result => exact absurd h.2.1 hheard
  | discard status result => exact absurd h.2.2.1 hheard
  | returned status result => exact absurd h.2.2.1 hheard
  | _ => cases h

/-- A RETRY comes in. -/
lemma SshPc.Answering.retry {rcv rcv' : SshReceiver} (seq : UInt8)
    (hp : rcv.Pushed (.retry seq) .control rcv')
    (h : pc.Answering buf expect m (budget + 1) .nothing rcv) :
    pc.Answering buf expect m budget .nothing rcv' := by
  refine h.map SshHeard.noConfusion ?_ (fun hne => absurd rfl hne)
  rintro tries claimed ⟨hlt, seqs, hbudget, hholds⟩
  refine ⟨hlt, seqs ++ [seq], ?_, ?_⟩
  · rw [List.length_append, List.length_singleton]
    omega
  · have hpush := hholds.push .nothing hp
    simpa [SshHeard.queue] using hpush

/-- The ACK comes in. -/
lemma SshPc.Answering.ack {rcv rcv' : SshReceiver} (hp : rcv.Pushed (.ack expect.seq) .command rcv')
    (h : pc.Answering buf expect m budget .nothing rcv) :
    pc.Answering buf expect m budget .acked rcv' := by
  refine h.map SshHeard.noConfusion ?_ (fun hne => absurd rfl hne)
  rintro tries claimed ⟨hlt, seqs, hbudget, hholds⟩
  refine ⟨hlt, seqs, hbudget, ?_⟩
  have hpush := hholds.push .acked hp
  simpa [SshHeard.queue, SshHeard.behindAck] using hpush

/-- The response comes in. -/
lemma SshPc.Answering.response {rcv rcv' : SshReceiver}
    (hp : rcv.Pushed (.response m) .discard rcv')
    (h : pc.Answering buf expect m budget .acked rcv) :
    pc.Answering buf expect m budget .responded rcv' := by
  refine h.map SshHeard.noConfusion ?_ (fun _ hholds => ⟨SshHeard.noConfusion, ?_⟩)
  · rintro tries claimed ⟨hlt, seqs, hbudget, hholds⟩
    refine ⟨hlt, seqs, hbudget, ?_⟩
    have hpush := hholds.push .responded hp
    simpa [SshHeard.queue, SshHeard.behindAck] using hpush
  · exact hholds.push .responded hp

end Line

/-! ### Runs -/

section Runs

variable {E : SshEnv} {c : SshRqstCall} {buf : SurfaceSamSshBuf} {expect : SshExpect}
  {m : SshCmdMessage} {budget : ℕ} {heard : SshHeard} {ec ec' : SamSshEc} {pc pc' : SshPc}
  {acts : List (Act SshLine)} {l : SshLine}

lemma SshLine.step_ctrl (hl : CtrlComplete E l.mem l.size) (hstate : ec.receiver.state = .control)
    (hseq : l.mem 2 = sshFrameTypeAck → l.mem 5 = ec.receiver.expect.seq)
    (hroom : 3 ≤ ec.receiver.fifo.kfifoAvail) :
    l.step E ec = ec.acceptCtrl (l.mem 2) (l.mem 5) := by
  rw [SshLine.step, sshEval_ctrl ec hl]
  change ec.onCtrl (l.mem 2) (l.mem 5) = _
  rw [SamSshEc.onCtrl, if_neg (not_not_intro hstate), if_neg (fun h => h.2 (hseq h.1)),
    if_pos hroom]

/-- After a run in which everything comes in, the request has been answered. -/
lemma SshReplies.answering (hresult : c.result = some buf) (hsnc : c.rqst.snc ≠ 0)
    (hcap : m.pld.length ≤ buf.cap.toNat) (hpld : expect.pld = true)
    (hreplies : SshReplies E expect m heard budget acts)
    (h : pc.Answering buf expect m budget heard ec.receiver)
    (hrun : Machine.run (c.machine E) (pc, ec) acts = some (pc', ec')) :
    ∃ budget', pc'.Answering buf expect m budget' .responded ec'.receiver := by
  induction hreplies generalizing pc ec with
  | done =>
    cases hrun
    exact ⟨_, h⟩
  | step hv _ ih =>
    obtain ⟨⟨pc₁, ec₁⟩, hstep, hrest⟩ := Option.bind_eq_some_iff.mp hrun
    exact ih (h.step hresult hsnc hcap hv hstep).1 hrest
  | timeout _ ih =>
    obtain ⟨⟨pc₁, ec₁⟩, hstep, hrest⟩ := Option.bind_eq_some_iff.mp hrun
    exact ih (h.timeout hstep) hrest
  | @noise heard _ _ l hl _ ih =>
    refine ih ?_ hrun
    have hreceiver : (l.step E ec).receiver = ec.receiver := by
      by_cases hheard : heard = .responded
      · apply (l.step_discard (E := E) ?_).2.1
        rw [h.state, hheard]
        rfl
      · exact SshLine.receiver_of_not_answers h.state (h.awaited hheard).1 hl
    rw [hreceiver]
    exact h
  | @retry _ _ l hl htype _ ih =>
    obtain ⟨-, hroom⟩ := h.awaited SshHeard.noConfusion
    have hack : l.mem 2 ≠ sshFrameTypeAck := by
      rw [htype]
      decide
    refine ih (h.retry (l.mem 5) ?_) hrun
    rw [SshLine.step_ctrl hl h.state (fun heq => absurd heq hack) (by omega), htype]
    exact SamSshEc.pushed_acceptCtrl _ _ _ h.state (by omega)
  | @ack _ _ l hl htype hseq _ ih =>
    obtain ⟨hexpect, hroom⟩ := h.awaited SshHeard.noConfusion
    refine ih (h.ack ?_) hrun
    rw [SshLine.step_ctrl hl h.state (fun _ => by rw [hexpect, hseq]) (by omega), htype, hseq]
    refine SamSshEc.pushed_acceptCtrl _ _ _ ?_ (by omega)
    simp [SamSshEc.acceptCtrl, hexpect, hpld]
  | @response _ _ l hl hevent hrqid _ ih =>
    obtain ⟨hexpect, hroom⟩ := h.awaited SshHeard.noConfusion
    have hlen := m.length_pld
    refine ih (h.response ?_) hrun
    rw [SshLine.step, sshEval_response ec m hl hevent h.state (by rw [hexpect, hrqid]) (by omega)]
    exact SamSshEc.pushed_acceptCmd m (by omega)

variable (E c ec pc) in
/-- An idle receiver stays as it is, whatever comes in. -/
lemma SshRqstCall.run_events (lines : List SshLine) (hstate : ec.receiver.state = .discard) :
    ∃ ec', Machine.run (c.machine E) (pc, ec) (lines.map .event) = some (pc, ec') ∧
      ec'.receiver = ec.receiver ∧ ec'.counter = ec.counter := by
  induction lines generalizing ec with
  | nil => exact ⟨ec, rfl, rfl, rfl⟩
  | cons l lines ih =>
    obtain ⟨-, hreceiver, hcounter, -⟩ := l.step_discard (E := E) hstate
    obtain ⟨ec', hrun, hreceiver', hcounter'⟩ := ih (l.step E ec) (by rw [hreceiver, hstate])
    exact ⟨ec', hrun, hreceiver'.trans hreceiver, hcounter'.trans hcounter⟩

/-- What the receiver of a request waits for. -/
def SamSshEc.awaits (ec : SamSshEc) : SshExpect where
  pld := true
  seq := ec.counter.seq
  rqid := samRqidToRqst ec.counter.rqid

/-- The first steps of a request, with what comes in before the receiver is restarted. -/
def sshBegin (lines lines' : List SshLine) (v v' : ℤ) : List (Act SshLine) :=
  lines.map .event ++ [.step v] ++ lines'.map .event ++ [.step v']

lemma SshRqstCall.run_begin (lines lines' : List SshLine) (v v' : ℤ) (hidle : ec.Idle)
    (hsize : ec.receiver.fifo.size = sshReadBufLen) (hsnc : c.rqst.snc ≠ 0) :
    ∃ ec', Machine.run (c.machine E) (.writeMsg, ec) (sshBegin lines lines' v v') =
        some (.flush 2 ⟨0, 0, 0⟩, ec') ∧
      SshTrying ec.awaits m 2 .nothing 2 0 ec'.receiver := by
  obtain ⟨ec₁, hrun₁, hreceiver₁, hcounter₁⟩ :=
    SshRqstCall.run_events E c ec .writeMsg lines hidle.state
  obtain ⟨ec₂, hrun₂, hreceiver₂, hcounter₂⟩ :=
    SshRqstCall.run_events E c (ec₁.sshWriteMsgCmd E c.rqst) .restart lines' (by
      change ec₁.receiver.state = _
      rw [hreceiver₁, hidle.state])
  have hreceiver : ec₂.receiver = ec.receiver := hreceiver₂.trans hreceiver₁
  have hcounter : ec₂.counter = ec.counter := hcounter₂.trans hcounter₁
  refine ⟨ec₂.sshReceiverRestart c.rqst, ?_, by decide, [], Nat.le_refl 2, ?_⟩
  · rw [sshBegin, Machine.run_append, Machine.run_append, Machine.run_append, hrun₁]
    change (Machine.run (c.machine E) (.restart, ec₁.sshWriteMsgCmd E c.rqst)
      (lines'.map .event)).bind _ = _
    rw [hrun₂]
    rfl
  · constructor
    · rfl
    · simp [SamSshEc.sshReceiverRestart, SamSshEc.awaits, hcounter, hsnc]
    · exact (congrArg (fun rcv => rcv.fifo.size) hreceiver).trans hsize
    · rfl
    · exact (congrArg (fun rcv => rcv.fifo.data) hreceiver).trans hidle.fifo

end Runs

/-- A request that is answered in time returns the answer. -/
theorem surfaceSamSshRqstUnlocked_completes (E : SshEnv) (rqst : SurfaceSamSshRqst)
    (buf : SurfaceSamSshBuf) (m : SshCmdMessage) (ec ec₁ : SamSshEc)
    (p : Prog SamSshEc (ℤ × Option SurfaceSamSshBuf)) (lines lines' : List SshLine) (v v' : ℤ)
    (acts : List (Act SshLine)) (hidle : ec.Idle)
    (hsize : ec.receiver.fifo.size = sshReadBufLen)
    (hcdl : rqst.cdl.toNat ≤ surfaceSamSshMaxRqstPayload) (hsnc : rqst.snc ≠ 0)
    (hcap : m.pld.length ≤ buf.cap.toNat)
    (hreplies : SshReplies E ec.awaits m .nothing 2 acts)
    (hexec : Prog.exec (SshLine.step E) (sshBegin lines lines' v v' ++ acts)
      (surfaceSamSshRqstUnlocked E rqst (some buf), ec) = some (p, ec₁)) :
    ∃ n ec', Prog.run (SshLine.step E)
      (sshBegin lines lines' v v' ++ acts ++ List.replicate n (.step 0))
      (surfaceSamSshRqstUnlocked E rqst (some buf)) ec =
        some ((0, some (buf.filled m)), ec') := by
  obtain ⟨c, hc⟩ : ∃ c : SshRqstCall, c = ⟨rqst, some buf⟩ := ⟨_, rfl⟩
  have hrqst : rqst = c.rqst := by rw [hc]
  have hbuf : c.result = some buf := by rw [hc]
  have henter : c.enter = .writeMsg := by
    rw [SshRqstCall.enter, ← hrqst]
    exact if_neg (Nat.not_lt.mpr hcdl)
  obtain ⟨ec₀, hbegin, htrying⟩ := SshRqstCall.run_begin (E := E) (c := c) (m := m)
    lines lines' v v' hidle hsize (hrqst ▸ hsnc)
  rw [hrqst, ← hbuf] at hexec ⊢
  rw [SshRqstCall.exec_rqst, henter, Machine.run_append, hbegin] at hexec
  obtain ⟨⟨pc, ec₁'⟩, hrun, hstate⟩ := Option.map_eq_some_iff.mp hexec
  cases hstate
  have hanswering : SshPc.Answering buf ec.awaits m 2 .nothing ec₀.receiver
      (.flush 2 ⟨0, 0, 0⟩) := htrying
  obtain ⟨budget, hanswered⟩ := hreplies.answering hbuf (hrqst ▸ hsnc) hcap rfl hanswering hrun
  obtain ⟨n, ec', hfinish⟩ := hanswered.finishes (E := E) hbuf (hrqst ▸ hsnc) hcap
  refine ⟨n, ec', Prog.run_eq_some_iff.mpr ?_⟩
  rw [SshRqstCall.exec_rqst, henter, Machine.run_append, Machine.run_append, hbegin]
  have htail : ((some (SshPc.flush 2 ⟨0, 0, 0⟩, ec₀)).bind fun s =>
      Machine.run (c.machine E) s acts) = some (pc, ec₁') := hrun
  rw [htail]
  exact congrArg (Option.map (fun s => (c.prog E s.1, s.2))) hfinish

/-- A request whose first try is not answered, the second with RETRY and the third with the ACK,
the response right behind it. -/
theorem surfaceSamSshRqstUnlocked_completes_third_try :
    let rqst : SurfaceSamSshRqst := ⟨1, 2, 3, 1, 0, fun _ => 0⟩
    let buf : SurfaceSamSshBuf := ⟨4, 0, fun _ => 0⟩
    let ec := (initializeReceiver sshEc (fun _ => 0)).ec
    let m : SshCmdMessage := ⟨0, 9, 1, 0, 1, 2, 0, 0, 3, [7, 8], by decide⟩
    let recv (m : SshMessage) : SshLine :=
      ⟨fun i => (m.bytes kernelEnv).getD i 0, (m.bytes kernelEnv).length⟩
    let acts : List (Act SshLine) := [.step 18, .timeout, .step 18,
      .event (recv (.ctrl ⟨.retry, 0, 0, 0⟩)), .step 0, .step 0, .step 18,
      .event (recv (.ctrl ⟨.ack, 0, 0, 0⟩)), .event (recv (.cmd m))]
    ∃ n ec', Prog.run (SshLine.step kernelEnv)
      (sshBegin [] [] 0 0 ++ acts ++ List.replicate n (.step 0))
      (surfaceSamSshRqstUnlocked kernelEnv rqst (some buf)) ec =
        some ((0, some (buf.filled m)), ec') := by
  intro rqst buf ec m recv acts
  obtain ⟨⟨p, ec₁⟩, hexec⟩ : ∃ s, Prog.exec (SshLine.step kernelEnv) (sshBegin [] [] 0 0 ++ acts)
      (surfaceSamSshRqstUnlocked kernelEnv rqst (some buf), ec) = some s :=
    Option.isSome_iff_exists.mp (by decide +kernel)
  have hctrl (m : SshCtrlMessage) :
      CtrlComplete kernelEnv (recv (.ctrl m)).mem (recv (.ctrl m)).size ∧
        (recv (.ctrl m)).mem 2 = m.kind.type ∧ (recv (.ctrl m)).mem 5 = m.seq :=
    m.inMemory (Nat.le_refl 10) rfl
  obtain ⟨hretry, htype, -⟩ := hctrl ⟨.retry, 0, 0, 0⟩
  obtain ⟨hack, htype', hseq⟩ := hctrl ⟨.ack, 0, 0, 0⟩
  refine surfaceSamSshRqstUnlocked_completes kernelEnv rqst buf m ec ec₁ p [] [] 0 0 acts
    ⟨rfl, rfl⟩ rfl (by decide) (by decide) (by decide) ?_ hexec
  refine .step (by decide) (.timeout (.step (by decide) (.retry hretry htype (.step (by decide)
    (.step (by decide) (.step (by decide) (.ack hack htype' hseq ?_)))))))
  exact .response ⟨Nat.le_refl _, by decide +kernel⟩ (by decide) (by decide) .done

end SurfaceSam
