import SurfaceSam.Ssh.Handshake
import SurfaceSam.Ssh.Transaction

/-!
# Completions and packets

The request takes bytes from the FIFO without looking at how many there are: a completion is
to assure that a whole packet is there. Here this is an invariant between the FIFO, the
completion, the receiver state and the point the request has come to.
-/

namespace SurfaceSam

open Devlib

/-! ### Packets in the FIFO -/

/-- A packet header and the payload that follows it in the FIFO. -/
structure SshQueued where
  packet : SshFifoPacket
  pld : List UInt8

namespace SshQueued

def bytes (q : SshQueued) : List UInt8 := q.packet.bytes ++ q.pld

/-- A packet without payload. -/
structure IsCtrl (type : UInt8) (q : SshQueued) : Prop where
  type : q.packet.type = type
  len : q.packet.len = 0
  pld : q.pld = []

structure IsCmd (q : SshQueued) : Prop where
  type : q.packet.type = sshFrameTypeCmd
  length_pld : q.pld.length = q.packet.len.toNat

end SshQueued

/-- RETRY packets, then at most one ACK packet, then at most one command packet with its
payload. -/
def SshQueueForm (queue : List SshQueued) : Prop :=
  ∃ retries acks cmds, queue = retries ++ (acks ++ cmds) ∧
    (∀ q ∈ retries, q.IsCtrl sshFrameTypeRetry) ∧
    acks.length ≤ 1 ∧ (∀ q ∈ acks, q.IsCtrl sshFrameTypeAck) ∧
    cmds.length ≤ 1 ∧ ∀ q ∈ cmds, q.IsCmd

/-- What is in the FIFO in which receiver state, before and after the request has taken the
ACK. -/
inductive SshQueue : Bool → SshReceiverState → List SshQueued → Prop
  | waiting {rs : List SshQueued} (retries : ∀ q ∈ rs, q.IsCtrl sshFrameTypeRetry) :
    SshQueue false .control rs
  | acked {rs : List SshQueued} {a : SshQueued} {state : SshReceiverState}
    (retries : ∀ q ∈ rs, q.IsCtrl sshFrameTypeRetry) (ack : a.IsCtrl sshFrameTypeAck)
    (after : state ≠ .control) : SshQueue false state (rs ++ [a])
  | answered {rs : List SshQueued} {a r : SshQueued}
    (retries : ∀ q ∈ rs, q.IsCtrl sshFrameTypeRetry) (ack : a.IsCtrl sshFrameTypeAck)
    (response : r.IsCmd) : SshQueue false .discard (rs ++ [a, r])
  | drained {state : SshReceiverState} (after : state ≠ .control) : SshQueue true state []
  | response {r : SshQueued} (response : r.IsCmd) : SshQueue true .discard [r]

section Queue

variable {acked : Bool} {state : SshReceiverState} {queue rest : List SshQueued} {q : SshQueued}

lemma SshQueue.form (h : SshQueue acked state queue) : SshQueueForm queue := by
  cases h with
  | waiting retries => exact ⟨queue, [], [], by simp, retries, by simp, by simp, by simp, by simp⟩
  | @acked rs a _ retries ack _ =>
    exact ⟨rs, [a], [], rfl, retries, by simp, by simpa using ack, by simp, by simp⟩
  | @answered rs a r retries ack response =>
    exact ⟨rs, [a], [r], rfl, retries, by simp, by simpa using ack, by simp,
      by simpa using response⟩
  | drained _ => exact ⟨[], [], [], by simp, by simp, by simp, by simp, by simp, by simp⟩
  | @response r response =>
    exact ⟨[], [], [r], rfl, by simp, by simp, by simp, by simp, by simpa using response⟩

/-- A control packet is accepted. -/
lemma SshQueue.ctrl {type : UInt8} (h : SshQueue acked .control queue) (htype : SshCtrlType type)
    (hq : q.IsCtrl type) (hnext : state ≠ .control ∨ type ≠ sshFrameTypeAck)
    (hkeep : type ≠ sshFrameTypeAck → state = .control) : SshQueue acked state (queue ++ [q]) := by
  generalize hcontrol : SshReceiverState.control = s at h
  cases h with
  | waiting retries =>
    by_cases hack : type = sshFrameTypeAck
    · subst hack
      exact .acked retries hq (hnext.resolve_right (fun h => h rfl))
    · rw [hkeep hack]
      refine .waiting (fun q' hq' => ?_)
      rcases List.mem_append.mp hq' with hq' | hq'
      · exact retries q' hq'
      · rw [List.mem_singleton.mp hq', ← htype.resolve_left hack]
        exact hq
  | acked _ _ after => exact absurd hcontrol.symm after
  | answered _ _ _ => cases hcontrol
  | drained after => exact absurd hcontrol.symm after
  | response _ => cases hcontrol

/-- The response is accepted. -/
lemma SshQueue.cmd (h : SshQueue acked .command queue) (hq : q.IsCmd) :
    SshQueue acked .discard (queue ++ [q]) := by
  generalize hcommand : SshReceiverState.command = s at h
  cases h with
  | waiting _ => cases hcommand
  | acked retries ack _ =>
    rw [List.append_assoc]
    exact .answered retries ack hq
  | answered _ _ _ => cases hcommand
  | drained _ => exact .response hq
  | response _ => cases hcommand

/-- The first packet before the ACK has been taken. -/
lemma SshQueue.takeCtrl (h : SshQueue false state (q :: rest)) :
    (q.IsCtrl sshFrameTypeRetry ∧ SshQueue false state rest) ∨
      (q.IsCtrl sshFrameTypeAck ∧ SshQueue true state rest) := by
  generalize hqueue : q :: rest = queue at h
  generalize hacked : false = acked at h
  cases h with
  | waiting retries =>
    subst hqueue
    exact .inl ⟨retries q List.mem_cons_self, .waiting fun q' hq' => retries q' (List.mem_cons_of_mem q hq')⟩
  | @acked rs a _ retries ack after =>
    cases rs with
    | nil =>
      cases hqueue
      exact .inr ⟨ack, .drained after⟩
    | cons q' rs =>
      cases hqueue
      exact .inl ⟨retries _ List.mem_cons_self,
        .acked (fun q' hq' => retries q' (List.mem_cons_of_mem _ hq')) ack after⟩
  | @answered rs a r retries ack response =>
    cases rs with
    | nil =>
      cases hqueue
      exact .inr ⟨ack, .response response⟩
    | cons q' rs =>
      cases hqueue
      exact .inl ⟨retries _ List.mem_cons_self,
        .answered (fun q' hq' => retries q' (List.mem_cons_of_mem _ hq')) ack response⟩
  | drained _ => cases hacked
  | response _ => cases hacked

/-- The first packet after the ACK has been taken. -/
lemma SshQueue.takeCmd (h : SshQueue true state (q :: rest)) :
    q.IsCmd ∧ rest = [] ∧ state = .discard := by
  generalize hqueue : q :: rest = queue at h
  generalize hacked : true = acked at h
  cases h with
  | waiting _ => cases hacked
  | acked _ _ _ => cases hacked
  | answered _ _ _ => cases hacked
  | drained _ => cases hqueue
  | response response =>
    cases hqueue
    exact ⟨response, rfl, rfl⟩

end Queue

/-! ### The receive callback -/

/-- Between restarting and discarding; `claimed` packets have been waited for and not been
taken yet. -/
structure SshHandshake (acked : Bool) (claimed : ℕ) (queue : List SshQueued) (rcv : SshReceiver) :
    Prop where
  shape : SshQueue acked rcv.state queue
  signal : rcv.signal + claimed = queue.length
  fifo : rcv.fifo.data = queue.flatMap SshQueued.bytes

section Receive

variable {E : SshEnv} {ec : SamSshEc} {acked : Bool} {claimed : ℕ} {queue : List SshQueued}

/-- What an evaluation does to the receiver. -/
lemma SshLine.receiver_step (l : SshLine) (ec : SamSshEc) :
    (l.step E ec).receiver = ec.receiver ∨
    (∃ type seq, SshCtrlType type ∧ ec.receiver.state = .control ∧
      3 ≤ ec.receiver.fifo.kfifoAvail ∧
      (l.step E ec).receiver = (ec.acceptCtrl type seq).receiver) ∨
    ∃ len seq rqid pld, pld.length = (len - 8).toNat ∧ ec.receiver.state = .command ∧
      3 + (len - 8).toNat ≤ ec.receiver.fifo.kfifoAvail ∧
      (l.step E ec).receiver = (ec.acceptCmd len seq rqid pld).receiver := by
  unfold SshLine.step
  have h := sshEval_step E ec l.mem l.size
  generalize (sshEval E ec l.mem l.size).2 = ec' at h ⊢
  cases h with
  | log log => exact .inl rfl
  | event _ _ => exact .inl (ec.dispatch_request (E := E) _).2.1
  | ctrl h state _ room => exact .inr (.inl ⟨_, _, h.type, state, room, rfl⟩)
  | cmd _ _ state _ room => exact .inr (.inr ⟨_, _, _, _, by simp, state, room, rfl⟩)

lemma SshHandshake.ctrl {type : UInt8} (seq : UInt8)
    (h : SshHandshake acked claimed queue ec.receiver) (htype : SshCtrlType type)
    (hstate : ec.receiver.state = .control) (hroom : 3 ≤ ec.receiver.fifo.kfifoAvail) :
    SshHandshake acked claimed (queue ++ [⟨⟨type, seq, 0⟩, []⟩]) (ec.acceptCtrl type seq).receiver where
  shape := by
    have hqueue := h.shape
    rw [hstate] at hqueue
    apply hqueue.ctrl htype ⟨rfl, rfl, rfl⟩
    · by_cases hack : type = sshFrameTypeAck
      · left
        simp only [SamSshEc.acceptCtrl, if_pos hack]
        split_ifs
        · decide
        · decide
      · exact .inr hack
    · intro hack
      simp only [SamSshEc.acceptCtrl, if_neg hack]
      exact hstate
  signal := by
    have hsignal := h.signal
    rw [List.length_append, List.length_singleton]
    change ec.receiver.signal + 1 + claimed = _
    omega
  fifo := by
    rw [List.flatMap_append, ← h.fifo]
    exact ec.receiver.fifo.data_kfifoIn _ hroom

lemma SshHandshake.cmd {len : UInt8} {pld : List UInt8} (seq : UInt8) (rqid : UInt16)
    (h : SshHandshake acked claimed queue ec.receiver) (hpld : pld.length = (len - 8).toNat)
    (hstate : ec.receiver.state = .command)
    (hroom : 3 + (len - 8).toNat ≤ ec.receiver.fifo.kfifoAvail) :
    SshHandshake acked claimed (queue ++ [⟨⟨sshFrameTypeCmd, seq, len - 8⟩, pld⟩])
      (ec.acceptCmd len seq rqid pld).receiver where
  shape := by
    have hqueue := h.shape
    rw [hstate] at hqueue
    exact hqueue.cmd ⟨rfl, hpld⟩
  signal := by
    have hsignal := h.signal
    rw [List.length_append, List.length_singleton]
    change ec.receiver.signal + 1 + claimed = _
    omega
  fifo := by
    rw [List.flatMap_append, ← h.fifo, List.flatMap_singleton]
    refine (ec.receiver.fifo.data_kfifoIn_kfifoIn _ _ ?_).trans (List.append_assoc _ _ _)
    rw [SshFifoPacket.length_bytes, hpld]
    exact hroom

lemma SshHandshake.receive (l : SshLine) (h : SshHandshake acked claimed queue ec.receiver) :
    ∃ queue', SshHandshake acked claimed queue' (l.step E ec).receiver := by
  rcases l.receiver_step (E := E) ec with
    heq | ⟨type, seq, htype, hstate, hroom, heq⟩ | ⟨len, seq, rqid, pld, hpld, hstate, hroom, heq⟩
  · rw [heq]
    exact ⟨queue, h⟩
  · rw [heq]
    exact ⟨_, h.ctrl seq htype hstate hroom⟩
  · rw [heq]
    exact ⟨_, h.cmd seq rqid hpld hstate hroom⟩

end Receive

/-! ### Taking packets -/

section Take

variable {ec : SamSshEc} {acked : Bool} {queue : List SshQueued} {packet : SshFifoPacket}

/-- The state after `n` bytes have been taken; the trace does not matter here. -/
lemma SamSshEc.receiver_kfifoOut (ec : SamSshEc) (n : ℕ) :
    (ec.kfifoOut n).2.receiver =
      { ec.receiver with fifo := (ec.receiver.fifo.kfifoOut n).2 } := rfl

/-- When a packet has been waited for, `kfifo_out` yields its whole header. -/
lemma SshHandshake.header (h : SshHandshake acked 1 queue ec.receiver) (packet : SshFifoPacket) :
    ∃ q rest, queue = q :: rest ∧ (ec.kfifoOut 3).1 = q.packet.bytes ∧
      packet.load (ec.kfifoOut 3).1 = q.packet ∧
      (ec.kfifoOut 3).2.receiver.fifo.data = q.pld ++ rest.flatMap SshQueued.bytes ∧
      (ec.kfifoOut 3).2.receiver.signal = rest.length := by
  have hsignal := h.signal
  cases queue with
  | nil => cases hsignal
  | cons q rest =>
    have hdata : ec.receiver.fifo.data =
        q.packet.bytes ++ (q.pld ++ rest.flatMap SshQueued.bytes) := by
      rw [h.fifo, List.flatMap_cons, SshQueued.bytes, List.append_assoc]
    have hout : (ec.kfifoOut 3).1 = q.packet.bytes := by
      change ec.receiver.fifo.data.take 3 = _
      rw [hdata]
      exact List.take_left' rfl
    refine ⟨q, rest, rfl, hout, ?_, ?_, ?_⟩
    · rw [hout]
      rfl
    · change ec.receiver.fifo.data.drop 3 = _
      rw [hdata]
      exact List.drop_left' rfl
    · rw [List.length_cons] at hsignal
      exact Nat.add_right_cancel hsignal

/-- Before the ACK has been taken, a RETRY packet or the ACK comes next. -/
lemma SshHandshake.takeCtrl (h : SshHandshake false 1 queue ec.receiver) (packet : SshFifoPacket) :
    let p := packet.load (ec.kfifoOut 3).1
    (p.type = sshFrameTypeRetry ∧ ∃ rest, SshHandshake false 0 rest (ec.kfifoOut 3).2.receiver) ∨
      (p.type = sshFrameTypeAck ∧ ∃ rest, SshHandshake true 0 rest (ec.kfifoOut 3).2.receiver) := by
  intro p
  obtain ⟨q, rest, rfl, -, hload, hdata, hsignal⟩ := h.header packet
  have hp : p = q.packet := hload
  rw [hp]
  rcases h.shape.takeCtrl with ⟨hq, hrest⟩ | ⟨hq, hrest⟩
  · rw [hq.pld, List.nil_append] at hdata
    exact .inl ⟨hq.type, rest, hrest, hsignal, hdata⟩
  · rw [hq.pld, List.nil_append] at hdata
    exact .inr ⟨hq.type, rest, hrest, hsignal, hdata⟩

/-- The header of the response has been taken, and its payload is all that is left. -/
structure SshLeftover (packet : SshFifoPacket) (rcv : SshReceiver) : Prop where
  type : packet.type = sshFrameTypeCmd
  state : rcv.state = .discard
  signal : rcv.signal = 0
  length : rcv.fifo.data.length = packet.len.toNat

/-- After the ACK has been taken, the response comes next. -/
lemma SshHandshake.takeCmd (h : SshHandshake true 1 queue ec.receiver) (packet : SshFifoPacket) :
    SshLeftover (packet.load (ec.kfifoOut 3).1) (ec.kfifoOut 3).2.receiver := by
  obtain ⟨q, rest, rfl, -, hload, hdata, hsignal⟩ := h.header packet
  obtain ⟨hq, rfl, hstate⟩ := h.shape.takeCmd
  rw [hload]
  refine ⟨hq.type, hstate, hsignal, ?_⟩
  rw [hdata, List.flatMap_nil, List.append_nil, hq.length_pld]

lemma SshLeftover.take (h : SshLeftover packet ec.receiver) :
    (ec.kfifoOut packet.len.toNat).1.length = packet.len.toNat ∧
      SshHandshake true 0 [] (ec.kfifoOut packet.len.toNat).2.receiver := by
  have hlen := h.length
  refine ⟨?_, ?_⟩
  · change (ec.receiver.fifo.data.take packet.len.toNat).length = _
    rw [List.length_take]
    omega
  · refine ⟨?_, h.signal, ?_⟩
    · rw [SamSshEc.receiver_kfifoOut]
      apply SshQueue.drained
      rw [h.state]
      decide
    · change ec.receiver.fifo.data.drop packet.len.toNat = []
      exact List.drop_of_length_le (Nat.le_of_eq hlen)

lemma SshLeftover.receive {E : SshEnv} (l : SshLine) (h : SshLeftover packet ec.receiver) :
    SshLeftover packet (l.step E ec).receiver := by
  rw [(l.step_discard (E := E) h.state).2.1]
  exact h

/-- A restart begins an exchange when nothing is in the FIFO. -/
lemma SamSshEc.Idle.handshake (h : ec.Idle) (rqst : SurfaceSamSshRqst) :
    SshHandshake false 0 [] (ec.sshReceiverRestart rqst).receiver where
  shape := .waiting (by simp)
  signal := rfl
  fifo := h.fifo

end Take

/-! ### The points of a request -/

namespace SshPc

/-- Packets that have been waited for and not been taken. -/
def claimed : SshPc → ℕ
  | takeAck _ _ => 1
  | takeResponse _ _ => 1
  | _ => 0

/-- The header of the response, while its payload is in the FIFO without it. -/
def header : SshPc → Option SshFifoPacket
  | takePayload _ packet => some packet
  | refused _ packet => some packet
  | _ => none

/-- Between restarting and discarding, with whole packets in the FIFO. -/
def exchanging : SshPc → Bool
  | writeMsg => false
  | restart => false
  | takePayload _ _ => false
  | refused _ _ => false
  | returned _ _ => false
  | _ => true

def Inv : SshPc → SamSshEc → Prop
  | writeMsg, ec => ec.Idle
  | restart, ec => ec.Idle
  | flush _ _, ec => ∃ queue, SshHandshake false 0 queue ec.receiver
  | waitAck _ _, ec => ∃ queue, SshHandshake false 0 queue ec.receiver
  | takeAck _ _, ec => ∃ queue, SshHandshake false 1 queue ec.receiver
  | advance _, ec => ∃ queue, SshHandshake true 0 queue ec.receiver
  | waitResponse _ _, ec => ∃ queue, SshHandshake true 0 queue ec.receiver
  | takeResponse _ _, ec => ∃ queue, SshHandshake true 1 queue ec.receiver
  | takePayload _ packet, ec => SshLeftover packet ec.receiver
  | refused _ packet, ec => SshLeftover packet ec.receiver
  | writeAck _ _, ec => ∃ queue, SshHandshake true 0 queue ec.receiver
  | flushAck _, ec => ∃ queue, SshHandshake true 0 queue ec.receiver
  | discard _ _, ec => ∃ acked queue, SshHandshake acked 0 queue ec.receiver
  | returned _ _, ec => ec.Idle

variable {E : SshEnv} {c : SshRqstCall} {pc pc' : SshPc} {ec ec' : SamSshEc}

lemma Inv.receive (h : pc.Inv ec) (l : SshLine) : pc.Inv (l.step E ec) := by
  have hsome {acked : Bool} {claimed : ℕ}
      (h : ∃ queue, SshHandshake acked claimed queue ec.receiver) :
      ∃ queue, SshHandshake acked claimed queue (l.step E ec).receiver := by
    obtain ⟨queue, h⟩ := h
    exact h.receive l
  cases pc with
  | writeMsg => exact SamSshEc.Idle.stable l ec h
  | restart => exact SamSshEc.Idle.stable l ec h
  | flush _ _ => exact hsome h
  | waitAck _ _ => exact hsome h
  | takeAck _ _ => exact hsome h
  | advance _ => exact hsome h
  | waitResponse _ _ => exact hsome h
  | takeResponse _ _ => exact hsome h
  | takePayload _ _ => exact SshLeftover.receive l h
  | refused _ _ => exact SshLeftover.receive l h
  | writeAck _ _ => exact hsome h
  | flushAck _ => exact hsome h
  | discard _ _ =>
    obtain ⟨acked, h⟩ := h
    exact ⟨acked, hsome h⟩
  | returned _ _ => exact SamSshEc.Idle.stable l ec h

lemma Inv.nextTry (tries : ℕ) (packet : SshFifoPacket)
    (h : ∃ queue, SshHandshake false 0 queue ec.receiver) : (c.nextTry tries packet).Inv ec := by
  cases tries with
  | zero => exact ⟨false, h⟩
  | succ tries => exact h

lemma Inv.respond (packet : SshFifoPacket)
    (h : ∃ queue, SshHandshake true 0 queue ec.receiver) : (c.respond packet).Inv ec := by
  unfold SshRqstCall.respond
  split
  · exact ⟨true, h⟩
  · split_ifs
    · exact h
    · exact ⟨true, h⟩

/-- A wait that ends with a completion claims a packet. -/
lemma claim {acked : Bool} (h : ∃ queue, SshHandshake acked 0 queue ec.receiver)
    (hsignal : 0 < ec.receiver.signal) :
    ∃ queue, SshHandshake acked 1 queue { ec.receiver with signal := ec.receiver.signal - 1 } := by
  obtain ⟨queue, h⟩ := h
  have hcount := h.signal
  exact ⟨queue, h.shape, by dsimp only; omega, h.fifo⟩

lemma Inv.advanceStep (h : pc.Inv ec) {v : ℤ} (hstep : c.advanceStep E ec v pc = some (pc', ec')) :
    pc'.Inv ec' := by
  cases pc with
  | writeMsg =>
    cases hstep
    exact ⟨h.state, h.fifo⟩
  | restart =>
    cases hstep
    exact Inv.nextTry _ _ ⟨[], SamSshEc.Idle.handshake h c.rqst⟩
  | flush tries packet =>
    cases hstep
    split_ifs
    · exact ⟨false, h⟩
    · exact h
  | waitAck tries packet =>
    simp only [SshRqstCall.advanceStep] at hstep
    split_ifs at hstep with hsignal
    cases hstep
    exact claim h hsignal
  | takeAck tries packet =>
    cases hstep
    obtain ⟨queue, h⟩ := h
    rcases h.takeCtrl packet with ⟨htype, hrest⟩ | ⟨htype, hrest⟩
    · rw [if_neg (by rw [htype]; decide)]
      exact Inv.nextTry _ _ hrest
    · rw [if_pos htype]
      exact hrest
  | advance packet =>
    cases hstep
    exact Inv.respond packet h
  | waitResponse result packet =>
    simp only [SshRqstCall.advanceStep] at hstep
    split_ifs at hstep with hsignal
    cases hstep
    exact claim h hsignal
  | takeResponse result packet =>
    cases hstep
    obtain ⟨queue, h⟩ := h
    split_ifs
    · exact h.takeCmd packet
    · exact h.takeCmd packet
  | takePayload result packet =>
    cases hstep
    exact ⟨[], (SshLeftover.take h).2⟩
  | refused result packet =>
    cases hstep
    exact ⟨rfl, rfl⟩
  | writeAck result packet =>
    cases hstep
    exact h
  | flushAck result =>
    cases hstep
    exact ⟨true, h⟩
  | discard status result =>
    cases hstep
    exact ⟨rfl, rfl⟩
  | returned status result => cases hstep

lemma Inv.timeoutStep (h : pc.Inv ec) (hstep : c.timeoutStep ec pc = some (pc', ec')) :
    pc'.Inv ec' := by
  cases pc with
  | waitAck tries packet =>
    simp only [SshRqstCall.timeoutStep] at hstep
    split_ifs at hstep
    cases hstep
    exact Inv.nextTry _ _ h
  | waitResponse result packet =>
    simp only [SshRqstCall.timeoutStep] at hstep
    split_ifs at hstep
    cases hstep
    exact ⟨true, h⟩
  | _ => cases hstep

lemma Inv.step (h : pc.Inv ec) {a : Act SshLine} (hstep : c.step E pc ec a = some (pc', ec')) :
    pc'.Inv ec' := by
  cases a with
  | event l =>
    cases hstep
    exact h.receive l
  | step v => exact h.advanceStep hstep
  | timeout => exact h.timeoutStep hstep

end SshPc

/-! ### Requests one after the other -/

/-- The EC and the request that runs, if one does. -/
structure SshSession where
  request : Option (SshRqstCall × SshPc)
  ec : SamSshEc

/-- A request is called, a step of it or of the receive callback is made, or it returns. -/
inductive SshSessionAct where
  | call (c : SshRqstCall)
  | line (l : SshLine)
  | rqst (a : Act SshLine)
  | ret

def SshSession.step (E : SshEnv) : Machine SshSession SshSessionAct
  | s, .line l => some { s with ec := l.step E s.ec }
  | ⟨none, ec⟩, .call c => some ⟨some (c, c.enter), ec⟩
  | ⟨some (c, pc), ec⟩, .rqst a => (c.step E pc ec a).map fun r => ⟨some (c, r.1), r.2⟩
  | ⟨some (_, .returned _ _), ec⟩, .ret => some ⟨none, ec⟩
  | _, _ => none

def SshSession.Inv (s : SshSession) : Prop :=
  match s.request with
  | none => s.ec.Idle
  | some (_, pc) => pc.Inv s.ec

lemma SshSession.Inv.step {E : SshEnv} {s t : SshSession} {a : SshSessionAct} (h : s.Inv)
    (hstep : SshSession.step E s a = some t) : t.Inv := by
  obtain ⟨request, ec⟩ := s
  cases request with
  | none =>
    cases a with
    | call c =>
      cases hstep
      have hidle : ec.Idle := h
      unfold SshSession.Inv SshRqstCall.enter
      split_ifs
      · exact hidle
      · exact hidle
    | line l =>
      cases hstep
      exact SamSshEc.Idle.stable l ec h
    | rqst a => cases hstep
    | ret => cases hstep
  | some r =>
    obtain ⟨c, pc⟩ := r
    have hinv : pc.Inv ec := h
    cases a with
    | call c => cases hstep
    | line l =>
      cases hstep
      exact hinv.receive l
    | rqst a =>
      obtain ⟨⟨pc', ec'⟩, hpc, rfl⟩ := Option.map_eq_some_iff.mp hstep
      exact hinv.step hpc
    | ret =>
      cases pc with
      | returned status result =>
        cases hstep
        exact hinv
      | _ => cases hstep

/-- What a request can rely on at each of its points. -/
structure CompletionSound (pc : SshPc) (ec : SamSshEc) : Prop where
  restart : pc = .restart → ec.receiver.fifo.data = []
  packets : pc.exchanging = true → ∃ queue, SshQueueForm queue ∧
    ec.receiver.fifo.data = queue.flatMap SshQueued.bytes ∧
    ec.receiver.signal + pc.claimed = queue.length
  payload : ∀ packet, pc.header = some packet → packet.type = sshFrameTypeCmd ∧
    ec.receiver.signal = 0 ∧ ec.receiver.fifo.data.length = packet.len.toNat
  header : pc.claimed = 1 → (ec.kfifoOut 3).1.length = 3
  takeAck : ∀ tries packet, pc = .takeAck tries packet →
    SshCtrlType (packet.load (ec.kfifoOut 3).1).type
  takeResponse : ∀ result packet, pc = .takeResponse result packet →
    (packet.load (ec.kfifoOut 3).1).type = sshFrameTypeCmd
  takePayload : ∀ result packet, pc = .takePayload result packet →
    (ec.kfifoOut packet.len.toNat).1.length = packet.len.toNat

lemma SshHandshake.sound {acked : Bool} {claimed : ℕ} {queue : List SshQueued} {rcv : SshReceiver}
    (h : SshHandshake acked claimed queue rcv) : ∃ queue, SshQueueForm queue ∧
      rcv.fifo.data = queue.flatMap SshQueued.bytes ∧ rcv.signal + claimed = queue.length :=
  ⟨queue, h.shape.form, h.fifo, h.signal⟩

lemma SshHandshake.length_header {acked : Bool} {queue : List SshQueued} {ec : SamSshEc}
    (h : SshHandshake acked 1 queue ec.receiver) : (ec.kfifoOut 3).1.length = 3 := by
  obtain ⟨q, rest, -, hout, -⟩ := h.header ⟨0, 0, 0⟩
  rw [hout, SshFifoPacket.length_bytes]

namespace SshPc.Inv

variable {pc : SshPc} {ec : SamSshEc}

lemma packets (h : pc.Inv ec) (hpc : pc.exchanging = true) : ∃ queue, SshQueueForm queue ∧
    ec.receiver.fifo.data = queue.flatMap SshQueued.bytes ∧
    ec.receiver.signal + pc.claimed = queue.length := by
  cases pc with
  | flush _ _ => obtain ⟨_, h⟩ := h; exact h.sound
  | waitAck _ _ => obtain ⟨_, h⟩ := h; exact h.sound
  | takeAck _ _ => obtain ⟨_, h⟩ := h; exact h.sound
  | advance _ => obtain ⟨_, h⟩ := h; exact h.sound
  | waitResponse _ _ => obtain ⟨_, h⟩ := h; exact h.sound
  | takeResponse _ _ => obtain ⟨_, h⟩ := h; exact h.sound
  | writeAck _ _ => obtain ⟨_, h⟩ := h; exact h.sound
  | flushAck _ => obtain ⟨_, h⟩ := h; exact h.sound
  | discard _ _ => obtain ⟨_, _, h⟩ := h; exact h.sound
  | _ => cases hpc

lemma payload (h : pc.Inv ec) {packet : SshFifoPacket} (hpc : pc.header = some packet) :
    SshLeftover packet ec.receiver := by
  cases pc with
  | takePayload _ _ =>
    cases hpc
    exact h
  | refused _ _ =>
    cases hpc
    exact h
  | _ => cases hpc

lemma header (h : pc.Inv ec) (hpc : pc.claimed = 1) : (ec.kfifoOut 3).1.length = 3 := by
  cases pc with
  | takeAck _ _ =>
    obtain ⟨_, h⟩ := h
    exact h.length_header
  | takeResponse _ _ =>
    obtain ⟨_, h⟩ := h
    exact h.length_header
  | _ => cases hpc

lemma sound (h : pc.Inv ec) : CompletionSound pc ec where
  restart := by
    rintro rfl
    exact SamSshEc.Idle.fifo h
  packets := h.packets
  payload packet hpc := ⟨(h.payload hpc).type, (h.payload hpc).signal, (h.payload hpc).length⟩
  header := h.header
  takeAck := by
    rintro tries packet rfl
    obtain ⟨queue, h⟩ := h
    rcases h.takeCtrl packet with ⟨htype, -⟩ | ⟨htype, -⟩
    · exact .inr htype
    · exact .inl htype
  takeResponse := by
    rintro result packet rfl
    obtain ⟨queue, h⟩ := h
    exact (h.takeCmd packet).type
  takePayload := by
    rintro result packet rfl
    exact (SshLeftover.take h).1

end SshPc.Inv

/-- In every run of requests from a probed device, under every interleaving with received
bytes and timeouts, a completion assures a whole packet of the kind the request is about to
take. -/
theorem completion_assures_packet (E : SshEnv) (ec : SamSshEc) (evalBuf : Memory UInt8)
    (hstate : ec.receiver.state = .discard) (acts : List SshSessionAct) (s : SshSession)
    (hrun : Machine.run (SshSession.step E) ⟨none, (initializeReceiver ec evalBuf).ec⟩ acts = some s)
    (c : SshRqstCall) (pc : SshPc) (hpc : s.request = some (c, pc)) : CompletionSound pc s.ec := by
  have hstart : SshSession.Inv ⟨none, (initializeReceiver ec evalBuf).ec⟩ := ⟨hstate, rfl⟩
  have hinv : s.Inv := Machine.run_invariant hrun hstart (fun _ _ _ h hstep => h.step hstep)
  unfold SshSession.Inv at hinv
  rw [hpc] at hinv
  exact hinv.sound

/-- A request woken by its ACK, behind bytes that are no message. -/
theorem completion_assures_packet_ack :
    let rqst : SurfaceSamSshRqst := ⟨1, 2, 3, 1, 0, fun _ => 0⟩
    let recv (bytes : List UInt8) : SshSessionAct := .line ⟨fun i => bytes.getD i 0, bytes.length⟩
    ∃ s r, Machine.run (SshSession.step kernelEnv)
      ⟨none, (initializeReceiver sshEc (fun _ => 0)).ec⟩
      [.call ⟨rqst, none⟩, .rqst (.step 0), .rqst (.step 0), .rqst (.step 18), recv [1, 2, 3, 4, 5, 6],
        recv ((SshCtrlMessage.mk .ack 0 0 0).bytes kernelEnv), .rqst (.step 0)] = some s ∧
      s.request = some r ∧ r.2.claimed = 1 ∧ (s.ec.kfifoOut 3).1.length = 3 := by
  intro rqst recv
  generalize hacts : [SshSessionAct.call ⟨rqst, none⟩, .rqst (.step 0), .rqst (.step 0),
    .rqst (.step 18), recv [1, 2, 3, 4, 5, 6],
    recv ((SshCtrlMessage.mk .ack 0 0 0).bytes kernelEnv), .rqst (.step 0)] = acts
  have hrun : (Machine.run (SshSession.step kernelEnv)
      ⟨none, (initializeReceiver sshEc (fun _ => 0)).ec⟩ acts).any (fun s =>
        s.request.any (fun r => decide (r.2.claimed = 1))) = true := by
    rw [← hacts]
    decide +kernel
  obtain ⟨s, hs, hrequest⟩ := (Option.any_eq_true _ _).mp hrun
  obtain ⟨⟨c, pc⟩, hpc, hclaimed⟩ := (Option.any_eq_true _ _).mp hrequest
  have hsound := completion_assures_packet kernelEnv sshEc (fun _ => 0) rfl acts s hs c pc hpc
  exact ⟨s, (c, pc), hs, hpc, of_decide_eq_true hclaimed, hsound.header (of_decide_eq_true hclaimed)⟩

end SurfaceSam
