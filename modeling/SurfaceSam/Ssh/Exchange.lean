import SurfaceSam.Ssh.Message
import SurfaceSam.Ssh.Request

/-!
# The receiver during a request

While a request runs, the receiver accepts RETRY messages, then one ACK, then one response.
The FIFO holds the packets of what has been accepted and not been taken yet, and the
completion counts them. The receive callback keeps this as an invariant.
-/

namespace SurfaceSam

open Devlib

/-! ### Observations -/

namespace SshObs

/-- The receiver has accepted a message for the request. -/
def accepted : SshObs → Bool
  | ctrl _ _ => true
  | cmd _ _ _ _ => true
  | packet _ => false
  | write _ _ => false

/-- What an accepted message puts into the FIFO. -/
def fifoBytes : SshObs → List UInt8
  | ctrl type seq => [type, seq, 0]
  | cmd len seq _ pld => [sshFrameTypeCmd, seq, len - 8] ++ pld
  | packet _ => []
  | write _ _ => []

/-- An accepted message matches the request: an ACK by its sequence number, a command by
its request id. -/
def Matches (expect : SshExpect) : SshObs → Prop
  | ctrl type seq => type = sshFrameTypeAck → seq = expect.seq
  | cmd _ _ rqid _ => rqid = expect.rqid
  | packet _ => True
  | write _ _ => True

def IsRetry (o : SshObs) : Prop := ∃ type seq, o = .ctrl type seq ∧ type ≠ sshFrameTypeAck

end SshObs

/-- The messages accepted for a request, in order, and the receiver state they lead to. -/
inductive SshAccepted (expect : SshExpect) : SshReceiverState → List SshObs → Prop
  | waiting {rs : List SshObs} (retries : ∀ o ∈ rs, o.IsRetry) : SshAccepted expect .control rs
  | acked {rs : List SshObs} (retries : ∀ o ∈ rs, o.IsRetry) :
    SshAccepted expect (if expect.pld then .command else .discard)
      (rs ++ [.ctrl sshFrameTypeAck expect.seq])
  | answered {rs : List SshObs} (retries : ∀ o ∈ rs, o.IsRetry) {len seq : UInt8}
    {pld : List UInt8} (length_pld : pld.length = (len - 8).toNat) :
    SshAccepted expect .discard
      (rs ++ [.ctrl sshFrameTypeAck expect.seq, .cmd len seq expect.rqid pld])

lemma SshAccepted.matches {expect : SshExpect} {state : SshReceiverState} {acc : List SshObs}
    (h : SshAccepted expect state acc) : ∀ o ∈ acc, o.Matches expect := by
  have hretry (o : SshObs) (ho : o.IsRetry) : o.Matches expect := by
    obtain ⟨type, seq, rfl, hne⟩ := ho
    exact fun htype => absurd htype hne
  intro o ho
  cases h with
  | waiting retries => exact hretry o (retries o ho)
  | acked retries =>
    rcases List.mem_append.mp ho with ho | ho
    · exact hretry o (retries o ho)
    · cases List.mem_singleton.mp ho
      exact fun _ => rfl
  | answered retries _ =>
    rcases List.mem_append.mp ho with ho | ho
    · exact hretry o (retries o ho)
    · rcases List.mem_cons.mp ho with rfl | ho
      · exact fun _ => rfl
      · cases List.mem_singleton.mp ho
        rfl

/-- Observations of the request itself match anyway. -/
lemma SshObs.matches_of_filter {expect : SshExpect} {τ : List SshObs}
    (h : ∀ o ∈ τ.filter SshObs.accepted, o.Matches expect) : ∀ o ∈ τ, o.Matches expect := by
  intro o ho
  cases o with
  | ctrl type seq => exact h _ (List.mem_filter.mpr ⟨ho, rfl⟩)
  | cmd len seq rqid pld => exact h _ (List.mem_filter.mpr ⟨ho, rfl⟩)
  | packet _ => trivial
  | write _ _ => trivial

/-- During a request: `taken` are the accepted messages whose packets the request has
taken from the FIFO, `pending` those it has not, of which `hold` have been waited for; `own`
is what the request has done itself. -/
structure SshDuring (ec₀ : SamSshEc) (expect : SshExpect) (counter : SshCounters)
    (writer : List UInt8) (taken : List SshObs) (hold : ℕ) (own pending τ : List SshObs)
    (ec : SamSshEc) : Prop where
  trace : ec.trace = ec₀.trace ++ τ
  accepted : τ.filter SshObs.accepted = taken ++ pending
  own : τ.filter (fun o => !o.accepted) = own
  shape : SshAccepted expect ec.receiver.state (taken ++ pending)
  signal : ec.receiver.signal + hold = pending.length
  fifo : ec.receiver.fifo.data = pending.flatMap SshObs.fifoBytes
  expect : ec.receiver.expect = expect
  counter : ec.counter = counter
  writer : ec.writer = writer

/-! ### The receive callback keeps it -/

section Receive

variable {E : SshEnv} {ec : SamSshEc}

lemma SamSshEc.dispatch_request (ec : SamSshEc) (work : SshEventWork) :
    (ec.dispatch E work).trace = ec.trace ∧ (ec.dispatch E work).receiver = ec.receiver ∧
      (ec.dispatch E work).counter = ec.counter ∧ (ec.dispatch E work).writer = ec.writer := by
  unfold SamSshEc.dispatch SamSshEc.queueEvent
  split_ifs
  · exact ⟨rfl, rfl, rfl, rfl⟩
  · exact ⟨rfl, rfl, rfl, rfl⟩
  · exact ⟨rfl, rfl, rfl, rfl⟩

/-- What an evaluation can do to the part of the EC a request works with. -/
inductive SshRecvStep (ec ec' : SamSshEc) : Prop
  | none (trace : ec'.trace = ec.trace) (receiver : ec'.receiver = ec.receiver)
    (counter : ec'.counter = ec.counter) (writer : ec'.writer = ec.writer)
  | ctrl (type seq : UInt8) (h : ec' = ec.acceptCtrl type seq)
    (state : ec.receiver.state = .control)
    (expect : type = sshFrameTypeAck → seq = ec.receiver.expect.seq)
    (room : 3 ≤ ec.receiver.fifo.kfifoAvail)
  | cmd (len seq : UInt8) (pld : List UInt8)
    (h : ec' = ec.acceptCmd len seq ec.receiver.expect.rqid pld)
    (state : ec.receiver.state = .command) (length_pld : pld.length = (len - 8).toNat)
    (room : 3 + (len - 8).toNat ≤ ec.receiver.fifo.kfifoAvail)

lemma SshLine.step_recv (l : SshLine) (ec : SamSshEc) : SshRecvStep ec (l.step E ec) := by
  unfold SshLine.step
  have h := sshEval_step E ec l.mem l.size
  generalize (sshEval E ec l.mem l.size).2 = ec' at h ⊢
  cases h with
  | log log => exact .none rfl rfl rfl rfl
  | event _ _ =>
    obtain ⟨htrace, hreceiver, hcounter, hwriter⟩ :=
      ec.dispatch_request (E := E) (eventWorkAt l.mem)
    exact .none htrace hreceiver hcounter hwriter
  | ctrl _ state seq room => exact .ctrl _ _ rfl state seq room
  | cmd _ _ state rqid room =>
    rw [← rqid]
    exact .cmd _ _ _ rfl state (by simp) room

/-- An idle receiver accepts nothing. -/
lemma SshLine.step_discard (l : SshLine) (hstate : ec.receiver.state = .discard) :
    (l.step E ec).trace = ec.trace ∧ (l.step E ec).receiver = ec.receiver ∧
      (l.step E ec).counter = ec.counter ∧ (l.step E ec).writer = ec.writer := by
  rcases l.step_recv (E := E) ec with
    ⟨htrace, hreceiver, hcounter, hwriter⟩ | ⟨_, _, -, h, -, -⟩ | ⟨_, _, _, -, h, -, -⟩
  · exact ⟨htrace, hreceiver, hcounter, hwriter⟩
  · rw [hstate] at h
    cases h
  · rw [hstate] at h
    cases h

end Receive

section Stable

variable {E : SshEnv} {ec₀ ec : SamSshEc} {expect : SshExpect} {counter : SshCounters}
  {writer : List UInt8} {taken own pending τ : List SshObs} {hold : ℕ}

/-- While the receiver waits for the ACK, only RETRY messages have been accepted. -/
lemma SshAccepted.of_control {acc : List SshObs} (h : SshAccepted expect .control acc) :
    ∀ o ∈ acc, o.IsRetry := by
  generalize hstate : SshReceiverState.control = state at h
  cases h with
  | waiting retries => exact retries
  | acked _ => split_ifs at hstate
  | answered _ _ => cases hstate

lemma SshAccepted.of_command {acc : List SshObs} (h : SshAccepted expect .command acc) :
    ∃ rs, (∀ o ∈ rs, o.IsRetry) ∧ acc = rs ++ [.ctrl sshFrameTypeAck expect.seq] := by
  generalize hstate : SshReceiverState.command = state at h
  cases h with
  | waiting _ => cases hstate
  | acked retries => exact ⟨_, retries, rfl⟩
  | answered _ _ => cases hstate

lemma SshDuring.ctrl {type seq : UInt8}
    (h : SshDuring ec₀ expect counter writer taken hold own pending τ ec)
    (hstate : ec.receiver.state = .control)
    (hseq : type = sshFrameTypeAck → seq = ec.receiver.expect.seq)
    (hroom : 3 ≤ ec.receiver.fifo.kfifoAvail) :
    SshDuring ec₀ expect counter writer taken hold own (pending ++ [.ctrl type seq])
      (τ ++ [.ctrl type seq]) (ec.acceptCtrl type seq) where
  trace := by rw [← List.append_assoc, ← h.trace]; rfl
  accepted := by
    rw [List.filter_append, h.accepted, List.append_assoc]
    rfl
  own := by
    rw [List.filter_append, h.own]
    exact List.append_nil own
  shape := by
    have hretry := (hstate ▸ h.shape).of_control
    rw [← List.append_assoc]
    by_cases htype : type = sshFrameTypeAck
    · subst htype
      have hnext : (ec.acceptCtrl sshFrameTypeAck seq).receiver.state =
          if expect.pld then .command else .discard := by
        rw [← h.expect]
        simp [SamSshEc.acceptCtrl]
      rw [hnext, hseq rfl, h.expect]
      exact .acked hretry
    · have hnext : (ec.acceptCtrl type seq).receiver.state = .control := by
        rw [← hstate]
        simp [SamSshEc.acceptCtrl, show type ≠ 0x40 from htype]
      rw [hnext]
      refine .waiting (fun o ho => ?_)
      rcases List.mem_append.mp ho with ho | ho
      · exact hretry o ho
      · exact ⟨type, seq, List.mem_singleton.mp ho, htype⟩
  signal := by
    have hsig := h.signal
    rw [List.length_append]
    change ec.receiver.signal + 1 + hold = _
    simp
    omega
  fifo := by
    have hdata := ec.receiver.fifo.data_kfifoIn (SshFifoPacket.mk type seq 0).bytes hroom
    rw [h.fifo] at hdata
    rw [List.flatMap_append]
    exact hdata
  expect := h.expect
  counter := h.counter
  writer := h.writer

lemma SshDuring.cmd {len seq : UInt8} {pld : List UInt8}
    (h : SshDuring ec₀ expect counter writer taken hold own pending τ ec)
    (hstate : ec.receiver.state = .command) (hpld : pld.length = (len - 8).toNat)
    (hroom : 3 + (len - 8).toNat ≤ ec.receiver.fifo.kfifoAvail) :
    SshDuring ec₀ expect counter writer taken hold own
      (pending ++ [.cmd len seq expect.rqid pld]) (τ ++ [.cmd len seq expect.rqid pld])
      (ec.acceptCmd len seq expect.rqid pld) where
  trace := by rw [← List.append_assoc, ← h.trace]; rfl
  accepted := by
    rw [List.filter_append, h.accepted, List.append_assoc]
    rfl
  own := by
    rw [List.filter_append, h.own]
    exact List.append_nil own
  shape := by
    obtain ⟨rs, hretry, hacc⟩ := (hstate ▸ h.shape).of_command
    rw [← List.append_assoc, hacc, List.append_assoc]
    exact .answered hretry hpld
  signal := by
    have hsig := h.signal
    rw [List.length_append]
    change ec.receiver.signal + 1 + hold = _
    simp
    omega
  fifo := by
    have hdata := ec.receiver.fifo.data_kfifoIn_kfifoIn
      (SshFifoPacket.mk sshFrameTypeCmd seq (len - 8)).bytes pld (by simp [hpld]; omega)
    rw [h.fifo] at hdata
    rw [List.flatMap_append]
    exact hdata.trans (by simp [SshObs.fifoBytes, SshFifoPacket.bytes])
  expect := h.expect
  counter := h.counter
  writer := h.writer

theorem SshDuring.stable : Prog.Stable (SshLine.step E) (fun ec => ∃ pending τ,
    SshDuring ec₀ expect counter writer taken hold own pending τ ec) := by
  rintro l ec ⟨pending, τ, h⟩
  rcases l.step_recv (E := E) ec with
    ⟨htrace, hreceiver, hcounter, hwriter⟩ | ⟨type, seq, hres, hstate, hseq, hroom⟩ |
    ⟨len, seq, pld, hres, hstate, hpld, hroom⟩
  · refine ⟨pending, τ, ?_⟩
    constructor
    · rw [htrace, h.trace]
    · exact h.accepted
    · exact h.own
    · rw [hreceiver]
      exact h.shape
    · rw [hreceiver]
      exact h.signal
    · rw [hreceiver]
      exact h.fifo
    · rw [hreceiver]
      exact h.expect
    · rw [hcounter, h.counter]
    · rw [hwriter, h.writer]
  · rw [hres]
    exact ⟨_, _, h.ctrl hstate hseq hroom⟩
  · rw [hres, h.expect]
    exact ⟨_, _, h.cmd hstate hpld hroom⟩

end Stable

/-! ### Taking packets from the FIFO -/

section Take

variable {ec₀ ec : SamSshEc} {expect : SshExpect} {counter : SshCounters}
  {writer : List UInt8} {taken own rest τ : List SshObs} {hold : ℕ} {o : SshObs}

lemma SshObs.not_isRetry_ack (seq : UInt8) : ¬(SshObs.ctrl sshFrameTypeAck seq).IsRetry := by
  rintro ⟨type, seq', h, hne⟩
  cases h
  exact hne rfl

/-- Where the first element without a property stands does not depend on the split. -/
lemma append_cons_eq {β : Type} {P : β → Prop} {l l' : List β} {a a' : β} {r r' : List β}
    (hl : ∀ x ∈ l, P x) (hl' : ∀ x ∈ l', P x) (ha' : ¬P a') (h : l ++ a :: r = l' ++ a' :: r') :
    P a ∨ (l = l' ∧ a = a' ∧ r = r') := by
  induction l generalizing l' with
  | nil =>
    cases l' with
    | nil =>
      rw [List.nil_append, List.nil_append] at h
      obtain ⟨rfl, rfl⟩ := List.cons_eq_cons.mp h
      exact .inr ⟨rfl, rfl, rfl⟩
    | cons x l' =>
      obtain ⟨rfl, -⟩ := List.cons_eq_cons.mp h
      exact .inl (hl' a List.mem_cons_self)
  | cons x l ih =>
    cases l' with
    | nil =>
      obtain ⟨rfl, -⟩ := List.cons_eq_cons.mp h
      exact absurd (hl x List.mem_cons_self) ha'
    | cons y l' =>
      obtain ⟨rfl, htail⟩ := List.cons_eq_cons.mp h
      rcases ih (fun z hz => hl z (List.mem_cons_of_mem x hz))
        (fun z hz => hl' z (List.mem_cons_of_mem x hz)) htail with ha | ⟨rfl, rfl, rfl⟩
      · exact .inl ha
      · exact .inr ⟨rfl, rfl, rfl⟩

/-- Behind RETRY messages comes a RETRY message or the ACK. -/
lemma SshAccepted.next_of_retries {state : SshReceiverState}
    (h : SshAccepted expect state (taken ++ o :: rest)) (htaken : ∀ o ∈ taken, o.IsRetry) :
    o.IsRetry ∨ o = .ctrl sshFrameTypeAck expect.seq := by
  generalize hacc : taken ++ o :: rest = acc at h
  cases h with
  | waiting retries => exact .inl (retries o (by simp [← hacc]))
  | acked retries =>
    exact (append_cons_eq htaken retries (SshObs.not_isRetry_ack _) hacc).imp_right
      (fun h => h.2.1)
  | answered retries _ =>
    exact (append_cons_eq htaken retries (SshObs.not_isRetry_ack _) hacc).imp_right
      (fun h => h.2.1)

/-- Behind the ACK comes the response, and nothing else. -/
lemma SshAccepted.next_of_acked {state : SshReceiverState} {rs : List SshObs} {seq : UInt8}
    (h : SshAccepted expect state (rs ++ [.ctrl sshFrameTypeAck seq] ++ o :: rest))
    (hrs : ∀ o ∈ rs, o.IsRetry) : state = .discard ∧ rest = [] ∧
      ∃ len seq pld, o = .cmd len seq expect.rqid pld ∧ pld.length = (len - 8).toNat := by
  rw [List.append_assoc] at h
  generalize hacc : rs ++ ([.ctrl sshFrameTypeAck seq] ++ o :: rest) = acc at h
  cases h with
  | waiting retries =>
    exact absurd (retries _ (by simp [← hacc])) (SshObs.not_isRetry_ack seq)
  | acked retries =>
    rcases append_cons_eq hrs retries (SshObs.not_isRetry_ack _) hacc with hack | ⟨-, -, hr⟩
    · exact absurd hack (SshObs.not_isRetry_ack seq)
    · cases hr
  | answered retries length_pld =>
    rcases append_cons_eq hrs retries (SshObs.not_isRetry_ack _) hacc with hack | ⟨-, -, hr⟩
    · exact absurd hack (SshObs.not_isRetry_ack seq)
    · obtain ⟨rfl, rfl⟩ := List.cons_eq_cons.mp hr
      exact ⟨rfl, rfl, _, _, _, rfl, length_pld⟩

/-- When a packet has been waited for, it is there. -/
lemma SshDuring.pending_ne_nil {pending : List SshObs}
    (h : SshDuring ec₀ expect counter writer taken 1 own pending τ ec) :
    ∃ o rest, pending = o :: rest := by
  cases pending with
  | nil => cases h.signal
  | cons o rest => exact ⟨o, rest, rfl⟩

/-- Taking the packet of a control message. -/
lemma SshDuring.takeCtrl {type seq : UInt8} (packet : SshFifoPacket)
    (h : SshDuring ec₀ expect counter writer taken 1 own (.ctrl type seq :: rest) τ ec) :
    packet.load (ec.kfifoOut 3).1 = ⟨type, seq, 0⟩ ∧
      SshDuring ec₀ expect counter writer (taken ++ [.ctrl type seq]) 0
        (own ++ [.packet ⟨type, seq, 0⟩]) rest (τ ++ [.packet ⟨type, seq, 0⟩])
        { (ec.kfifoOut 3).2 with trace := ec.trace ++ [.packet ⟨type, seq, 0⟩] } := by
  have hdata : ec.receiver.fifo.data = [type, seq, 0] ++ rest.flatMap SshObs.fifoBytes := h.fifo
  have hsig := h.signal
  refine ⟨?_, ?_⟩
  · simp [SamSshEc.kfifoOut, Kfifo.kfifoOut, hdata, SshFifoPacket.load]
  · constructor
    · rw [← List.append_assoc, ← h.trace]
    · simp [List.filter_append, h.accepted, SshObs.accepted]
    · rw [List.filter_append, h.own]
      rfl
    · rw [List.append_assoc]
      exact h.shape
    · simpa [SamSshEc.kfifoOut] using hsig
    · simp [SamSshEc.kfifoOut, Kfifo.kfifoOut, hdata]
    · exact h.expect
    · exact h.counter
    · exact h.writer

end Take

end SurfaceSam
