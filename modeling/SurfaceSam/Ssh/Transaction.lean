import SurfaceSam.Ssh.Exchange
import SurfaceSam.Ssh.Probe

/-!
# Request transactions

What a request does while the receive callback runs between its steps: the program of a
request is followed step by step, with the exchange of the receiver at each point.
-/

namespace SurfaceSam

open Devlib

/-! ### Sending the command message -/

/-- The bytes of the command message of a request. -/
def sshMsgCmd (E : SshEnv) (rqst : SurfaceSamSshRqst) (ec : SamSshEc) : List UInt8 :=
  (ec.sshWriteMsgCmd E rqst).writer

def SshObs.isWrite : SshObs → Bool
  | .write _ _ => true
  | _ => false

/-- Before the ACK: at most `n` times the bytes `msg` have been written, and no ACK has been
taken from the FIFO. -/
structure SshSending (msg : List UInt8) (n : ℕ) (own : List SshObs) : Prop where
  obs : ∀ o ∈ own, (∃ status, o = .write msg status) ∨
    ∃ packet, o = .packet packet ∧ packet.type ≠ sshFrameTypeAck
  writes : own.countP SshObs.isWrite ≤ n

lemma SshSending.nil (msg : List UInt8) : SshSending msg 0 [] where
  obs := by simp
  writes := Nat.le_refl 0

lemma SshSending.mono {msg : List UInt8} {m n : ℕ} {own : List SshObs} (h : SshSending msg m own)
    (hle : m ≤ n) : SshSending msg n own where
  obs := h.obs
  writes := Nat.le_trans h.writes hle

lemma SshSending.write {msg : List UInt8} {n : ℕ} {own : List SshObs} (h : SshSending msg n own)
    (status : ℤ) : SshSending msg (n + 1) (own ++ [.write msg status]) where
  obs := by
    intro o ho
    rcases List.mem_append.mp ho with ho | ho
    · exact h.obs o ho
    · exact .inl ⟨status, List.mem_singleton.mp ho⟩
  writes := by
    have hw := h.writes
    rw [List.countP_append]
    simp [SshObs.isWrite]
    omega

lemma SshSending.packet {msg : List UInt8} {n : ℕ} {own : List SshObs} (h : SshSending msg n own)
    {packet : SshFifoPacket} (hne : packet.type ≠ sshFrameTypeAck) :
    SshSending msg n (own ++ [.packet packet]) where
  obs := by
    intro o ho
    rcases List.mem_append.mp ho with ho | ho
    · exact h.obs o ho
    · exact .inr ⟨packet, List.mem_singleton.mp ho, hne⟩
  writes := by
    have hw := h.writes
    rw [List.countP_append]
    simpa [SshObs.isWrite] using hw

/-- A point of the program of a request, see `SshDuring`. -/
def SshPoint (ec₀ : SamSshEc) (expect : SshExpect) (counter : SshCounters) (writer : List UInt8)
    (taken : List SshObs) (hold : ℕ) (own : List SshObs) (ec : SamSshEc) : Prop :=
  ∃ pending τ, SshDuring ec₀ expect counter writer taken hold own pending τ ec

section Send

variable {E : SshEnv} {ec₀ ec : SamSshEc} {expect : SshExpect} {counter : SshCounters}
  {writer : List UInt8} {taken own : List SshObs} {α : Type} {Q : α → SamSshEc → Prop}

lemma wp_sshWriterFlush {f : ℤ → Prog SamSshEc α}
    (h : SshPoint ec₀ expect counter writer taken 0 own ec)
    (hnext : ∀ status ec, SshPoint ec₀ expect counter writer taken 0
      (own ++ [.write writer status]) ec →
      Prog.wp (SshLine.step E) (f (if 0 ≤ status then 0 else status)) Q ec) :
    Prog.wp (SshLine.step E) (sshWriterFlush >>= f) Q ec := by
  apply Prog.wp_choose SshDuring.stable h
  rintro status t ⟨pending, τ, ht⟩
  apply hnext status
  refine ⟨pending, τ ++ [.write writer status], ?_⟩
  constructor
  · rw [← List.append_assoc, ← ht.trace, ← ht.writer]
  · simp [List.filter_append, ht.accepted, SshObs.accepted]
  · rw [List.filter_append, ht.own]
    rfl
  · exact ht.shape
  · exact ht.signal
  · exact ht.fifo
  · exact ht.expect
  · exact ht.counter
  · exact ht.writer

lemma wp_waitForCompletionTimeout {f : Bool → Prog SamSshEc α}
    (h : SshPoint ec₀ expect counter writer taken 0 own ec)
    (hsignal : ∀ ec, SshPoint ec₀ expect counter writer taken 1 own ec →
      Prog.wp (SshLine.step E) (f true) Q ec)
    (htimeout : ∀ ec, SshPoint ec₀ expect counter writer taken 0 own ec →
      Prog.wp (SshLine.step E) (f false) Q ec) :
    Prog.wp (SshLine.step E) (waitForCompletionTimeout >>= f) Q ec := by
  refine Prog.wp_wait SshDuring.stable h ?_ (fun t ht _ => htimeout t ht)
  rintro t ⟨pending, τ, ht⟩ hready
  apply hsignal
  have hpos : 0 < t.receiver.signal := of_decide_eq_true hready
  have hsig := ht.signal
  exact ⟨pending, τ, ht.trace, ht.accepted, ht.own, ht.shape, by dsimp only; omega, ht.fifo,
    ht.expect, ht.counter, ht.writer⟩

/-- The packet taken behind RETRY messages is a control packet, and an ACK is the one
expected. -/
lemma wp_kfifoOutPacket_ctrl {f : SshFifoPacket → Prog SamSshEc α} (packet : SshFifoPacket)
    (htaken : ∀ o ∈ taken, o.IsRetry)
    (h : SshPoint ec₀ expect counter writer taken 1 own ec)
    (hnext : ∀ type seq ec, (type = sshFrameTypeAck → seq = expect.seq) →
      SshPoint ec₀ expect counter writer (taken ++ [.ctrl type seq]) 0
        (own ++ [.packet ⟨type, seq, 0⟩]) ec →
      Prog.wp (SshLine.step E) (f ⟨type, seq, 0⟩) Q ec) :
    Prog.wp (SshLine.step E) (kfifoOutPacket packet >>= f) Q ec := by
  apply Prog.wp_atomic SshDuring.stable h
  rintro t ⟨pending, τ, ht⟩
  obtain ⟨o, rest, rfl⟩ := ht.pending_ne_nil
  obtain ⟨type, seq, rfl, hseq⟩ : ∃ type seq, o = .ctrl type seq ∧
      (type = sshFrameTypeAck → seq = expect.seq) := by
    rcases ht.shape.next_of_retries htaken with ⟨type, seq, ho, hne⟩ | ho
    · exact ⟨type, seq, ho, fun htype => absurd htype hne⟩
    · exact ⟨_, _, ho, fun _ => rfl⟩
  obtain ⟨hload, hnew⟩ := ht.takeCtrl packet
  have hwp := hnext type seq _ hseq ⟨_, _, hnew⟩
  rw [← hload] at hwp
  exact hwp

/-- How sending the command message ends, see `SshSent`. -/
def SshSentPost (ec₀ : SamSshEc) (expect : SshExpect) (counter : SshCounters)
    (writer : List UInt8) : SshSent → SamSshEc → Prop
  | .failed status, ec => status ≠ 0 ∧ ∃ taken own, SshSending writer sshNumRetry own ∧
      SshPoint ec₀ expect counter writer taken 0 own ec
  | .gaveUp, ec => ∃ taken own, SshSending writer sshNumRetry own ∧
      SshPoint ec₀ expect counter writer taken 0 own ec
  | .acked _, ec => ∃ rs own, (∀ o ∈ rs, o.IsRetry) ∧ SshSending writer sshNumRetry own ∧
      SshPoint ec₀ expect counter writer (rs ++ [.ctrl sshFrameTypeAck expect.seq]) 0
        (own ++ [.packet ⟨sshFrameTypeAck, expect.seq, 0⟩]) ec

lemma SshSentPost.stable (r : SshSent) :
    Prog.Stable (SshLine.step E) (SshSentPost ec₀ expect counter writer r) := by
  cases r with
  | failed status =>
    exact .const_and _ (.exists fun _ => .exists fun _ => .const_and _ SshDuring.stable)
  | gaveUp => exact .exists fun _ => .exists fun _ => .const_and _ SshDuring.stable
  | acked packet =>
    exact .exists fun _ => .exists fun _ => .const_and _ (.const_and _ SshDuring.stable)

/-- The tries left and the messages written together are at most three; every packet taken
so far was a RETRY. -/
lemma wp_sshSendCommand (tries : ℕ) (packet : SshFifoPacket) (n : ℕ) (hn : n + tries ≤ sshNumRetry)
    (hsending : SshSending writer n own) (htaken : ∀ o ∈ taken, o.IsRetry)
    (h : SshPoint ec₀ expect counter writer taken 0 own ec) :
    Prog.wp (SshLine.step E) (sshSendCommand tries packet)
      (SshSentPost ec₀ expect counter writer) ec := by
  induction tries generalizing packet n taken own ec with
  | zero =>
    apply Prog.wp_pure (SshSentPost.stable _)
    exact ⟨taken, own, hsending.mono (by omega), h⟩
  | succ tries ih =>
    rw [sshSendCommand]
    apply wp_sshWriterFlush h
    intro status t ht
    have hsending' := hsending.write status
    by_cases hstatus : 0 ≤ status
    · rw [if_pos hstatus, if_neg (by simp)]
      apply wp_waitForCompletionTimeout ht
      · intro u hu
        rw [if_pos rfl]
        apply wp_kfifoOutPacket_ctrl packet htaken hu
        intro type seq v hseq hv
        by_cases htype : type = sshFrameTypeAck
        · rw [if_pos htype]
          apply Prog.wp_pure (SshSentPost.stable _)
          rw [htype, hseq htype] at hv
          exact ⟨taken, _, htaken, hsending'.mono (by omega), hv⟩
        · rw [if_neg htype]
          refine ih _ (n + 1) (by omega) (hsending'.packet htype) (fun o ho => ?_) hv
          rcases List.mem_append.mp ho with ho | ho
          · exact htaken o ho
          · exact ⟨type, seq, List.mem_singleton.mp ho, htype⟩
      · intro u hu
        rw [if_neg (by simp)]
        exact ih packet (n + 1) (by omega) hsending' htaken hu
    · rw [if_neg hstatus, if_pos (by omega)]
      apply Prog.wp_pure (SshSentPost.stable _)
      exact ⟨by omega, taken, _, hsending'.mono (by omega), ht⟩

end Send

/-! ### Getting the response -/

def sshMsgAck (E : SshEnv) (seq : UInt8) : List UInt8 :=
  [0xaa, 0x55] ++ [sshFrameTypeAck, 0x00, 0x00, seq] ++
    crcBytes E [sshFrameTypeAck, 0x00, 0x00, seq] ++ [0xff, 0xff]

lemma SamSshEc.writer_sshWriteMsgAck (E : SshEnv) (ec : SamSshEc) (seq : UInt8) :
    (ec.sshWriteMsgAck E seq).writer = sshMsgAck E seq := rfl

/-- The response has been accepted and its header taken, so that the receiver discards
everything; `fifo` is what is left of the response. -/
structure SshAnswered (ec₀ : SamSshEc) (expect : SshExpect) (counter : SshCounters)
    (acc own τ : List SshObs) (fifo writer : List UInt8) (ec : SamSshEc) : Prop where
  trace : ec.trace = ec₀.trace ++ τ
  accepted : τ.filter SshObs.accepted = acc
  matching : ∀ o ∈ τ, o.Matches expect
  own : τ.filter (fun o => !o.accepted) = own
  state : ec.receiver.state = .discard
  fifo : ec.receiver.fifo.data = fifo
  counter : ec.counter = counter
  writer : ec.writer = writer

section Respond

variable {E : SshEnv} {ec₀ ec : SamSshEc} {expect : SshExpect} {counter : SshCounters}
  {writer fifo : List UInt8} {rs acc own τ : List SshObs} {α : Type} {Q : α → SamSshEc → Prop}

lemma SshAnswered.stable :
    Prog.Stable (SshLine.step E) (SshAnswered ec₀ expect counter acc own τ fifo writer) := by
  intro l ec h
  obtain ⟨htrace, hreceiver, hcounter, hwriter⟩ := l.step_discard (E := E) h.state
  constructor
  · rw [htrace, h.trace]
  · exact h.accepted
  · exact h.matching
  · exact h.own
  · rw [hreceiver, h.state]
  · rw [hreceiver, h.fifo]
  · rw [hcounter, h.counter]
  · rw [hwriter, h.writer]

/-- The packet taken behind the ACK is that of the response. -/
lemma wp_kfifoOutPacket_cmd {f : SshFifoPacket → Prog SamSshEc α} (packet : SshFifoPacket)
    {ackSeq : UInt8} (hrs : ∀ o ∈ rs, o.IsRetry)
    (h : SshPoint ec₀ expect counter writer (rs ++ [.ctrl sshFrameTypeAck ackSeq]) 1 own ec)
    (hnext : ∀ len seq pld τ ec, pld.length = (len - 8).toNat →
      SshAnswered ec₀ expect counter
        (rs ++ [.ctrl sshFrameTypeAck ackSeq, .cmd len seq expect.rqid pld])
        (own ++ [.packet ⟨sshFrameTypeCmd, seq, len - 8⟩]) τ pld writer ec →
      Prog.wp (SshLine.step E) (f ⟨sshFrameTypeCmd, seq, len - 8⟩) Q ec) :
    Prog.wp (SshLine.step E) (kfifoOutPacket packet >>= f) Q ec := by
  apply Prog.wp_atomic SshDuring.stable h
  rintro t ⟨pending, τ, ht⟩
  obtain ⟨o, rest, rfl⟩ := ht.pending_ne_nil
  obtain ⟨hstate, rfl, len, seq, pld, rfl, hpld⟩ := ht.shape.next_of_acked hrs
  have hdata : t.receiver.fifo.data = [sshFrameTypeCmd, seq, len - 8] ++ pld := by
    rw [ht.fifo]
    simp [SshObs.fifoBytes]
  have hload : packet.load (t.kfifoOut 3).1 = ⟨sshFrameTypeCmd, seq, len - 8⟩ := by
    simp [SamSshEc.kfifoOut, Kfifo.kfifoOut, hdata, SshFifoPacket.load]
  have hwp := hnext len seq pld (τ ++ [.packet ⟨sshFrameTypeCmd, seq, len - 8⟩])
    { (t.kfifoOut 3).2 with
      trace := t.trace ++ [.packet ⟨sshFrameTypeCmd, seq, len - 8⟩] } hpld (by
    have hacc : (τ ++ [SshObs.packet ⟨sshFrameTypeCmd, seq, len - 8⟩]).filter SshObs.accepted =
        rs ++ [.ctrl sshFrameTypeAck ackSeq, .cmd len seq expect.rqid pld] := by
      simp [List.filter_append, ht.accepted, SshObs.accepted]
    constructor
    · rw [← List.append_assoc, ← ht.trace]
    · exact hacc
    · apply SshObs.matches_of_filter
      rw [hacc]
      simpa using ht.shape.matches
    · rw [List.filter_append, ht.own]
      rfl
    · exact hstate
    · simp [SamSshEc.kfifoOut, Kfifo.kfifoOut, hdata]
    · exact ht.counter
    · exact ht.writer)
  rw [← hload] at hwp
  exact hwp

/-- The payload is copied to the result buffer. -/
lemma wp_kfifoOutResult {f : SurfaceSamSshBuf → Prog SamSshEc α} (result : SurfaceSamSshBuf)
    {len : UInt8} (hlen : fifo.length = len.toNat)
    (h : SshAnswered ec₀ expect counter acc own τ fifo writer ec)
    (hnext : ∀ ec, SshAnswered ec₀ expect counter acc own τ [] writer ec →
      Prog.wp (SshLine.step E) (f ⟨result.cap, len, result.data.memcpy 0 fifo⟩) Q ec) :
    Prog.wp (SshLine.step E) (kfifoOutResult result len >>= f) Q ec := by
  apply Prog.wp_atomic SshAnswered.stable h
  intro t ht
  have hout : (t.kfifoOut len.toNat).1 = fifo := by
    simp [SamSshEc.kfifoOut, Kfifo.kfifoOut, ht.fifo, ← hlen]
  have hwp := hnext (t.kfifoOut len.toNat).2 ⟨ht.trace, ht.accepted, ht.matching, ht.own, ht.state, by
    simp [SamSshEc.kfifoOut, Kfifo.kfifoOut, ht.fifo, ← hlen], ht.counter, ht.writer⟩
  rw [← hout] at hwp
  exact hwp

lemma wp_sshWriteMsgAck {f : Unit → Prog SamSshEc α} (seq : UInt8)
    (h : SshAnswered ec₀ expect counter acc own τ fifo writer ec)
    (hnext : ∀ ec, SshAnswered ec₀ expect counter acc own τ fifo (sshMsgAck E seq) ec →
      Prog.wp (SshLine.step E) (f ()) Q ec) :
    Prog.wp (SshLine.step E) (Prog.modify (fun ec => ec.sshWriteMsgAck E seq) >>= f) Q ec := by
  apply Prog.wp_atomic SshAnswered.stable h
  intro t ht
  exact hnext _ ⟨ht.trace, ht.accepted, ht.matching, ht.own, ht.state, ht.fifo, ht.counter,
    t.writer_sshWriteMsgAck E seq⟩

lemma wp_sshWriterFlush_answered {f : ℤ → Prog SamSshEc α}
    (h : SshAnswered ec₀ expect counter acc own τ fifo writer ec)
    (hnext : ∀ status ec, SshAnswered ec₀ expect counter acc (own ++ [.write writer status])
      (τ ++ [.write writer status]) fifo writer ec →
      Prog.wp (SshLine.step E) (f (if 0 ≤ status then 0 else status)) Q ec) :
    Prog.wp (SshLine.step E) (sshWriterFlush >>= f) Q ec := by
  apply Prog.wp_choose SshAnswered.stable h
  intro status t ht
  apply hnext status
  constructor
  · rw [← List.append_assoc, ← ht.trace, ← ht.writer]
  · rw [List.filter_append, ht.accepted]
    exact List.append_nil acc
  · intro o ho
    rcases List.mem_append.mp ho with ho | ho
    · exact ht.matching o ho
    · cases List.mem_singleton.mp ho
      trivial
  · rw [List.filter_append, ht.own]
    rfl
  · exact ht.state
  · exact ht.fifo
  · exact ht.counter
  · exact ht.writer

end Respond

/-! ### Whole requests -/

def SshObs.IsAckPacket (o : SshObs) : Prop :=
  ∃ packet, o = .packet packet ∧ packet.type = sshFrameTypeAck

instance : (o : SshObs) → Decidable o.IsAckPacket
  | .packet packet => decidable_of_iff (packet.type = sshFrameTypeAck)
    ⟨fun h => ⟨packet, rfl, h⟩, by rintro ⟨_, h, htype⟩; cases h; exact htype⟩
  | .ctrl _ _ => isFalse (by rintro ⟨_, h, -⟩; cases h)
  | .cmd _ _ _ _ => isFalse (by rintro ⟨_, h, -⟩; cases h)
  | .write _ _ => isFalse (by rintro ⟨_, h, -⟩; cases h)

def SshObs.isWriteOf (msg : List UInt8) : SshObs → Bool
  | .write data _ => data == msg
  | _ => false

/-- What a request with the observations `τ` has done when it has handed out the response
`res`: an ACK with its sequence number was accepted, then exactly one response with its
request id, whose payload is in `res`; last of all, and once, that response was
acknowledged. -/
def SshAnswer (E : SshEnv) (rqst : SurfaceSamSshRqst) (ec : SamSshEc) (res : SurfaceSamSshBuf)
    (τ : List SshObs) : Prop :=
  ∃ τ' rs len seq pld status, τ = τ' ++ [.write (sshMsgAck E seq) status] ∧ 0 ≤ status ∧
    τ'.filter SshObs.accepted = rs ++ [.ctrl sshFrameTypeAck ec.counter.seq,
      .cmd len seq (samRqidToRqst ec.counter.rqid) pld] ∧
    (∀ o ∈ rs, o.IsRetry) ∧
    (∀ data s, .write data s ∈ τ' → data = sshMsgCmd E rqst ec ∧ data ≠ sshMsgAck E seq) ∧
    res.len.toNat = pld.length ∧ res.data.slice 0 pld.length = pld ∧
    (8 ≤ len.toNat → pld.length = len.toNat - 8)

/-- What the receiver expects during a request. -/
def SamSshEc.expectFor (ec : SamSshEc) (rqst : SurfaceSamSshRqst) : SshExpect :=
  ⟨rqst.snc != 0, ec.counter.seq, samRqidToRqst ec.counter.rqid⟩

/-- What holds after a request; `r` is its status and result. -/
structure SshRqstPost (E : SshEnv) (rqst : SurfaceSamSshRqst) (result : Option SurfaceSamSshBuf)
    (ec₀ : SamSshEc) (τ : List SshObs) (r : ℤ × Option SurfaceSamSshBuf) (ec : SamSshEc) :
    Prop where
  trace : ec.trace = ec₀.trace ++ τ
  answer : r.1 = 0 → rqst.snc ≠ 0 → ∀ buf, result = some buf →
    ∃ res, r.2 = some res ∧ res.cap = buf.cap ∧ res.len ≤ res.cap ∧ SshAnswer E rqst ec₀ res τ
  matching : ∀ o ∈ τ, o.Matches (ec₀.expectFor rqst)
  acked : (∃ o ∈ τ, o.IsAckPacket) → ec.counter = ec₀.counter.advance
  notAcked : (¬∃ o ∈ τ, o.IsAckPacket) → ec.counter = ec₀.counter
  written : τ.countP (SshObs.isWriteOf (sshMsgCmd E rqst ec₀)) ≤ sshNumRetry
  state : ec.receiver.state = .discard
  fifo : ec.receiver.fifo.data = []

/-- The part of the postcondition about what the request itself has done. -/
structure SshOwn (msg : List UInt8) (counter₀ counter : SshCounters) (own : List SshObs) :
    Prop where
  acked : (∃ o ∈ own, o.IsAckPacket) → counter = counter₀.advance
  notAcked : (¬∃ o ∈ own, o.IsAckPacket) → counter = counter₀
  written : own.countP (SshObs.isWriteOf msg) ≤ sshNumRetry

/-- The request has done `own`, whatever else is received. -/
structure SshDone (ec₀ : SamSshEc) (expect : SshExpect) (counter : SshCounters)
    (own τ : List SshObs) (ec : SamSshEc) : Prop where
  trace : ec.trace = ec₀.trace ++ τ
  matching : ∀ o ∈ τ, o.Matches expect
  own : τ.filter (fun o => !o.accepted) = own
  expect : ec.receiver.state = .discard ∨ ec.receiver.expect = expect
  counter : ec.counter = counter

section Own

variable {msg : List UInt8} {counter : SshCounters} {own : List SshObs} {n : ℕ}

lemma SshSending.no_ack (h : SshSending msg n own) : ¬∃ o ∈ own, o.IsAckPacket := by
  rintro ⟨o, ho, packet, rfl, htype⟩
  rcases h.obs _ ho with ⟨status, hw⟩ | ⟨packet', hp, hne⟩
  · cases hw
  · cases hp
    exact hne htype

lemma SshSending.written (h : SshSending msg n own) : own.countP (SshObs.isWriteOf msg) ≤ n := by
  refine Nat.le_trans (List.countP_mono_left ?_) h.writes
  intro o _ hw
  cases o with
  | write _ _ => rfl
  | ctrl _ _ => cases hw
  | cmd _ _ _ _ => cases hw
  | packet _ => cases hw

lemma SshSending.post (h : SshSending msg sshNumRetry own) : SshOwn msg counter counter own where
  acked := fun hack => absurd hack h.no_ack
  notAcked := fun _ => rfl
  written := h.written

/-- After the ACK packet, nothing is done that looks like the command message. -/
lemma SshSending.post_acked (h : SshSending msg sshNumRetry own) (counter : SshCounters)
    (seq : UInt8) (rest : List SshObs) (hrest : rest.countP (SshObs.isWriteOf msg) = 0) :
    SshOwn msg counter counter.advance
      (own ++ [.packet ⟨sshFrameTypeAck, seq, 0⟩] ++ rest) where
  acked := fun _ => rfl
  notAcked := fun hno =>
    absurd ⟨.packet ⟨sshFrameTypeAck, seq, 0⟩, by simp, _, rfl, rfl⟩ hno
  written := by
    have hw := h.written
    simp only [List.countP_append, hrest]
    simpa [SshObs.isWriteOf] using hw

/-- The own part of the observations decides the postcondition about it. -/
lemma SshOwn.of_filter {counter₀ : SshCounters} {τ : List SshObs}
    (h : SshOwn msg counter₀ counter (τ.filter (fun o => !o.accepted))) :
    SshOwn msg counter₀ counter τ := by
  have hack : (∃ o ∈ τ.filter (fun o => !o.accepted), o.IsAckPacket) ↔ ∃ o ∈ τ, o.IsAckPacket := by
    constructor
    · rintro ⟨o, ho, hack⟩
      exact ⟨o, (List.mem_filter.mp ho).1, hack⟩
    · rintro ⟨o, ho, packet, rfl, htype⟩
      exact ⟨_, List.mem_filter.mpr ⟨ho, rfl⟩, packet, rfl, htype⟩
  refine ⟨fun ha => h.acked (hack.mpr ha), fun ha => h.notAcked (mt hack.mp ha), ?_⟩
  have hw := h.written
  rw [List.countP_filter] at hw
  refine Nat.le_trans (List.countP_mono_left ?_) hw
  intro o _ ho
  cases o with
  | write _ _ => simpa [SshObs.accepted] using ho
  | ctrl _ _ => cases ho
  | cmd _ _ _ _ => cases ho
  | packet _ => cases ho

end Own

/-- The postcondition of a request before the receiver is discarded. -/
def SshTransactPost (E : SshEnv) (rqst : SurfaceSamSshRqst) (result : Option SurfaceSamSshBuf)
    (ec₀ : SamSshEc) (r : ℤ × Option SurfaceSamSshBuf) (ec : SamSshEc) : Prop :=
  (∃ counter own, SshOwn (sshMsgCmd E rqst ec₀) ec₀.counter counter own ∧
    ∃ τ, SshDone ec₀ (ec₀.expectFor rqst) counter own τ ec) ∧
  (r.1 = 0 → rqst.snc ≠ 0 → ∀ buf, result = some buf → ∃ res, r.2 = some res ∧
    res.cap = buf.cap ∧ res.len ≤ res.cap ∧ ∃ τ, SshAnswer E rqst ec₀ res τ ∧
      ec.trace = ec₀.trace ++ τ ∧ ec.receiver.state = .discard)

section Whole

variable {E : SshEnv} {rqst : SurfaceSamSshRqst} {ec₀ ec : SamSshEc} {expect : SshExpect}
  {counter : SshCounters} {writer fifo : List UInt8} {rs acc taken own τ : List SshObs} {hold : ℕ}

/-- One more accepted message. -/
lemma SshDone.accept {o : SshObs} {ec' : SamSshEc} (h : SshDone ec₀ expect counter own τ ec)
    (ho : o.accepted = true) (hmatch : o.Matches expect) (htrace : ec'.trace = ec.trace ++ [o])
    (hexpect : ec'.receiver.expect = expect) (hcounter : ec'.counter = ec.counter) :
    SshDone ec₀ expect counter own (τ ++ [o]) ec' where
  trace := by rw [htrace, h.trace, List.append_assoc]
  matching := by
    intro o' ho'
    rcases List.mem_append.mp ho' with ho' | ho'
    · exact h.matching o' ho'
    · rw [List.mem_singleton.mp ho']
      exact hmatch
  own := by
    rw [List.filter_append, h.own]
    simp [ho]
  expect := .inr hexpect
  counter := by rw [hcounter, h.counter]

lemma SshDone.stable : Prog.Stable (SshLine.step E) (fun ec => ∃ τ,
    SshDone ec₀ expect counter own τ ec) := by
  rintro l ec ⟨τ, h⟩
  rcases l.step_recv (E := E) ec with
    ⟨ht, hr, hc, -⟩ | ⟨type, seq, hres, hstate, hseq, -⟩ | ⟨len, seq, pld, hres, hstate, -, -⟩
  · exact ⟨τ, by rw [ht, h.trace], h.matching, h.own, by rw [hr]; exact h.expect, by
      rw [hc, h.counter]⟩
  · have hexpect : ec.receiver.expect = expect := by
      rcases h.expect with hd | he
      · rw [hd] at hstate
        cases hstate
      · exact he
    rw [hexpect] at hseq
    rw [hres]
    exact ⟨_, h.accept (o := .ctrl type seq) rfl hseq rfl hexpect rfl⟩
  · have hexpect : ec.receiver.expect = expect := by
      rcases h.expect with hd | he
      · rw [hd] at hstate
        cases hstate
      · exact he
    rw [hres]
    exact ⟨_, h.accept (o := .cmd len seq ec.receiver.expect.rqid pld) rfl
      (congrArg SshExpect.rqid hexpect) rfl hexpect rfl⟩

lemma SshPoint.done (h : SshPoint ec₀ expect counter writer taken hold own ec) :
    ∃ τ, SshDone ec₀ expect counter own τ ec := by
  obtain ⟨pending, τ, h⟩ := h
  refine ⟨τ, h.trace, SshObs.matches_of_filter ?_, h.own, .inr h.expect, h.counter⟩
  rw [h.accepted]
  exact h.shape.matches

lemma SshAnswered.done (h : SshAnswered ec₀ expect counter acc own τ fifo writer ec) :
    ∃ τ, SshDone ec₀ expect counter own τ ec :=
  ⟨τ, h.trace, h.matching, h.own, .inl h.state, h.counter⟩

lemma SshTransactPost.stable (result : Option SurfaceSamSshBuf)
    (r : ℤ × Option SurfaceSamSshBuf) :
    Prog.Stable (SshLine.step E) (SshTransactPost E rqst result ec₀ r) := by
  apply Prog.Stable.and
  · exact .exists fun _ => .exists fun _ => .const_and _ SshDone.stable
  · refine .imp fun _ => .imp fun _ => .forall fun buf => .imp fun _ => .exists fun res =>
      .const_and _ (.const_and _ (.const_and _ (.exists fun τ => .const_and _ ?_)))
    rintro l t ⟨htrace, hstate⟩
    obtain ⟨ht, hreceiver, -, -⟩ := l.step_discard (E := E) hstate
    exact ⟨by rw [ht, htrace], by rw [hreceiver, hstate]⟩

lemma sshMsgAck_ne_sshMsgCmd (seq : UInt8) (ec : SamSshEc) :
    sshMsgAck E seq ≠ sshMsgCmd E rqst ec := by
  intro h
  have htype : (sshMsgAck E seq)[2]? = (sshMsgCmd E rqst ec)[2]? := by rw [h]
  have hack : (sshMsgAck E seq)[2]? = some 0x40 := rfl
  have hcmd : (sshMsgCmd E rqst ec)[2]? = some 0x80 := rfl
  rw [hack, hcmd] at htype
  exact absurd htype (by decide)

/-- Once the response is copied and acknowledged, all of the answer has happened. -/
lemma SshAnswered.answer {len seq : UInt8} {pld : List UInt8} {status : ℤ}
    {buf : SurfaceSamSshBuf} (hrs : ∀ o ∈ rs, o.IsRetry) (hpld : pld.length = (len - 8).toNat)
    (hsending : SshSending (sshMsgCmd E rqst ec₀) sshNumRetry own) (hstatus : 0 ≤ status)
    (h : SshAnswered ec₀ expect counter (rs ++ [.ctrl sshFrameTypeAck ec₀.counter.seq,
        .cmd len seq (samRqidToRqst ec₀.counter.rqid) pld])
      (own ++ [.packet ⟨sshFrameTypeAck, ec₀.counter.seq, 0⟩] ++
        [.packet ⟨sshFrameTypeCmd, seq, len - 8⟩] ++ [.write (sshMsgAck E seq) status])
      (τ ++ [.write (sshMsgAck E seq) status]) fifo writer ec) :
    SshAnswer E rqst ec₀ ⟨buf.cap, len - 8, buf.data.memcpy 0 pld⟩
      (τ ++ [.write (sshMsgAck E seq) status]) := by
  have hacc := h.accepted
  have hown := h.own
  rw [List.filter_append] at hacc hown
  refine ⟨τ, rs, len, seq, pld, status, rfl, hstatus, by simpa [SshObs.accepted] using hacc, hrs,
    ?_, hpld.symm, Memory.slice_memcpy_same _ _ _, ?_⟩
  · intro data s hmem
    have hbefore : τ.filter (fun o => !o.accepted) = own ++
        [.packet ⟨sshFrameTypeAck, ec₀.counter.seq, 0⟩] ++
        [.packet ⟨sshFrameTypeCmd, seq, len - 8⟩] := List.append_cancel_right hown
    have hin : SshObs.write data s ∈ τ.filter (fun o => !o.accepted) :=
      List.mem_filter.mpr ⟨hmem, rfl⟩
    rw [hbefore] at hin
    have hin' : SshObs.write data s ∈ own := by simpa using hin
    rcases hsending.obs _ hin' with ⟨st, hw⟩ | ⟨packet, hp, -⟩
    · cases hw
      exact ⟨rfl, (sshMsgAck_ne_sshMsgCmd seq ec₀).symm⟩
    · cases hp
  · intro h8
    rw [hpld, toNat_sub_eight h8]

lemma wp_sshGetResponse (buf : SurfaceSamSshBuf) (packet : SshFifoPacket)
    (hexpect : expect = ec₀.expectFor rqst) (hrs : ∀ o ∈ rs, o.IsRetry)
    (hsending : SshSending (sshMsgCmd E rqst ec₀) sshNumRetry own)
    (h : SshPoint ec₀ expect ec₀.counter.advance (sshMsgCmd E rqst ec₀)
      (rs ++ [.ctrl sshFrameTypeAck ec₀.counter.seq]) 0
      (own ++ [.packet ⟨sshFrameTypeAck, ec₀.counter.seq, 0⟩]) ec) :
    Prog.wp (SshLine.step E) (sshGetResponse E buf packet)
      (fun r ec => SshTransactPost E rqst (some buf) ec₀ (r.1, some r.2) ec) ec := by
  subst hexpect
  apply wp_waitForCompletionTimeout h
  · intro t ht
    rw [if_pos rfl]
    apply wp_kfifoOutPacket_cmd packet hrs ht
    intro len seq pld τ u hpld hu
    have hpost := hsending.post_acked ec₀.counter ec₀.counter.seq
      [.packet ⟨sshFrameTypeCmd, seq, len - 8⟩] rfl
    by_cases hcap : buf.cap < len - 8
    · rw [if_pos hcap]
      apply Prog.wp_pure (SshTransactPost.stable _ _)
      exact ⟨⟨_, _, hpost, hu.done⟩, fun h0 => by cases h0⟩
    · rw [if_neg hcap]
      apply wp_kfifoOutResult buf hpld hu
      intro v hv
      apply wp_sshWriteMsgAck seq hv
      intro w hw
      apply wp_sshWriterFlush_answered hw
      intro status x hx
      apply Prog.wp_pure (SshTransactPost.stable _ _)
      have hpost' := hsending.post_acked ec₀.counter ec₀.counter.seq
        ([.packet ⟨sshFrameTypeCmd, seq, len - 8⟩] ++ [.write (sshMsgAck E seq) status]) (by
          simp [SshObs.isWriteOf, sshMsgAck_ne_sshMsgCmd seq ec₀])
      rw [← List.append_assoc] at hpost'
      refine ⟨⟨_, _, hpost', hx.done⟩, fun h0 _ buf' hbuf => ?_⟩
      cases hbuf
      have hstatus : 0 ≤ status := by
        by_contra hneg
        rw [if_neg hneg] at h0
        dsimp only at h0
        omega
      exact ⟨_, rfl, rfl, UInt8.not_lt.mp hcap, _, hx.answer hrs hpld hsending hstatus, hx.trace,
        hx.state⟩
  · intro t ht
    rw [if_neg (by simp)]
    apply Prog.wp_pure (SshTransactPost.stable _ _)
    have hpost := hsending.post_acked ec₀.counter ec₀.counter.seq [] rfl
    rw [List.append_nil] at hpost
    exact ⟨⟨_, _, hpost, ht.done⟩, fun h0 => by cases h0⟩

lemma wp_sshTransact (result : Option SurfaceSamSshBuf)
    (hexpect : expect = ec₀.expectFor rqst)
    (h : SshPoint ec₀ expect ec₀.counter (sshMsgCmd E rqst ec₀) [] 0 [] ec) :
    Prog.wp (SshLine.step E) (sshTransact E rqst result) (SshTransactPost E rqst result ec₀) ec := by
  subst hexpect
  apply Prog.wp_bind
  refine Prog.wp_mono ?_ (wp_sshSendCommand sshNumRetry ⟨0, 0, 0⟩ 0 (Nat.le_refl _) (.nil _)
    (by simp) h)
  rintro (status | packet | -) t hsent
  · obtain ⟨hstatus, _, own, hsending, ht⟩ := hsent
    apply Prog.wp_pure (SshTransactPost.stable _ _)
    exact ⟨⟨_, own, hsending.post, ht.done⟩, fun h0 => absurd h0 hstatus⟩
  · obtain ⟨rs, own, hrs, hsending, ht⟩ := hsent
    apply Prog.wp_atomic SshDuring.stable ht
    rintro u ⟨pending, τ, hu⟩
    have hadv : SshPoint ec₀ (ec₀.expectFor rqst) ec₀.counter.advance (sshMsgCmd E rqst ec₀)
        (rs ++ [.ctrl sshFrameTypeAck ec₀.counter.seq]) 0
        (own ++ [.packet ⟨sshFrameTypeAck, ec₀.counter.seq, 0⟩])
        { u with counter := u.counter.advance } :=
      ⟨pending, τ, hu.trace, hu.accepted, hu.own, hu.shape, hu.signal, hu.fifo, hu.expect,
        congrArg SshCounters.advance hu.counter, hu.writer⟩
    have hpost := hsending.post_acked ec₀.counter ec₀.counter.seq [] rfl
    rw [List.append_nil] at hpost
    cases result with
    | none =>
      apply Prog.wp_pure (SshTransactPost.stable _ _)
      exact ⟨⟨_, _, hpost, hadv.done⟩, fun _ _ buf hbuf => by cases hbuf⟩
    | some buf =>
      by_cases hsnc : rqst.snc = 0
      · change Prog.wp _ (if rqst.snc ≠ 0 then _ else _) _ _
        rw [if_neg (not_not_intro hsnc)]
        apply Prog.wp_pure (SshTransactPost.stable _ _)
        exact ⟨⟨_, _, hpost, hadv.done⟩, fun _ hne => absurd hsnc hne⟩
      · change Prog.wp _ (if rqst.snc ≠ 0 then _ else _) _ _
        rw [if_pos hsnc]
        apply Prog.wp_bind
        refine Prog.wp_mono ?_ (wp_sshGetResponse buf packet rfl hrs hsending hadv)
        rintro ⟨status, res⟩ v hv
        exact Prog.wp_pure (SshTransactPost.stable _ _) hv
  · obtain ⟨_, own, hsending, ht⟩ := hsent
    apply Prog.wp_pure (SshTransactPost.stable _ _)
    exact ⟨⟨_, own, hsending.post, ht.done⟩, fun h0 => by cases h0⟩

/-- Between requests: the receiver discards everything and the FIFO is empty. -/
structure SamSshEc.Idle (ec : SamSshEc) : Prop where
  state : ec.receiver.state = .discard
  fifo : ec.receiver.fifo.data = []

lemma SamSshEc.Idle.stable : Prog.Stable (SshLine.step E) SamSshEc.Idle := by
  intro l ec h
  obtain ⟨-, hreceiver, -, -⟩ := l.step_discard (E := E) h.state
  exact ⟨by rw [hreceiver, h.state], by rw [hreceiver, h.fifo]⟩

/-- Nothing has happened to an idle EC. -/
structure SshUntouched (ec₀ : SamSshEc) (writer : List UInt8) (ec : SamSshEc) : Prop where
  idle : ec.Idle
  trace : ec.trace = ec₀.trace
  counter : ec.counter = ec₀.counter
  writer : ec.writer = writer

lemma SshUntouched.stable : Prog.Stable (SshLine.step E) (SshUntouched ec₀ writer) := by
  intro l ec h
  obtain ⟨htrace, -, hcounter, hwriter⟩ := l.step_discard (E := E) h.idle.state
  exact ⟨SamSshEc.Idle.stable l ec h.idle, by rw [htrace, h.trace], by rw [hcounter, h.counter],
    by rw [hwriter, h.writer]⟩

lemma sshMsgCmd_congr (h : ec.counter = ec₀.counter) :
    sshMsgCmd E rqst ec = sshMsgCmd E rqst ec₀ := by
  simp only [sshMsgCmd, SamSshEc.sshWriteMsgCmd, SamSshEc.sshWriteCmd, SamSshEc.sshWriteHdr,
    SamSshEc.sshWriteCrc, SamSshEc.sshWriteU16, SamSshEc.sshWriteSyn, SamSshEc.sshWriteBuf,
    SamSshEc.sshWriterReset, h]

lemma SshRqstPost.stable (result : Option SurfaceSamSshBuf) (r : ℤ × Option SurfaceSamSshBuf) :
    Prog.Stable (SshLine.step E) (SshRqstPost E rqst result ec₀ τ r) := by
  intro l ec h
  obtain ⟨htrace, hreceiver, hcounter, -⟩ := l.step_discard (E := E) h.state
  constructor
  · rw [htrace, h.trace]
  · exact h.answer
  · exact h.matching
  · rw [hcounter]
    exact h.acked
  · rw [hcounter]
    exact h.notAcked
  · exact h.written
  · rw [hreceiver, h.state]
  · rw [hreceiver, h.fifo]

/-- Discarding the receiver completes the postcondition. -/
lemma SshTransactPost.discard {result : Option SurfaceSamSshBuf}
    {r : ℤ × Option SurfaceSamSshBuf} (h : SshTransactPost E rqst result ec₀ r ec) :
    ∃ τ, SshRqstPost E rqst result ec₀ τ r ec.sshReceiverDiscard := by
  obtain ⟨⟨counter, own, hpost, τ, htrace, hmatching, rfl, -, hcounter⟩, hanswer⟩ := h
  have hown := hpost.of_filter
  refine ⟨τ, ?_⟩
  constructor
  · exact htrace
  · intro h0 hsnc buf hbuf
    obtain ⟨res, hres, hcap, hlen, τ', hans, htrace', -⟩ := hanswer h0 hsnc buf hbuf
    have hτ : τ = τ' := List.append_cancel_left (htrace.symm.trans htrace')
    rw [hτ]
    exact ⟨res, hres, hcap, hlen, hans⟩
  · exact hmatching
  · intro hack
    exact hcounter.trans (hown.acked hack)
  · intro hack
    exact hcounter.trans (hown.notAcked hack)
  · exact hown.written
  · rfl
  · rfl

lemma SshUntouched.restart (h : SshUntouched ec₀ writer ec) :
    SshPoint ec₀ (ec₀.expectFor rqst) ec₀.counter writer [] 0 [] (ec.sshReceiverRestart rqst) := by
  refine ⟨[], [], ?_⟩
  constructor
  · rw [List.append_nil]
    exact h.trace
  · rfl
  · rfl
  · exact .waiting (by simp)
  · rfl
  · exact h.idle.fifo
  · unfold SamSshEc.expectFor
    rw [← h.counter]
    rfl
  · exact h.counter
  · exact h.writer

lemma wp_surfaceSamSshRqstUnlocked (result : Option SurfaceSamSshBuf) (hidle : ec₀.Idle) :
    Prog.wp (SshLine.step E) (surfaceSamSshRqstUnlocked E rqst result)
      (fun r ec => ∃ τ, SshRqstPost E rqst result ec₀ τ r ec) ec₀ := by
  unfold surfaceSamSshRqstUnlocked
  by_cases hcdl : surfaceSamSshMaxRqstPayload < rqst.cdl.toNat
  · rw [if_pos hcdl]
    refine Prog.wp_pure (Prog.Stable.exists fun _ => SshRqstPost.stable _ _) ?_
    refine ⟨[], (List.append_nil _).symm, ?_, ?_, ?_, fun _ => rfl, Nat.zero_le _, hidle.state,
      hidle.fifo⟩
    · intro h0
      cases h0
    · simp
    · rintro ⟨o, ho, -⟩
      cases ho
  · rw [if_neg hcdl]
    have hstart : SshUntouched ec₀ ec₀.writer ec₀ := ⟨hidle, rfl, rfl, rfl⟩
    refine Prog.wp_atomic SshUntouched.stable hstart (fun t ht => ?_)
    have hwritten : SshUntouched ec₀ (sshMsgCmd E rqst ec₀) (t.sshWriteMsgCmd E rqst) :=
      ⟨⟨ht.idle.state, ht.idle.fifo⟩, ht.trace, ht.counter, sshMsgCmd_congr ht.counter⟩
    refine Prog.wp_atomic SshUntouched.stable hwritten (fun u hu => ?_)
    change Prog.wp _ (sshTransact E rqst result >>= _) _ _
    apply Prog.wp_bind
    refine Prog.wp_mono ?_ (wp_sshTransact result rfl hu.restart)
    intro r v hv
    refine Prog.wp_atomic (SshTransactPost.stable _ _) hv (fun w hw => ?_)
    exact Prog.wp_pure (Prog.Stable.exists fun _ => SshRqstPost.stable _ _) hw.discard

end Whole

/-- Every request, in every interleaving with received messages, timeouts and outcomes of
writes. -/
theorem surfaceSamSshRqstUnlocked_spec (E : SshEnv) (rqst : SurfaceSamSshRqst)
    (result : Option SurfaceSamSshBuf) (acts : List (Act SshLine)) (ec ec' : SamSshEc)
    (r : ℤ × Option SurfaceSamSshBuf) (hidle : ec.Idle)
    (hrun : Prog.run (SshLine.step E) acts (surfaceSamSshRqstUnlocked E rqst result) ec =
      some (r, ec')) :
    ∃ τ, SshRqstPost E rqst result ec τ r ec' :=
  Prog.run_wp (wp_surfaceSamSshRqstUnlocked result hidle) hrun

/-- A request whose first try times out and whose second is answered. -/
theorem surfaceSamSshRqstUnlocked_second_try :
    let rqst : SurfaceSamSshRqst := ⟨1, 2, 3, 1, 0, fun _ => 0⟩
    let buf : SurfaceSamSshBuf := ⟨4, 0, fun _ => 0⟩
    let ec := (initializeReceiver sshEc (fun _ => 0)).ec
    ∃ r ec' τ, r.1 = 0 ∧ SshRqstPost kernelEnv rqst (some buf) ec τ r ec' := by
  intro rqst buf ec
  let recv (m : SshMessage) : Act SshLine :=
    .event ⟨fun i => (m.bytes kernelEnv).getD i 0, (m.bytes kernelEnv).length⟩
  let acts : List (Act SshLine) := [.step 0, .step 0, .step 18, .timeout, .step 18,
    recv (.ctrl ⟨.ack, 0, 0, 0⟩), .step 0, .step 0, .step 0,
    recv (.cmd ⟨0, 9, 1, 0, 1, 2, 0, 0, 3, [7, 8], by decide⟩), .step 0, .step 0, .step 0, .step 0,
    .step 10, .step 0]
  have hstatus : (Prog.run (SshLine.step kernelEnv) acts
      (surfaceSamSshRqstUnlocked kernelEnv rqst (some buf)) ec).map (fun x => x.1.1) = some 0 := by
    decide +kernel
  obtain ⟨⟨r, ec'⟩, hrun, h0⟩ := Option.map_eq_some_iff.mp hstatus
  obtain ⟨τ, hpost⟩ := surfaceSamSshRqstUnlocked_spec kernelEnv rqst (some buf) acts ec ec' r
    ⟨rfl, rfl⟩ hrun
  exact ⟨r, ec', τ, h0, hpost⟩

end SurfaceSam
