import SurfaceSam.Devlib.Separation
import SurfaceSam.Ssh.Encoding
import SurfaceSam.Ssh.Reassembly

/-!
# Events and replies

Events and replies share the line, the evaluation buffer and the space of request ids. The
receiver of a request is moved by replies only and the event handling by events only, so
that two streams which agree on one kind of message leave the same trace of it.
-/

namespace SurfaceSam

open Devlib

def SshMessage.isEvent : SshMessage → Bool
  | .ctrl _ => false
  | .cmd m => samRqidIsEvent m.rqid

def SshMessage.isReply (m : SshMessage) : Bool := !m.isEvent

/-! ### What a reply does to the receiver -/

namespace SshReceiver

def onCtrl (rcv : SshReceiver) (type seq : UInt8) : SshReceiver :=
  if rcv.state = .control ∧ (type = sshFrameTypeAck → seq = rcv.expect.seq) ∧
      3 ≤ rcv.fifo.kfifoAvail then
    { rcv with
      state :=
        if type = sshFrameTypeAck then if rcv.expect.pld then .command else .discard
        else rcv.state
      signal := rcv.signal + 1
      fifo := rcv.fifo.kfifoIn (SshFifoPacket.mk type seq 0).bytes }
  else rcv

def onResponse (rcv : SshReceiver) (len seq : UInt8) (rqid : UInt16) (pld : List UInt8) :
    SshReceiver :=
  if rcv.state = .command ∧ rcv.expect.rqid = rqid ∧ 3 + (len - 8).toNat ≤ rcv.fifo.kfifoAvail then
    { rcv with
      state := .discard
      signal := rcv.signal + 1
      fifo := (rcv.fifo.kfifoIn
        (SshFifoPacket.mk sshFrameTypeCmd seq (len - 8)).bytes).kfifoIn pld }
  else rcv

def onReply (rcv : SshReceiver) : SshMessage → SshReceiver
  | .ctrl m => rcv.onCtrl m.kind.type m.seq
  | .cmd m => rcv.onResponse m.len m.seq m.rqid m.pld

end SshReceiver

namespace SamSshEc

variable {E : SshEnv} (ec : SamSshEc)

lemma receiver_onCtrl (type seq : UInt8) :
    (ec.onCtrl type seq).receiver = ec.receiver.onCtrl type seq := by
  unfold SshReceiver.onCtrl
  by_cases haccept : ec.receiver.state = .control ∧
      (type = sshFrameTypeAck → seq = ec.receiver.expect.seq) ∧ 3 ≤ ec.receiver.fifo.kfifoAvail
  · rw [if_pos haccept]
    obtain ⟨hstate, hseq, hroom⟩ := haccept
    have hmatch : ¬(type = sshFrameTypeAck ∧ seq ≠ ec.receiver.expect.seq) :=
      fun h => h.2 (hseq h.1)
    unfold onCtrl
    rw [if_neg (not_not_intro hstate), if_neg hmatch, if_pos hroom]
    rfl
  · rw [if_neg haccept]
    unfold onCtrl
    split_ifs with hstate hseq hroom
    · rfl
    · rfl
    · refine absurd ⟨not_not.mp hstate, fun htype => ?_, hroom⟩ haccept
      by_contra hne
      exact hseq ⟨htype, hne⟩
    · rfl

lemma events_onCtrl (type seq : UInt8) : (ec.onCtrl type seq).events = ec.events := by
  rcases ec.onCtrl_cases type seq with ⟨d, -, h⟩ | ⟨-, ⟨-, h⟩ | ⟨-, h⟩⟩
  all_goals
    rw [h]
    rfl

lemma receiver_dispatch (work : SshEventWork) : (ec.dispatch E work).receiver = ec.receiver := by
  unfold dispatch queueEvent
  split_ifs
  all_goals rfl

section Command

variable {len : UInt8} {work : SshEventWork} {pld : List UInt8}

lemma onCmd_event (hevent : samRqidIsEvent work.event.rqid = true) :
    ec.onCmd E len work pld = (10 + len.toNat, ec.dispatch E work) := by
  unfold onCmd
  rw [if_pos hevent]

lemma receiver_onCmd (hevent : samRqidIsEvent work.event.rqid = false) :
    (ec.onCmd E len work pld).2.receiver =
      ec.receiver.onResponse len work.seq work.event.rqid pld := by
  have hnot : ¬samRqidIsEvent work.event.rqid = true := by rw [hevent]; decide
  unfold SshReceiver.onResponse
  split_ifs with haccept
  · obtain ⟨hstate, hrqid, hroom⟩ := haccept
    unfold onCmd
    rw [if_neg hnot, if_neg (not_not_intro hstate), if_neg (not_not_intro hrqid), if_pos hroom]
    rfl
  · unfold onCmd
    rw [if_neg hnot]
    split_ifs with hstate hrqid hroom
    · rfl
    · rfl
    · exact absurd ⟨not_not.mp hstate, not_not.mp hrqid, hroom⟩ haccept
    · rfl

lemma events_onCmd (hevent : samRqidIsEvent work.event.rqid = false) :
    (ec.onCmd E len work pld).2.events = ec.events := by
  rcases ec.onCmd_cases (E := E) len work pld with
    ⟨he, -⟩ | ⟨-, ⟨d, -, h⟩ | ⟨-, -, -, h⟩ | ⟨-, -, -, h⟩⟩
  · rw [hevent] at he
    cases he
  all_goals
    rw [h]
    rfl

end Command

end SamSshEc

/-! ### What an event does to the event handling -/

namespace SshEvents

def delayOf (ev : SshEvents) (event : SurfaceSamSshEvent) : ℕ :=
  match (ev.handler (event.rqid - 1).toNat).delay with
  | some delayFn => delayFn event
  | none => 0

def onWork (E : SshEnv) (ev : SshEvents) (work : SshEventWork) : SshEvents :=
  if E.kzalloc ev.allocs = false then { ev with allocs := ev.allocs + 1 }
  else if ev.delayOf work.event = surfaceSamSshEventImmediate then
    { ev with
      allocs := ev.allocs + 1
      queueAck := ev.queueAck ++ [work], immediate := ev.immediate ++ [work] }
  else
    { ev with
      allocs := ev.allocs + 1
      queueAck := ev.queueAck ++ [work]
      queueEvt := ev.queueEvt ++ [(work, ev.delayOf work.event)] }

def onEvent (E : SshEnv) (ev : SshEvents) : SshMessage → SshEvents
  | .ctrl _ => ev
  | .cmd m => ev.onWork E m.work

end SshEvents

lemma SamSshEc.events_dispatch (E : SshEnv) (ec : SamSshEc) (work : SshEventWork) :
    (ec.dispatch E work).events = ec.events.onWork E work := by
  unfold SamSshEc.dispatch SshEvents.onWork
  split_ifs with halloc hdelay
  · rfl
  · unfold SamSshEc.queueEvent
    rw [if_pos (show ec.countAlloc.delayOf work.event = _ from hdelay)]
    rfl
  · unfold SamSshEc.queueEvent
    rw [if_neg (show ¬ec.countAlloc.delayOf work.event = _ from hdelay)]
    rfl

/-! ### Streams -/

section Streams

variable (E : SshEnv)

lemma movedBy_receiver : MovedBy (fun ec m => m.handle E ec) SamSshEc.receiver
    SshMessage.isReply SshReceiver.onReply where
  moved ec m hm := by
    cases m with
    | ctrl m => exact ec.receiver_onCtrl m.kind.type m.seq
    | cmd m =>
      have hevent : samRqidIsEvent m.work.event.rqid = false :=
        Eq.mp (Bool.not_eq_true' (samRqidIsEvent m.work.event.rqid)) hm
      exact ec.receiver_onCmd hevent
  kept ec m hm := by
    cases m with
    | ctrl m => cases hm
    | cmd m =>
      have hevent : samRqidIsEvent m.work.event.rqid = true :=
        Eq.mp (Bool.not_eq_false' (samRqidIsEvent m.work.event.rqid)) hm
      change (ec.onCmd E m.len m.work m.pld).2.receiver = ec.receiver
      rw [ec.onCmd_event hevent, ec.receiver_dispatch]

lemma movedBy_events : MovedBy (fun ec m => m.handle E ec) SamSshEc.events
    SshMessage.isEvent (SshEvents.onEvent E) where
  moved ec m hm := by
    cases m with
    | ctrl m => cases hm
    | cmd m =>
      have hevent : samRqidIsEvent m.work.event.rqid = true := hm
      change (ec.onCmd E m.len m.work m.pld).2.events = ec.events.onWork E m.work
      rw [ec.onCmd_event hevent, ec.events_dispatch]
  kept ec m hm := by
    cases m with
    | ctrl m => exact ec.events_onCtrl m.kind.type m.seq
    | cmd m => exact ec.events_onCmd hm

/-- The receiver has taken the whole stream of messages, cut into chunks in some way. -/
structure Received (p : SshPort) (msgs : List SshMessage) (ns : List ℕ) : Prop where
  cap : p.evalBuf.cap.toNat = sshEvalBufLen
  len : p.evalBuf.len = 0
  room : FifoRoom E p msgs
  taken : (deliver E p (msgs.flatMap (SshMessage.bytes E)) ns).2 = []

variable {E}

lemma Received.ec {p : SshPort} {msgs : List SshMessage} {ns : List ℕ}
    (h : Received E p msgs ns) :
    (deliver E p (msgs.flatMap (SshMessage.bytes E)) ns).1.ec =
      msgs.foldl (fun ec m => m.handle E ec) p.ec := by
  have hloss := (receiveAlone_spec msgs p h.cap h.len h.room).2
  have hpend : Pending (SshMessage.bytes E) p.evalBuf.pending
      (msgs.flatMap (SshMessage.bytes E)) msgs := by
    unfold EvalBuf.pending
    rw [h.len]
    exact Pending.start (SshMessage.bytes_ne_nil E) msgs
  obtain ⟨done, rest, hsplit, hec, hout⟩ := deliver_pending ns h.cap hpend hloss
  rw [h.taken] at hout
  rw [hec, hsplit, hout.finish.1, List.append_nil]

end Streams

/-- Two streams with the same replies leave the receiver in the same state, whatever events
are among them, and two streams with the same events leave the same event handling, whatever
replies are among them and whatever the receiver waits for. No response to a request is
dispatched as an event, and no event reaches the receiver of a request. -/
theorem events_and_replies_apart (E : SshEnv) :
    (∀ (p p' : SshPort) (msgs msgs' : List SshMessage) (ns ns' : List ℕ),
      Received E p msgs ns → Received E p' msgs' ns' →
      let out := (deliver E p (msgs.flatMap (SshMessage.bytes E)) ns).1.ec
      let out' := (deliver E p' (msgs'.flatMap (SshMessage.bytes E)) ns').1.ec
      (p.ec.receiver = p'.ec.receiver →
        msgs.filter SshMessage.isReply = msgs'.filter SshMessage.isReply →
        out.receiver = out'.receiver) ∧
      (p.ec.events = p'.ec.events →
        msgs.filter SshMessage.isEvent = msgs'.filter SshMessage.isEvent →
        out.events = out'.events)) ∧
    ∀ (ec : SamSshEc) (mem : Memory UInt8) (size : ℕ), CmdComplete E mem size →
      (∀ rqid, rqidOf (mem 13) (mem 14) = samRqidToRqst rqid →
        (sshEval E ec mem size).2.events = ec.events) ∧
      (samRqidIsEvent (rqidOf (mem 13) (mem 14)) = true →
        (sshEval E ec mem size).2.receiver = ec.receiver) := by
  refine ⟨?_, ?_⟩
  · intro p p' msgs msgs' ns ns' h h' out out'
    have hout : out = _ := h.ec
    have hout' : out' = _ := h'.ec
    rw [hout, hout']
    exact ⟨(movedBy_receiver E).separates, (movedBy_events E).separates⟩
  · intro ec mem size h
    rw [sshEval_cmd ec h]
    refine ⟨fun rqid hrqid => ?_, fun hevent => ?_⟩
    · apply ec.events_onCmd
      change samRqidIsEvent (rqidOf (mem 13) (mem 14)) = false
      rw [hrqid]
      exact samRqidIsEvent_samRqidToRqst rqid
    · rw [ec.onCmd_event hevent, ec.receiver_dispatch]

/-- An ACK between two events, and the ACK alone. -/
theorem events_and_replies_apart_ack :
    let p : SshPort := {
      initializeReceiver sshEc (fun _ => 0) with
      ec := { sshEc with receiver := ⟨.control, 0, ⟨512, []⟩, ⟨true, 5, 0x20⟩⟩ } }
    let event : SshMessage := .cmd ⟨0, 7, 2, 0, 1, 3, 0x11, 0, 4, [1, 2], by decide⟩
    let ack : SshMessage := .ctrl ⟨.ack, 0, 0, 5⟩
    (deliver kernelEnv p ([event, ack, event].flatMap (SshMessage.bytes kernelEnv))
        [11, 30, 40]).1.ec.receiver =
      (deliver kernelEnv p ([ack].flatMap (SshMessage.bytes kernelEnv)) [3, 7]).1.ec.receiver := by
  intro p event ack
  have h : Received kernelEnv p [event, ack, event] [11, 30, 40] :=
    ⟨by decide +kernel, rfl, by decide +kernel, by decide +kernel⟩
  have h' : Received kernelEnv p [ack] [3, 7] :=
    ⟨by decide +kernel, rfl, by decide +kernel, by decide +kernel⟩
  have hout := (events_and_replies_apart kernelEnv).1 p p _ _ _ _ h h'
  exact hout.1 rfl rfl

end SurfaceSam
