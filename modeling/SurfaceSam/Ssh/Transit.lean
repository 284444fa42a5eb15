import SurfaceSam.Devlib.Machine
import SurfaceSam.Ssh.Reassembly
import SurfaceSam.Ssh.Request

/-!
# Events in transit

Requests and events share the evaluation buffer: a request empties it at its start and at
its end. Here the line delivers a stream of messages while requests start and end; an event
survives this as long as no part of a message is in the buffer at these points.
-/

namespace SurfaceSam

open Devlib

/-- The EC and the part of the stream the driver has not taken yet. -/
structure SshLink where
  port : SshPort
  stream : List UInt8

/-- The receive callback gets up to `n` bytes of the stream, or a request makes a step. -/
inductive SshLinkAct where
  | receive (n : ℕ)
  | restart (rqst : SurfaceSamSshRqst)
  | completed
  | kfifoOut (n : ℕ)
  | advance
  | discard

def SshLinkAct.step (E : SshEnv) : Machine SshLink SshLinkAct
  | c, .receive n =>
    let r := sshReceiveBuf E c.port (c.stream.take n)
    some ⟨r.2, c.stream.drop r.1⟩
  | c, .restart rqst => some { c with port := c.port.sshReceiverRestart rqst }
  | c, .completed =>
    let rcv := c.port.ec.receiver
    some { c with port := { c.port with ec := { c.port.ec with
      receiver := { rcv with signal := rcv.signal - 1 } } } }
  | c, .kfifoOut n => some { c with port := { c.port with ec := (c.port.ec.kfifoOut n).2 } }
  | c, .advance =>
    some { c with port := { c.port with ec := { c.port.ec with
      counter := c.port.ec.counter.advance } } }
  | c, .discard => some { c with port := c.port.sshReceiverDiscard }

/-- A request starts or ends. -/
def SshLinkAct.isBoundary : SshLinkAct → Bool
  | restart _ => true
  | discard => true
  | _ => false

/-- No message finds the FIFO full in this step. -/
def NoFifoDrop (E : SshEnv) (c : SshLink) (a : SshLinkAct) : Prop :=
  ∀ d ∈ a.step E c, d.port.ec.fifoDrops = c.port.ec.fifoDrops

/-- No request starts or ends while part of a message is in the buffer. -/
def BoundaryClear (c : SshLink) (a : SshLinkAct) : Prop :=
  a.isBoundary = true → c.port.evalBuf.len = 0

/-- The work items a message has to make. -/
def SshMessage.events : SshMessage → List SshEventWork
  | .ctrl _ => []
  | .cmd m => if samRqidIsEvent m.rqid then [m.work] else []

section Events

variable {E : SshEnv} {ec : SamSshEc}

lemma SshMessage.queueAck_handle (halloc : ∀ k, E.kzalloc k = true) (m : SshMessage) :
    (m.handle E ec).events.queueAck = ec.events.queueAck ++ m.events := by
  cases m with
  | ctrl m =>
    change (ec.onCtrl m.kind.type m.seq).events.queueAck = ec.events.queueAck ++ []
    rw [List.append_nil]
    rcases ec.onCtrl_cases m.kind.type m.seq with ⟨d, -, h⟩ | ⟨-, ⟨-, h⟩ | ⟨-, h⟩⟩
    · rw [h]
      rfl
    · rw [h]
      rfl
    · rw [h]
      rfl
  | cmd m =>
    change (ec.onCmd E m.len m.work m.pld).2.events.queueAck = ec.events.queueAck ++
      (if samRqidIsEvent m.work.event.rqid then [m.work] else [])
    rcases ec.onCmd_cases (E := E) m.len m.work m.pld with
      ⟨he, h⟩ | ⟨he, ⟨d, -, h⟩ | ⟨-, -, -, h⟩ | ⟨-, -, -, h⟩⟩
    · rw [h, he, if_pos rfl]
      dsimp only
      rw [ec.queueAck_dispatch, if_pos (halloc _)]
    all_goals
      rw [h, he]
      exact (List.append_nil _).symm

lemma SshMessage.queueAck_foldl (halloc : ∀ k, E.kzalloc k = true) (ms : List SshMessage) :
    (ms.foldl (fun ec m => m.handle E ec) ec).events.queueAck =
      ec.events.queueAck ++ ms.flatMap SshMessage.events := by
  induction ms generalizing ec with
  | nil => exact (List.append_nil _).symm
  | cons m ms ih =>
    rw [List.foldl_cons, ih, m.queueAck_handle halloc, List.flatMap_cons, List.append_assoc]

/-- The events of the messages that have come in completely have been dispatched, once and
in order, and the buffer and the line hold exactly the other messages. -/
structure EventsIntact (E : SshEnv) (queueAck : List SshEventWork) (msgs : List SshMessage)
    (c : SshLink) : Prop where
  cap : c.port.evalBuf.cap.toNat = sshEvalBufLen
  split : ∃ done rest, msgs = done ++ rest ∧
    c.port.ec.events.queueAck = queueAck ++ done.flatMap SshMessage.events ∧
    Pending (SshMessage.bytes E) c.port.evalBuf.pending c.stream rest

variable {queueAck : List SshEventWork} {msgs : List SshMessage} {c d : SshLink}

/-- Steps that touch neither the buffer nor the events. -/
lemma EventsIntact.congr (h : EventsIntact E queueAck msgs c)
    (hbuf : d.port.evalBuf = c.port.evalBuf) (hevents : d.port.ec.events = c.port.ec.events)
    (hstream : d.stream = c.stream) : EventsIntact E queueAck msgs d := by
  refine ⟨by rw [hbuf]; exact h.cap, ?_⟩
  rw [hbuf, hevents, hstream]
  exact h.split

/-- Emptying an empty buffer. -/
lemma EventsIntact.clear (h : EventsIntact E queueAck msgs c) (hlen : c.port.evalBuf.len = 0)
    (hbuf : d.port.evalBuf = { c.port.evalBuf with len := 0 })
    (hevents : d.port.ec.events = c.port.ec.events) (hstream : d.stream = c.stream) :
    EventsIntact E queueAck msgs d := by
  apply h.congr _ hevents hstream
  rw [hbuf, ← hlen]

lemma EventsIntact.step (halloc : ∀ k, E.kzalloc k = true) {a : SshLinkAct}
    (h : EventsIntact E queueAck msgs c) (hdrop : NoFifoDrop E c a) (hclear : BoundaryClear c a)
    (hstep : a.step E c = some d) : EventsIntact E queueAck msgs d := by
  cases a with
  | receive n =>
    cases hstep
    obtain ⟨done, rest, hsplit, hqueue, hpend⟩ := h.split
    obtain ⟨done', rest', hsplit', hec, hcap, hpend'⟩ :=
      sshReceiveBuf_stream n h.cap hpend (.inl (hdrop _ rfl))
    refine ⟨hcap, done ++ done', rest', by rw [hsplit, hsplit', List.append_assoc], ?_, hpend'⟩
    dsimp only
    rw [hec, SshMessage.queueAck_foldl halloc, hqueue, List.flatMap_append, List.append_assoc]
  | restart rqst =>
    cases hstep
    exact h.clear (hclear rfl) rfl rfl rfl
  | completed =>
    cases hstep
    exact h.congr rfl rfl rfl
  | kfifoOut n =>
    cases hstep
    exact h.congr rfl rfl rfl
  | advance =>
    cases hstep
    exact h.congr rfl rfl rfl
  | discard =>
    cases hstep
    exact h.clear (hclear rfl) rfl rfl rfl

end Events

/-- In every run in which requests start and end only while the buffer is empty, every
event that has come in completely has been dispatched exactly once, with its own fields and
in order; and when the stream has ended, these are all events of the stream. -/
theorem events_dispatched (E : SshEnv) (halloc : ∀ k, E.kzalloc k = true) (p : SshPort)
    (hcap : p.evalBuf.cap.toNat = sshEvalBufLen) (hlen : p.evalBuf.len = 0)
    (msgs : List SshMessage) (c : SshLink)
    (hreach : Machine.Reaches (SshLinkAct.step E)
      (fun c a => NoFifoDrop E c a ∧ BoundaryClear c a)
      ⟨p, msgs.flatMap (SshMessage.bytes E)⟩ c) :
    EventsIntact E p.ec.events.queueAck msgs c ∧
      (c.stream = [] → c.port.ec.events.queueAck =
        p.ec.events.queueAck ++ msgs.flatMap SshMessage.events) := by
  have hstart : EventsIntact E p.ec.events.queueAck msgs
      ⟨p, msgs.flatMap (SshMessage.bytes E)⟩ := by
    refine ⟨hcap, [], msgs, rfl, (List.append_nil _).symm, ?_⟩
    unfold EvalBuf.pending
    rw [hlen]
    exact Pending.start (SshMessage.bytes_ne_nil E) msgs
  have h : EventsIntact E p.ec.events.queueAck msgs c :=
    hreach.invariant hstart (fun t a u ht hC hstep => ht.step halloc hC.1 hC.2 hstep)
  refine ⟨h, fun hend => ?_⟩
  obtain ⟨done, rest, hsplit, hqueue, hpend⟩ := h.split
  rw [hend] at hpend
  rw [hqueue, hsplit, hpend.finish.1, List.append_nil]

/-- A chunk is received, and then a request starts on an empty buffer. -/
lemma reaches_receive_restart {E : SshEnv} {p : SshPort} {stream : List UInt8} (n : ℕ)
    (rqst : SurfaceSamSshRqst)
    (hdrop : (sshReceiveBuf E p (stream.take n)).2.ec.fifoDrops = p.ec.fifoDrops)
    (hlen : (sshReceiveBuf E p (stream.take n)).2.evalBuf.len = 0) :
    ∃ d, Machine.Reaches (SshLinkAct.step E) (fun c a => NoFifoDrop E c a ∧ BoundaryClear c a)
        ⟨p, stream⟩ d ∧
      d.port = (sshReceiveBuf E p (stream.take n)).2.sshReceiverRestart rqst ∧
      d.stream = stream.drop (sshReceiveBuf E p (stream.take n)).1 := by
  have hfirst : NoFifoDrop E ⟨p, stream⟩ (.receive n) ∧ BoundaryClear ⟨p, stream⟩ (.receive n) := by
    refine ⟨fun e he => ?_, fun h => by cases h⟩
    cases he
    exact hdrop
  have hsecond (d : SshLink) (hd : d.port.evalBuf.len = 0) :
      NoFifoDrop E d (.restart rqst) ∧ BoundaryClear d (.restart rqst) := by
    refine ⟨fun e he => ?_, fun _ => hd⟩
    cases he
    rfl
  have hreceive : Machine.Reaches (SshLinkAct.step E)
      (fun c a => NoFifoDrop E c a ∧ BoundaryClear c a) ⟨p, stream⟩
      ⟨(sshReceiveBuf E p (stream.take n)).2, stream.drop (sshReceiveBuf E p (stream.take n)).1⟩ :=
    Machine.Reaches.refl.tail hfirst rfl
  exact ⟨_, hreceive.tail (hsecond _ hlen) rfl, rfl, rfl⟩

/-- A request starts behind a whole event message. -/
theorem events_dispatched_between :
    let m : SshCmdMessage := ⟨0, 7, 2, 0, 1, 3, 0x11, 0, 4, [1, 2], by decide⟩
    let p : SshPort := initializeReceiver sshEc (fun _ => 0)
    ((sshReceiveBuf kernelEnv p (([SshMessage.cmd m].flatMap
        (SshMessage.bytes kernelEnv)).take 20)).2.sshReceiverRestart
      ⟨1, 2, 3, 1, 0, fun _ => 0⟩).ec.events.queueAck =
      p.ec.events.queueAck ++ [SshMessage.cmd m].flatMap SshMessage.events := by
  intro m p
  have hdrop : (sshReceiveBuf kernelEnv p (([SshMessage.cmd m].flatMap
      (SshMessage.bytes kernelEnv)).take 20)).2.ec.fifoDrops = p.ec.fifoDrops := by
    decide +kernel
  have hlen : (sshReceiveBuf kernelEnv p (([SshMessage.cmd m].flatMap
      (SshMessage.bytes kernelEnv)).take 20)).2.evalBuf.len = 0 := by
    decide +kernel
  have hend : ([SshMessage.cmd m].flatMap (SshMessage.bytes kernelEnv)).drop
      (sshReceiveBuf kernelEnv p (([SshMessage.cmd m].flatMap
        (SshMessage.bytes kernelEnv)).take 20)).1 = [] := by
    decide +kernel
  obtain ⟨d, hreach, hport, hstream⟩ :=
    reaches_receive_restart 20 ⟨1, 2, 3, 1, 0, fun _ => 0⟩ hdrop hlen
  obtain ⟨-, hall⟩ := events_dispatched kernelEnv (fun _ => rfl) p (cap_initializeReceiver _ _)
    rfl [.cmd m] d hreach
  rw [← hport]
  exact hall (hstream.trans hend)

/-- A request starts after ten bytes of an event message: the rest of the message is thrown
away as well, and the event is never dispatched. -/
theorem event_lost_at_restart :
    let m : SshCmdMessage := ⟨0, 7, 2, 0, 1, 3, 0x11, 0, 4, [1, 2], by decide⟩
    let c : SshLink := ⟨initializeReceiver sshEc (fun _ => 0), m.bytes kernelEnv⟩
    samRqidIsEvent m.rqid = true ∧ ∃ d, Machine.run (SshLinkAct.step kernelEnv) c
        [.receive 10, .restart ⟨1, 2, 3, 1, 0, fun _ => 0⟩, .receive 10, .discard] = some d ∧
      d.stream = [] ∧ d.port.evalBuf.len = 0 ∧ d.port.ec.events.queueAck = [] := by
  intro m c
  have hrun : (Machine.run (SshLinkAct.step kernelEnv) c
      [.receive 10, .restart ⟨1, 2, 3, 1, 0, fun _ => 0⟩, .receive 10, .discard]).any
      (fun d => decide (d.stream = [] ∧ d.port.evalBuf.len = 0 ∧
        d.port.ec.events.queueAck = [])) = true := by decide +kernel
  obtain ⟨d, hd, hprop⟩ := (Option.any_eq_true _ _).mp hrun
  exact ⟨by decide, d, hd, of_decide_eq_true hprop⟩

end SurfaceSam
