import SurfaceSam.Devlib.Machine
import SurfaceSam.Ssh.Probe
import SurfaceSam.Ssh.Request

/-!
# The points of a request

A request written as a machine with a program counter: every point between two of its
atomic steps has a name, and the rest of the program from there on. The machine makes
exactly the steps of the program, so that what holds at its points holds in every
interleaving of `surface_sam_ssh_rqst_unlocked` with the receive callback.
-/

namespace SurfaceSam

open Devlib

/-- What a request does next. `tries` are the tries left after the current one, `packet` is
the packet on its stack. -/
inductive SshPc where
  | writeMsg
  | restart
  | flush (tries : ℕ) (packet : SshFifoPacket)
  | waitAck (tries : ℕ) (packet : SshFifoPacket)
  | takeAck (tries : ℕ) (packet : SshFifoPacket)
  | advance (packet : SshFifoPacket)
  | waitResponse (result : SurfaceSamSshBuf) (packet : SshFifoPacket)
  | takeResponse (result : SurfaceSamSshBuf) (packet : SshFifoPacket)
  | takePayload (result : SurfaceSamSshBuf) (packet : SshFifoPacket)
  | refused (result : SurfaceSamSshBuf) (packet : SshFifoPacket)
  | writeAck (result : SurfaceSamSshBuf) (packet : SshFifoPacket)
  | flushAck (result : SurfaceSamSshBuf)
  | discard (status : ℤ) (result : Option SurfaceSamSshBuf)
  | returned (status : ℤ) (result : Option SurfaceSamSshBuf)

/-- A call of `surface_sam_ssh_rqst_unlocked`. -/
structure SshRqstCall where
  rqst : SurfaceSamSshRqst
  result : Option SurfaceSamSshBuf

namespace SshRqstCall

variable (E : SshEnv) (c : SshRqstCall)

/-- The next try, or giving up. -/
def nextTry : ℕ → SshFifoPacket → SshPc
  | 0, _ => .discard (-eio) c.result
  | tries + 1, packet => .flush tries packet

/-- After the ACK. -/
def respond (packet : SshFifoPacket) : SshPc :=
  match c.result with
  | none => .discard 0 none
  | some result => if c.rqst.snc ≠ 0 then .waitResponse result packet else .discard 0 (some result)

/-- The point a call begins at. -/
def enter : SshPc :=
  if surfaceSamSshMaxRqstPayload < c.rqst.cdl.toNat then .returned (-einval) c.result else .writeMsg

/-- One step of the request, with the value a write returns. -/
def advanceStep (ec : SamSshEc) (v : ℤ) : SshPc → Option (SshPc × SamSshEc)
  | .writeMsg => some (.restart, ec.sshWriteMsgCmd E c.rqst)
  | .restart => some (c.nextTry sshNumRetry ⟨0, 0, 0⟩, ec.sshReceiverRestart c.rqst)
  | .flush tries packet =>
    some (if v < 0 then .discard v c.result else .waitAck tries packet,
      { ec with trace := ec.trace ++ [.write ec.writer v] })
  | .waitAck tries packet =>
    if 0 < ec.receiver.signal then
      some (.takeAck tries packet,
        { ec with receiver := { ec.receiver with signal := ec.receiver.signal - 1 } })
    else none
  | .takeAck tries packet =>
    let packet := packet.load (ec.kfifoOut 3).1
    some (if packet.type = sshFrameTypeAck then .advance packet else c.nextTry tries packet,
      { (ec.kfifoOut 3).2 with trace := ec.trace ++ [.packet packet] })
  | .advance packet => some (c.respond packet, { ec with counter := ec.counter.advance })
  | .waitResponse result packet =>
    if 0 < ec.receiver.signal then
      some (.takeResponse result packet,
        { ec with receiver := { ec.receiver with signal := ec.receiver.signal - 1 } })
    else none
  | .takeResponse result packet =>
    let packet := packet.load (ec.kfifoOut 3).1
    some (if result.cap < packet.len then .refused result packet else .takePayload result packet,
      { (ec.kfifoOut 3).2 with trace := ec.trace ++ [.packet packet] })
  | .takePayload result packet =>
    let r := ec.kfifoOut packet.len.toNat
    some (.writeAck ⟨result.cap, packet.len, result.data.memcpy 0 r.1⟩ packet, r.2)
  | .refused result _ => some (.returned (-einval) (some result), ec.sshReceiverDiscard)
  | .writeAck result packet => some (.flushAck result, ec.sshWriteMsgAck E packet.seq)
  | .flushAck result =>
    some (.discard (if 0 ≤ v then 0 else v) (some result),
      { ec with trace := ec.trace ++ [.write ec.writer v] })
  | .discard status result => some (.returned status result, ec.sshReceiverDiscard)
  | .returned _ _ => none

/-- A wait of the request runs into its timeout. -/
def timeoutStep (ec : SamSshEc) : SshPc → Option (SshPc × SamSshEc)
  | .waitAck tries packet => if 0 < ec.receiver.signal then none else some (c.nextTry tries packet, ec)
  | .waitResponse result _ =>
    if 0 < ec.receiver.signal then none else some (.discard (-eio) (some result), ec)
  | _ => none

def step (pc : SshPc) (ec : SamSshEc) : Act SshLine → Option (SshPc × SamSshEc)
  | .event l => some (pc, l.step E ec)
  | .step v => c.advanceStep E ec v pc
  | .timeout => c.timeoutStep ec pc

/-! ### The program from a point on -/

def afterAck (packet : SshFifoPacket) : Prog SamSshEc (ℤ × Option SurfaceSamSshBuf) :=
  match c.result with
  | none => return (0, none)
  | some result =>
    if c.rqst.snc ≠ 0 then do
      let (status, result) ← sshGetResponse E result packet
      return (status, some result)
    else return (0, some result)

def afterSend (s : SshSent) : Prog SamSshEc (ℤ × Option SurfaceSamSshBuf) :=
  match s with
  | .failed status => return (status, c.result)
  | .gaveUp => return (-eio, c.result)
  | .acked packet => do
    Prog.modify (fun ec => { ec with counter := ec.counter.advance })
    c.afterAck E packet

def finish (r : ℤ × Option SurfaceSamSshBuf) : Prog SamSshEc (ℤ × Option SurfaceSamSshBuf) := do
  Prog.modify SamSshEc.sshReceiverDiscard
  return r

/-- From the response on. -/
def responded (p : Prog SamSshEc (ℤ × SurfaceSamSshBuf)) :
    Prog SamSshEc (ℤ × Option SurfaceSamSshBuf) :=
  (p >>= fun r => return (r.1, some r.2)) >>= finish

def prog : SshPc → Prog SamSshEc (ℤ × Option SurfaceSamSshBuf)
  | .writeMsg => do
    Prog.modify (fun ec => ec.sshWriteMsgCmd E c.rqst)
    Prog.modify (fun ec => ec.sshReceiverRestart c.rqst)
    sshTransact E c.rqst c.result >>= finish
  | .restart => do
    Prog.modify (fun ec => ec.sshReceiverRestart c.rqst)
    sshTransact E c.rqst c.result >>= finish
  | .flush tries packet => (sshSendCommand (tries + 1) packet >>= c.afterSend E) >>= finish
  | .waitAck tries packet =>
    ((do
      if ← waitForCompletionTimeout then
        let packet ← kfifoOutPacket packet
        if packet.type = sshFrameTypeAck then return .acked packet
        else sshSendCommand tries packet
      else sshSendCommand tries packet) >>= c.afterSend E) >>= finish
  | .takeAck tries packet =>
    ((do
      let packet ← kfifoOutPacket packet
      if packet.type = sshFrameTypeAck then return .acked packet
      else sshSendCommand tries packet) >>= c.afterSend E) >>= finish
  | .advance packet => c.afterSend E (.acked packet) >>= finish
  | .waitResponse result packet => responded (sshGetResponse E result packet)
  | .takeResponse result packet =>
    responded (do
      let packet ← kfifoOutPacket packet
      if result.cap < packet.len then return (-einval, result)
      else
        let result ← kfifoOutResult result packet.len
        Prog.modify (fun ec => ec.sshWriteMsgAck E packet.seq)
        let status ← sshWriterFlush
        return (status, result))
  | .takePayload result packet =>
    responded (do
      let result ← kfifoOutResult result packet.len
      Prog.modify (fun ec => ec.sshWriteMsgAck E packet.seq)
      let status ← sshWriterFlush
      return (status, result))
  | .refused result _ => finish (-einval, some result)
  | .writeAck result packet =>
    responded (do
      Prog.modify (fun ec => ec.sshWriteMsgAck E packet.seq)
      let status ← sshWriterFlush
      return (status, result))
  | .flushAck result =>
    responded (do
      let status ← sshWriterFlush
      return (status, result))
  | .discard status result => finish (status, result)
  | .returned status result => return (status, result)

variable {E c}

lemma prog_nextTry (tries : ℕ) (packet : SshFifoPacket) :
    c.prog E (c.nextTry tries packet) =
      (sshSendCommand tries packet >>= c.afterSend E) >>= finish := by
  cases tries with
  | zero => rfl
  | succ tries => rfl

lemma prog_respond (packet : SshFifoPacket) :
    c.prog E (c.respond packet) = c.afterAck E packet >>= finish := by
  obtain ⟨rqst, result⟩ := c
  cases result with
  | none => rfl
  | some result =>
    unfold respond afterAck
    dsimp only
    split_ifs with hsnc
    · rfl
    · rfl

section Wait

variable {α : Type} {upd : SamSshEc → SamSshEc} {k : Bool → Prog SamSshEc α} {ec : SamSshEc}

lemma act_wait (v : ℤ) :
    Prog.act (SshLine.step E) (Prog.wait (fun ec => 0 < ec.receiver.signal) upd k, ec) (.step v) =
      if 0 < ec.receiver.signal then some (k true, upd ec) else none := by
  simp [Prog.act]

lemma act_wait_timeout :
    Prog.act (SshLine.step E) (Prog.wait (fun ec => 0 < ec.receiver.signal) upd k, ec) .timeout =
      if 0 < ec.receiver.signal then none else some (k false, ec) := by
  simp [Prog.act]

end Wait

/-- The machine makes the steps of the program. -/
theorem act_prog (pc : SshPc) (ec : SamSshEc) (a : Act SshLine) :
    Prog.act (SshLine.step E) (c.prog E pc, ec) a =
      (c.step E pc ec a).map (fun s => (c.prog E s.1, s.2)) := by
  cases a with
  | event l => cases pc <;> rfl
  | timeout =>
    cases pc with
    | waitAck tries packet =>
      refine (act_wait_timeout (k := _)).trans ?_
      simp only [step, timeoutStep]
      split_ifs with hsignal
      · rfl
      · rw [Option.map_some, prog_nextTry]
        rfl
    | waitResponse result packet =>
      refine (act_wait_timeout (k := _)).trans ?_
      simp only [step, timeoutStep]
      split_ifs with hsignal
      · rfl
      · rfl
    | _ => rfl
  | step v =>
    cases pc with
    | writeMsg => rfl
    | restart => rfl
    | flush tries packet =>
      by_cases hv : v < 0
      · have hstatus : (if 0 ≤ v then 0 else v) = v := if_neg (by omega)
        simp only [step, advanceStep, if_pos hv, Option.map_some]
        change some (Prog.bind (Prog.bind (Prog.bind (.done (if 0 ≤ v then 0 else v)) _) _) _, _) = _
        rw [hstatus]
        change some (Prog.bind (Prog.bind (ite (v ≠ 0) _ _) _) _, _) = _
        rw [if_pos (by omega)]
        rfl
      · have hstatus : (if 0 ≤ v then 0 else v) = 0 := if_pos (by omega)
        simp only [step, advanceStep, if_neg hv, Option.map_some]
        change some (Prog.bind (Prog.bind (Prog.bind (.done (if 0 ≤ v then 0 else v)) _) _) _, _) = _
        rw [hstatus]
        rfl
    | waitAck tries packet =>
      refine (act_wait (k := _) v).trans ?_
      simp only [step, advanceStep]
      split_ifs with hsignal
      · rfl
      · rfl
    | takeAck tries packet =>
      simp only [step, advanceStep, Option.map_some]
      change some (Prog.bind (Prog.bind (ite (_ = sshFrameTypeAck) _ _) _) _, _) = _
      split_ifs with htype
      · rfl
      · rw [prog_nextTry]
        rfl
    | advance packet =>
      simp only [step, advanceStep]
      rw [Option.map_some, prog_respond]
      rfl
    | waitResponse result packet =>
      refine (act_wait (k := _) v).trans ?_
      simp only [step, advanceStep]
      split_ifs with hsignal
      · rfl
      · rfl
    | takeResponse result packet =>
      simp only [step, advanceStep, Option.map_some]
      change some (Prog.bind (Prog.bind (ite (result.cap < _) _ _) _) _, _) = _
      split_ifs with hcap
      · rfl
      · rfl
    | takePayload result packet => rfl
    | refused result packet => rfl
    | writeAck result packet => rfl
    | flushAck result => rfl
    | discard status result => rfl
    | returned status result => rfl

lemma prog_enter : c.prog E c.enter = surfaceSamSshRqstUnlocked E c.rqst c.result := by
  unfold enter surfaceSamSshRqstUnlocked
  split_ifs
  · rfl
  · rfl

/-- The points a call goes through, from `enter` on. -/
def machine (E : SshEnv) (c : SshRqstCall) : Machine (SshPc × SamSshEc) (Act SshLine) :=
  fun s a => c.step E s.1 s.2 a

lemma exec_prog (acts : List (Act SshLine)) (s : SshPc × SamSshEc) :
    Prog.exec (SshLine.step E) acts (c.prog E s.1, s.2) =
      (Machine.run (c.machine E) s acts).map (fun s => (c.prog E s.1, s.2)) := by
  induction acts generalizing s with
  | nil => rfl
  | cons a acts ih =>
    unfold Prog.exec Machine.run
    rw [act_prog, Option.map_bind, Option.bind_map]
    apply congrArg (Option.bind (c.step E s.1 s.2 a))
    funext t
    exact ih t

/-- Whatever `surface_sam_ssh_rqst_unlocked` has left to do at some point of a run is the
program of one of the points. -/
theorem exec_rqst (E : SshEnv) (c : SshRqstCall) (acts : List (Act SshLine)) (ec : SamSshEc) :
    Prog.exec (SshLine.step E) acts (surfaceSamSshRqstUnlocked E c.rqst c.result, ec) =
      (Machine.run (c.machine E) (c.enter, ec) acts).map (fun s => (c.prog E s.1, s.2)) := by
  rw [← prog_enter]
  exact exec_prog acts (c.enter, ec)

end SshRqstCall

end SurfaceSam
