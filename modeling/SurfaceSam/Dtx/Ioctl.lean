import SurfaceSam.Dtx.OperationMode
import SurfaceSam.Dtx.Wakeups

/-!
# Commands to the detachment device

Calls of `surface_dtx_ioctl` on the open files, step by step, while the driver is bound and
unbound. The mutex of the device makes each of them one step of a device without a mutex.
-/

namespace SurfaceSam

open Devlib

@[simp] def eintr : ℤ := 4
@[simp] def eacces : ℤ := 13

/-! ### Commands -/

/-- The macro `_IOC`. -/
def ioc (dir type nr size : UInt32) : UInt32 :=
  (dir <<< 30) ||| (size <<< 16) ||| (type <<< 8) ||| nr

namespace DtxCmd

def latchLock : UInt32 := ioc 0 0x11 0x01 0
def latchUnlock : UInt32 := ioc 0 0x11 0x02 0
def latchRequest : UInt32 := ioc 0 0x11 0x03 0
def latchOpen : UInt32 := ioc 0 0x11 0x04 0
def getOpmode : UInt32 := ioc 2 0x11 0x05 4

end DtxCmd

example : DtxCmd.latchLock = 0x1101 ∧ DtxCmd.getOpmode = 0x80041105 := by decide

/-- The request of `dtx_cmd_simple`. -/
def dtxCmdSimple (cid : UInt8) : SurfaceSamSshRqst := ⟨0x11, 0, cid, 0, 0, fun _ => 0⟩

/-- What a command finds outside the driver: the status of its request with the response, and
whether `put_user` succeeds. -/
structure IoctlEnv where
  reply : ℤ × List UInt8
  copied : Bool

/-- What a call returns, and the value that it has put to the user. -/
structure IoctlResult where
  status : ℤ
  put : Option ℤ
  deriving DecidableEq, Repr

/-- The rest of `dtx_cmd_get_opmode` behind its request. -/
def dtxCmdGetOpmode (env : IoctlEnv) : IoctlResult :=
  let opmode := SurfaceDtxDev.surfaceSamQueryOpmpde env.reply
  if opmode < 0 then ⟨opmode, none⟩
  else if !env.copied then ⟨-eacces, none⟩
  else ⟨0, some opmode⟩

/-- The request of a command; any other is refused. -/
def ioctlRqst (cmd : UInt32) : Option SurfaceSamSshRqst :=
  if cmd = DtxCmd.latchLock then some (dtxCmdSimple 0x06)
  else if cmd = DtxCmd.latchUnlock then some (dtxCmdSimple 0x07)
  else if cmd = DtxCmd.latchRequest then some (dtxCmdSimple 0x08)
  else if cmd = DtxCmd.latchOpen then some (dtxCmdSimple 0x09)
  else if cmd = DtxCmd.getOpmode then some opmodeRqst
  else none

/-- What a command makes of its reply. -/
def ioctlReply (cmd : UInt32) (env : IoctlEnv) : IoctlResult :=
  if cmd = DtxCmd.getOpmode then dtxCmdGetOpmode env else ⟨env.reply.1, none⟩

/-- `surface_dtx_ioctl` from the lock to the unlock, with the request it makes. -/
def surfaceDtxIoctl (cmd : UInt32) (env : IoctlEnv) (active : Bool) :
    Option SurfaceSamSshRqst × IoctlResult :=
  if !active then (none, ⟨-enodev, none⟩)
  else match ioctlRqst cmd with
    | none => (none, ⟨-einval, none⟩)
    | some rqst => (some rqst, ioctlReply cmd env)

/-! ### Calls -/

/-- Where a call is: before its lock, behind it, in its request, before its unlock, or at its
end. -/
inductive IoctlStage where
  | entered
  | locked
  | requesting (rqst : SurfaceSamSshRqst)
  | unlocking (rqst : Option SurfaceSamSshRqst) (env : IoctlEnv) (result : IoctlResult)
  | returned (result : IoctlResult)

namespace IoctlStage

/-- The call has the mutex. -/
def holds : IoctlStage → Bool
  | locked => true
  | requesting _ => true
  | unlocking _ _ _ => true
  | _ => false

def result : IoctlStage → Option IoctlResult
  | returned result => some result
  | _ => none

/-- The request that the call has made under the mutex. -/
def pending : IoctlStage → Option SurfaceSamSshRqst
  | requesting rqst => some rqst
  | unlocking rqst _ _ => rqst
  | _ => none

end IoctlStage

structure IoctlCall where
  client : ℕ
  cmd : UInt32
  stage : IoctlStage

/-- The device with its open files, and the calls on them; `sent` are the requests made so far,
with the calls that have made them. -/
structure DtxIoctlSystem where
  sys : DtxSystem
  lock : Option ℕ
  calls : ℕ → Option IoctlCall
  nextCall : ℕ
  sent : List (ℕ × SurfaceSamSshRqst)

inductive DtxIoctlAction where
  | sys (a : DtxAction)
  | ioctl (c : ℕ) (cmd : UInt32)
  | interrupt (i : ℕ)
  | lock (i : ℕ)
  | enter (i : ℕ)
  | reply (i : ℕ) (env : IoctlEnv)
  | unlock (i : ℕ)

/-- A probe or remove that takes the mutex of the device. -/
def DtxAction.locks : DtxAction → Bool
  | .probe env => !env.failsEarly && env.inputRegisterDevice == 0
  | .remove => true
  | _ => false

namespace DtxAction

variable {d : SurfaceDtxDev} {env : SurfaceDtxDev.ProbeEnv}

/-- A probe that gets to the mutex leaves the device active, also if it fails later on. -/
lemma active_of_locks (h : (probe env).locks = true) :
    (d.surfaceSamDtxProbe env).2.active = true := by
  simp only [locks, Bool.and_eq_true, Bool.not_eq_true', beq_iff_eq] at h
  have hr := d.surfaceSamDtxProbe_result env
  generalize d.surfaceSamDtxProbe env = r at hr
  cases hr with
  | early hearly _ _ _ => cases hearly.symm.trans h.1
  | unregistered _ hregister => exact absurd h.2 hregister
  | busy _ _ hbusy => exact SurfaceDtxDev.unregisterInput_active.trans hbusy
  | failed _ _ _ _ _ _ hfailed _ => exact hfailed
  | done _ _ => rfl

lemma active_of_not_locks (h : (probe env).locks = false) :
    (d.surfaceSamDtxProbe env).2.active = d.active := by
  apply SurfaceDtxDev.surfaceSamDtxProbe_active
  simp only [locks] at h
  simp [SurfaceDtxDev.initializesList, h]

lemma active_remove : d.surfaceSamDtxRemove.active = false := by
  cases hbound : d.active with
  | false => rw [SurfaceDtxDev.surfaceSamDtxRemove_inactive hbound, hbound]
  | true =>
    unfold SurfaceDtxDev.surfaceSamDtxRemove
    rw [hbound]
    exact SurfaceDtxDev.unregisterInput_active

end DtxAction

namespace DtxIoctlSystem

def static : DtxIoctlSystem := ⟨.static, none, fun _ => none, 0, []⟩

def setStage (i : ℕ) (call : IoctlCall) (stage : IoctlStage) (s : DtxIoctlSystem) :
    DtxIoctlSystem :=
  { s with calls := Function.update s.calls i (some { call with stage := stage }) }

/-- A call on the file is under way. -/
def isIoctl (s : DtxIoctlSystem) (client i : ℕ) : Bool :=
  (s.calls i).any fun call => call.client == client && call.stage.result.isNone

/-- A file is released when no call uses it any more; binding and unbinding wait for the
mutex. -/
def allows (s : DtxIoctlSystem) : DtxAction → Bool
  | .release c => !(List.range s.nextCall).any (s.isIoctl c)
  | a => !a.locks || s.lock.isNone

/-- The `if` and the `switch`, up to a request. -/
def enterIoctl (i : ℕ) (call : IoctlCall) (s : DtxIoctlSystem) : DtxIoctlSystem :=
  if !s.sys.dev.active then s.setStage i call (.unlocking none ⟨(0, []), true⟩ ⟨-enodev, none⟩)
  else match ioctlRqst call.cmd with
    | none => s.setStage i call (.unlocking none ⟨(0, []), true⟩ ⟨-einval, none⟩)
    | some rqst =>
      { s.setStage i call (.requesting rqst) with sent := s.sent ++ [(i, rqst)] }

def step (s : DtxIoctlSystem) : DtxIoctlAction → Option DtxIoctlSystem
  | .sys a => if s.allows a then (s.sys.step a).map fun sys => { s with sys := sys } else none
  | .ioctl c cmd =>
    if c ∈ s.sys.clients then
      some { s with
        calls := Function.update s.calls s.nextCall (some ⟨c, cmd, .entered⟩)
        nextCall := s.nextCall + 1 }
    else none
  | .interrupt i => do
    let call ← s.calls i
    match call.stage with
    | .entered => some (s.setStage i call (.returned ⟨-eintr, none⟩))
    | _ => none
  | .lock i => do
    let call ← s.calls i
    match call.stage with
    | .entered =>
      if s.lock.isNone then some { s.setStage i call .locked with lock := some i } else none
    | _ => none
  | .enter i => do
    let call ← s.calls i
    match call.stage with
    | .locked => some (s.enterIoctl i call)
    | _ => none
  | .reply i env => do
    let call ← s.calls i
    match call.stage with
    | .requesting rqst =>
      some (s.setStage i call (.unlocking (some rqst) env (ioctlReply call.cmd env)))
    | _ => none
  | .unlock i => do
    let call ← s.calls i
    match call.stage with
    | .unlocking _ _ result => some { s.setStage i call (.returned result) with lock := none }
    | _ => none

end DtxIoctlSystem

/-! ### The device without a mutex -/

/-- The device whose commands are single steps. -/
structure DtxAtomic where
  active : Bool
  sent : List (ℕ × SurfaceSamSshRqst)
  result : ℕ → Option IoctlResult

inductive DtxAtomicAction where
  | activate
  | deactivate
  | ioctl (i : ℕ) (cmd : UInt32) (env : IoctlEnv)
  | interrupt (i : ℕ)

namespace DtxAtomic

def start : DtxAtomic := ⟨false, [], fun _ => none⟩

def setResult (i : ℕ) (result : IoctlResult) (a : DtxAtomic) : DtxAtomic :=
  { a with result := Function.update a.result i (some result) }

/-- No call returns twice. -/
def step (a : DtxAtomic) : DtxAtomicAction → Option DtxAtomic
  | .activate => some { a with active := true }
  | .deactivate => some { a with active := false }
  | .ioctl i cmd env =>
    if (a.result i).isNone then
      let r := surfaceDtxIoctl cmd env a.active
      some { a.setResult i r.2 with sent := a.sent ++ (r.1.map (Prod.mk i)).toList }
    else none
  | .interrupt i => if (a.result i).isNone then some (a.setResult i ⟨-eintr, none⟩) else none

end DtxAtomic

/-- What an action is for the device without a mutex. -/
def DtxIoctlSystem.label (s : DtxIoctlSystem) : DtxIoctlAction → List DtxAtomicAction
  | .sys (.probe env) => if (DtxAction.probe env).locks then [.activate] else []
  | .sys .remove => [.deactivate]
  | .interrupt i => [.interrupt i]
  | .unlock i => match s.calls i with
    | some ⟨_, cmd, .unlocking _ env _⟩ => [.ioctl i cmd env]
    | _ => []
  | _ => []

namespace DtxIoctlSystem

variable {s t : DtxIoctlSystem} {i j : ℕ} {call : IoctlCall} {a : DtxAction}

/-! ### What a step does -/

lemma calls_setStage (stage : IoctlStage) :
    (s.setStage i call stage).calls i = some { call with stage := stage } :=
  Function.update_self ..

lemma calls_setStage_of_ne (stage : IoctlStage) (h : j ≠ i) :
    (s.setStage i call stage).calls j = s.calls j :=
  Function.update_of_ne h ..

inductive Step (s : DtxIoctlSystem) : DtxIoctlAction → DtxIoctlSystem → Prop
  | sys {a : DtxAction} {sys : DtxSystem} (allowed : s.allows a = true)
    (step : s.sys.step a = some sys) : Step s (.sys a) { s with sys := sys }
  | begun {c : ℕ} (cmd : UInt32) (opened : c ∈ s.sys.clients) :
    Step s (.ioctl c cmd) { s with
      calls := Function.update s.calls s.nextCall (some ⟨c, cmd, .entered⟩)
      nextCall := s.nextCall + 1 }
  | interrupted {i : ℕ} {call : IoctlCall} (calls : s.calls i = some call)
    (stage : call.stage = .entered) :
    Step s (.interrupt i) (s.setStage i call (.returned ⟨-eintr, none⟩))
  | locked {i : ℕ} {call : IoctlCall} (calls : s.calls i = some call)
    (stage : call.stage = .entered) (free : s.lock = none) :
    Step s (.lock i) { s.setStage i call .locked with lock := some i }
  | entered {i : ℕ} {call : IoctlCall} (calls : s.calls i = some call)
    (stage : call.stage = .locked) : Step s (.enter i) (s.enterIoctl i call)
  | replied {i : ℕ} {call : IoctlCall} {rqst : SurfaceSamSshRqst} (env : IoctlEnv)
    (calls : s.calls i = some call) (stage : call.stage = .requesting rqst) :
    Step s (.reply i env)
      (s.setStage i call (.unlocking (some rqst) env (ioctlReply call.cmd env)))
  | unlocked {i : ℕ} {call : IoctlCall} {rqst : Option SurfaceSamSshRqst} {env : IoctlEnv}
    {result : IoctlResult} (calls : s.calls i = some call)
    (stage : call.stage = .unlocking rqst env result) :
    Step s (.unlock i) { s.setStage i call (.returned result) with lock := none }

lemma step_cases {b : DtxIoctlAction} (h : s.step b = some t) : Step s b t := by
  cases b with
  | sys a =>
    simp only [step] at h
    split_ifs at h with hallows
    obtain ⟨sys, hsys, rfl⟩ := Option.map_eq_some_iff.mp h
    exact .sys hallows hsys
  | ioctl c cmd =>
    simp only [step] at h
    split_ifs at h with hc
    cases h
    exact .begun cmd hc
  | interrupt i =>
    obtain ⟨call, hcall, h⟩ := Option.bind_eq_some_iff.mp h
    cases hstage : call.stage with
    | entered =>
      rw [hstage] at h
      cases h
      exact .interrupted hcall hstage
    | _ =>
      rw [hstage] at h
      cases h
  | lock i =>
    obtain ⟨call, hcall, h⟩ := Option.bind_eq_some_iff.mp h
    cases hstage : call.stage with
    | entered =>
      rw [hstage] at h
      dsimp only at h
      split_ifs at h with hlock
      cases h
      exact .locked hcall hstage (Option.isNone_iff_eq_none.mp hlock)
    | _ =>
      rw [hstage] at h
      cases h
  | enter i =>
    obtain ⟨call, hcall, h⟩ := Option.bind_eq_some_iff.mp h
    cases hstage : call.stage with
    | locked =>
      rw [hstage] at h
      cases h
      exact .entered hcall hstage
    | _ =>
      rw [hstage] at h
      cases h
  | reply i env =>
    obtain ⟨call, hcall, h⟩ := Option.bind_eq_some_iff.mp h
    cases hstage : call.stage with
    | requesting rqst =>
      rw [hstage] at h
      cases h
      exact .replied env hcall hstage
    | _ =>
      rw [hstage] at h
      cases h
  | unlock i =>
    obtain ⟨call, hcall, h⟩ := Option.bind_eq_some_iff.mp h
    cases hstage : call.stage with
    | unlocking rqst env result =>
      rw [hstage] at h
      cases h
      exact .unlocked hcall hstage
    | _ =>
      rw [hstage] at h
      cases h

/-- What the `if` and the `switch` do, in the terms of the function as a whole. -/
lemma enterIoctl_cases (i : ℕ) (call : IoctlCall) :
    (∃ env result, (∀ env', surfaceDtxIoctl call.cmd env' s.sys.dev.active = (none, result)) ∧
      s.enterIoctl i call = s.setStage i call (.unlocking none env result)) ∨
    ∃ rqst, s.sys.dev.active = true ∧ ioctlRqst call.cmd = some rqst ∧
      s.enterIoctl i call =
        { s.setStage i call (.requesting rqst) with sent := s.sent ++ [(i, rqst)] } := by
  unfold enterIoctl surfaceDtxIoctl
  cases s.sys.dev.active with
  | false => exact .inl ⟨_, _, fun _ => rfl, rfl⟩
  | true =>
    cases ioctlRqst call.cmd with
    | none => exact .inl ⟨_, _, fun _ => rfl, rfl⟩
    | some rqst => exact .inr ⟨rqst, rfl, rfl, rfl⟩

end DtxIoctlSystem

end SurfaceSam
