import SurfaceSam.Devlib.CircularList
import SurfaceSam.Devlib.Ring
import SurfaceSam.Ec.Device

/-!
# The detachment device

`struct surface_dtx_dev` with the devices and event handlers it registers, and binding the
driver to it. Clients are the open files of its misc device.
-/

namespace SurfaceSam

open Devlib

@[simp] def eagain : ℤ := 11

structure SurfaceDtxEvent where
  type : UInt8
  code : UInt8
  arg0 : UInt8
  arg1 : UInt8
  deriving DecidableEq, Repr

def SurfaceDtxEvent.bytes (e : SurfaceDtxEvent) : List UInt8 := [e.type, e.code, e.arg0, e.arg1]

@[simp] lemma SurfaceDtxEvent.length_bytes (e : SurfaceDtxEvent) : e.bytes.length = 4 := rfl

/-- `client_list` of the device, or the `node` of a client. -/
abbrev DtxNode := Option ℕ

/-- The buffer of a client has `DTX_CLIENT_BUF_SIZE` slots. -/
abbrev DtxRing := Ring 4 SurfaceDtxEvent

/-! ### Input devices -/

/-- What has been done with the input devices allocated so far. -/
structure InputDevs where
  next : ℕ
  registered : ℕ → Bool
  freed : ℕ → ℕ
  unregistered : ℕ → ℕ

namespace InputDevs

def none : InputDevs := ⟨0, fun _ => false, fun _ => 0, fun _ => 0⟩

def inputAllocateDevice (l : InputDevs) : ℕ × InputDevs := (l.next, { l with next := l.next + 1 })

def inputFreeDevice (l : InputDevs) (dev : ℕ) : InputDevs :=
  { l with freed := Function.update l.freed dev (l.freed dev + 1) }

/-- When it succeeds. -/
def inputRegisterDevice (l : InputDevs) (dev : ℕ) : InputDevs :=
  { l with registered := Function.update l.registered dev true }

def inputUnregisterDevice (l : InputDevs) (dev : ℕ) : InputDevs :=
  { l with unregistered := Function.update l.unregistered dev (l.unregistered dev + 1) }

end InputDevs

/-! ### The device -/

/-- `mdev`, `handler` and `source` tell whether the misc device and the event handler are
registered and the event source is enabled. -/
structure SurfaceDtxDev where
  clientList : Links DtxNode
  active : Bool
  inputDev : KPtr
  mdev : Bool
  handler : Bool
  source : Bool
  inputs : InputDevs

namespace SurfaceDtxDev

/-- `static struct surface_dtx_dev surface_dtx_dev`; its list head is zero. -/
def static : SurfaceDtxDev := ⟨.null, false, none, false, false, false, .none⟩

/-- What the functions called by probe return; `opmode` is the status of the operation mode
request with its response. A failed allocation is `false`, any other failure nonzero. -/
structure ProbeEnv where
  consumerRegister : ℤ
  inputAllocateDevice : Bool
  opmode : ℤ × List UInt8
  inputRegisterDevice : ℤ
  miscRegister : ℤ
  setEventHandler : ℤ
  enableEventSource : ℤ

def surfaceSamQueryOpmpde (opmode : ℤ × List UInt8) : ℤ :=
  if opmode.1 ≠ 0 then opmode.1
  else match opmode.2 with
    | [mode] => mode.toNat
    | [] => -efault
    | _ :: _ :: _ => -efault

def surfaceDtxRegisterInputdev (env : ProbeEnv) (l : InputDevs) : Except ℤ ℕ × InputDevs :=
  if !env.inputAllocateDevice then (.error (-enomem), l)
  else
    let (inputDev, l) := l.inputAllocateDevice
    let status := surfaceSamQueryOpmpde env.opmode
    if status < 0 then (.error status, l.inputFreeDevice inputDev)
    else if env.inputRegisterDevice ≠ 0 then
      (.error env.inputRegisterDevice, l.inputUnregisterDevice inputDev)
    else (.ok inputDev, l.inputRegisterDevice inputDev)

def surfaceDtxEventsSetup (env : ProbeEnv) (d : SurfaceDtxDev) : ℤ × SurfaceDtxDev :=
  if env.setEventHandler ≠ 0 then (env.setEventHandler, d)
  else
    let d := { d with handler := true }
    if env.enableEventSource ≠ 0 then (env.enableEventSource, { d with handler := false })
    else (0, { d with source := true })

def surfaceDtxEventsDisable (d : SurfaceDtxDev) : SurfaceDtxDev :=
  { d with source := false, handler := false }

/-- `input_unregister_device(ddev->input_dev)`. -/
def unregisterInput (d : SurfaceDtxDev) : SurfaceDtxDev :=
  match d.inputDev with
  | none => d
  | some inputDev => { d with inputs := d.inputs.inputUnregisterDevice inputDev }

/-- "initialize device". -/
def initDevice (inputDev : ℕ) (d : SurfaceDtxDev) : SurfaceDtxDev :=
  { d with
    clientList := d.clientList.initListHead none
    active := true
    inputDev := some inputDev }

def surfaceSamDtxProbe (env : ProbeEnv) (d : SurfaceDtxDev) : ℤ × SurfaceDtxDev :=
  -- link to ec
  if env.consumerRegister ≠ 0 then
    (if env.consumerRegister = -enxio then -eprobeDefer else env.consumerRegister, d)
  else match surfaceDtxRegisterInputdev env d.inputs with
    | (.error status, l) => (status, { d with inputs := l })
    | (.ok inputDev, l) =>
      let d := { d with inputs := l }
      if d.active then (-enodev, d.unregisterInput)
      else
        let d := d.initDevice inputDev
        if env.miscRegister ≠ 0 then (env.miscRegister, d.unregisterInput)
        else
          -- enable events
          let (status, d) := surfaceDtxEventsSetup env { d with mdev := true }
          if status ≠ 0 then (status, { d with mdev := false }.unregisterInput)
          else (0, d)

def surfaceSamDtxRemove (d : SurfaceDtxDev) : SurfaceDtxDev :=
  if !d.active then d
  else
    let d := { d with active := false }.surfaceDtxEventsDisable
    { d.unregisterInput with mdev := false }

lemma unregisterInput_some {d : SurfaceDtxDev} {i : ℕ} (h : d.inputDev = some i) :
    d.unregisterInput = { d with inputs := d.inputs.inputUnregisterDevice i } := by
  unfold unregisterInput
  rw [h]

lemma surfaceSamDtxRemove_inactive {d : SurfaceDtxDev} (h : d.active = false) :
    d.surfaceSamDtxRemove = d := by
  unfold surfaceSamDtxRemove
  rw [h]
  rfl

lemma surfaceSamDtxRemove_active {d : SurfaceDtxDev} {i : ℕ} (h : d.active = true)
    (hdev : d.inputDev = some i) : d.surfaceSamDtxRemove =
      { d with
        active := false
        source := false
        handler := false
        inputs := d.inputs.inputUnregisterDevice i
        mdev := false } := by
  have hinput : ({ d with active := false }.surfaceDtxEventsDisable).unregisterInput = _ :=
    unregisterInput_some hdev
  unfold surfaceSamDtxRemove
  rw [h]
  simp only [Bool.not_true, Bool.false_eq_true, if_false]
  rw [hinput]
  rfl

/-! ### How a probe ends -/

namespace ProbeEnv

/-- The probe fails before it registers its input device. -/
def failsEarly (env : ProbeEnv) : Bool :=
  env.consumerRegister != 0 || !env.inputAllocateDevice ||
    decide (surfaceSamQueryOpmpde env.opmode < 0)

/-- All functions it calls succeed. -/
def succeeds (env : ProbeEnv) : Bool :=
  !env.failsEarly && env.inputRegisterDevice == 0 && env.miscRegister == 0 &&
    env.setEventHandler == 0 && env.enableEventSource == 0

end ProbeEnv

/-- The input devices with a new one that is registered. -/
def registerInput (l : InputDevs) : InputDevs := l.inputAllocateDevice.2.inputRegisterDevice l.next

inductive ProbeResult (d : SurfaceDtxDev) (env : ProbeEnv) : ℤ × SurfaceDtxDev → Prop
  | early (early : env.failsEarly = true) {status : ℤ} (nonzero : status ≠ 0) (l : InputDevs)
    (inputs : l = d.inputs ∨ l = d.inputs.inputAllocateDevice.2.inputFreeDevice d.inputs.next) :
    ProbeResult d env (status, { d with inputs := l })
  | unregistered (late : env.failsEarly = false) (register : env.inputRegisterDevice ≠ 0) :
    ProbeResult d env (env.inputRegisterDevice,
      { d with inputs := d.inputs.inputAllocateDevice.2.inputUnregisterDevice d.inputs.next })
  | busy (late : env.failsEarly = false) (register : env.inputRegisterDevice = 0)
    (active : d.active = true) :
    ProbeResult d env (-enodev, { d with inputs := registerInput d.inputs }.unregisterInput)
  | failed (late : env.failsEarly = false) (register : env.inputRegisterDevice = 0)
    (inactive : d.active = false) (fails : env.succeeds = false) {status : ℤ}
    (nonzero : status ≠ 0) (d' : SurfaceDtxDev) (active : d'.active = true)
    (clientList : d'.clientList = d.clientList.initListHead none) : ProbeResult d env (status, d')
  | done (succeeds : env.succeeds = true) (inactive : d.active = false) :
    ProbeResult d env (0,
      { { d with inputs := registerInput d.inputs }.initDevice d.inputs.next with
        mdev := true, handler := true, source := true })

lemma surfaceSamDtxProbe_result (d : SurfaceDtxDev) (env : ProbeEnv) :
    ProbeResult d env (d.surfaceSamDtxProbe env) := by
  unfold surfaceSamDtxProbe surfaceDtxRegisterInputdev
  by_cases hconsumer : env.consumerRegister = 0
  swap
  · rw [if_pos hconsumer]
    refine .early (by simp [ProbeEnv.failsEarly, hconsumer]) ?_ d.inputs (.inl rfl)
    split_ifs
    · simp
    · exact hconsumer
  rw [if_neg (not_not.mpr hconsumer)]
  cases halloc : env.inputAllocateDevice with
  | false => exact .early (by simp [ProbeEnv.failsEarly, halloc]) (by simp) d.inputs (.inl rfl)
  | true =>
    by_cases hquery : surfaceSamQueryOpmpde env.opmode < 0
    · simp only [Bool.not_true, Bool.false_eq_true, if_false, if_pos hquery]
      exact .early (by simp [ProbeEnv.failsEarly, hquery]) (by omega) _ (.inr rfl)
    have hlate : env.failsEarly = false := by simp [ProbeEnv.failsEarly, hconsumer, halloc, hquery]
    by_cases hregister : env.inputRegisterDevice = 0
    swap
    · simp only [Bool.not_true, Bool.false_eq_true, if_false, if_neg hquery, if_pos hregister]
      exact .unregistered hlate hregister
    simp only [Bool.not_true, Bool.false_eq_true, if_false, if_neg hquery,
      if_neg (not_not.mpr hregister)]
    by_cases hactive : d.active = true
    · rw [if_pos hactive]
      exact .busy hlate hregister hactive
    rw [if_neg hactive]
    rw [Bool.not_eq_true] at hactive
    by_cases hmisc : env.miscRegister = 0
    swap
    · rw [if_pos hmisc]
      exact .failed hlate hregister hactive (by simp [ProbeEnv.succeeds, hmisc]) hmisc _ rfl rfl
    rw [if_neg (not_not.mpr hmisc)]
    unfold surfaceDtxEventsSetup
    by_cases hhandler : env.setEventHandler = 0
    swap
    · rw [if_pos hhandler, if_pos hhandler]
      exact .failed hlate hregister hactive (by simp [ProbeEnv.succeeds, hhandler]) hhandler _ rfl rfl
    rw [if_neg (not_not.mpr hhandler)]
    by_cases hsource : env.enableEventSource = 0
    swap
    · simp only [if_pos hsource]
      exact .failed hlate hregister hactive (by simp [ProbeEnv.succeeds, hsource]) hsource _ rfl rfl
    simp only [if_neg (not_not.mpr hsource)]
    exact .done (by simp [ProbeEnv.succeeds, hlate, hregister, hmisc, hhandler, hsource]) hactive

end SurfaceDtxDev

end SurfaceSam
