import SurfaceSam.Devlib.Unwind
import SurfaceSam.San.Probe

/-!
# The drivers of the module

Loading and unloading the module, and binding and unbinding those of its drivers that handle
events, as the calls these functions make: each with what undoes it at the error labels.
-/

namespace SurfaceSam

open Devlib

/-- The drivers that `surface_sam_init` registers. -/
inductive SamDriver where
  | ssh
  | san
  | vhf
  | dtx
  | sid
  deriving DecidableEq, Repr

/-- Loading the module, and binding the three drivers that handle events. -/
inductive SamThread where
  | module
  | san
  | vhf
  | dtx
  deriving DecidableEq, Repr

/-- The driver that is bound. -/
def SamThread.driver : SamThread → Option SamDriver
  | .module => none
  | .san => some .san
  | .vhf => some .vhf
  | .dtx => some .dtx

/-- The events that drivers handle. -/
inductive SamEventSource where
  | vhf
  | pwr
  | temp
  | dtx
  deriving DecidableEq, Repr

def samEventVhfTc : UInt8 := 0x08
def samEventVhfRqid : UInt16 := 0x0001
def samEventDtxTc : UInt8 := 0x11
def samEventDtxRqid : UInt16 := 0x0011

namespace SamEventSource

def tc : SamEventSource → UInt8
  | .vhf => samEventVhfTc
  | .pwr => samEventPwrTc
  | .temp => samEventTempTc
  | .dtx => samEventDtxTc

def rqid : SamEventSource → UInt16
  | .vhf => samEventVhfRqid
  | .pwr => samEventPwrRqid
  | .temp => samEventTempRqid
  | .dtx => samEventDtxRqid

/-- Index of the entry in the handler table. -/
def entry (e : SamEventSource) : ℕ := e.rqid.toNat - 1

/-- Whose event it is. -/
def thread : SamEventSource → SamThread
  | .vhf => .vhf
  | .pwr => .san
  | .temp => .san
  | .dtx => .dtx

end SamEventSource

/-- What drivers set up: their driver data, the links of the SAN driver to its consumers, the
handler of its operation region, the HID device of the VHF driver, and the input device and the
misc device of the DTX driver. -/
inductive SamObject where
  | sanDrvdata
  | sanConsumers
  | sanOpreg
  | vhfDrvdata
  | vhfHid
  | dtxInput
  | dtxMdev
  deriving DecidableEq, Repr

def SamObject.thread : SamObject → SamThread
  | .sanDrvdata => .san
  | .sanConsumers => .san
  | .sanOpreg => .san
  | .vhfDrvdata => .vhf
  | .vhfHid => .vhf
  | .dtxInput => .dtx
  | .dtxMdev => .dtx

/-- The calls of the drivers. What `create` and `destroy` stand for depends on the object:
`kzalloc` and `kfree` for driver data, `san_consumers_link` and `san_consumers_unlink`,
`acpi_install_address_space_handler` and `acpi_remove_address_space_handler`,
`vhf_create_hid_device` and `hid_destroy_device`, `surface_dtx_register_inputdev` and
`input_unregister_device(ddev->input_dev)`, `misc_register` and `misc_deregister`. The driver data
is set and cleared by the VHF driver; `activate` is "initialize device" of the DTX driver and
`deactivate` "mark as inactive". -/
inductive SamCall where
  | driverRegister (d : SamDriver)
  | driverUnregister (d : SamDriver)
  | consumerRegister
  | setEventHandler (e : SamEventSource)
  | removeEventHandler (e : SamEventSource)
  | enableEventSource (e : SamEventSource)
  | disableEventSource (e : SamEventSource)
  | create (o : SamObject)
  | destroy (o : SamObject)
  | hidAddDevice
  | setDrvdata
  | clearDrvdata
  | activate
  | deactivate
  deriving DecidableEq, Repr

/-! ### What the functions call -/

namespace SamScript

def surfaceSamInit : List (SetupCall SamCall) := [
  ⟨.driverRegister .ssh, id, [.driverUnregister .ssh]⟩,
  ⟨.driverRegister .san, id, [.driverUnregister .san]⟩,
  ⟨.driverRegister .vhf, id, [.driverUnregister .vhf]⟩,
  ⟨.driverRegister .dtx, id, [.driverUnregister .dtx]⟩,
  ⟨.driverRegister .sid, id, []⟩]

def surfaceSamExit : List SamCall := [.driverUnregister .sid, .driverUnregister .dtx,
  .driverUnregister .vhf, .driverUnregister .san, .driverUnregister .ssh]

/-- The status of a probe that cannot be registered as a consumer. -/
def consumerError (status : ℤ) : ℤ := if status = -enxio then -eprobeDefer else status

def surfaceSamVhfProbe : List (SetupCall SamCall) := [
  ⟨.consumerRegister, consumerError, []⟩,
  ⟨.create .vhfDrvdata, fun _ => -enomem, [.destroy .vhfDrvdata]⟩,
  ⟨.create .vhfHid, id, [.destroy .vhfHid, .clearDrvdata]⟩,
  ⟨.hidAddDevice, id, []⟩,
  ⟨.setDrvdata, id, []⟩,
  ⟨.setEventHandler .vhf, id, [.removeEventHandler .vhf]⟩,
  ⟨.enableEventSource .vhf, id, []⟩]

def surfaceSamVhfRemove : List SamCall := [.disableEventSource .vhf, .removeEventHandler .vhf,
  .destroy .vhfHid, .destroy .vhfDrvdata, .clearDrvdata]

/-- `san_enable_events`. -/
def sanEnableEvents : List (SetupCall SamCall) := [
  ⟨.setEventHandler .pwr, id, [.removeEventHandler .pwr]⟩,
  ⟨.setEventHandler .temp, id, [.removeEventHandler .temp]⟩,
  ⟨.enableEventSource .pwr, id, [.disableEventSource .pwr]⟩,
  ⟨.enableEventSource .temp, id, []⟩]

def sanDisableEvents : List SamCall := [.disableEventSource .temp, .disableEventSource .pwr,
  .removeEventHandler .temp, .removeEventHandler .pwr]

def surfaceSamSanProbe : List (SetupCall SamCall) := [
  ⟨.consumerRegister, consumerError, []⟩,
  ⟨.create .sanDrvdata, fun _ => -enomem, [.destroy .sanDrvdata]⟩,
  ⟨.create .sanConsumers, id, [.destroy .sanConsumers]⟩,
  ⟨.create .sanOpreg, fun _ => -enodev, [.destroy .sanOpreg]⟩] ++ sanEnableEvents

def surfaceSamSanRemove : List SamCall :=
  .destroy .sanOpreg :: sanDisableEvents ++ [.destroy .sanConsumers, .destroy .sanDrvdata]

def surfaceDtxEventsSetup : List (SetupCall SamCall) := [
  ⟨.setEventHandler .dtx, id, [.removeEventHandler .dtx]⟩,
  ⟨.enableEventSource .dtx, id, []⟩]

def surfaceDtxEventsDisable : List SamCall := [.disableEventSource .dtx, .removeEventHandler .dtx]

def surfaceSamDtxProbe : List (SetupCall SamCall) := [
  ⟨.consumerRegister, consumerError, []⟩,
  ⟨.create .dtxInput, id, [.destroy .dtxInput]⟩,
  ⟨.activate, id, []⟩,
  ⟨.create .dtxMdev, id, [.destroy .dtxMdev]⟩] ++ surfaceDtxEventsSetup

/-- When the device is active. -/
def surfaceSamDtxRemove : List SamCall :=
  .deactivate :: surfaceDtxEventsDisable ++ [.destroy .dtxInput, .destroy .dtxMdev]

end SamScript

def SamThread.script : SamThread → Script SamCall
  | .module => ⟨SamScript.surfaceSamInit, SamScript.surfaceSamExit⟩
  | .san => ⟨SamScript.surfaceSamSanProbe, SamScript.surfaceSamSanRemove⟩
  | .vhf => ⟨SamScript.surfaceSamVhfProbe, SamScript.surfaceSamVhfRemove⟩
  | .dtx => ⟨SamScript.surfaceSamDtxProbe, SamScript.surfaceSamDtxRemove⟩

/-! ### What they hold -/

/-- What is to be given back. The probe of the DTX driver first has an input device of its own,
`dtxProbed`, which then becomes that of the device. -/
inductive SamToken where
  | driver (d : SamDriver)
  | handler (e : SamEventSource)
  | source (e : SamEventSource)
  | object (o : SamObject)
  | hidAdded
  | vhfBound
  | dtxProbed
  | dtxActive
  deriving DecidableEq, Repr

def SamToken.thread : SamToken → SamThread
  | .driver _ => .module
  | .handler e => e.thread
  | .source e => e.thread
  | .object o => o.thread
  | .hidAdded => .vhf
  | .vhfBound => .vhf
  | .dtxProbed => .dtx
  | .dtxActive => .dtx

/-- Handlers work on the objects they need; sources are enabled for events that are handled, and
drivers that use the EC are registered besides its own. New driver data is not that of a bound
device. -/
def samHoldings : Holdings SamThread SamCall SamToken where
  owner := SamToken.thread
  demands
    | .driverUnregister d => [.driver d]
    | .removeEventHandler e => [.handler e]
    | .disableEventSource e => [.source e]
    | .destroy .dtxInput => [.dtxProbed]
    | .destroy o => [.object o]
    | .hidAddDevice => [.object .vhfHid]
    | .setDrvdata => [.object .vhfDrvdata]
    | .activate => [.dtxProbed]
    | .deactivate => [.dtxActive]
    | _ => []
  excludes
    | .create .vhfDrvdata => [.vhfBound]
    | _ => []
  gives
    | .driverRegister d => [.driver d]
    | .setEventHandler e => [.handler e]
    | .enableEventSource e => [.source e]
    | .create .dtxInput => [.dtxProbed]
    | .create o => [.object o]
    | .hidAddDevice => [.hidAdded]
    | .setDrvdata => [.vhfBound]
    | .activate => [.object .dtxInput, .dtxActive]
    | _ => []
  takes
    | .driverUnregister d => [.driver d]
    | .removeEventHandler e => [.handler e]
    | .disableEventSource e => [.source e]
    | .destroy .vhfHid => [.object .vhfHid, .hidAdded]
    | .destroy .dtxInput => [.dtxProbed, .object .dtxInput, .dtxActive]
    | .destroy o => [.object o]
    | .clearDrvdata => [.vhfBound]
    | .deactivate => [.dtxActive]
    | _ => []
  needs
    | .driver .ssh => []
    | .driver _ => [.driver .ssh]
    | .handler .vhf => [.object .vhfDrvdata, .object .vhfHid, .hidAdded, .vhfBound]
    | .handler .dtx => [.object .dtxInput]
    | .handler _ => []
    | .source e => [.handler e]
    | .object .sanOpreg => [.object .sanDrvdata]
    | .object .dtxInput => [.dtxProbed]
    | .hidAdded => [.object .vhfHid]
    | _ => []

/-- Every script gives back what it holds, wherever it fails. -/
lemma sound_script (t : SamThread) : samHoldings.Sound t t.script := by
  cases t with
  | module => decide
  | san => decide
  | vhf => decide
  | dtx => decide

/-- A call of `san_enable_events` in the model of the SAN driver. -/
def SanCall.toSam : SanCall → SamCall
  | .setHandler rqid => .setEventHandler (if rqid = samEventPwrRqid then .pwr else .temp)
  | .removeHandler rqid => .removeEventHandler (if rqid = samEventPwrRqid then .pwr else .temp)
  | .enableSource _ rqid => .enableEventSource (if rqid = samEventPwrRqid then .pwr else .temp)
  | .disableSource _ rqid => .disableEventSource (if rqid = samEventPwrRqid then .pwr else .temp)

/-- The script makes the calls that enabling the events comes to, and ends with its status. -/
lemma follow_sanEnableEvents {status : ℤ} {calls : List (SanCall × ℤ)}
    (h : SanSystem.EnableCalls status calls) :
    (Place.ofSetup SamScript.sanEnableEvents []).follow
      (calls.map fun c => (c.1.toSam, c.2)) = some (if status = 0 then .done else .idle status) := by
  cases h with
  | done => rfl
  | _ fails => simp [Place.follow, Place.next, Place.after, Place.ofSetup, Place.ofCleanup,
      SamScript.sanEnableEvents, SanCall.toSam, fails, samEventTempRqid, samEventPwrRqid]

end SurfaceSam
