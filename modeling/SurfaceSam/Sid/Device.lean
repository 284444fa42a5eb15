import Mathlib.Data.List.Basic
import SurfaceSam.Ec.Device

/-!
# The integration device

Device-dependent configuration: performance modes, which the EC keeps, and waking up by the lid,
which is up to ACPI. What the driver does outside of itself is recorded in its state; what the
functions it calls return is an argument.
-/

namespace SurfaceSam

open Devlib

/-! ### Devices -/

structure SidLidDevice where
  acpiPath : String
  gpeNumber : UInt32
  deriving DecidableEq, Repr

structure SidDeviceInfo where
  hasPerfMode : Bool
  lidDevice : Option SidLidDevice
  deriving DecidableEq, Repr

def lidDeviceL17 : SidLidDevice := ⟨"\\_SB.LID0", 0x17⟩
def lidDeviceL4F : SidLidDevice := ⟨"\\_SB.LID0", 0x4F⟩
def lidDeviceL57 : SidLidDevice := ⟨"\\_SB.LID0", 0x57⟩

def siDevicePro4 : SidDeviceInfo := ⟨false, some lidDeviceL17⟩
def siDevicePro5 : SidDeviceInfo := ⟨false, some lidDeviceL4F⟩
def siDevicePro6 : SidDeviceInfo := ⟨false, some lidDeviceL4F⟩
def siDeviceBook1 : SidDeviceInfo := ⟨false, some lidDeviceL17⟩
def siDeviceBook2 : SidDeviceInfo := ⟨true, some lidDeviceL17⟩
def siDeviceLaptop1 : SidDeviceInfo := ⟨false, some lidDeviceL57⟩
def siDeviceLaptop2 : SidDeviceInfo := ⟨false, some lidDeviceL57⟩

inductive DmiField where
  | sysVendor
  | productName
  | productSku
  deriving DecidableEq, Repr

/-- What the firmware says about the machine. -/
abbrev DmiStrings := DmiField → Option String

structure DmiSystemId where
  ident : String
  isMatch : List (DmiField × String)
  driverData : SidDeviceInfo

/-- An entry whose `matches` are all `DMI_EXACT_MATCH`. -/
def DmiSystemId.dmiMatches (dmi : DmiStrings) (entry : DmiSystemId) : Bool :=
  entry.isMatch.all fun m => dmi m.1 == some m.2

def dmiFirstMatch (dmi : DmiStrings) (table : List DmiSystemId) : Option DmiSystemId :=
  table.find? (DmiSystemId.dmiMatches dmi)

def dmiLidDeviceTable : List DmiSystemId := [
  ⟨"Surface Pro 4", [(.sysVendor, "Microsoft Corporation"), (.productName, "Surface Pro 4")],
    siDevicePro4⟩,
  ⟨"Surface Pro 5", [(.sysVendor, "Microsoft Corporation"), (.productSku, "Surface_Pro_1796")],
    siDevicePro5⟩,
  ⟨"Surface Pro 5 (LTE)", [(.sysVendor, "Microsoft Corporation"),
    (.productSku, "Surface_Pro_1807")], siDevicePro5⟩,
  ⟨"Surface Pro 6", [(.sysVendor, "Microsoft Corporation"), (.productName, "Surface Pro 6")],
    siDevicePro6⟩,
  ⟨"Surface Book 1", [(.sysVendor, "Microsoft Corporation"), (.productName, "Surface Book")],
    siDeviceBook1⟩,
  ⟨"Surface Book 2", [(.sysVendor, "Microsoft Corporation"), (.productName, "Surface Book 2")],
    siDeviceBook2⟩,
  ⟨"Surface Laptop 1", [(.sysVendor, "Microsoft Corporation"), (.productName, "Surface Laptop")],
    siDeviceLaptop1⟩,
  ⟨"Surface Laptop 2", [(.sysVendor, "Microsoft Corporation"), (.productName, "Surface Laptop 2")],
    siDeviceLaptop2⟩]

/-! ### ACPI -/

/-- What has been asked of the general purpose events: which are set up to wake the machine, how
many references enable them, and which do wake it. -/
structure AcpiGpes where
  setup : UInt32 → Bool
  refs : UInt32 → ℕ
  wake : UInt32 → Bool

namespace AcpiGpes

def none : AcpiGpes := ⟨fun _ => false, fun _ => 0, fun _ => false⟩

/-- When it succeeds, as the next two. -/
def acpiSetupGpeForWake (gpe : UInt32) (g : AcpiGpes) : AcpiGpes :=
  { g with setup := Function.update g.setup gpe true }

def acpiEnableGpe (gpe : UInt32) (g : AcpiGpes) : AcpiGpes :=
  { g with refs := Function.update g.refs gpe (g.refs gpe + 1) }

def acpiSetGpeWakeMask (gpe : UInt32) (action : Bool) (g : AcpiGpes) : AcpiGpes :=
  { g with wake := Function.update g.wake gpe action }

end AcpiGpes

/-! ### Performance modes -/

/-- `put_unaligned_le32`: the bytes from the given address on. -/
def putUnalignedLe32 (v : UInt32) : List UInt8 :=
  [v.toUInt8, (v >>> 8).toUInt8, (v >>> 16).toUInt8, (v >>> 24).toUInt8]

/-- `get_unaligned_le32`, as an `int`. -/
def getUnalignedLe32 (b0 b1 b2 b3 : UInt8) : ℤ :=
  let v := b0.toNat + 256 * b1.toNat + 65536 * b2.toNat + 16777216 * b3.toNat
  if v < 2147483648 then v else v - 4294967296

/-- The request that `surface_sam_perf_mode_get` makes. -/
def perfModeGetRqst : SurfaceSamSshRqst := ⟨0x03, 0x00, 0x02, 0x01, 0x00, fun _ => 0⟩

/-- The status of a request, and the bytes of its result. -/
def surfaceSamPerfModeGet (surfaceSamSshRqst : SurfaceSamSshRqst → ℤ × List UInt8) : ℤ :=
  let (status, result) := surfaceSamSshRqst perfModeGetRqst
  let data := fun i => result.getD i 0
  if status ≠ 0 then status
  else if result.length ≠ 8 then -efault
  else getUnalignedLe32 (data 0) (data 1) (data 2) (data 3)

/-- The request that `surface_sam_perf_mode_set` makes. -/
def perfModeSetRqst (perfMode : ℤ) : SurfaceSamSshRqst :=
  ⟨0x03, 0x00, 0x03, 0x00, 4,
    Memory.memcpy (fun _ => 0) 0 (putUnalignedLe32 (UInt32.ofInt perfMode))⟩

/-- Decimal digits, as ASCII. -/
def decimal (n : ℕ) : List UInt8 := (Nat.toDigits 10 n).map fun c => c.toNat.toUInt8

/-- `struct platform_device` with the driver data, the parameters of the module, and what has been
done so far: the sysfs attribute, the ACPI events, and the requests that set a mode, with their
status. -/
structure SurfaceSamSid where
  paramPerfModeInit : ℤ
  paramPerfModeExit : ℤ
  drvdata : Option SidDeviceInfo
  perfModeAttr : Bool
  gpes : AcpiGpes
  sent : List (SurfaceSamSshRqst × ℤ)

/-- What the functions called by probe return; `rqstInit` and `rqstExit` are for the requests that
set the mode. -/
structure SidProbeEnv where
  dmi : DmiStrings
  consumerRegister : ℤ
  rqstInit : ℤ
  sysfsCreateFile : ℤ
  rqstExit : ℤ
  acpiGetHandle : ℤ
  acpiSetupGpeForWake : ℤ
  acpiEnableGpe : ℤ
  acpiSetGpeWakeMask : ℤ

namespace SurfaceSamSid

/-- The parameters have their default `SID_PARAM_PERF_MODE_AS_IS`. -/
def static : SurfaceSamSid := ⟨0, 0, none, false, .none, []⟩

/-- `status` is that of the request. -/
def surfaceSamPerfModeSet (perfMode status : ℤ) (s : SurfaceSamSid) : ℤ × SurfaceSamSid :=
  if perfMode < 1 ∨ perfMode > 4 then (-einval, s)
  else (status, { s with sent := s.sent ++ [(perfModeSetRqst perfMode, status)] })

/-- `param_perf_mode_set` up to the store; it parses the text twice. -/
def paramPerfModeSet (kstrtoint : List UInt8 → Except ℤ ℤ) (val : List UInt8) : Except ℤ ℤ :=
  match kstrtoint val with
  | .error status => .error status
  | .ok perfMode => if perfMode < 0 ∨ perfMode > 4 then .error (-einval) else kstrtoint val

/-- What is written to the buffer. -/
def perfModeShow (surfaceSamSshRqst : SurfaceSamSshRqst → ℤ × List UInt8) :
    Except ℤ (List UInt8) :=
  let perfMode := surfaceSamPerfModeGet surfaceSamSshRqst
  if perfMode < 0 then .error (-eio) else .ok (decimal perfMode.toNat ++ [10])

def perfModeStore (kstrtoint : List UInt8 → Except ℤ ℤ) (data : List UInt8) (rqst : ℤ)
    (s : SurfaceSamSid) : ℤ × SurfaceSamSid :=
  match kstrtoint data with
  | .error status => (status, s)
  | .ok perfMode =>
    let (status, s) := s.surfaceSamPerfModeSet perfMode rqst
    if status ≠ 0 then (status, s) else (data.length, s)

def sidPerfModeSetup (env : SidProbeEnv) (info : SidDeviceInfo) (s : SurfaceSamSid) :
    ℤ × SurfaceSamSid :=
  if !info.hasPerfMode then (0, s)
  -- link to ec
  else if env.consumerRegister ≠ 0 then
    (if env.consumerRegister = -enxio then -eprobeDefer else env.consumerRegister, s)
  else
    -- set initial perf_mode
    let (status, s) := if s.paramPerfModeInit ≠ 0 then
        s.surfaceSamPerfModeSet s.paramPerfModeInit env.rqstInit
      else (0, s)
    if status ≠ 0 then (status, s)
    -- register perf_mode attribute
    else if env.sysfsCreateFile ≠ 0 then
      (env.sysfsCreateFile, (s.surfaceSamPerfModeSet s.paramPerfModeExit env.rqstExit).2)
    else (0, { s with perfModeAttr := true })

def sidPerfModeRemove (rqstExit : ℤ) (info : SidDeviceInfo) (s : SurfaceSamSid) : SurfaceSamSid :=
  if !info.hasPerfMode then s
  else
    -- remove perf_mode attribute
    let s := { s with perfModeAttr := false }
    -- set exit perf_mode
    (s.surfaceSamPerfModeSet s.paramPerfModeExit rqstExit).2

/-! ### The lid -/

def sidLidEnableWakeup (info : SidDeviceInfo) (enable : Bool) (acpi : ℤ) (s : SurfaceSamSid) :
    ℤ × SurfaceSamSid :=
  match info.lidDevice with
  | none => (0, s)
  | some lid =>
    if acpi ≠ 0 then (-efault, s)
    else (0, { s with gpes := s.gpes.acpiSetGpeWakeMask lid.gpeNumber enable })

def sidLidDeviceSetup (env : SidProbeEnv) (info : SidDeviceInfo) (s : SurfaceSamSid) :
    ℤ × SurfaceSamSid :=
  match info.lidDevice with
  | none => (0, s)
  | some lid =>
    if env.acpiGetHandle ≠ 0 then (-efault, s)
    else if env.acpiSetupGpeForWake ≠ 0 then (-efault, s)
    else
      let s := { s with gpes := s.gpes.acpiSetupGpeForWake lid.gpeNumber }
      if env.acpiEnableGpe ≠ 0 then (-efault, s)
      else
        { s with gpes := s.gpes.acpiEnableGpe lid.gpeNumber }.sidLidEnableWakeup info false
          env.acpiSetGpeWakeMask

/-- "restore default behavior without this module". -/
def sidLidDeviceRemove (info : SidDeviceInfo) (acpi : ℤ) (s : SurfaceSamSid) : SurfaceSamSid :=
  (s.sidLidEnableWakeup info false acpi).2

def surfaceSamSidSuspend (acpi : ℤ) (s : SurfaceSamSid) : Option (ℤ × SurfaceSamSid) :=
  s.drvdata.map fun info => s.sidLidEnableWakeup info true acpi

def surfaceSamSidResume (acpi : ℤ) (s : SurfaceSamSid) : Option (ℤ × SurfaceSamSid) :=
  s.drvdata.map fun info => s.sidLidEnableWakeup info false acpi

/-! ### Binding -/

def surfaceSamSidProbe (env : SidProbeEnv) (s : SurfaceSamSid) : ℤ × SurfaceSamSid :=
  match dmiFirstMatch env.dmi dmiLidDeviceTable with
  | none => (-enodev, s)
  | some dmiMatch =>
    let info := dmiMatch.driverData
    let s := { s with drvdata := some info }
    let (status, s) := s.sidPerfModeSetup env info
    if status ≠ 0 then (status, s)
    else
      let (status, s) := s.sidLidDeviceSetup env info
      if status ≠ 0 then (status, s.sidPerfModeRemove env.rqstExit info)
      else (0, s)

/-- Without driver data, it would use a null pointer. -/
def surfaceSamSidRemove (rqstExit acpi : ℤ) (s : SurfaceSamSid) : Option SurfaceSamSid :=
  s.drvdata.map fun info =>
    { (s.sidPerfModeRemove rqstExit info).sidLidDeviceRemove info acpi with drvdata := none }

end SurfaceSamSid

end SurfaceSam
