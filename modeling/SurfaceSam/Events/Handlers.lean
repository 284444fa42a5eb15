import SurfaceSam.Devlib.Reading
import SurfaceSam.Dtx.Device
import SurfaceSam.Ssh.Message

/-!
# Event handlers

The handlers and delay functions that drivers register for events of the EC. They read the
payload of the event, which has been allocated with exactly the length received, and act on it.
-/

namespace SurfaceSam

open Devlib

/-- `enum san_pwr_event`, without the one that is not used. -/
inductive SanPwrEvent where
  | bat1Stat
  | bat1Info
  | adp1Stat
  | bat2Stat
  | bat2Info
  deriving DecidableEq, Repr

/-- What an update of the operation mode tells user space. -/
inductive OpmodeOutput where
  | pushEvent (event : SurfaceDtxEvent)
  | reportTabletMode (value : Bool)
  deriving DecidableEq, Repr

/-- What a handler does, in order. `updateOpmode` is an update of the operation mode with the
answer to its query, a status and a response. -/
inductive HandlerOutput where
  | notifyPowerEvent (event : SanPwrEvent)
  | notifySensorTripPoint (iid : UInt8)
  | hidInputReport (report : List UInt8)
  | pushEvent (event : SurfaceDtxEvent)
  | msleep (msecs : ℕ)
  | updateOpmode (answer : ℤ × List UInt8) (outputs : List OpmodeOutput)
  deriving DecidableEq, Repr

/-- What the functions called by handlers return; `opmode` is the answer to the query of the
operation mode. -/
structure HandlerOutcomes where
  notifyPowerEvent : SanPwrEvent → ℤ
  notifySensorTripPoint : UInt8 → ℤ
  hidInputReport : ℤ
  opmode : ℤ × List UInt8
  msecsToJiffies : ℕ → ℕ

section Handlers

variable (o : HandlerOutcomes) (event : SurfaceSamSshEvent)

/-! ### Power and temperature -/

def samEventPwrCidHwchange : UInt8 := 0x15
def samEventPwrCidCharging : UInt8 := 0x16
def samEventPwrCidAdapter : UInt8 := 0x17
def samEventPwrCidState : UInt8 := 0x4f
def samEventTempCidNotifySensorTripPoint : UInt8 := 0x0b

/-- `san_evt_power_adapter` and `san_evt_power_hwchange` differ in the event that ACPI gets. -/
def sanNotifyPower (evcode : SanPwrEvent) : Reading UInt8 (ℤ × List HandlerOutput) :=
  return (o.notifyPowerEvent evcode, [.notifyPowerEvent evcode])

def sanEvtPowerAdapter : Reading UInt8 (ℤ × List HandlerOutput) := sanNotifyPower o .adp1Stat

def sanEvtPowerHwchange : Reading UInt8 (ℤ × List HandlerOutput) :=
  sanNotifyPower o (if event.iid = 0x02 then .bat2Info else .bat1Info)

def sanEvtPowerState : Reading UInt8 (ℤ × List HandlerOutput) := do
  let (status, first) ← sanNotifyPower o .bat1Stat
  if status ≠ 0 then return (status, first)
  else
    let (status, second) ← sanNotifyPower o .bat2Stat
    return (status, first ++ second)

def sanEvtPowerDelay : Reading UInt8 ℕ :=
  if event.cid = samEventPwrCidCharging ∨ event.cid = samEventPwrCidState then
    return o.msecsToJiffies 5000
  else return 0

def sanEvtPower : Reading UInt8 (ℤ × List HandlerOutput) :=
  if event.cid = samEventPwrCidHwchange then sanEvtPowerHwchange o event
  else if event.cid = samEventPwrCidAdapter then sanEvtPowerAdapter o
  else if event.cid = samEventPwrCidCharging ∨ event.cid = samEventPwrCidState then
    sanEvtPowerState o
  else return (0, [])

def sanEvtThermal : Reading UInt8 (ℤ × List HandlerOutput) :=
  if event.cid = samEventTempCidNotifySensorTripPoint then
    return (o.notifySensorTripPoint event.iid, [.notifySensorTripPoint event.iid])
  else return (0, [])

/-! ### Keyboard -/

/-- `tc == 0x08 && (cid == 0x03 || cid == 0x04)`. -/
def isVhfInput : Bool := event.tc == 0x08 && (event.cid == 0x03 || event.cid == 0x04)

def vhfEventHandler : Reading UInt8 (ℤ × List HandlerOutput) := do
  if isVhfInput event then
    let report ← .block 0 event.len.toNat
    return (o.hidInputReport, [.hidInputReport report])
  else return (0, [])

def vhfEventDelay : Reading UInt8 ℕ :=
  if isVhfInput event then return surfaceSamSshEventImmediate else return 0

/-! ### Detachment -/

def samEventDtxCidConnection : UInt8 := 0x0c
def samEventDtxCidButton : UInt8 := 0x0e
def samEventDtxCidError : UInt8 := 0x0f
def samEventDtxCidLatchStatus : UInt8 := 0x11

def dtxConnectOpmodeDelay : ℕ := 1000

/-- The conversion of an `int` to a `u8`. -/
def toU8 (z : ℤ) : UInt8 := UInt8.ofNat (z % 256).toNat

/-- That the query has failed is no more than logged. -/
def surfaceDtxUpdateOpmpde (answer : ℤ × List UInt8) : List OpmodeOutput :=
  let opmode := SurfaceDtxDev.surfaceSamQueryOpmpde answer
  -- send DTX event
  [.pushEvent ⟨0x11, 0x0D, toU8 opmode, 0x00⟩,
    -- send SW_TABLET_MODE event
    .reportTabletMode (opmode == 0x00)]

/-- The events that are forwarded to user space. -/
def isDtxForwarded : Bool :=
  event.cid == samEventDtxCidConnection || event.cid == samEventDtxCidButton ||
    event.cid == samEventDtxCidError || event.cid == samEventDtxCidLatchStatus

/-- `in_event->len >= i + 1 ? in_event->pld[i] : 0x00`. -/
def dtxArg (i : ℕ) : Reading UInt8 UInt8 := if i + 1 ≤ event.len.toNat then .cell i else pure 0x00

/-- The part of the handler that pushes an event; false if it returns at once. -/
def surfaceDtxForward : Reading UInt8 (Bool × List HandlerOutput) := do
  if isDtxForwarded event then
    if 2 < event.len then return (false, [])
    else
      let arg0 ← dtxArg event 0
      let arg1 ← dtxArg event 1
      return (true, [.pushEvent ⟨event.tc, event.cid, arg0, arg1⟩])
  else return (true, [])

/-- "update device mode". -/
def surfaceDtxConnection : Reading UInt8 (List HandlerOutput) := do
  if event.cid = samEventDtxCidConnection then
    let connected ← .cell 0
    let update := .updateOpmode o.opmode (surfaceDtxUpdateOpmpde o.opmode)
    if connected ≠ 0 then return [.msleep dtxConnectOpmodeDelay, update]
    else return [update]
  else return []

def surfaceDtxEvtDtx : Reading UInt8 (ℤ × List HandlerOutput) := do
  let (goesOn, first) ← surfaceDtxForward event
  if goesOn then
    let second ← surfaceDtxConnection o event
    return (0, first ++ second)
  else return (0, first)

end Handlers

/-! ### Reading the payload -/

/-- The handlers that can be registered. -/
inductive EventHandler where
  | sanPower
  | sanThermal
  | vhf
  | dtx
  deriving DecidableEq, Repr

namespace EventHandler

def handler (o : HandlerOutcomes) (event : SurfaceSamSshEvent) :
    EventHandler → Reading UInt8 (ℤ × List HandlerOutput)
  | sanPower => sanEvtPower o event
  | sanThermal => sanEvtThermal o event
  | vhf => vhfEventHandler o event
  | dtx => surfaceDtxEvtDtx o event

/-- The delay, 0 without a delay function. -/
def delay (o : HandlerOutcomes) (event : SurfaceSamSshEvent) : EventHandler → Reading UInt8 ℕ
  | sanPower => sanEvtPowerDelay o event
  | sanThermal => return 0
  | vhf => vhfEventDelay event
  | dtx => return 0

end EventHandler

variable {o : HandlerOutcomes} {event : SurfaceSamSshEvent} {pld : Memory UInt8}

/-- An output that pushes an event from the one that is handled, not by an update. -/
def HandlerOutput.isPush : HandlerOutput → Bool
  | pushEvent _ => true
  | notifyPowerEvent _ => false
  | notifySensorTripPoint _ => false
  | hidInputReport _ => false
  | msleep _ => false
  | updateOpmode _ _ => false

/-- What handling an event is to be like: handler and delay function read the payload only where
it has been received, and an event that is forwarded is pushed once, before all else. -/
structure EventHandled (o : HandlerOutcomes) (event : SurfaceSamSshEvent) (pld : Memory UInt8)
    (h : EventHandler) : Prop where
  handler : (h.handler o event).Within event.len.toNat pld
  delay : (h.delay o event).Within event.len.toNat pld
  pushed : h = .dtx → isDtxForwarded event = true → event.len ≤ 2 →
    ∃ rest, ((h.handler o event).run pld).2 = .pushEvent ⟨event.tc, event.cid,
      if 1 ≤ event.len.toNat then pld 0 else 0, if 2 ≤ event.len.toNat then pld 1 else 0⟩ :: rest ∧
      ∀ out ∈ rest, out.isPush = false

lemma within_sanNotifyPower (evcode : SanPwrEvent) {n : ℕ} :
    (sanNotifyPower o evcode).Within n pld := Reading.within_pure _

lemma within_sanEvtPowerState {n : ℕ} : (sanEvtPowerState o).Within n pld := by
  refine (Reading.within_bind _ _).mpr ⟨within_sanNotifyPower _, ?_⟩
  refine (Reading.within_ite _ _ _).mpr ⟨fun _ => Reading.within_pure _, fun _ => ?_⟩
  exact (Reading.within_bind _ _).mpr ⟨within_sanNotifyPower _, Reading.within_pure _⟩

lemma within_sanEvtPower : (sanEvtPower o event).Within event.len.toNat pld := by
  simp [sanEvtPower, sanEvtPowerHwchange, sanEvtPowerAdapter, within_sanEvtPowerState,
    within_sanNotifyPower]

lemma within_sanEvtThermal : (sanEvtThermal o event).Within event.len.toNat pld := by
  simp [sanEvtThermal]

/-- The report is the whole payload. -/
lemma within_vhfEventHandler : (vhfEventHandler o event).Within event.len.toNat pld := by
  simp [vhfEventHandler]

lemma within_delay (h : EventHandler) : (h.delay o event).Within event.len.toNat pld := by
  cases h with
  | sanPower => simp [EventHandler.delay, sanEvtPowerDelay]
  | sanThermal => exact Reading.within_pure _
  | vhf => simp [EventHandler.delay, vhfEventDelay]
  | dtx => exact Reading.within_pure _

lemma within_dtxArg (i : ℕ) : (dtxArg event i).Within event.len.toNat pld := by
  refine (Reading.within_ite _ _ _).mpr ⟨fun hlen => ?_, fun _ => Reading.within_pure _⟩
  exact (Reading.within_cell _).mpr (Nat.lt_of_succ_le hlen)

lemma within_surfaceDtxForward : (surfaceDtxForward event).Within event.len.toNat pld := by
  simp [surfaceDtxForward, within_dtxArg]

lemma within_surfaceDtxConnection : (surfaceDtxConnection o event).Within event.len.toNat pld ↔
    (event.cid = samEventDtxCidConnection → 0 < event.len.toNat) := by
  simp [surfaceDtxConnection]

/-- The value the first part of the handler goes on with, for what it forwards. -/
lemma run_surfaceDtxForward (hforwarded : isDtxForwarded event = true) (hlen : event.len ≤ 2) :
    (surfaceDtxForward event).run pld = (true, [.pushEvent ⟨event.tc, event.cid,
      if 1 ≤ event.len.toNat then pld 0 else 0, if 2 ≤ event.len.toNat then pld 1 else 0⟩]) := by
  have hshort : ¬2 < event.len := UInt8.not_lt.mpr hlen
  simp [surfaceDtxForward, dtxArg, hforwarded, hshort]

/-- How the first part of the handler ends. -/
lemma run_surfaceDtxForward_cases (event : SurfaceSamSshEvent) (pld : Memory UInt8) :
    (surfaceDtxForward event).run pld = (true, []) ∧ isDtxForwarded event = false ∨
    (surfaceDtxForward event).run pld = (false, []) ∧ isDtxForwarded event = true ∧
      ¬event.len ≤ 2 ∨
    (∃ e, (surfaceDtxForward event).run pld = (true, [.pushEvent e])) ∧
      isDtxForwarded event = true ∧ event.len ≤ 2 := by
  cases hforwarded : isDtxForwarded event with
  | false =>
    left
    simp [surfaceDtxForward, hforwarded]
  | true =>
    right
    by_cases hlen : event.len ≤ 2
    · exact .inr ⟨⟨_, run_surfaceDtxForward hforwarded hlen⟩, rfl, hlen⟩
    · left
      have hlong : 2 < event.len := UInt8.not_le.mp hlen
      simp [surfaceDtxForward, hforwarded, hlong]

/-- What the handler does, part after part. -/
lemma run_surfaceDtxEvtDtx : (surfaceDtxEvtDtx o event).run pld =
    (0, ((surfaceDtxForward event).run pld).2 ++
      if ((surfaceDtxForward event).run pld).1 then (surfaceDtxConnection o event).run pld
      else []) := by
  unfold surfaceDtxEvtDtx
  rw [Reading.run_bind, Reading.run_ite]
  split_ifs with hgoesOn
  · rw [Reading.run_bind]
    rfl
  · rw [List.append_nil]
    rfl

/-- The second part of the handler makes its update last. -/
lemma run_surfaceDtxConnection : (surfaceDtxConnection o event).run pld =
    if event.cid = samEventDtxCidConnection then
      (if pld 0 ≠ 0 then [.msleep dtxConnectOpmodeDelay] else []) ++
        [.updateOpmode o.opmode (surfaceDtxUpdateOpmpde o.opmode)]
    else [] := by
  unfold surfaceDtxConnection
  rw [Reading.run_ite]
  split_ifs with hcid hconnected
  · rw [Reading.run_bind, Reading.run_cell, Reading.run_ite, if_pos hconnected]
    rfl
  · rw [Reading.run_bind, Reading.run_cell, Reading.run_ite, if_neg hconnected]
    rfl
  · rfl

/-- A connection event of no bytes has its first byte read all the same. -/
lemma within_surfaceDtxEvtDtx : (surfaceDtxEvtDtx o event).Within event.len.toNat pld ↔
    ¬(event.cid = samEventDtxCidConnection ∧ event.len = 0) := by
  have hsecond : (do
        let second ← surfaceDtxConnection o event
        return ((0 : ℤ), ((surfaceDtxForward event).run pld).2 ++ second)).Within
          event.len.toNat pld ↔ (event.cid = samEventDtxCidConnection → 0 < event.len.toNat) := by
    rw [Reading.within_bind, within_surfaceDtxConnection]
    exact and_iff_left (Reading.within_pure _)
  have hzero : event.len = 0 ↔ ¬0 < event.len.toNat := by
    rw [← UInt8.toNat_inj, UInt8.toNat_zero]
    omega
  unfold surfaceDtxEvtDtx
  rw [Reading.within_bind, and_iff_right within_surfaceDtxForward, Reading.within_ite, hsecond, hzero]
  constructor
  · rintro ⟨hcell, -⟩ ⟨hcid, hlen⟩
    have hforwarded : isDtxForwarded event = true := by simp [isDtxForwarded, hcid]
    have hshort : event.len ≤ 2 := by
      rw [hzero.mpr hlen]
      decide
    rw [run_surfaceDtxForward hforwarded hshort] at hcell
    exact hlen (hcell rfl hcid)
  · intro hlen
    refine ⟨fun _ hcid => ?_, fun _ => Reading.within_pure _⟩
    by_contra hpos
    exact hlen ⟨hcid, hpos⟩

/-- All events and all handlers, with their delay functions: the event is handled as it should be
unless it is a connection event without payload, for the detachment handler. -/
theorem eventHandler_handles_iff (o : HandlerOutcomes) (event : SurfaceSamSshEvent)
    (pld : Memory UInt8) (h : EventHandler) : EventHandled o event pld h ↔
      ¬(h = .dtx ∧ event.cid = 0x0c ∧ event.len = 0) := by
  have hpushed (hdtx : h = .dtx) (hforwarded : isDtxForwarded event = true)
      (hlen : event.len ≤ 2) : ∃ rest, ((h.handler o event).run pld).2 =
        .pushEvent ⟨event.tc, event.cid, if 1 ≤ event.len.toNat then pld 0 else 0,
          if 2 ≤ event.len.toNat then pld 1 else 0⟩ :: rest ∧ ∀ out ∈ rest, out.isPush = false := by
    subst hdtx
    refine ⟨(surfaceDtxConnection o event).run pld, ?_, fun out hout => ?_⟩
    · change ((surfaceDtxEvtDtx o event).run pld).2 = _
      rw [run_surfaceDtxEvtDtx, run_surfaceDtxForward hforwarded hlen]
      rfl
    · rw [run_surfaceDtxConnection] at hout
      split_ifs at hout
      · simp at hout
        obtain rfl | rfl := hout
        · rfl
        · rfl
      · simp at hout
        subst hout
        rfl
      · cases hout
  have hhandler : (h.handler o event).Within event.len.toNat pld ↔
      ¬(h = .dtx ∧ event.cid = 0x0c ∧ event.len = 0) := by
    cases h with
    | sanPower => exact iff_of_true within_sanEvtPower nofun
    | sanThermal => exact iff_of_true within_sanEvtThermal nofun
    | vhf => exact iff_of_true within_vhfEventHandler nofun
    | dtx =>
      refine within_surfaceDtxEvtDtx.trans (not_congr ?_)
      exact (and_iff_right rfl).symm
  constructor
  · intro hhandled
    exact hhandler.mp hhandled.handler
  · intro hcond
    exact ⟨hhandler.mpr hcond, within_delay h, hpushed⟩

/-- All goes well, and the operation mode is the given one. -/
def HandlerOutcomes.good (mode : UInt8) : HandlerOutcomes :=
  ⟨fun _ => 0, fun _ => 0, 0, (0, [mode]), fun msecs => msecs⟩

/-- A message of the EC that the base has been removed or attached, without payload. -/
def connectionMessage : SshCmdMessage := ⟨0, 0, 0x11, 0, 1, 0, 0x11, 0, 0x0c, [], by decide⟩

/-- Its event makes the detachment handler read the first byte of a payload of no bytes, and with
it to sleep or not. -/
theorem eventHandler_overreads :
    let event := connectionMessage.work.event
    samRqidIsEvent event.rqid = true ∧ event.pld = [] ∧ event.len = 0 ∧
      (surfaceDtxEvtDtx (.good 1) event).offsets (fun _ => 0) = [0] ∧
      ((surfaceDtxEvtDtx (.good 1) event).run (fun _ => 0)).2.length = 2 ∧
      ((surfaceDtxEvtDtx (.good 1) event).run (fun _ => 1)).2.length = 3 ∧
      ¬EventHandled (.good 1) event (fun _ => 0) .dtx := by
  intro event
  have hoffsets : (surfaceDtxEvtDtx (.good 1) event).offsets (fun _ => 0) = [0] := rfl
  refine ⟨by decide, rfl, rfl, hoffsets, rfl, rfl, fun hhandled => ?_⟩
  have hwithin : 0 < event.len.toNat := by
    apply hhandled.handler 0
    change 0 ∈ (surfaceDtxEvtDtx (.good 1) event).offsets (fun _ => 0)
    rw [hoffsets]
    exact List.mem_singleton_self 0
  exact absurd hwithin (by decide)

end SurfaceSam
