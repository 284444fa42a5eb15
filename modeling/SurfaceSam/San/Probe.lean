import SurfaceSam.Ec.HandlerTable
import SurfaceSam.San.Consumers

/-!
# Binding the SAN driver

`surface_sam_san_probe` with everything it registers: a consumer of the EC, links to other
devices, the handler of the operation region, event handlers and event sources. Others use the
EC between its calls.
-/

namespace SurfaceSam

open Devlib

def samEventPwrTc : UInt8 := 0x02
def samEventPwrRqid : UInt16 := 0x0002
def samEventTempTc : UInt8 := 0x03
def samEventTempRqid : UInt16 := 0x0003

/-- The functions `san_evt_power` and `san_evt_thermal`. -/
def sanEvtPowerFn : KPtr := some 1
def sanEvtThermalFn : KPtr := some 2

/-- What holds a pointer to driver data: the platform device, and the object that the ACPI handle
of the device points to, if it is taken for a platform device. -/
inductive SanObject where
  | pdev
  | san
  deriving DecidableEq, Repr

/-- The calls that the driver makes to the EC. -/
inductive SanCall where
  | setHandler (rqid : UInt16)
  | removeHandler (rqid : UInt16)
  | enableSource (tc : UInt8) (rqid : UInt16)
  | disableSource (tc : UInt8) (rqid : UInt16)
  deriving DecidableEq, Repr

/-- How the functions called by probe end, what others do to the EC before each call, and how the
request of the call is scheduled. `sanEvtPowerDelay` is the delay function; `dev` the device. -/
structure SanProbeEnv where
  consumerRegister : Bool
  kzalloc : Bool
  kzallocLinks : Bool
  link : ℕ → SanAcpiConsumer → LinkOutcome
  installAddressSpaceHandler : ℕ
  sanEvtPowerDelay : SurfaceSamSshEvent → ℕ
  dev : KPtr
  others : ℕ → List EcAction
  schedule : ℕ → Schedule SshLine

/-- The driver data is allocated, and all consumers are linked. -/
def SanProbeEnv.getsToDrvdata (env : SanProbeEnv) (cons : Option (List SanAcpiConsumer)) : Bool :=
  env.kzalloc && cons.all fun cons => env.kzallocLinks && SanLinks.allLink env.link cons

/-- The EC and what the driver works on. `opreg` is the context of the address space handler that
is installed; contexts are given by the allocation they are part of. -/
structure SanSystem where
  ec : SshSystem
  calls : List (SanCall × ℤ)
  links : SanLinks
  opreg : KPtr
  driverData : SanObject → KPtr

namespace SanSystem

def platformSetDrvdata (object : SanObject) (data : KPtr) (s : SanSystem) : SanSystem :=
  { s with driverData := Function.update s.driverData object data }

section Probe

variable (E : SshEnv) (env : SanProbeEnv)

def toEcCall (n : ℕ) : SanCall → EcCall
  | .setHandler rqid =>
    if rqid = samEventPwrRqid then
      .setDelayedEventHandler rqid sanEvtPowerFn (some env.sanEvtPowerDelay) env.dev
    else .setDelayedEventHandler rqid sanEvtThermalFn none env.dev
  | .removeHandler rqid => .removeEventHandler rqid
  | .enableSource tc rqid => .enableEventSource tc 0x01 rqid (env.schedule n)
  | .disableSource tc rqid => .disableEventSource tc 0x01 rqid (env.schedule n)

/-- A call to the EC. -/
def call (c : SanCall) (s : SanSystem) : Option (ℤ × SanSystem) := do
  let n := s.calls.length
  let ec ← Machine.run (SshSystem.step E) s.ec (env.others n)
  let (status, dev) ← (toEcCall env n c).run E ec.dev
  return (status, { s with ec := { ec with dev := dev }, calls := s.calls ++ [(c, status)] })

def errHandlerThermal (status : ℤ) (s : SanSystem) : Option (ℤ × SanSystem) := do
  let (_, s) ← call E env (.removeHandler samEventPwrRqid) s
  return (status, s)

def errSourcePower (status : ℤ) (s : SanSystem) : Option (ℤ × SanSystem) := do
  let (_, s) ← call E env (.removeHandler samEventTempRqid) s
  errHandlerThermal E env status s

def errSourceThermal (status : ℤ) (s : SanSystem) : Option (ℤ × SanSystem) := do
  let (_, s) ← call E env (.disableSource samEventPwrTc samEventPwrRqid) s
  errSourcePower E env status s

def sanEnableEvents (s : SanSystem) : Option (ℤ × SanSystem) := do
  let (status, s) ← call E env (.setHandler samEventPwrRqid) s
  if status ≠ 0 then return (status, s)
  else
    let (status, s) ← call E env (.setHandler samEventTempRqid) s
    if status ≠ 0 then errHandlerThermal E env status s
    else
      let (status, s) ← call E env (.enableSource samEventPwrTc samEventPwrRqid) s
      if status ≠ 0 then errSourcePower E env status s
      else
        let (status, s) ← call E env (.enableSource samEventTempTc samEventTempRqid) s
        if status ≠ 0 then errSourceThermal E env status s
        else return (0, s)

def errConsumers (drvdata : ℕ) (s : SanSystem) : SanSystem :=
  { s with links := { s.links with ledger := s.links.ledger.release drvdata } }

/-- The driver data is not that of the platform device. -/
def errInstallHandler (drvdata : ℕ) (consumers : SanConsumers) (s : SanSystem) : SanSystem :=
  let s := s.platformSetDrvdata .san none
  { s with links := (SanLinks.sanConsumersUnlink consumers s.links).2 }.errConsumers drvdata

def errEnableEvents (drvdata : ℕ) (consumers : SanConsumers) (s : SanSystem) : SanSystem :=
  { s with opreg := none }.errInstallHandler drvdata consumers

/-- From setting the driver data on. -/
def probeBound (drvdata : ℕ) (consumers : SanConsumers) (s : SanSystem) :
    Option (ℤ × SanSystem) := do
  let s := s.platformSetDrvdata .pdev (some drvdata)
  if env.installAddressSpaceHandler ≠ 0 then
    return (-enodev, s.errInstallHandler drvdata consumers)
  else
    let (status, s) ← sanEnableEvents E env { s with opreg := some drvdata }
    if status ≠ 0 then return (status, s.errEnableEvents drvdata consumers)
    else return (0, s)

def surfaceSamSanProbe (cons : Option (List SanAcpiConsumer)) (s : SanSystem) :
    Option (ℤ × SanSystem) := do
  let (status, dev) ← s.ec.dev.surfaceSamSshConsumerRegister env.consumerRegister
  let s := { s with ec := { s.ec with dev := dev } }
  if status ≠ 0 then return (if status = -enxio then -eprobeDefer else status, s)
  else if !env.kzalloc then return (-enomem, s)
  else
    let (drvdata, ledger) := s.links.ledger.alloc
    let (status, consumers, links) :=
      SanLinks.sanConsumersLink env.link env.kzallocLinks cons ⟨0, none⟩ { s.links with ledger := ledger }
    let s := { s with links := links }
    if status ≠ 0 then return (status, s.errConsumers drvdata)
    else probeBound E env drvdata consumers s

end Probe

/-! ### What a failed probe leaves -/

/-- Index of the handler table entry of an event. -/
def entryOf (rqid : UInt16) : ℕ := rqid.toNat - 1

/-- None of the two event handlers is registered. -/
def NoHandlers (s : SanSystem) : Prop :=
  s.ec.dev.handler (entryOf samEventPwrRqid) = none ∧
    s.ec.dev.handler (entryOf samEventTempRqid) = none

/-- Before a probe. -/
structure Unbound (s : SanSystem) : Prop where
  opreg : s.opreg = none
  handlers : s.NoHandlers
  drvdata : s.driverData .pdev = none

/-- Every source that has been enabled since has been disabled, as far as asking for it goes. -/
def SourcesDisabled (s t : SanSystem) : Prop :=
  ∃ calls, t.calls = s.calls ++ calls ∧ ∀ tc rqid, (.enableSource tc rqid, 0) ∈ calls →
    ∃ status, (.disableSource tc rqid, status) ∈ calls

/-- Of what was there before, nothing has been changed but the device; links are deleted only if
they have been added since. -/
structure OwnOnly (s t : SanSystem) : Prop where
  objects : t.driverData .san = s.driverData .san
  links : ∃ added deleted, t.links.added = s.links.added ++ added ∧
    t.links.deleted = s.links.deleted ++ deleted ∧ deleted ⊆ added
  allocations : ∀ r < s.links.ledger.next, t.links.ledger.released r = s.links.ledger.released r

/-- A probe that fails is to leave no registration behind. -/
structure Unwound (s t : SanSystem) : Prop where
  opreg : t.opreg = none
  handlers : t.NoHandlers
  sources : SourcesDisabled s t
  drvdata : t.driverData .pdev = none
  own : OwnOnly s t

/-! ### The calls to the EC -/

variable {E : SshEnv} {env : SanProbeEnv} {s t : SanSystem} {status : ℤ}

/-- Only the EC has changed, and the calls to it. -/
structure EcOnly (s t : SanSystem) : Prop where
  links : t.links = s.links
  opreg : t.opreg = s.opreg
  driverData : t.driverData = s.driverData

lemma call_some {c : SanCall} (h : call E env c s = some (status, t)) :
    ∃ ec dev, Machine.run (SshSystem.step E) s.ec (env.others s.calls.length) = some ec ∧
      (toEcCall env s.calls.length c).run E ec.dev = some (status, dev) ∧
      t = { s with ec := { ec with dev := dev }, calls := s.calls ++ [(c, status)] } := by
  obtain ⟨ec, hec, h⟩ := Option.bind_eq_some_iff.mp h
  obtain ⟨⟨status', dev⟩, hdev, h⟩ := Option.bind_eq_some_iff.mp h
  cases h
  exact ⟨ec, dev, hec, hdev, rfl⟩

/-- Calls one after the other, with their results. -/
inductive Calls (E : SshEnv) (env : SanProbeEnv) :
    List (SanCall × ℤ) → SanSystem → SanSystem → Prop
  | nil (s : SanSystem) : Calls E env [] s s
  | cons {c : SanCall} {status : ℤ} {calls : List (SanCall × ℤ)} {s t u : SanSystem}
    (call : call E env c s = some (status, t)) (rest : Calls E env calls t u) :
    Calls E env ((c, status) :: calls) s u

variable {calls : List (SanCall × ℤ)}

lemma Calls.ecOnly (h : Calls E env calls s t) : EcOnly s t := by
  induction h with
  | nil s => exact ⟨rfl, rfl, rfl⟩
  | cons hcall _ ih =>
    obtain ⟨_, _, -, -, rfl⟩ := call_some hcall
    exact ⟨ih.links, ih.opreg, ih.driverData⟩

lemma Calls.log (h : Calls E env calls s t) : t.calls = s.calls ++ calls := by
  induction h with
  | nil s => exact (List.append_nil _).symm
  | cons hcall _ ih =>
    obtain ⟨_, _, -, -, rfl⟩ := call_some hcall
    rw [ih]
    exact List.append_assoc _ _ _

lemma Calls.split (calls : List (SanCall × ℤ)) {calls' : List (SanCall × ℤ)}
    (h : Calls E env (calls ++ calls') s t) :
    ∃ u, Calls E env calls s u ∧ Calls E env calls' u t := by
  induction calls generalizing s with
  | nil => exact ⟨s, .nil s, h⟩
  | cons c calls ih =>
    cases h with
    | cons hcall hrest =>
      obtain ⟨u, hu, ht⟩ := ih hrest
      exact ⟨u, .cons hcall hu, ht⟩

/-- The calls that enabling the events comes to, with its status. -/
inductive EnableCalls : ℤ → List (SanCall × ℤ) → Prop
  | handlerPower {status : ℤ} (fails : status ≠ 0) :
    EnableCalls status [(.setHandler samEventPwrRqid, status)]
  | handlerThermal {status : ℤ} (fails : status ≠ 0) (a : ℤ) :
    EnableCalls status [(.setHandler samEventPwrRqid, 0), (.setHandler samEventTempRqid, status),
      (.removeHandler samEventPwrRqid, a)]
  | sourcePower {status : ℤ} (fails : status ≠ 0) (a b : ℤ) :
    EnableCalls status [(.setHandler samEventPwrRqid, 0), (.setHandler samEventTempRqid, 0),
      (.enableSource samEventPwrTc samEventPwrRqid, status), (.removeHandler samEventTempRqid, a),
      (.removeHandler samEventPwrRqid, b)]
  | sourceThermal {status : ℤ} (fails : status ≠ 0) (a b c : ℤ) :
    EnableCalls status [(.setHandler samEventPwrRqid, 0), (.setHandler samEventTempRqid, 0),
      (.enableSource samEventPwrTc samEventPwrRqid, 0),
      (.enableSource samEventTempTc samEventTempRqid, status),
      (.disableSource samEventPwrTc samEventPwrRqid, a), (.removeHandler samEventTempRqid, b),
      (.removeHandler samEventPwrRqid, c)]
  | done : EnableCalls 0 [(.setHandler samEventPwrRqid, 0), (.setHandler samEventTempRqid, 0),
      (.enableSource samEventPwrTc samEventPwrRqid, 0),
      (.enableSource samEventTempTc samEventTempRqid, 0)]

lemma errHandlerThermal_calls {r : ℤ × SanSystem}
    (h : errHandlerThermal E env status s = some r) :
    r.1 = status ∧ ∃ a, Calls E env [(.removeHandler samEventPwrRqid, a)] s r.2 := by
  obtain ⟨⟨a, u⟩, hcall, h⟩ := Option.bind_eq_some_iff.mp h
  cases h
  exact ⟨rfl, a, .cons hcall (.nil u)⟩

lemma errSourcePower_calls {r : ℤ × SanSystem} (h : errSourcePower E env status s = some r) :
    r.1 = status ∧ ∃ a b, Calls E env
      [(.removeHandler samEventTempRqid, a), (.removeHandler samEventPwrRqid, b)] s r.2 := by
  obtain ⟨⟨a, u⟩, hcall, h⟩ := Option.bind_eq_some_iff.mp h
  obtain ⟨hstatus, b, hrest⟩ := errHandlerThermal_calls h
  exact ⟨hstatus, a, b, .cons hcall hrest⟩

lemma errSourceThermal_calls {r : ℤ × SanSystem} (h : errSourceThermal E env status s = some r) :
    r.1 = status ∧ ∃ a b c, Calls E env [(.disableSource samEventPwrTc samEventPwrRqid, a),
      (.removeHandler samEventTempRqid, b), (.removeHandler samEventPwrRqid, c)] s r.2 := by
  obtain ⟨⟨a, u⟩, hcall, h⟩ := Option.bind_eq_some_iff.mp h
  obtain ⟨hstatus, b, c, hrest⟩ := errSourcePower_calls h
  exact ⟨hstatus, a, b, c, .cons hcall hrest⟩

/-- A call whose status is checked: it fails and the error exit is taken, or it does not. -/
lemma call_checked {c : SanCall} {err next : ℤ × SanSystem → Option (ℤ × SanSystem)}
    {r : ℤ × SanSystem} (h : (call E env c s).bind (fun p =>
      if p.1 ≠ 0 then err p else next p) = some r) :
    (∃ status u, status ≠ 0 ∧ call E env c s = some (status, u) ∧ err (status, u) = some r) ∨
      ∃ u, call E env c s = some (0, u) ∧ next (0, u) = some r := by
  obtain ⟨⟨status, u⟩, hcall, h⟩ := Option.bind_eq_some_iff.mp h
  dsimp only at h
  by_cases hstatus : status = 0
  · subst hstatus
    rw [if_neg (by decide)] at h
    exact .inr ⟨u, hcall, h⟩
  · rw [if_pos hstatus] at h
    exact .inl ⟨status, u, hstatus, hcall, h⟩

lemma sanEnableEvents_calls {r : ℤ × SanSystem} (h : sanEnableEvents E env s = some r) :
    ∃ calls, EnableCalls r.1 calls ∧ Calls E env calls s r.2 := by
  unfold sanEnableEvents at h
  obtain ⟨status, u, hfails, hcall, h⟩ | ⟨s₁, hcall₁, h⟩ := call_checked h
  · cases h
    exact ⟨_, .handlerPower hfails, .cons hcall (.nil _)⟩
  obtain ⟨status, u, hfails, hcall, h⟩ | ⟨s₂, hcall₂, h⟩ := call_checked h
  · obtain ⟨hstatus, a, hrest⟩ := errHandlerThermal_calls h
    rw [hstatus]
    exact ⟨_, .handlerThermal hfails a, .cons hcall₁ (.cons hcall hrest)⟩
  obtain ⟨status, u, hfails, hcall, h⟩ | ⟨s₃, hcall₃, h⟩ := call_checked h
  · obtain ⟨hstatus, a, b, hrest⟩ := errSourcePower_calls h
    rw [hstatus]
    exact ⟨_, .sourcePower hfails a b, .cons hcall₁ (.cons hcall₂ (.cons hcall hrest))⟩
  obtain ⟨status, u, hfails, hcall, h⟩ | ⟨s₄, hcall₄, h⟩ := call_checked h
  · obtain ⟨hstatus, a, b, c, hrest⟩ := errSourceThermal_calls h
    rw [hstatus]
    exact ⟨_, .sourceThermal hfails a b c,
      .cons hcall₁ (.cons hcall₂ (.cons hcall₃ (.cons hcall hrest)))⟩
  cases h
  exact ⟨_, .done, .cons hcall₁ (.cons hcall₂ (.cons hcall₃ (.cons hcall₄ (.nil _))))⟩

/-- A source that has been enabled is disabled when the other one cannot be. -/
lemma EnableCalls.disables (h : EnableCalls status calls) (hne : status ≠ 0) {tc : UInt8}
    {rqid : UInt16} (henable : (.enableSource tc rqid, 0) ∈ calls) :
    ∃ a, (.disableSource tc rqid, a) ∈ calls := by
  cases h with
  | handlerPower _ => simp at henable
  | handlerThermal _ _ => simp at henable
  | sourcePower hfails a b =>
    simp [Ne.symm hfails] at henable
  | sourceThermal hfails a b c =>
    simp [Ne.symm hfails] at henable
    obtain ⟨rfl, rfl⟩ := henable
    exact ⟨a, by simp⟩
  | done => exact absurd rfl hne

/-! ### Handlers -/

/-- Others do not set the entry of an event. -/
def Leaves (env : SanProbeEnv) (rqid : UInt16) : Prop :=
  ∀ n c, .call c ∈ env.others n → c.Spares (entryOf rqid)

variable {rqid : UInt16}

lemma call_vacant {c : SanCall} {i : ℕ} (hi : i < samNumEventTypes)
    (h : call E env c s = some (status, t)) (hvacant : s.ec.dev.Vacant i) : t.ec.dev.Vacant i := by
  obtain ⟨ec, dev, hec, hdev, rfl⟩ := call_some h
  have hothers : ec.dev.Vacant i :=
    Machine.run_invariant (I := fun u => u.dev.Vacant i) hec hvacant
      fun u a v hu hv => SshSystem.step_vacant hi hv hu
  exact (EcCall.run_change hdev).vacant hi hothers

lemma call_clear {c : SanCall} (h : call E env c s = some (status, t)) (hleaves : Leaves env rqid)
    (hset : ∀ rqid', c = .setHandler rqid' → entryOf rqid' = entryOf rqid → status ≠ 0)
    (hclear : s.ec.dev.handler (entryOf rqid) = none) :
    t.ec.dev.handler (entryOf rqid) = none := by
  obtain ⟨ec, dev, hec, hdev, rfl⟩ := call_some h
  have hothers := SshSystem.run_clear hec (hleaves _) hclear
  cases c with
  | setHandler rqid' =>
    simp only [toEcCall] at hdev
    split_ifs at hdev
    · exact SshDevice.changeHandler_clear hdev (fun hi => .inr (hset rqid' rfl hi)) hothers
    · exact SshDevice.changeHandler_clear hdev (fun hi => .inr (hset rqid' rfl hi)) hothers
  | removeHandler _ => exact EcCall.run_clear hdev nofun hothers
  | enableSource _ _ => exact EcCall.run_clear hdev nofun hothers
  | disableSource _ _ => exact EcCall.run_clear hdev nofun hothers

lemma call_removeHandler (h : call E env (.removeHandler rqid) s = some (status, t))
    (hevent : samRqidIsEvent rqid = true) (hi : entryOf rqid < samNumEventTypes)
    (hvacant : s.ec.dev.Vacant (entryOf rqid)) : t.ec.dev.handler (entryOf rqid) = none := by
  obtain ⟨ec, dev, hec, hdev, rfl⟩ := call_some h
  have hothers : ec.dev.Vacant (entryOf rqid) :=
    Machine.run_invariant (I := fun u => u.dev.Vacant (entryOf rqid)) hec hvacant
      fun u a v hu hv => SshSystem.step_vacant hi hv hu
  exact SshDevice.removeEventHandler_clear hdev hevent hothers

lemma Calls.vacant {i : ℕ} (hi : i < samNumEventTypes) (h : Calls E env calls s t)
    (hvacant : s.ec.dev.Vacant i) : t.ec.dev.Vacant i := by
  induction h with
  | nil s => exact hvacant
  | cons hcall _ ih => exact ih (call_vacant hi hcall hvacant)

/-- An entry stays empty as long as no call sets it. -/
lemma Calls.clear (h : Calls E env calls s t) (hleaves : Leaves env rqid)
    (hset : ∀ rqid', entryOf rqid' = entryOf rqid → (.setHandler rqid', 0) ∉ calls)
    (hclear : s.ec.dev.handler (entryOf rqid) = none) :
    t.ec.dev.handler (entryOf rqid) = none := by
  induction h with
  | nil s => exact hclear
  | @cons c status calls s u t hcall _ ih =>
    refine ih (fun rqid' hentry hmem => hset rqid' hentry (List.mem_cons_of_mem _ hmem)) ?_
    refine call_clear hcall hleaves (fun rqid' hc hentry hstatus => ?_) hclear
    apply hset rqid' hentry
    rw [hc, hstatus]
    exact List.mem_cons_self

/-- An entry is empty once its handler has been removed. -/
lemma Calls.removed {a : ℤ} (h : Calls E env ((.removeHandler rqid, a) :: calls) s t)
    (hleaves : Leaves env rqid) (hevent : samRqidIsEvent rqid = true)
    (hi : entryOf rqid < samNumEventTypes) (hvacant : s.ec.dev.Vacant (entryOf rqid))
    (hset : ∀ rqid', entryOf rqid' = entryOf rqid → (.setHandler rqid', 0) ∉ calls) :
    t.ec.dev.handler (entryOf rqid) = none := by
  cases h with
  | cons hcall hrest =>
    exact hrest.clear hleaves hset (call_removeHandler hcall hevent hi hvacant)

/-- Removing the handlers ends what enabling the events has begun. -/
lemma Calls.noHandlers {a b : ℤ}
    (h : Calls E env
      [(.removeHandler samEventTempRqid, a), (.removeHandler samEventPwrRqid, b)] s t)
    (hpower : Leaves env samEventPwrRqid) (hthermal : Leaves env samEventTempRqid)
    (hvacant : ∀ i < samNumEventTypes, s.ec.dev.Vacant i) : t.NoHandlers := by
  obtain ⟨u, hfirst, hsecond⟩ := Calls.split [(.removeHandler samEventTempRqid, a)] h
  refine ⟨?_, ?_⟩
  · exact hsecond.removed hpower (by decide) (by decide)
      (hfirst.vacant (by decide) (hvacant _ (by decide))) (by simp)
  · exact h.removed hthermal (by decide) (by decide) (hvacant _ (by decide)) (by simp)

/-- If enabling the events fails, none of the handlers stays registered. -/
lemma EnableCalls.noHandlers (h : EnableCalls status calls) (hne : status ≠ 0)
    (hcalls : Calls E env calls s t) (hpower : Leaves env samEventPwrRqid)
    (hthermal : Leaves env samEventTempRqid)
    (hvacant : ∀ i < samNumEventTypes, s.ec.dev.Vacant i) (hclear : s.NoHandlers) :
    t.NoHandlers := by
  cases h with
  | handlerPower hfails =>
    exact ⟨hcalls.clear hpower (by simp [Ne.symm hfails]) hclear.1,
      hcalls.clear hthermal (by simp [Ne.symm hfails]) hclear.2⟩
  | handlerThermal hfails a =>
    obtain ⟨u, hset, hremove⟩ := Calls.split [_, _] hcalls
    refine ⟨?_, hcalls.clear hthermal (fun rqid' hentry hmem => ?_) hclear.2⟩
    · exact hremove.removed hpower (by decide) (by decide)
        (hset.vacant (by decide) (hvacant _ (by decide))) (by simp)
    · simp only [List.mem_cons, Prod.mk.injEq, SanCall.setHandler.injEq, Ne.symm hfails,
        and_false, and_true, reduceCtorEq, false_and, List.not_mem_nil, or_false] at hmem
      subst hmem
      exact absurd hentry (by decide)
  | sourcePower hfails a b =>
    obtain ⟨u, hset, hremove⟩ := Calls.split [_, _, _] hcalls
    exact hremove.noHandlers hpower hthermal fun i hi => hset.vacant hi (hvacant i hi)
  | sourceThermal hfails a b c =>
    obtain ⟨u, hset, hremove⟩ := Calls.split [_, _, _, _, _] hcalls
    exact hremove.noHandlers hpower hthermal fun i hi => hset.vacant hi (hvacant i hi)
  | done => exact absurd rfl hne

/-! ### The probe -/

/-- Whether the consumers are linked does not depend on what has been linked before. -/
lemma sanConsumersLink_fails_iff {link : ℕ → SanAcpiConsumer → LinkOutcome} {kzalloc : Bool}
    {cons : Option (List SanAcpiConsumer)} {out : SanConsumers} {w : SanLinks}
    {r : ℤ × SanConsumers × SanLinks} (h : SanLinks.sanConsumersLink link kzalloc cons out w = r) :
    r.1 ≠ 0 ↔ (cons.all fun cons => kzalloc && SanLinks.allLink link cons) = false := by
  cases cons with
  | none =>
    cases h
    exact iff_of_false (fun hne => hne rfl) nofun
  | some cons =>
    have hresult : SanLinks.LinkResult link kzalloc cons out w _ := SanLinks.sanConsumersLink_result
    rw [h] at hresult
    cases hresult with
    | unallocated halloc => simp [halloc]
    | linked halloc hall => simp [halloc, hall]
    | failed halloc hfails hne _ _ => simp [hfails, hne]

/-- How a probe fails once it is registered with the EC: before the driver data is set, or
later, after calls to the EC if it gets that far. -/
inductive ProbeFails (E : SshEnv) (env : SanProbeEnv) (cons : Option (List SanAcpiConsumer))
    (s t : SanSystem) : Prop
  | early (fails : env.getsToDrvdata cons = false) (links : SanLinks)
    (eq : t = { s with links := links }) (own : OwnOnly s t)
  | late (gets : env.getsToDrvdata cons = true) (opreg : t.opreg = none)
    (driverData : t.driverData = Function.update
      (Function.update s.driverData .pdev (some s.links.ledger.next)) .san none)
    (calls : ∃ s₀ u calls, s₀.ec = s.ec ∧ s₀.calls = s.calls ∧ Calls E env calls s₀ u ∧
      t.ec = u.ec ∧ t.calls = u.calls ∧
      (calls = [] ∨ ∃ status, status ≠ 0 ∧ EnableCalls status calls))

/-- Registering as a consumer of the EC leaves it as it was. -/
lemma consumerRegister_dev {d dev : SshDevice} {link : Bool}
    (h : d.surfaceSamSshConsumerRegister link = some (0, dev)) : dev = d := by
  cases hlock : d.lock with
  | true =>
    unfold SshDevice.surfaceSamSshConsumerRegister at h
    rw [SshDevice.acquireInit_locked hlock] at h
    cases h
  | false =>
    rw [SshDevice.consumerRegister_eq hlock, Option.some_inj] at h
    split_ifs at h
    · cases h
    · cases h
      rfl
    · cases h

/-- What `err_consumers` leaves of links and allocations. -/
lemma ownOnly_errConsumers {cons : Option (List SanAcpiConsumer)} {status : ℤ}
    {consumers : SanConsumers} {links : SanLinks} (hne : status ≠ 0)
    (h : SanLinks.sanConsumersLink env.link env.kzallocLinks cons ⟨0, none⟩
      { s.links with ledger := s.links.ledger.alloc.2 } = (status, consumers, links)) :
    OwnOnly s ({ s with links := links }.errConsumers s.links.ledger.next) := by
  cases cons with
  | none =>
    cases h
    exact absurd rfl hne
  | some cons =>
    have hresult : SanLinks.LinkResult env.link env.kzallocLinks cons ⟨0, none⟩
        { s.links with ledger := s.links.ledger.alloc.2 } _ := SanLinks.sanConsumersLink_result
    rw [h] at hresult
    refine ⟨rfl, (hresult.deletes hne).2.subset, fun r hr => ?_⟩
    have hreleased := congrFun hresult.released r
    exact (Function.update_of_ne (Nat.ne_of_lt hr) _ _).trans hreleased

/-- Once the driver data is set, it stays, whatever fails. -/
lemma probeBound_fails {drvdata : ℕ} {consumers : SanConsumers}
    (h : probeBound E env drvdata consumers s = some (status, t)) (hne : status ≠ 0)
    (hopreg : s.opreg = none) : t.opreg = none ∧
      t.driverData =
        Function.update (Function.update s.driverData .pdev (some drvdata)) .san none ∧
      ∃ s₀ u calls, s₀.ec = s.ec ∧ s₀.calls = s.calls ∧ Calls E env calls s₀ u ∧
        t.ec = u.ec ∧ t.calls = u.calls ∧
        (calls = [] ∨ ∃ status, status ≠ 0 ∧ EnableCalls status calls) := by
  unfold probeBound at h
  dsimp only at h
  split_ifs at h with hinstall
  · cases h
    exact ⟨hopreg, rfl, s, s, [], rfl, rfl, .nil s, rfl, rfl, .inl rfl⟩
  · obtain ⟨⟨status', u⟩, henable, h⟩ := Option.bind_eq_some_iff.mp h
    obtain ⟨calls, hend, hcalls⟩ := sanEnableEvents_calls henable
    dsimp only at h hend hcalls
    split_ifs at h with hstatus
    · cases h
      refine ⟨rfl, ?_, _, u, calls, ?_, ?_, hcalls, rfl, rfl, .inr ⟨status, hne, hend⟩⟩
      · change Function.update u.driverData .san none = _
        rw [hcalls.ecOnly.driverData]
        rfl
      · rfl
      · rfl
    · cases h
      exact absurd rfl hne

lemma surfaceSamSanProbe_fails {cons : Option (List SanAcpiConsumer)} {dev : SshDevice}
    (hreg : s.ec.dev.surfaceSamSshConsumerRegister env.consumerRegister = some (0, dev))
    (hprobe : surfaceSamSanProbe E env cons s = some (status, t)) (hne : status ≠ 0)
    (hopreg : s.opreg = none) : ProbeFails E env cons s t := by
  have hdev := consumerRegister_dev hreg
  subst hdev
  unfold surfaceSamSanProbe at hprobe
  rw [hreg] at hprobe
  simp only [Option.bind_eq_bind, Option.bind_some, ne_eq, not_true_eq_false, if_false] at hprobe
  cases halloc : env.kzalloc with
  | false =>
    rw [halloc] at hprobe
    cases hprobe
    refine .early (by simp [SanProbeEnv.getsToDrvdata, halloc]) s.links rfl ?_
    exact ⟨rfl, ⟨[], [], (List.append_nil _).symm, (List.append_nil _).symm, List.nil_subset _⟩,
      fun _ _ => rfl⟩
  | true =>
    have hgets : env.getsToDrvdata cons =
        cons.all fun cons => env.kzallocLinks && SanLinks.allLink env.link cons := by
      simp [SanProbeEnv.getsToDrvdata, halloc]
    rw [halloc] at hprobe
    simp only [Bool.not_true, Bool.false_eq_true, if_false] at hprobe
    generalize hlink : SanLinks.sanConsumersLink env.link env.kzallocLinks cons ⟨0, none⟩ _ = r
      at hprobe
    obtain ⟨status', consumers, links⟩ := r
    have hiff := sanConsumersLink_fails_iff hlink
    rw [← hgets] at hiff
    dsimp only at hiff hprobe
    by_cases hstatus : status' = 0
    · rw [if_neg (not_not.mpr hstatus)] at hprobe
      obtain ⟨hnone, hdata, hcalls⟩ := probeBound_fails hprobe hne hopreg
      have hgot := Bool.of_not_eq_false fun h => hiff.mpr h hstatus
      exact .late hgot hnone hdata hcalls
    · rw [if_pos hstatus] at hprobe
      cases hprobe
      exact .early (hiff.mp hstatus) _ rfl (ownOnly_errConsumers hstatus hlink)

end SanSystem

open SanSystem

/-- A probe that fails once it is registered with the EC leaves no registration behind exactly if
it does not get to the driver data. From there on it leaves a pointer to memory it has freed. -/
theorem surfaceSamSanProbe_unwinds_iff (E : SshEnv) (env : SanProbeEnv)
    (cons : Option (List SanAcpiConsumer)) (s t : SanSystem) (dev : SshDevice) (status : ℤ)
    (hunbound : s.Unbound)
    (hreg : s.ec.dev.surfaceSamSshConsumerRegister env.consumerRegister = some (0, dev))
    (hprobe : surfaceSamSanProbe E env cons s = some (status, t)) (hfails : status ≠ 0) :
    Unwound s t ↔ env.getsToDrvdata cons = false := by
  cases surfaceSamSanProbe_fails hreg hprobe hfails hunbound.opreg with
  | early hearly links heq hown =>
    subst heq
    refine iff_of_true ⟨hunbound.opreg, hunbound.handlers, ?_, hunbound.drvdata, hown⟩ hearly
    exact ⟨[], (List.append_nil _).symm, fun _ _ hmem => absurd hmem List.not_mem_nil⟩
  | late hgets _ hdata _ =>
    refine iff_of_false (fun hunwound => ?_) (by rw [hgets]; decide)
    have hset := hunwound.drvdata
    rw [hdata, Function.update_of_ne (by decide), Function.update_self] at hset
    cases hset

/-- Nothing has been bound to this EC. -/
def SanSystem.fresh (ec : SshSystem) : SanSystem := ⟨ec, [], .empty, none, fun _ => none⟩

/-- All goes well, but for the device of one of the consumers. -/
def SanProbeEnv.missing (device : ℕ) : SanProbeEnv :=
  ⟨true, true, true, missingDevice device, 0, fun _ => 0, some 0, fun _ => [], fun _ => firstAnswer⟩

lemma SanSystem.fresh_unbound : ∃ ec, (fresh ec).Unbound ∧
    ec.dev.surfaceSamSshConsumerRegister true = some (0, ec.dev) := by
  obtain ⟨ec, hrun, hlock, hstate⟩ := goodProbe_run
  have hclear (i : ℕ) : ec.dev.handler i = none := by
    refine SshSystem.run_clear hrun (fun c hc => ?_) rfl
    cases List.mem_singleton.mp hc
    exact nofun
  refine ⟨ec, ⟨rfl, ⟨hclear _, hclear _⟩, rfl⟩, ?_⟩
  rw [SshDevice.consumerRegister_eq hlock, hstate]
  rfl

/-- Without the adapter, the probe is undone. -/
theorem surfaceSamSanProbe_unwinds_iff_adapter :
    ∃ ec t, surfaceSamSanProbe kernelEnv (.missing 1) (some sanMshw0091Consumers) (fresh ec) =
      some (-enxio, t) ∧ Unwound (fresh ec) t := by
  obtain ⟨ec, hunbound, hreg⟩ := fresh_unbound
  obtain ⟨t, hprobe⟩ : ∃ t, surfaceSamSanProbe kernelEnv (.missing 1) (some sanMshw0091Consumers)
      (fresh ec) = some (-enxio, t) := by
    have hlinked : (fresh ec).ec.dev.surfaceSamSshConsumerRegister
        (SanProbeEnv.missing 1).consumerRegister = some (0, ec.dev) := hreg
    unfold surfaceSamSanProbe
    rw [hlinked]
    exact ⟨_, rfl⟩
  exact ⟨ec, t, hprobe, (surfaceSamSanProbe_unwinds_iff kernelEnv (.missing 1)
    (some sanMshw0091Consumers) (fresh ec) t ec.dev (-enxio) hunbound hreg hprobe (by decide)).mpr
    (by decide)⟩

/-- The handler of the operation region cannot be installed. The device is left with a pointer to
the driver data that has been freed. -/
theorem surfaceSamSanProbe_dangles :
    let env : SanProbeEnv := { SanProbeEnv.missing 3 with installAddressSpaceHandler := 1 }
    ∃ ec t, (fresh ec).Unbound ∧
      surfaceSamSanProbe kernelEnv env (some sanMshw0091Consumers) (fresh ec) =
        some (-enodev, t) ∧
      t.driverData .pdev = some 0 ∧ t.links.ledger.released 0 = 1 ∧ ¬Unwound (fresh ec) t := by
  intro env
  obtain ⟨ec, hunbound, hreg⟩ := fresh_unbound
  obtain ⟨t, hprobe, hdata, hfreed⟩ : ∃ t, surfaceSamSanProbe kernelEnv env
      (some sanMshw0091Consumers) (fresh ec) = some (-enodev, t) ∧
      t.driverData .pdev = some 0 ∧ t.links.ledger.released 0 = 1 := by
    have hlinked : (fresh ec).ec.dev.surfaceSamSshConsumerRegister env.consumerRegister =
        some (0, ec.dev) := hreg
    unfold surfaceSamSanProbe
    rw [hlinked]
    exact ⟨_, rfl, rfl, rfl⟩
  refine ⟨ec, t, hunbound, hprobe, hdata, hfreed, fun hunwound => ?_⟩
  rw [hunwound.drvdata] at hdata
  cases hdata

/-- Apart from the driver data, a probe that fails takes back what it has registered, as long as
others leave the handlers of its two events alone. -/
theorem surfaceSamSanProbe_deregisters {E : SshEnv} {env : SanProbeEnv}
    {cons : Option (List SanAcpiConsumer)} {s t : SanSystem} {dev : SshDevice} {status : ℤ}
    (hunbound : s.Unbound)
    (hreg : s.ec.dev.surfaceSamSshConsumerRegister env.consumerRegister = some (0, dev))
    (hprobe : surfaceSamSanProbe E env cons s = some (status, t)) (hfails : status ≠ 0)
    (hpower : Leaves env samEventPwrRqid) (hthermal : Leaves env samEventTempRqid)
    (hvacant : ∀ i < samNumEventTypes, s.ec.dev.Vacant i) :
    t.opreg = none ∧ t.NoHandlers ∧ SourcesDisabled s t := by
  cases surfaceSamSanProbe_fails hreg hprobe hfails hunbound.opreg with
  | early _ links heq _ =>
    subst heq
    refine ⟨hunbound.opreg, hunbound.handlers, ?_⟩
    exact ⟨[], (List.append_nil _).symm, fun _ _ hmem => absurd hmem List.not_mem_nil⟩
  | late _ hopreg _ hlate =>
    obtain ⟨s₀, u, calls, hec, hlog, hcalls, htec, htcalls, hend⟩ := hlate
    have hclear : s₀.NoHandlers := by
      unfold NoHandlers
      rw [hec]
      exact hunbound.handlers
    have hvacant₀ : ∀ i < samNumEventTypes, s₀.ec.dev.Vacant i := by
      rw [hec]
      exact hvacant
    have hnone : u.NoHandlers := by
      obtain rfl | ⟨status', hne, hend⟩ := hend
      · cases hcalls
        exact hclear
      · exact hend.noHandlers hne hcalls hpower hthermal hvacant₀ hclear
    refine ⟨hopreg, ?_, calls, ?_, fun tc rqid henable => ?_⟩
    · unfold NoHandlers
      rw [htec]
      exact hnone
    · rw [htcalls, hcalls.log, hlog]
    · obtain rfl | ⟨status', hne, hend⟩ := hend
      · cases henable
      · exact hend.disables hne henable

end SurfaceSam
