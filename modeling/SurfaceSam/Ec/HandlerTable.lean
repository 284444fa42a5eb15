import SurfaceSam.Ec.System

/-!
# The handler table of the EC

What calls to the EC do to an entry of its handler table. Without an EC no handler is
registered, and an entry without handler stays so as long as nobody sets it.
-/

namespace SurfaceSam

open Devlib

namespace SshDevice

variable {E : SshEnv} {d d' : SshDevice} {i : ℕ}

/-- Without an EC, no handler is registered. -/
def Vacant (i : ℕ) (d : SshDevice) : Prop := d.state = .uninitialized → d.handler i = none

lemma SetupResult.handler {serdev : ℕ} {b : ProbeBufs} {r : ℤ × SshDevice}
    (h : SetupResult serdev b d r) : r.2.handler = d.handler := by
  cases h with
  | busy _ => rfl
  | failed _ _ _ _ _ => rfl
  | done _ _ _ => rfl

lemma SetupResult.vacant {serdev : ℕ} {b : ProbeBufs} {r : ℤ × SshDevice}
    (h : SetupResult serdev b d r) (hvacant : d.Vacant i) : r.2.Vacant i := by
  intro hstate
  rw [h.handler]
  cases h with
  | busy _ => exact hvacant hstate
  | failed hunset _ _ _ _ => exact hvacant hunset
  | done hunset _ _ => exact hvacant hunset

lemma Change.vacant (hi : i < samNumEventTypes) (h : d.Change d') (hvacant : d.Vacant i) :
    d'.Vacant i := by
  cases h with
  | unchanged => exact hvacant
  | lost => exact hvacant
  | requested _ _ hinit _ => exact fun hstate => absurd hstate hinit
  | handler hinit _ _ _ _ => exact fun hstate => absurd hstate hinit
  | aborted _ => exact hvacant
  | probed _ hresult =>
    have hkept := hresult.vacant (i := i) hvacant
    split_ifs
    · exact hkept
    · exact hkept
  | removed _ _ _ => exact fun _ => if_pos hi

lemma changeHandler_clear {rqid : UInt16} {fn data : KPtr}
    {delay : Option (SurfaceSamSshEvent → ℕ)} {r : ℤ × SshDevice}
    (h : d.changeHandler rqid fn delay data = some r)
    (hother : rqid.toNat - 1 = i → fn = none ∨ r.1 ≠ 0) (hclear : d.handler i = none) :
    r.2.handler i = none := by
  cases hlock : d.lock with
  | true =>
    rw [changeHandler_locked hlock h]
    exact hclear
  | false =>
    rw [changeHandler_eq hlock, Option.some_inj] at h
    rw [← h] at hother ⊢
    split_ifs at hother ⊢ with hevent hstate
    · exact hclear
    · exact hclear
    · by_cases hi : rqid.toNat - 1 = i
      · subst hi
        exact (Function.update_self ..).trans ((hother rfl).resolve_right fun hne => hne rfl)
      · exact (Function.update_of_ne (Ne.symm hi) _ _).trans hclear

/-- Removing a handler that cannot be there fails, otherwise it succeeds. -/
lemma removeEventHandler_clear {rqid : UInt16} {r : ℤ × SshDevice}
    (h : d.surfaceSamSshRemoveEventHandler rqid = some r) (hevent : samRqidIsEvent rqid = true)
    (hvacant : d.Vacant (rqid.toNat - 1)) : r.2.handler (rqid.toNat - 1) = none := by
  change d.changeHandler rqid none none none = some r at h
  cases hlock : d.lock with
  | true =>
    unfold changeHandler at h
    rw [hevent, acquireInit_locked hlock] at h
    cases h
  | false =>
    rw [changeHandler_eq hlock, Option.some_inj, hevent, if_neg (by decide)] at h
    rw [← h]
    split_ifs with hstate
    · exact hvacant hstate
    · exact Function.update_self ..

lemma eventSource_handler {cid tc unknown : UInt8} {rqid : UInt16} {o : Schedule SshLine}
    {r : ℤ × SshDevice} (h : d.eventSource E cid tc unknown rqid o = some r) :
    r.2.handler = d.handler := by
  cases hlock : d.lock with
  | true => rw [eventSource_locked hlock h]
  | false =>
    rw [eventSource_eq hlock, Option.some_inj] at h
    rw [← h]
    split_ifs
    · rfl
    · rfl
    · rfl
    · rfl

end SshDevice

/-- The call does not set an entry of the handler table. -/
def EcCall.Spares (i : ℕ) (c : EcCall) : Prop :=
  ∀ rqid fn delay data, c = .setDelayedEventHandler rqid fn delay data → rqid.toNat - 1 ≠ i

lemma EcCall.run_clear {E : SshEnv} {d : SshDevice} {i : ℕ} {c : EcCall} {r : ℤ × SshDevice}
    (h : c.run E d = some r) (hspares : c.Spares i) (hclear : d.handler i = none) :
    r.2.handler i = none := by
  cases hlock : d.lock with
  | true =>
    obtain hr | ⟨_, _, _, _, -, -, hr⟩ := EcCall.run_held hlock h
    · rw [hr]
      exact hclear
    · rw [hr]
      exact hclear
  | false =>
    cases c with
    | consumerRegister link =>
      change d.surfaceSamSshConsumerRegister link = some r at h
      rw [SshDevice.consumerRegister_eq hlock, Option.some_inj] at h
      rw [← h]
      split_ifs
      · exact hclear
      · exact hclear
      · exact hclear
    | enableEventSource tc unknown rqid o =>
      rw [SshDevice.eventSource_handler h]
      exact hclear
    | disableEventSource tc unknown rqid o =>
      rw [SshDevice.eventSource_handler h]
      exact hclear
    | setDelayedEventHandler rqid fn delay data =>
      exact SshDevice.changeHandler_clear h
        (fun hi => absurd hi (hspares rqid fn delay data rfl)) hclear
    | removeEventHandler rqid => exact SshDevice.changeHandler_clear h (fun _ => .inl rfl) hclear
    | rqst rqst result o =>
      change d.surfaceSamSshRqst E rqst result o = some r at h
      rw [SshDevice.rqst_eq hlock, Option.some_inj] at h
      rw [← h]
      split_ifs
      · exact hclear
      · exact hclear
      · exact hclear
    | suspend o =>
      change d.surfaceSamSshSuspend E o = some r at h
      rw [SshDevice.suspend_eq hlock, Option.some_inj] at h
      rw [← h]
      split_ifs
      · exact hclear
      · exact hclear
    | resume o =>
      change d.surfaceSamSshResume E o = some r at h
      rw [SshDevice.resume_eq hlock, Option.some_inj] at h
      rw [← h]
      split_ifs
      · exact hclear
      · exact hclear
    | probe env serdev =>
      change d.surfaceSamSshProbe E env serdev = some r at h
      obtain ⟨status, l, -, hrun⟩ | ⟨b, l, r', -, hresult, hrun⟩ :=
        SshDevice.surfaceSamSshProbe_cases (E := E) hlock env serdev
      · cases hrun.symm.trans h
        exact hclear
      · cases hrun.symm.trans h
        have hkept : r'.2.handler i = none := (congrFun hresult.handler i).trans hclear
        dsimp only
        split_ifs
        · exact hkept
        · exact hkept
    | remove serdev o =>
      change (d.surfaceSamSshRemove E serdev o).map _ = some r at h
      rw [SshDevice.remove_eq hlock] at h
      cases h
      dsimp only
      split_ifs
      · exact hclear
      · change (if i < samNumEventTypes then none else d.handler i) = none
        split_ifs
        · rfl
        · exact hclear

namespace SshSystem

variable {E : SshEnv} {s t : SshSystem} {i : ℕ} {a : EcAction}

lemma probeSetup_some {env : SshDevice.ProbeEnv} {serdev : ℕ} {b : SshDevice.ProbeBufs}
    {d : SshDevice} {r : ℤ × SshDevice} (h : d.probeSetup E env serdev b = some r) :
    SshDevice.SetupResult serdev b d r := by
  cases hlock : d.lock with
  | true =>
    rw [SshDevice.probeSetup_locked hlock] at h
    cases h
  | false =>
    obtain ⟨r', hr', hresult⟩ := SshDevice.probeSetup_result (E := E) hlock env serdev b
    cases hr'.symm.trans h
    exact hresult

lemma step_vacant (hi : i < samNumEventTypes) (h : s.step E a = some t)
    (hvacant : s.dev.Vacant i) : t.dev.Vacant i := by
  cases a with
  | call c =>
    obtain ⟨r, hr, rfl⟩ := Option.map_eq_some_iff.mp h
    exact (EcCall.run_change hr).vacant hi hvacant
  | receive l =>
    cases h
    exact hvacant
  | probeAlloc env serdev =>
    obtain ⟨_, _, -, rfl⟩ | ⟨_, _, -, rfl⟩ := step_probeAlloc h
    · exact hvacant
    · exact hvacant
  | probeSetup j =>
    obtain ⟨_, _, _, _, -, hr, rfl⟩ := step_probeSetup h
    exact (probeSetup_some hr).vacant hvacant
  | probeUnwind j =>
    obtain ⟨_, -, rfl⟩ := step_probeUnwind h
    exact hvacant

lemma step_clear (h : s.step E a = some t) (hspares : ∀ c, a = .call c → c.Spares i)
    (hclear : s.dev.handler i = none) : t.dev.handler i = none := by
  cases a with
  | call c =>
    obtain ⟨r, hr, rfl⟩ := Option.map_eq_some_iff.mp h
    exact EcCall.run_clear hr (hspares c rfl) hclear
  | receive l =>
    cases h
    exact hclear
  | probeAlloc env serdev =>
    obtain ⟨_, _, -, rfl⟩ | ⟨_, _, -, rfl⟩ := step_probeAlloc h
    · exact hclear
    · exact hclear
  | probeSetup j =>
    obtain ⟨_, _, _, _, -, hr, rfl⟩ := step_probeSetup h
    exact (congrFun (probeSetup_some hr).handler i).trans hclear
  | probeUnwind j =>
    obtain ⟨_, -, rfl⟩ := step_probeUnwind h
    exact hclear

lemma run_clear {as : List EcAction} (h : Machine.run (step E) s as = some t)
    (hspares : ∀ c, .call c ∈ as → c.Spares i) (hclear : s.dev.handler i = none) :
    t.dev.handler i = none := by
  induction as generalizing s with
  | nil =>
    cases h
    exact hclear
  | cons a as ih =>
    obtain ⟨u, hu, hrest⟩ := Option.bind_eq_some_iff.mp h
    refine ih hrest (fun c hc => hspares c (List.mem_cons_of_mem a hc)) ?_
    exact step_clear hu (fun c hc => hspares c (hc ▸ List.mem_cons_self)) hclear

end SshSystem

/-! ### Whole entries -/

section Entries

variable {E : SshEnv} {d : SshDevice} {i : ℕ}

namespace SshDevice

/-- A handler, its data and its delay function. -/
def entry (d : SshDevice) (i : ℕ) : KPtr × KPtr × Option (SurfaceSamSshEvent → ℕ) :=
  (d.handler i, d.handlerData i, (d.ec.events.handler i).delay)

lemma request_entry (rqst : SurfaceSamSshRqst) (result : Option SurfaceSamSshBuf)
    (o : Schedule SshLine) : (d.request E rqst result o).2.entry i = d.entry i := by
  have hkept : (d.request E rqst result o).2.ec.events.handler = d.ec.events.handler :=
    handler_rqst rqst result o d.ec
  unfold entry
  rw [hkept]
  rfl

lemma SetupResult.entry {serdev : ℕ} {b : ProbeBufs} {r : ℤ × SshDevice}
    (h : SetupResult serdev b d r) : r.2.entry i = d.entry i := by
  cases h with
  | busy _ => rfl
  | failed _ _ ec _ hec =>
    unfold SshDevice.entry
    dsimp only
    rw [hec]
    rfl
  | done _ ec hec =>
    unfold SshDevice.entry
    dsimp only
    rw [hec]
    rfl

lemma eventSource_entry {cid tc unknown : UInt8} {rqid : UInt16} {o : Schedule SshLine}
    {r : ℤ × SshDevice} (h : d.eventSource E cid tc unknown rqid o = some r) :
    r.2.entry i = d.entry i := by
  cases hlock : d.lock with
  | true => rw [eventSource_locked hlock h]
  | false =>
    rw [eventSource_eq hlock, Option.some_inj] at h
    rw [← h]
    split_ifs
    · rfl
    · rfl
    · rfl
    · exact request_entry ..

lemma setHandler_entry (j : ℕ) (fn : KPtr) (delay : Option (SurfaceSamSshEvent → ℕ)) (data : KPtr) :
    (d.setHandler j fn delay data).entry i = if i = j then (fn, data, delay) else d.entry i := by
  unfold entry setHandler
  dsimp only
  rw [Function.update_apply, Function.update_apply, Function.update_apply]
  split_ifs
  · rfl
  · rfl

/-- A handler that is stored stands in its entry, and nowhere else. -/
lemma changeHandler_entry {rqid : UInt16} {fn data : KPtr}
    {delay : Option (SurfaceSamSshEvent → ℕ)} {r : ℤ × SshDevice}
    (h : d.changeHandler rqid fn delay data = some r) :
    r.2.entry i = if i = rqid.toNat - 1 ∧ r.1 = 0 then (fn, data, delay) else d.entry i := by
  cases hlock : d.lock with
  | true =>
    unfold changeHandler at h
    rw [acquireInit_locked hlock] at h
    split_ifs at h with hevent
    · cases h
      exact (if_neg fun hzero => absurd hzero.2 (by simp)).symm
    · cases h
  | false =>
    rw [changeHandler_eq hlock, Option.some_inj] at h
    rw [← h]
    by_cases hevent : samRqidIsEvent rqid = false
    · rw [if_pos hevent]
      exact (if_neg fun hzero => absurd hzero.2 (by simp)).symm
    · rw [if_neg hevent]
      by_cases hstate : d.state = .uninitialized
      · rw [if_pos hstate]
        exact (if_neg fun hzero => absurd hzero.2 (by simp)).symm
      · rw [if_neg hstate, setHandler_entry]
        simp

lemma teardown_entry (serdev : ℕ) :
    (d.teardown serdev).entry i = d.entry i ∨ (d.teardown serdev).handler i = none := by
  by_cases hi : i < samNumEventTypes
  · exact .inr (if_pos hi)
  · refine .inl ?_
    change ((if i < samNumEventTypes then none else d.handler i),
      (if i < samNumEventTypes then none else d.handlerData i),
      (if i < samNumEventTypes then (⟨none⟩ : SshEventHandler) else d.ec.events.handler i).delay) = _
    rw [if_neg hi, if_neg hi, if_neg hi]
    rfl

end SshDevice

/-- A call that does not set an entry leaves it as it is, or empties it. -/
lemma EcCall.run_entry {c : EcCall} {r : ℤ × SshDevice} (h : c.run E d = some r)
    (hspares : c.Spares i) : r.2.entry i = d.entry i ∨ r.2.handler i = none := by
  cases hlock : d.lock with
  | true =>
    obtain hr | ⟨_, _, _, _, -, -, hr⟩ := EcCall.run_held hlock h
    · rw [hr]
      exact .inl rfl
    · rw [hr]
      exact .inl rfl
  | false =>
    cases c with
    | consumerRegister link =>
      change d.surfaceSamSshConsumerRegister link = some r at h
      rw [SshDevice.consumerRegister_eq hlock, Option.some_inj] at h
      rw [← h]
      split_ifs
      · exact .inl rfl
      · exact .inl rfl
      · exact .inl rfl
    | enableEventSource tc unknown rqid o => exact .inl (SshDevice.eventSource_entry h)
    | disableEventSource tc unknown rqid o => exact .inl (SshDevice.eventSource_entry h)
    | setDelayedEventHandler rqid fn delay data =>
      refine .inl ((SshDevice.changeHandler_entry h).trans (if_neg fun hset => ?_))
      exact hspares rqid fn delay data rfl hset.1.symm
    | removeEventHandler rqid =>
      have hentry := SshDevice.changeHandler_entry (i := i) h
      split_ifs at hentry
      · exact .inr (congrArg Prod.fst hentry)
      · exact .inl hentry
    | rqst rqst result o =>
      change d.surfaceSamSshRqst E rqst result o = some r at h
      rw [SshDevice.rqst_eq hlock, Option.some_inj] at h
      rw [← h]
      split_ifs
      · exact .inl rfl
      · exact .inl rfl
      · exact .inl (SshDevice.request_entry ..)
    | suspend o =>
      change d.surfaceSamSshSuspend E o = some r at h
      have hkept : (d.surfaceSamSshEcSuspend E o).2.entry i = d.entry i :=
        SshDevice.request_entry ..
      rw [SshDevice.suspend_eq hlock, Option.some_inj] at h
      rw [← h]
      split_ifs
      · exact .inl rfl
      · exact .inl hkept
    | resume o =>
      change d.surfaceSamSshResume E o = some r at h
      rw [SshDevice.resume_eq hlock, Option.some_inj] at h
      rw [← h]
      split_ifs
      · exact .inl rfl
      · exact .inl (SshDevice.request_entry ..)
    | probe env serdev =>
      change d.surfaceSamSshProbe E env serdev = some r at h
      obtain ⟨status, l, -, hrun⟩ | ⟨b, l, r', -, hresult, hrun⟩ :=
        SshDevice.surfaceSamSshProbe_cases (E := E) hlock env serdev
      · cases hrun.symm.trans h
        exact .inl rfl
      · cases hrun.symm.trans h
        have hkept : r'.2.entry i = d.entry i := hresult.entry
        dsimp only
        split_ifs
        · exact .inl hkept
        · exact .inl hkept
    | remove serdev o =>
      change (d.surfaceSamSshRemove E serdev o).map _ = some r at h
      rw [SshDevice.remove_eq hlock] at h
      cases h
      dsimp only
      split_ifs
      · exact .inl rfl
      · refine (SshDevice.teardown_entry serdev).imp_left fun hkept => ?_
        exact hkept.trans (SshDevice.request_entry ..)

/-- Entries that a step does not set are kept or emptied. -/
lemma SshSystem.step_entry {s t : SshSystem} {a : EcAction} (h : s.step E a = some t)
    (hspares : ∀ c, a = .call c → c.Spares i) :
    t.dev.entry i = s.dev.entry i ∨ t.dev.handler i = none := by
  cases a with
  | call c =>
    obtain ⟨r, hr, rfl⟩ := Option.map_eq_some_iff.mp h
    exact EcCall.run_entry hr (hspares c rfl)
  | receive l =>
    cases h
    refine .inl ?_
    unfold SshDevice.entry
    dsimp only
    rw [l.step_handler]
  | probeAlloc env serdev =>
    obtain ⟨_, _, -, rfl⟩ | ⟨_, _, -, rfl⟩ := step_probeAlloc h
    · exact .inl rfl
    · exact .inl rfl
  | probeSetup j =>
    obtain ⟨_, _, _, _, -, hr, rfl⟩ := step_probeSetup h
    exact .inl (probeSetup_some hr).entry
  | probeUnwind j =>
    obtain ⟨_, -, rfl⟩ := step_probeUnwind h
    exact .inl rfl

end Entries

end SurfaceSam
