import SurfaceSam.Ec.System

/-!
# The EC mutex is given back

Every operation returns with the mutex released, but for
`surface_sam_ssh_consumer_register` when `device_link_add` fails.
-/

namespace SurfaceSam

open Devlib

/-- `surface_sam_ssh_consumer_register` goes as far as `device_link_add`, which fails. -/
def EcCall.linkLost (d : SshDevice) : EcCall → Bool
  | .consumerRegister link => d.state != .uninitialized && !link
  | _ => false

def EcAction.linkLost (s : SshSystem) : EcAction → Bool
  | .call c => c.linkLost s.dev
  | _ => false

section Calls

variable {E : SshEnv} {d : SshDevice}

lemma linkLost_consumerRegister (link : Bool) :
    (EcCall.consumerRegister link).linkLost d = false ↔
      d.state = .uninitialized ∨ link = true := by
  simp only [EcCall.linkLost, Bool.and_eq_false_iff, bne_eq_false_iff_eq, Bool.not_eq_false']

/-- An operation that finds the mutex free returns, and tells by `linkLost` whether it gives
the mutex back. -/
lemma EcCall.run_unlocked (hlock : d.lock = false) (c : EcCall) :
    ∃ r, c.run E d = some r ∧ (r.2.lock = false ↔ c.linkLost d = false) := by
  cases c with
  | consumerRegister link =>
    refine ⟨_, d.consumerRegister_eq hlock link, ?_⟩
    rw [linkLost_consumerRegister]
    split_ifs with hstate hlink
    · exact iff_of_true hlock (.inl hstate)
    · exact iff_of_true hlock (.inr hlink)
    · exact iff_of_false (by simp) (not_or.mpr ⟨hstate, hlink⟩)
  | enableEventSource tc unknown rqid o =>
    refine ⟨_, SshDevice.eventSource_eq hlock 0x0b tc unknown rqid o, iff_of_true ?_ rfl⟩
    split_ifs <;> exact hlock
  | disableEventSource tc unknown rqid o =>
    refine ⟨_, SshDevice.eventSource_eq hlock 0x0c tc unknown rqid o, iff_of_true ?_ rfl⟩
    split_ifs <;> exact hlock
  | setDelayedEventHandler rqid fn delay data =>
    refine ⟨_, SshDevice.changeHandler_eq hlock rqid fn delay data, iff_of_true ?_ rfl⟩
    split_ifs <;> exact hlock
  | removeEventHandler rqid =>
    refine ⟨_, SshDevice.changeHandler_eq hlock rqid none none none, iff_of_true ?_ rfl⟩
    split_ifs <;> exact hlock
  | rqst rqst result o =>
    refine ⟨_, SshDevice.rqst_eq hlock rqst result o, iff_of_true ?_ rfl⟩
    split_ifs <;> exact hlock
  | suspend o =>
    refine ⟨_, SshDevice.suspend_eq hlock o, iff_of_true ?_ rfl⟩
    split_ifs <;> exact hlock
  | resume o =>
    refine ⟨_, SshDevice.resume_eq hlock o, iff_of_true ?_ rfl⟩
    split_ifs <;> exact hlock
  | probe env serdev =>
    rcases SshDevice.surfaceSamSshProbe_cases (E := E) hlock env serdev with
      ⟨status, l, -, hrun⟩ | ⟨b, l, r, -, hresult, hrun⟩
    · exact ⟨_, hrun, iff_of_true hlock rfl⟩
    · refine ⟨_, hrun, iff_of_true ?_ rfl⟩
      have hr : r.2.lock = false := hresult.lock.trans hlock
      split_ifs
      · exact hr
      · exact hr
  | remove serdev o =>
    refine ⟨_, congrArg (Option.map _) (SshDevice.remove_eq hlock serdev o), iff_of_true ?_ rfl⟩
    split_ifs <;> exact hlock

/-- While the mutex is held, nothing releases it. -/
lemma EcCall.run_locked (hlock : d.lock = true) {c : EcCall} {r : ℤ × SshDevice}
    (h : c.run E d = some r) : r.2.lock = true := by
  rcases EcCall.run_held hlock h with hr | ⟨_, _, _, l, -, -, hr⟩
  · rw [hr]
    exact hlock
  · rw [hr]
    exact hlock

end Calls

section Runs

variable {E : SshEnv} {s t : SshSystem} {a : EcAction}

lemma SshSystem.step_unlocked (hlock : s.dev.lock = false) (h : s.step E a = some t) :
    t.dev.lock = false ↔ a.linkLost s = false := by
  cases a with
  | call c =>
    obtain ⟨r, hr, hiff⟩ := c.run_unlocked (E := E) hlock
    obtain ⟨r', hr', rfl⟩ := Option.map_eq_some_iff.mp h
    cases hr.symm.trans hr'
    exact hiff
  | receive l =>
    cases h
    exact iff_of_true hlock rfl
  | probeAlloc env serdev =>
    rcases step_probeAlloc h with ⟨_, _, -, rfl⟩ | ⟨_, _, -, rfl⟩
    · exact iff_of_true hlock rfl
    · exact iff_of_true hlock rfl
  | probeSetup i =>
    obtain ⟨env, serdev, b, r, -, hr, rfl⟩ := step_probeSetup h
    obtain ⟨r', hr', hresult⟩ := SshDevice.probeSetup_result (E := E) hlock env serdev b
    cases hr.symm.trans hr'
    exact iff_of_true (hresult.lock.trans hlock) rfl
  | probeUnwind i =>
    obtain ⟨b, -, rfl⟩ := step_probeUnwind h
    exact iff_of_true hlock rfl

lemma SshSystem.step_locked (hlock : s.dev.lock = true) (h : s.step E a = some t) :
    t.dev.lock = true := by
  cases a with
  | call c =>
    obtain ⟨r, hr, rfl⟩ := Option.map_eq_some_iff.mp h
    exact EcCall.run_locked hlock hr
  | receive l =>
    cases h
    exact hlock
  | probeAlloc env serdev =>
    rcases step_probeAlloc h with ⟨_, _, -, rfl⟩ | ⟨_, _, -, rfl⟩
    · exact hlock
    · exact hlock
  | probeSetup i =>
    obtain ⟨env, serdev, b, r, -, hr, -⟩ := step_probeSetup h
    rw [SshDevice.probeSetup_locked hlock] at hr
    cases hr
  | probeUnwind i =>
    obtain ⟨b, -, rfl⟩ := step_probeUnwind h
    exact hlock

/-- The mutex is free after a run exactly if no call of it has lost the link. -/
lemma SshSystem.run_lock {as : List EcAction} (hlock : s.dev.lock = false)
    (hrun : Machine.run (SshSystem.step E) s as = some t) :
    t.dev.lock = false ↔
      Machine.Meets (SshSystem.step E) (fun s a => a.linkLost s = false) s as := by
  induction as generalizing s with
  | nil =>
    cases hrun
    exact iff_of_true hlock trivial
  | cons a as ih =>
    obtain ⟨u, hu, hrest⟩ := Option.bind_eq_some_iff.mp hrun
    have hstep := SshSystem.step_unlocked hlock hu
    have hmeets : Machine.Meets (SshSystem.step E) (fun s a => a.linkLost s = false) s (a :: as) ↔
        a.linkLost s = false ∧
          Machine.Meets (SshSystem.step E) (fun s a => a.linkLost s = false) u as := by
      simp only [Machine.Meets, hu, Option.mem_some_iff, forall_eq']
    rw [hmeets]
    cases hu' : u.dev.lock with
    | false =>
      rw [ih hu' hrest]
      exact (and_iff_right (hstep.mp hu')).symm
    | true =>
      have hkept : t.dev.lock = true :=
        Machine.run_invariant (I := fun t => t.dev.lock = true) hrest hu'
          fun _ _ _ hv hw => SshSystem.step_locked hv hw
      rw [hkept]
      refine iff_of_false (by simp) fun h => ?_
      rw [hstep.mpr h.1] at hu'
      cases hu'

/-- Every operation that finds the mutex free returns, and gives it back exactly if it does
not lose the link; after a run, the mutex can be taken exactly if no call has lost it. -/
theorem ecMutex_balanced (E : SshEnv) :
    (∀ (d : SshDevice) (c : EcCall), d.lock = false →
      ∃ r, c.run E d = some r ∧ (r.2.lock = false ↔ c.linkLost d = false)) ∧
    ∀ (s t : SshSystem) (as : List EcAction), s.dev.lock = false →
      Machine.run (SshSystem.step E) s as = some t →
      (t.dev.surfaceSamSshAcquire.isSome = true ↔
        Machine.Meets (SshSystem.step E) (fun s a => a.linkLost s = false) s as) := by
  refine ⟨fun d c hlock => c.run_unlocked hlock, fun s t as hlock hrun => ?_⟩
  rw [← SshSystem.run_lock hlock hrun]
  cases htaken : t.dev.lock with
  | false =>
    rw [SshDevice.acquire_unlocked htaken]
    exact iff_of_true rfl rfl
  | true =>
    rw [SshDevice.acquire_locked htaken]
    exact iff_of_false (by simp) (by simp)

end Runs

/-- A probe gives the mutex back. -/
theorem ecMutex_balanced_probe : ∃ s, Machine.run (SshSystem.step kernelEnv) .static
      [.call (.probe goodProbe 0)] = some s ∧ s.dev.surfaceSamSshAcquire.isSome = true ∧
    ∃ r, (EcCall.resume firstAnswer).run kernelEnv s.dev = some r ∧ r.2.lock = false := by
  obtain ⟨s, hs, hlock, -⟩ := goodProbe_run
  have hbalanced := ecMutex_balanced kernelEnv
  obtain ⟨r, hr, hiff⟩ := hbalanced.1 s.dev (.resume firstAnswer) hlock
  refine ⟨s, hs, (hbalanced.2 _ s _ rfl hs).mpr ⟨rfl, fun _ _ => trivial⟩, r, hr, hiff.mpr rfl⟩

/-- A consumer that `device_link_add` refuses, after a good probe: the mutex stays held, and
no request returns any more. -/
theorem consumerRegister_keepsMutex : ∃ s d, Machine.run (SshSystem.step kernelEnv) .static
      [.call (.probe goodProbe 0)] = some s ∧ s.dev.lock = false ∧
    (EcCall.consumerRegister false).run kernelEnv s.dev = some (-efault, d) ∧ d.lock = true ∧
    ∀ rqst result o, (EcCall.rqst rqst result o).run kernelEnv d = none := by
  obtain ⟨s, hs, hlock, hstate⟩ := goodProbe_run
  have hrun : s.dev.surfaceSamSshConsumerRegister false =
      some (-efault, { s.dev with lock := true }) := by
    rw [SshDevice.consumerRegister_eq hlock, if_neg (by rw [hstate]; decide)]
    rfl
  refine ⟨s, { s.dev with lock := true }, hs, hlock, hrun, rfl, fun rqst result o => ?_⟩
  change SshDevice.surfaceSamSshRqst kernelEnv rqst result o { s.dev with lock := true } = none
  unfold SshDevice.surfaceSamSshRqst
  rw [SshDevice.acquireInit_locked rfl]
  rfl

end SurfaceSam
