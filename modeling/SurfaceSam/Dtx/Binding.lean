import SurfaceSam.Devlib.Machine
import SurfaceSam.Dtx.Device

/-!
# Binding and unbinding the detachment device

Probe and remove balance what they register, except where probe fails behind the
registration of its input device, or finds the device in use.
-/

namespace SurfaceSam

open Devlib

inductive DtxBindAction where
  | probe (env : SurfaceDtxDev.ProbeEnv)
  | remove

/-- `bound` is the input device of a successful probe that has not been removed. -/
structure DtxBinding where
  dev : SurfaceDtxDev
  bound : Option ℕ

namespace DtxBinding

def static : DtxBinding := ⟨.static, none⟩

def step (s : DtxBinding) : DtxBindAction → Option DtxBinding
  | .probe env =>
    let r := s.dev.surfaceSamDtxProbe env
    some ⟨r.2, if r.1 = 0 then some s.dev.inputs.next else s.bound⟩
  | .remove => some ⟨s.dev.surfaceSamDtxRemove, none⟩

/-- The device is active, and its devices and events registered, exactly while a probe is
bound; every other input device has been freed or unregistered once. -/
structure Balanced (s : DtxBinding) : Prop where
  active : s.dev.active = s.bound.isSome
  mdev : s.dev.mdev = s.bound.isSome
  handler : s.dev.handler = s.bound.isSome
  source : s.dev.source = s.bound.isSome
  inputDev : ∀ i, s.bound = some i → s.dev.inputDev = some i ∧ i < s.dev.inputs.next ∧
    s.dev.inputs.registered i = true ∧ s.dev.inputs.freed i = 0 ∧ s.dev.inputs.unregistered i = 0
  others : ∀ i < s.dev.inputs.next, s.bound ≠ some i →
    s.dev.inputs.freed i + s.dev.inputs.unregistered i = 1
  unregistered : ∀ i, 0 < s.dev.inputs.unregistered i → s.dev.inputs.registered i = true
  fresh : ∀ i, s.dev.inputs.next ≤ i → s.dev.inputs.registered i = false ∧
    s.dev.inputs.freed i = 0 ∧ s.dev.inputs.unregistered i = 0

end DtxBinding

/-- A probe fails early, or it succeeds and finds the device free. -/
def DtxBindAction.clean (s : DtxBinding) : DtxBindAction → Bool
  | .probe env => env.failsEarly || (env.succeeds && !s.dev.active)
  | .remove => true

namespace DtxBinding

variable {s t : DtxBinding}

lemma balanced_static : static.Balanced where
  active := rfl
  mdev := rfl
  handler := rfl
  source := rfl
  inputDev := by
    intro i h
    cases h
  others := by
    intro i h
    cases h
  unregistered := by
    intro i h
    cases h
  fresh _ _ := ⟨rfl, rfl, rfl⟩

/-- The state after a probe. -/
def afterProbe (s : DtxBinding) (r : ℤ × SurfaceDtxDev) : DtxBinding :=
  ⟨r.2, if r.1 = 0 then some s.dev.inputs.next else s.bound⟩

lemma Balanced.early (h : s.Balanced) {status : ℤ} (hstatus : status ≠ 0) {l : InputDevs}
    (hl : l = s.dev.inputs ∨
      l = s.dev.inputs.inputAllocateDevice.2.inputFreeDevice s.dev.inputs.next) :
    (s.afterProbe (status, { s.dev with inputs := l })).Balanced := by
  unfold afterProbe
  rw [if_neg hstatus]
  rcases hl with rfl | rfl
  · exact ⟨h.active, h.mdev, h.handler, h.source, h.inputDev, h.others, h.unregistered, h.fresh⟩
  · obtain ⟨hregistered, hfreed, hunregistered⟩ := h.fresh _ (Nat.le_refl _)
    refine ⟨h.active, h.mdev, h.handler, h.source, fun i hi => ?_, fun i hi hne => ?_,
      h.unregistered, fun i hi => ?_⟩
    · obtain ⟨hdev, hlt, hreg, hfree, hunreg⟩ := h.inputDev i hi
      refine ⟨hdev, Nat.lt_succ_of_lt hlt, hreg, ?_, hunreg⟩
      exact (Function.update_of_ne (Nat.ne_of_lt hlt) _ _).trans hfree
    · change Function.update s.dev.inputs.freed s.dev.inputs.next _ i + _ = 1
      by_cases heq : i = s.dev.inputs.next
      · rw [heq, Function.update_self]
        change s.dev.inputs.freed _ + 1 + s.dev.inputs.unregistered _ = 1
        rw [hfreed, hunregistered]
      · rw [Function.update_of_ne heq]
        have hlt : i < s.dev.inputs.next + 1 := hi
        exact h.others i (by omega) hne
    · have hlt : s.dev.inputs.next + 1 ≤ i := hi
      obtain ⟨hreg, hfree, hunreg⟩ := h.fresh i (by omega)
      exact ⟨hreg, (Function.update_of_ne (by omega) _ _).trans hfree, hunreg⟩

lemma Balanced.done (h : s.Balanced) (hinactive : s.dev.active = false) :
    (s.afterProbe (0,
      { { s.dev with inputs := SurfaceDtxDev.registerInput s.dev.inputs }.initDevice
          s.dev.inputs.next with mdev := true, handler := true, source := true })).Balanced := by
  obtain ⟨-, hfreed, hunregistered⟩ := h.fresh _ (Nat.le_refl _)
  have hbound : s.bound = none := by
    rw [← Option.not_isSome_iff_eq_none, ← h.active, hinactive]
    exact Bool.false_ne_true
  unfold afterProbe
  rw [if_pos rfl]
  refine ⟨rfl, rfl, rfl, rfl, fun i hi => ?_, fun i hi hne => ?_, fun i hi => ?_, fun i hi => ?_⟩
  · cases hi
    exact ⟨rfl, Nat.lt_succ_self _, Function.update_self .., hfreed, hunregistered⟩
  · have hlt : i < s.dev.inputs.next + 1 := hi
    have hne' : i ≠ s.dev.inputs.next := fun heq => hne (congrArg some heq.symm)
    exact h.others i (by omega) (by rw [hbound]; exact fun hsome => by cases hsome)
  · by_cases heq : i = s.dev.inputs.next
    · rw [heq]
      exact Function.update_self ..
    · exact (Function.update_of_ne heq _ _).trans (h.unregistered i hi)
  · have hlt : s.dev.inputs.next + 1 ≤ i := hi
    obtain ⟨hreg, hfree, hunreg⟩ := h.fresh i (by omega)
    exact ⟨(Function.update_of_ne (by omega) _ _).trans hreg, hfree, hunreg⟩

lemma Balanced.remove (h : s.Balanced) :
    Balanced ⟨s.dev.surfaceSamDtxRemove, none⟩ := by
  by_cases hactive : s.dev.active = true
  · obtain ⟨i, hi⟩ : ∃ i, s.bound = some i := by
      rw [← Option.isSome_iff_exists, ← h.active]
      exact hactive
    obtain ⟨hdev, hlt, hreg, hfree, hunreg⟩ := h.inputDev i hi
    rw [SurfaceDtxDev.surfaceSamDtxRemove_active hactive hdev]
    refine ⟨rfl, rfl, rfl, rfl, fun j hj => (by cases hj), fun j hj _ => ?_, fun j hj => ?_,
      fun j hj => ?_⟩
    · change s.dev.inputs.freed j + Function.update s.dev.inputs.unregistered i _ j = 1
      by_cases heq : j = i
      · rw [heq, Function.update_self, hfree, hunreg]
      · rw [Function.update_of_ne heq]
        exact h.others j hj (by rw [hi]; exact fun hsome => heq (Option.some_inj.mp hsome).symm)
    · by_cases heq : j = i
      · rw [heq]
        exact hreg
      · exact h.unregistered j (by
          have hpos : 0 < Function.update s.dev.inputs.unregistered i _ j := hj
          rwa [Function.update_of_ne heq] at hpos)
    · have hle : s.dev.inputs.next ≤ j := hj
      obtain ⟨hreg', hfree', hunreg'⟩ := h.fresh j hj
      exact ⟨hreg', hfree', (Function.update_of_ne (by omega) _ _).trans hunreg'⟩
  · have hbound : s.bound = none := by
      rw [← Option.not_isSome_iff_eq_none, ← h.active]
      exact hactive
    rw [SurfaceDtxDev.surfaceSamDtxRemove_inactive (Bool.eq_false_iff.mpr hactive), ← hbound]
    exact h

/-- A probe that fails behind the registration of its input device, or finds the device in
use, loses the balance. -/
lemma not_balanced {env : SurfaceDtxDev.ProbeEnv} (h : s.Balanced) {r : ℤ × SurfaceDtxDev}
    (hr : SurfaceDtxDev.ProbeResult s.dev env r)
    (hclean : (DtxBindAction.probe env).clean s = false) : ¬(s.afterProbe r).Balanced := by
  intro hafter
  obtain ⟨hregistered, -, hunregistered⟩ := h.fresh _ (Nat.le_refl s.dev.inputs.next)
  have hnone (hinactive : s.dev.active = false) : s.bound = none := by
    rw [← Option.not_isSome_iff_eq_none, ← h.active, hinactive]
    exact Bool.false_ne_true
  cases hr with
  | early hearly _ _ _ =>
    simp [DtxBindAction.clean, hearly] at hclean
  | unregistered hlate hregister =>
    -- the device that could not be registered is unregistered
    have hpos : 0 < Function.update s.dev.inputs.unregistered s.dev.inputs.next
        (s.dev.inputs.unregistered s.dev.inputs.next + 1) s.dev.inputs.next := by
      rw [Function.update_self]
      exact Nat.succ_pos _
    have htrue : s.dev.inputs.registered s.dev.inputs.next = true := hafter.unregistered _ hpos
    rw [hregistered] at htrue
    cases htrue
  | busy hlate hregister hactive =>
    -- the device of the bound probe is unregistered
    obtain ⟨i, hi⟩ : ∃ i, s.bound = some i := by
      rw [← Option.isSome_iff_exists, ← h.active]
      exact hactive
    obtain ⟨hdev, hlt, -, -, hunreg⟩ := h.inputDev i hi
    have hbound : (s.afterProbe (-enodev, { s.dev with
        inputs := SurfaceDtxDev.registerInput s.dev.inputs }.unregisterInput)).bound = some i := by
      unfold afterProbe
      rw [if_neg (by simp)]
      exact hi
    obtain ⟨-, -, -, -, hunreg'⟩ := hafter.inputDev i hbound
    have hinput : { s.dev with
        inputs := SurfaceDtxDev.registerInput s.dev.inputs }.unregisterInput = _ :=
      SurfaceDtxDev.unregisterInput_some hdev
    rw [hinput] at hunreg'
    have htwice : Function.update s.dev.inputs.unregistered i
        (s.dev.inputs.unregistered i + 1) i = 0 := hunreg'
    rw [Function.update_self] at htwice
    cases htwice
  | failed hlate hregister hinactive hfails hstatus d' hactive _ =>
    -- the device stays active although no probe is bound
    have hsome := hafter.active
    unfold afterProbe at hsome
    rw [if_neg hstatus, hnone hinactive] at hsome
    rw [hactive] at hsome
    cases hsome
  | done hsucceeds hinactive =>
    simp [DtxBindAction.clean, hsucceeds, hinactive] at hclean

lemma balanced_step_iff {a : DtxBindAction} (h : s.Balanced) (hstep : s.step a = some t) :
    t.Balanced ↔ a.clean s = true := by
  cases a with
  | probe env =>
    cases hstep
    have hr := s.dev.surfaceSamDtxProbe_result env
    constructor
    · intro hafter
      by_contra hclean
      exact not_balanced h hr (Bool.eq_false_iff.mpr hclean) hafter
    · intro hclean
      change (s.afterProbe (s.dev.surfaceSamDtxProbe env)).Balanced
      generalize s.dev.surfaceSamDtxProbe env = r at hr
      cases hr with
      | early _ hstatus l hl => exact h.early hstatus hl
      | unregistered hlate hregister =>
        simp [DtxBindAction.clean, SurfaceDtxDev.ProbeEnv.succeeds, hlate, hregister] at hclean
      | busy hlate _ hactive => simp [DtxBindAction.clean, hlate, hactive] at hclean
      | failed hlate _ _ hfails _ _ _ _ => simp [DtxBindAction.clean, hlate, hfails] at hclean
      | done _ hinactive => exact h.done hinactive
  | remove =>
    cases hstep
    exact iff_of_true h.remove rfl

/-- A probe that fails early leaves the device and all registrations alone. -/
lemma probe_failed {env : SurfaceDtxDev.ProbeEnv}
    (hclean : (DtxBindAction.probe env).clean s = true)
    (hfailed : (s.dev.surfaceSamDtxProbe env).1 ≠ 0) :
    ∃ l, (s.dev.surfaceSamDtxProbe env).2 = { s.dev with inputs := l } ∧
      l.registered = s.dev.inputs.registered ∧ l.unregistered = s.dev.inputs.unregistered := by
  have hr := s.dev.surfaceSamDtxProbe_result env
  generalize s.dev.surfaceSamDtxProbe env = r at hr hfailed
  cases hr with
  | early _ _ l hl =>
    refine ⟨l, rfl, ?_⟩
    rcases hl with rfl | rfl
    · exact ⟨rfl, rfl⟩
    · exact ⟨rfl, rfl⟩
  | unregistered hlate hregister =>
    simp [DtxBindAction.clean, SurfaceDtxDev.ProbeEnv.succeeds, hlate, hregister] at hclean
  | busy hlate _ hactive => simp [DtxBindAction.clean, hlate, hactive] at hclean
  | failed hlate _ _ hfails _ _ _ _ => simp [DtxBindAction.clean, hlate, hfails] at hclean
  | done _ _ => exact absurd rfl hfailed

lemma Balanced.probe_succeeds {env : SurfaceDtxDev.ProbeEnv} (h : s.Balanced)
    (hbound : s.bound = none) (henv : env.succeeds = true) :
    (s.dev.surfaceSamDtxProbe env).1 = 0 := by
  have hactive : s.dev.active = false := by
    rw [h.active, hbound]
    rfl
  have hr := s.dev.surfaceSamDtxProbe_result env
  generalize s.dev.surfaceSamDtxProbe env = r at hr
  cases hr with
  | early hearly _ _ _ => simp [SurfaceDtxDev.ProbeEnv.succeeds, hearly] at henv
  | unregistered _ hregister => simp [SurfaceDtxDev.ProbeEnv.succeeds, hregister] at henv
  | busy _ _ hbusy =>
    rw [hactive] at hbusy
    cases hbusy
  | failed _ _ _ hfails _ _ _ _ =>
    rw [henv] at hfails
    cases hfails
  | done _ _ => rfl

end DtxBinding

/-- As long as every probe fails early, or succeeds on a free device, the bindings are
balanced, failed probes change no registration, and a probe that can succeed does. A step
from a balanced state keeps the balance exactly if it is such a step. -/
theorem dtxBinding_balanced (s : DtxBinding) :
    (Machine.Reaches DtxBinding.step (fun s a => a.clean s = true) .static s →
      s.Balanced ∧
      (∀ env, (DtxBindAction.probe env).clean s = true → (s.dev.surfaceSamDtxProbe env).1 ≠ 0 →
        ∃ l, (s.dev.surfaceSamDtxProbe env).2 = { s.dev with inputs := l } ∧
          l.registered = s.dev.inputs.registered ∧ l.unregistered = s.dev.inputs.unregistered) ∧
      ∀ env, s.bound = none → env.succeeds = true → (s.dev.surfaceSamDtxProbe env).1 = 0) ∧
    ∀ (t : DtxBinding) (a : DtxBindAction), s.Balanced → s.step a = some t →
      (t.Balanced ↔ a.clean s = true) := by
  refine ⟨fun hs => ?_, fun t a h hstep => DtxBinding.balanced_step_iff h hstep⟩
  have hbalanced : s.Balanced := hs.invariant DtxBinding.balanced_static
    fun t a u ht hclean hu => (DtxBinding.balanced_step_iff ht hu).mpr hclean
  exact ⟨hbalanced, fun env hclean hfailed => DtxBinding.probe_failed hclean hfailed,
    fun env hbound henv => hbalanced.probe_succeeds hbound henv⟩

/-- The EC reports laptop mode, and all goes well. -/
def goodDtxProbe : SurfaceDtxDev.ProbeEnv := ⟨0, true, (0, [1]), 0, 0, 0, 0⟩

/-- A failed operation mode query, and then a probe that succeeds. -/
theorem dtxBinding_balanced_probe :
    let noMode := { goodDtxProbe with opmode := (-eio, []) }
    ∃ s, Machine.run DtxBinding.step .static [.probe noMode, .probe goodDtxProbe] = some s ∧
      s.Balanced ∧ s.bound = some 1 ∧ (DtxBinding.mk s.dev.surfaceSamDtxRemove none).Balanced := by
  intro noMode
  obtain ⟨s, hs⟩ : ∃ s, Machine.run DtxBinding.step .static
      [.probe noMode, .probe goodDtxProbe] = some s := ⟨_, rfl⟩
  have hmeets : Machine.Meets DtxBinding.step (fun s a => a.clean s = true) .static
      [.probe noMode, .probe goodDtxProbe] := by decide
  obtain ⟨hrun, hsteps⟩ := dtxBinding_balanced s
  have hbalanced := (hrun (Machine.reaches_of_run hs hmeets)).1
  refine ⟨s, hs, hbalanced, ?_, (hsteps _ .remove hbalanced rfl).mpr rfl⟩
  cases hs
  rfl

/-- The event source cannot be enabled: the probe fails, but the device stays active. The
next probe fails although all functions it calls succeed, the input device of the first is
unregistered twice, and that of the second never. -/
theorem dtxBinding_unbalanced :
    let noSource := { goodDtxProbe with enableEventSource := -eio }
    ∃ s t, DtxBinding.step .static (.probe noSource) = some s ∧ s.bound = none ∧
      s.dev.active = true ∧ s.step (.probe goodDtxProbe) = some t ∧
      (s.dev.surfaceSamDtxProbe goodDtxProbe).1 = -enodev ∧ t.dev.inputs.unregistered 0 = 2 ∧
      t.dev.inputs.registered 1 = true ∧ t.dev.inputs.unregistered 1 = 0 := by
  intro noSource
  exact ⟨_, _, rfl, rfl, rfl, rfl, by decide, by decide, by decide, by decide⟩

end SurfaceSam
