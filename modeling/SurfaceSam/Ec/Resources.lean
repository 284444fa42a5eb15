import SurfaceSam.Ec.System

/-!
# What the EC holds

While the EC is initialized or suspended it holds the five resources of the probe that
succeeded; while it is not, they have all been released. Probes under way hold their own.
-/

namespace SurfaceSam

open Devlib

namespace SshDevice

/-- In the order they are released. -/
def ProbeBufs.all (b : ProbeBufs) : List ℕ :=
  [b.queueEvt, b.queueAck, b.evalBuf, b.readBuf, b.writeBuf]

lemma errBusy_eq (b : ProbeBufs) (l : Ledger) : errBusy b l = l.releaseAll b.all := rfl

/-- A pointer is set, and what it points to has not been released. -/
def Holds (d : SshDevice) (p : KPtr) : Prop :=
  ∃ r, p = some r ∧ r < d.ledger.next ∧ d.ledger.released r = 0

/-- Everything that messages are written to and read from is there. -/
structure Ready (d : SshDevice) : Prop where
  serdev : ∃ serdev, d.serdev = some serdev ∧ d.opened serdev = true
  writer : d.Holds d.writerData
  fifo : d.Holds d.fifoData
  evalBuf : d.Holds d.evalPtr
  evalCap : d.evalCap = 263
  queueAck : d.Holds d.queueAck
  queueEvt : d.Holds d.queueEvt

def HandlersNull (d : SshDevice) : Prop :=
  ∀ i < samNumEventTypes,
    d.handler i = none ∧ d.handlerData i = none ∧ (d.ec.events.handler i).delay = none

/-- The pointers of the EC are those a probe has stored. -/
def Has (d : SshDevice) (b : ProbeBufs) : Prop :=
  (∃ serdev, d.serdev = some serdev ∧ d.opened serdev = true) ∧
    d.writerData = some b.writeBuf ∧ d.fifoData = some b.readBuf ∧ d.evalPtr = some b.evalBuf ∧
    d.evalCap = 263 ∧ d.queueAck = some b.queueAck ∧ d.queueEvt = some b.queueEvt

/-- The invariant, where probes under way hold `others`. -/
structure Inv (d : SshDevice) (others : List ℕ) : Prop where
  uninitialized : d.state = .uninitialized → d.HandlersNull ∧ d.ledger.Owns others
  initialized : d.state ≠ .uninitialized → ∃ b, d.Has b ∧ d.ledger.Owns (b.all ++ others)

variable {d : SshDevice} {others : List ℕ}

lemma Has.ready {b : ProbeBufs} (h : d.Has b) (howns : d.ledger.Owns (b.all ++ others)) :
    d.Ready := by
  obtain ⟨hserdev, hwriter, hfifo, heval, hcap, hack, hevt⟩ := h
  constructor
  · exact hserdev
  · exact ⟨_, hwriter, howns.live (by simp [ProbeBufs.all])⟩
  · exact ⟨_, hfifo, howns.live (by simp [ProbeBufs.all])⟩
  · exact ⟨_, heval, howns.live (by simp [ProbeBufs.all])⟩
  · exact hcap
  · exact ⟨_, hack, howns.live (by simp [ProbeBufs.all])⟩
  · exact ⟨_, hevt, howns.live (by simp [ProbeBufs.all])⟩

lemma Inv.perm {others' : List ℕ} (h : d.Inv others) (hperm : others.Perm others') :
    d.Inv others' where
  uninitialized hstate := (h.uninitialized hstate).imp_right fun howns => howns.perm hperm
  initialized hstate := by
    obtain ⟨b, hb, howns⟩ := h.initialized hstate
    exact ⟨b, hb, howns.perm (hperm.append_left _)⟩

/-- Other owners may change with the ledger. -/
lemma Inv.ledger {l : Ledger} {others' : List ℕ} (h : d.Inv others)
    (hl : ∀ owned, d.ledger.Owns (owned ++ others) → l.Owns (owned ++ others')) :
    { d with ledger := l }.Inv others' where
  uninitialized hstate := (h.uninitialized hstate).imp_right fun howns => hl [] howns
  initialized hstate := by
    obtain ⟨b, hb, howns⟩ := h.initialized hstate
    exact ⟨b, hb, hl _ howns⟩

/-- What the probe holds after its allocations. -/
def heldBy : Except ℤ ProbeBufs → List ℕ
  | .error _ => []
  | .ok b => b.all

lemma probeAlloc_owns (env : ProbeEnv) {l : Ledger} {owned : List ℕ} (h : l.Owns owned) :
    (probeAlloc env l).2.Owns (heldBy (probeAlloc env l).1 ++ owned) := by
  have h₁ := h.alloc
  have h₂ := h₁.alloc
  have h₃ := h₂.alloc
  have h₄ := h₃.alloc
  have h₅ := h₄.alloc
  unfold probeAlloc
  split_ifs
  · exact h
  · exact h
  · exact h₁.release
  · exact h₂.release.release
  · exact h₃.release.release.release
  · exact h₄.release.release.release.release
  · exact h₅

/-! ### Every operation keeps the invariant -/

section Keep

variable {b : ProbeBufs}

lemma Inv.alloc (h : d.Inv others) (env : ProbeEnv) :
    { d with ledger := (probeAlloc env d.ledger).2 }.Inv
      (heldBy (probeAlloc env d.ledger).1 ++ others) := by
  apply h.ledger
  intro owned howns
  exact (probeAlloc_owns env howns).perm (List.perm_append_comm_assoc _ _ _)

lemma Inv.unwind (h : d.Inv (b.all ++ others)) :
    { d with ledger := errBusy b d.ledger }.Inv others := by
  apply h.ledger
  intro owned howns
  rw [errBusy_eq]
  exact (howns.perm (List.perm_append_comm_assoc _ _ _)).releaseAll

/-- A probe that fails keeps what it has allocated, one that succeeds leaves it to the EC. -/
lemma Inv.setup {serdev : ℕ} {r : ℤ × SshDevice} (h : d.Inv (b.all ++ others))
    (hr : SetupResult serdev b d r) :
    (r.1 ≠ 0 → r.2.Inv (b.all ++ others)) ∧ (r.1 = 0 → r.2.Inv others) := by
  cases hr with
  | busy _ => exact ⟨fun _ => h, fun hbusy => absurd hbusy (by simp)⟩
  | failed hstate hstatus ec opened hec =>
    refine ⟨fun _ => ⟨fun _ => ?_, fun hne => absurd rfl hne⟩, fun hzero => absurd hzero hstatus⟩
    obtain ⟨hnull, howns⟩ := h.uninitialized hstate
    refine ⟨fun i hi => ?_, howns⟩
    obtain ⟨hhandler, hdata, hdelay⟩ := hnull i hi
    refine ⟨hhandler, hdata, ?_⟩
    change (ec.events.handler i).delay = none
    rw [hec]
    exact hdelay
  | done hstate ec hec =>
    refine ⟨fun hne => absurd rfl hne, fun _ => ⟨fun hinit => (by cases hinit), fun _ => ?_⟩⟩
    have hopened : Function.update d.opened serdev true serdev = true := Function.update_self ..
    exact ⟨b, ⟨⟨serdev, rfl, hopened⟩, rfl, rfl, rfl, rfl, rfl, rfl⟩, (h.uninitialized hstate).2⟩

lemma ledger_teardown (hb : d.Has b) (serdev : ℕ) : (d.teardown serdev).ledger =
    d.ledger.releaseAll [b.queueAck, b.queueEvt, b.writeBuf, b.readBuf, b.evalBuf] := by
  change (((((d.ledger.releasePtr d.queueAck).releasePtr d.queueEvt).releasePtr
    d.writerData).releasePtr d.fifoData).releasePtr d.evalPtr) = _
  obtain ⟨-, hwriter, hfifo, heval, -, hack, hevt⟩ := hb
  rw [hack, hevt, hwriter, hfifo, heval]
  rfl

lemma handlersNull_teardown (d : SshDevice) (serdev : ℕ) : (d.teardown serdev).HandlersNull := by
  intro i hi
  refine ⟨if_pos hi, if_pos hi, ?_⟩
  change (if i < samNumEventTypes then (⟨none⟩ : SshEventHandler)
    else d.ec.events.handler i).delay = none
  rw [if_pos hi]

lemma Inv.teardown (h : d.Inv others) (hstate : d.state ≠ .uninitialized) (ec : SamSshEc)
    (serdev : ℕ) : ({ d with ec := ec }.teardown serdev).Inv others := by
  obtain ⟨b, hb, howns⟩ := h.initialized hstate
  have hhas : { d with ec := ec }.Has b := hb
  refine ⟨fun _ => ⟨handlersNull_teardown _ serdev, ?_⟩, fun hne => absurd rfl hne⟩
  rw [ledger_teardown hhas serdev]
  refine Ledger.Owns.releaseAll (Ledger.Owns.congr howns fun r => ?_)
  simp only [ProbeBufs.all, List.cons_append, List.nil_append, List.count_cons]
  omega

lemma Change.inv {d' : SshDevice} (h : d.Inv others) (hchange : d.Change d') : d'.Inv others := by
  cases hchange with
  | unchanged => exact h
  | lost => exact ⟨h.uninitialized, h.initialized⟩
  | requested hstate state' hinit ec =>
    exact ⟨fun huninit => absurd huninit hinit, fun _ => h.initialized hstate⟩
  | handler hstate i fn delay data =>
    exact ⟨fun huninit => absurd huninit hstate, fun _ => h.initialized hstate⟩
  | aborted halloc =>
    have hinv := h.alloc ‹_›
    rw [halloc] at hinv
    exact hinv
  | probed halloc hresult =>
    have hinv := h.alloc ‹_›
    rw [halloc] at hinv
    obtain ⟨hfailed, hdone⟩ := hinv.setup hresult
    split_ifs with hstatus
    · exact (hfailed hstatus).unwind
    · exact hdone (not_not.mp hstatus)
  | removed hstate ec serdev => exact h.teardown hstate ec serdev

end Keep

end SshDevice

/-! ### Runs -/

def ProbeFrame.held : ProbeFrame → List ℕ
  | allocated _ _ b => b.all
  | failed b => b.all

namespace SshSystem

def Inv (s : SshSystem) : Prop := s.dev.Inv (s.probes.flatMap ProbeFrame.held)

variable {E : SshEnv} {s t : SshSystem}

lemma inv_static : static.Inv :=
  ⟨fun _ => ⟨fun _ _ => ⟨rfl, rfl, rfl⟩, Ledger.owns_empty⟩, fun h => absurd rfl h⟩

/-- One of the probes under way, and the others. -/
lemma probes_perm {i : ℕ} {f : ProbeFrame} (hi : s.probes[i]? = some f) :
    (s.probes.flatMap ProbeFrame.held).Perm
      (f.held ++ (s.probes.eraseIdx i).flatMap ProbeFrame.held) := by
  obtain ⟨hlt, rfl⟩ := List.getElem?_eq_some_iff.mp hi
  exact (List.getElem_cons_eraseIdx_perm hlt).symm.flatMap_right _

lemma Inv.step {a : EcAction} (h : s.Inv) (hstep : s.step E a = some t) : t.Inv := by
  cases a with
  | call c =>
    obtain ⟨r, hr, rfl⟩ := Option.map_eq_some_iff.mp hstep
    exact SshDevice.Change.inv h (EcCall.run_change hr)
  | receive l =>
    cases hstep
    refine ⟨fun hstate => ?_, h.initialized⟩
    obtain ⟨hnull, howns⟩ := h.uninitialized hstate
    refine ⟨fun i hi => ?_, howns⟩
    obtain ⟨hhandler, hdata, hdelay⟩ := hnull i hi
    refine ⟨hhandler, hdata, ?_⟩
    change ((l.step E s.dev.ec).events.handler i).delay = none
    rw [l.step_handler]
    exact hdelay
  | probeAlloc env serdev =>
    have hinv := h.alloc env
    rcases step_probeAlloc hstep with ⟨_, _, halloc, rfl⟩ | ⟨_, _, halloc, rfl⟩
    · rw [halloc] at hinv
      exact hinv
    · rw [halloc] at hinv
      exact hinv
  | probeSetup i =>
    obtain ⟨env, serdev, b, r, hi, hr, rfl⟩ := step_probeSetup hstep
    cases hlock : s.dev.lock with
    | true =>
      rw [SshDevice.probeSetup_locked hlock] at hr
      cases hr
    | false =>
      obtain ⟨r', hr', hresult⟩ := SshDevice.probeSetup_result (E := E) hlock env serdev b
      cases hr.symm.trans hr'
      obtain ⟨hfailed, hdone⟩ := (SshDevice.Inv.perm h (probes_perm hi)).setup hresult
      unfold Inv
      dsimp only
      split_ifs with hstatus
      · exact hfailed hstatus
      · exact hdone (not_not.mp hstatus)
  | probeUnwind i =>
    obtain ⟨b, hi, rfl⟩ := step_probeUnwind hstep
    exact (SshDevice.Inv.perm h (probes_perm hi)).unwind

end SshSystem

/-! ### The claims of the lifecycle -/

/-- Nothing fails before probe takes the mutex. -/
def SshDevice.ProbeEnv.Prepares (env : SshDevice.ProbeEnv) : Prop :=
  env.checkDma = 0 ∧ env.writeBuf = true ∧ env.readBuf = true ∧ env.evalBuf = true ∧
    env.queueAck = true ∧ env.queueEvt = true

instance (env : SshDevice.ProbeEnv) : Decidable env.Prepares :=
  inferInstanceAs (Decidable (_ ∧ _))

namespace SshDevice

variable {E : SshEnv} {d : SshDevice}

lemma probeAlloc_error {env : ProbeEnv} {l l' : Ledger} {status : ℤ}
    (h : probeAlloc env l = (.error status, l')) :
    ¬env.Prepares ∧ status = if env.checkDma ≠ 0 then env.checkDma else -enomem := by
  unfold probeAlloc at h
  by_cases hdma : env.checkDma ≠ 0
  · rw [if_pos hdma] at h ⊢
    cases h
    exact ⟨fun hprepares => hdma hprepares.1, rfl⟩
  · rw [if_neg hdma] at h ⊢
    split_ifs at h with hwrite hread heval hack hevt
    all_goals cases h
    all_goals
      refine ⟨?_, rfl⟩
      rintro ⟨-, hwrite', hread', heval', hack', hevt'⟩
      simp_all only [Bool.not_true, Bool.false_eq_true]

lemma probeAlloc_ok {env : ProbeEnv} {l l' : Ledger} {b : ProbeBufs}
    (h : probeAlloc env l = (.ok b, l')) : env.Prepares := by
  unfold probeAlloc at h
  split_ifs at h with hdma hwrite hread heval hack hevt
  all_goals cases h
  simp only [Bool.not_eq_true', Bool.not_eq_false] at hwrite hread heval hack hevt
  exact ⟨not_not.mp hdma, hwrite, hread, heval, hack, hevt⟩

lemma probeSetup_busy (hlock : d.lock = false) (hstate : d.state ≠ .uninitialized) (env : ProbeEnv)
    (serdev : ℕ) (b : ProbeBufs) : d.probeSetup E env serdev b = some (-ebusy, d) := by
  obtain ⟨r, hr, hresult⟩ := probeSetup_result (E := E) hlock env serdev b
  cases hresult with
  | busy _ => exact hr
  | failed h _ _ _ _ => exact absurd h hstate
  | done h _ _ => exact absurd h hstate

lemma surfaceSamSshProbe_busy (hlock : d.lock = false) (hstate : d.state ≠ .uninitialized)
    (env : ProbeEnv) (serdev : ℕ) :
    ∃ l, (∀ owned, d.ledger.Owns owned → l.Owns owned) ∧
      d.surfaceSamSshProbe E env serdev = some (
        if env.checkDma ≠ 0 then env.checkDma else if env.Prepares then -ebusy else -enomem,
        { d with ledger := l }) := by
  rcases surfaceSamSshProbe_cases (E := E) hlock env serdev with
    ⟨status, l, halloc, hrun⟩ | ⟨b, l, r, halloc, hresult, hrun⟩
  · obtain ⟨hprepares, hstatus⟩ := probeAlloc_error halloc
    refine ⟨l, fun owned howns => ?_, ?_⟩
    · have howns' := probeAlloc_owns env howns
      rw [halloc] at howns'
      exact howns'
    · rw [hrun, hstatus, if_neg hprepares]
  · have hprepares := probeAlloc_ok halloc
    refine ⟨errBusy b l, fun owned howns => ?_, ?_⟩
    · have howns' := probeAlloc_owns env howns
      rw [halloc] at howns'
      exact howns'.releaseAll
    · rw [hrun, if_neg (not_not.mpr hprepares.1), if_pos hprepares]
      cases hresult with
      | busy _ => rfl
      | failed h _ _ _ _ => exact absurd h hstate
      | done h _ _ => exact absurd h hstate

end SshDevice

/-- A request of a client, or one that enables or disables an event source. -/
def EcCall.isRequest : EcCall → Bool
  | .rqst .. | .enableEventSource .. | .disableEventSource .. => true
  | _ => false

lemma EcCall.run_refused {E : SshEnv} {d : SshDevice} {c : EcCall} {r : ℤ × SshDevice}
    (hc : c.isRequest = true) (hstate : d.state = .suspended ∨ d.state = .uninitialized)
    (h : c.run E d = some r) : r.2 = d := by
  cases hlock : d.lock with
  | true =>
    rcases EcCall.run_held hlock h with hr | ⟨_, _, _, _, rfl, -, -⟩
    · exact hr
    · cases hc
  | false =>
    have hsource (cid tc unknown : UInt8) (rqid : UInt16) (o : Schedule SshLine)
        (h : d.eventSource E cid tc unknown rqid o = some r) : r.2 = d := by
      rw [SshDevice.eventSource_eq hlock, Option.some_inj] at h
      rw [← h]
      split_ifs with hevent huninit hsuspended
      · rfl
      · rfl
      · rfl
      · exact absurd hstate (not_or.mpr ⟨hsuspended, huninit⟩)
    cases c with
    | rqst rqst result o =>
      change d.surfaceSamSshRqst E rqst result o = some r at h
      rw [SshDevice.rqst_eq hlock, Option.some_inj] at h
      rw [← h]
      split_ifs with huninit hsuspended
      · rfl
      · rfl
      · exact absurd hstate (not_or.mpr ⟨hsuspended, huninit⟩)
    | enableEventSource tc unknown rqid o => exact hsource 0x0b tc unknown rqid o h
    | disableEventSource tc unknown rqid o => exact hsource 0x0c tc unknown rqid o h
    | _ => cases hc

/-- In every run, with any failures, an initialized or suspended EC has everything it works
with, and an uninitialized one has no handlers and, when no probe is under way, has released
every buffer and workqueue once. A probe that finds the EC initialized fails and changes
nothing but the ledger, where it leaves nothing behind. A suspended or uninitialized EC
refuses requests. -/
theorem ecLifecycle (E : SshEnv) :
    (∀ (as : List EcAction) (s : SshSystem),
      Machine.run (SshSystem.step E) .static as = some s →
      (s.dev.state ≠ .uninitialized → s.dev.Ready) ∧
      (s.dev.state = .uninitialized → s.dev.HandlersNull ∧
        (s.probes = [] → ∀ r < s.dev.ledger.next, s.dev.ledger.released r = 1))) ∧
    (∀ d : SshDevice, d.lock = false → d.state ≠ .uninitialized →
      ∀ (env : SshDevice.ProbeEnv) (serdev : ℕ),
        (∀ b, d.probeSetup E env serdev b = some (-ebusy, d)) ∧
        ∃ l, (∀ owned, d.ledger.Owns owned → l.Owns owned) ∧
          d.surfaceSamSshProbe E env serdev = some (
            if env.checkDma ≠ 0 then env.checkDma else if env.Prepares then -ebusy else -enomem,
            { d with ledger := l })) ∧
    ∀ (d : SshDevice) (c : EcCall), c.isRequest = true →
      (d.state = .suspended ∨ d.state = .uninitialized) →
      ∀ r, c.run E d = some r → r.2 = d := by
  refine ⟨fun as s hrun => ?_, fun d hlock hstate env serdev => ?_, fun d c hc hstate r h => ?_⟩
  · have hinv : s.Inv := Machine.run_invariant hrun SshSystem.inv_static
      fun _ _ _ h hstep => h.step hstep
    refine ⟨fun hstate => ?_, fun hstate => ?_⟩
    · obtain ⟨b, hb, howns⟩ := hinv.initialized hstate
      exact hb.ready howns
    · obtain ⟨hnull, howns⟩ := hinv.uninitialized hstate
      refine ⟨hnull, fun hprobes r hr => ?_⟩
      rw [hprobes] at howns
      exact howns.all_released hr
  · exact ⟨SshDevice.probeSetup_busy hlock hstate env serdev,
      SshDevice.surfaceSamSshProbe_busy hlock hstate env serdev⟩
  · exact EcCall.run_refused hc hstate h

/-- A probe, a second one, and an EC that has not been probed. -/
theorem ecLifecycle_probed : ∃ s, Machine.run (SshSystem.step kernelEnv) .static
      [.call (.probe goodProbe 0)] = some s ∧ s.dev.Ready ∧
    (∃ l, s.dev.surfaceSamSshProbe kernelEnv goodProbe 1 = some (-ebusy, { s.dev with ledger := l })) ∧
    ∀ r, (EcCall.enableEventSource 8 0 8 firstAnswer).run kernelEnv .static = some r →
      r.2 = .static := by
  obtain ⟨s, hs, hlock, hstate⟩ := goodProbe_run
  have hinit : s.dev.state ≠ .uninitialized := by
    rw [hstate]
    decide
  obtain ⟨hruns, hbusy, hrefused⟩ := ecLifecycle kernelEnv
  obtain ⟨-, l, -, hprobe⟩ := hbusy s.dev hlock hinit goodProbe 1
  exact ⟨s, hs, (hruns _ s hs).1 hinit, ⟨l, hprobe⟩, hrefused .static _ rfl (.inr rfl)⟩

/-- A second probe that cannot allocate its write buffer returns `-ENOMEM`. -/
theorem probe_enomem_before_ebusy : ∃ s d, Machine.run (SshSystem.step kernelEnv) .static
      [.call (.probe goodProbe 0)] = some s ∧ s.dev.state = .initialized ∧
    (EcCall.probe { goodProbe with writeBuf := false } 1).run kernelEnv s.dev =
      some (-enomem, d) := by
  obtain ⟨s, hs, hlock, hstate⟩ := goodProbe_run
  exact ⟨s, s.dev, hs, hstate, rfl⟩

end SurfaceSam
