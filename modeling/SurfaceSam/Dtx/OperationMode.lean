import SurfaceSam.Devlib.Machine
import SurfaceSam.Events.Handlers
import SurfaceSam.Ssh.Reply

/-!
# Reported operation modes

What user space is told about the operation mode while the detachment handler works through
events of the EC. The mode and the status of its query share one integer.
-/

namespace SurfaceSam

open Devlib

/-! ### The query -/

/-- The EC has been asked for its mode and has given it. -/
def AnsweredWith (answer : ℤ × List UInt8) (mode : UInt8) : Prop := answer = (0, [mode])

lemma surfaceSamQueryOpmpde_answered {answer : ℤ × List UInt8} {mode : UInt8}
    (h : AnsweredWith answer mode) : SurfaceDtxDev.surfaceSamQueryOpmpde answer = mode.toNat := by
  cases h
  rfl

/-- As long as errors are negative, a query has a mode exactly if its value is not negative. -/
lemma surfaceSamQueryOpmpde_nonneg_iff {answer : ℤ × List UInt8} (h : answer.1 ≤ 0) :
    0 ≤ SurfaceDtxDev.surfaceSamQueryOpmpde answer ↔ ∃ mode, AnsweredWith answer mode := by
  obtain ⟨status, response⟩ := answer
  unfold SurfaceDtxDev.surfaceSamQueryOpmpde AnsweredWith
  dsimp only at h ⊢
  split_ifs with hstatus
  · refine iff_of_false (by omega) ?_
    rintro ⟨mode, hmode⟩
    cases hmode
    exact hstatus rfl
  · rw [not_not] at hstatus
    subst hstatus
    cases response with
    | nil => exact iff_of_false (by decide) nofun
    | cons mode rest =>
      cases rest with
      | nil => exact iff_of_true (Int.natCast_nonneg _) ⟨mode, rfl⟩
      | cons _ _ => exact iff_of_false (by decide : ¬0 ≤ -efault) nofun

/-- The request of the query. -/
def opmodeRqst : SurfaceSamSshRqst := ⟨0x11, 0, 0x0D, 1, 0, fun _ => 0⟩

/-- The answer that the query takes from the result of its request. -/
def opmodeAnswer (r : ℤ × Option SurfaceSamSshBuf) : ℤ × List UInt8 :=
  (r.1, match r.2 with
    | none => []
    | some res => res.data.slice 0 res.len.toNat)

/-- In every interleaving with received messages and timeouts, the query has a mode exactly if its
value is not negative. -/
theorem opmodeAnswer_nonneg_iff {E : SshEnv} {acts : List (Act SshLine)} {ec ec' : SamSshEc}
    {data : Memory UInt8} {r : ℤ × Option SurfaceSamSshBuf}
    (hrun : Prog.run (SshLine.step E) acts
      (surfaceSamSshRqstUnlocked E opmodeRqst (some ⟨1, 0, data⟩)) ec = some (r, ec')) :
    0 ≤ SurfaceDtxDev.surfaceSamQueryOpmpde (opmodeAnswer r) ↔
      ∃ mode, AnsweredWith (opmodeAnswer r) mode :=
  surfaceSamQueryOpmpde_nonneg_iff (surfaceSamSshRqstUnlocked_returned hrun).status

/-! ### An update -/

/-- What an update may tell user space: the mode the EC has answered with, nothing without one. -/
structure UpdateReal (answer : ℤ × List UInt8) (outputs : List OpmodeOutput) : Prop where
  event : ∀ e, .pushEvent e ∈ outputs → e.code = 0x0D → AnsweredWith answer e.arg0
  report : ∀ value, .reportTabletMode value ∈ outputs →
    ∃ mode, AnsweredWith answer mode ∧ (value = true ↔ mode = 0x00)
  failed : (¬∃ mode, AnsweredWith answer mode) → outputs = []

lemma toU8_toNat (b : UInt8) : toU8 b.toNat = b := by
  have hb : b.toNat < 256 := b.toNat_lt
  unfold toU8
  rw [Int.emod_eq_of_lt (Int.natCast_nonneg _) (by omega), Int.toNat_natCast, UInt8.ofNat_toNat]

lemma updateReal_iff (answer : ℤ × List UInt8) :
    UpdateReal answer (surfaceDtxUpdateOpmpde answer) ↔ ∃ mode, AnsweredWith answer mode := by
  constructor
  · intro hreal
    by_contra hnone
    cases hreal.failed hnone
  · rintro ⟨mode, hmode⟩
    have houtputs : surfaceDtxUpdateOpmpde answer =
        [.pushEvent ⟨0x11, 0x0D, mode, 0x00⟩, .reportTabletMode ((mode.toNat : ℤ) == 0x00)] := by
      unfold surfaceDtxUpdateOpmpde
      rw [surfaceSamQueryOpmpde_answered hmode]
      dsimp only
      rw [toU8_toNat]
    rw [houtputs]
    refine ⟨fun e he _ => ?_, fun value hvalue => ?_, fun hnone => absurd ⟨mode, hmode⟩ hnone⟩
    · simp at he
      subst he
      exact hmode
    · simp at hvalue
      subst hvalue
      refine ⟨mode, hmode, ?_⟩
      rw [← UInt8.toNat_inj]
      simp

/-! ### Runs -/

/-- An event that is handled, with its payload and what the functions called return. -/
structure DtxArrival where
  event : SurfaceSamSshEvent
  pld : Memory UInt8
  outcomes : HandlerOutcomes

/-- The handler works through events, and logs what it does. -/
def handleDtxEvents : Machine (List HandlerOutput) DtxArrival := fun log a =>
  some (log ++ ((surfaceDtxEvtDtx a.outcomes a.event).run a.pld).2)

/-- The event makes the handler ask for the mode. -/
def DtxArrival.asksMode (a : DtxArrival) : Bool :=
  a.event.cid == samEventDtxCidConnection && decide (a.event.len ≤ 2)

/-- Updates are made by connection events, with the answer to their query. -/
lemma updateOpmode_mem_iff {a : DtxArrival} {answer : ℤ × List UInt8} {outputs : List OpmodeOutput} :
    .updateOpmode answer outputs ∈ ((surfaceDtxEvtDtx a.outcomes a.event).run a.pld).2 ↔
      a.asksMode = true ∧ answer = a.outcomes.opmode ∧ outputs = surfaceDtxUpdateOpmpde answer := by
  have hsecond : .updateOpmode answer outputs ∈ (surfaceDtxConnection a.outcomes a.event).run a.pld ↔
      a.event.cid = samEventDtxCidConnection ∧ answer = a.outcomes.opmode ∧
        outputs = surfaceDtxUpdateOpmpde answer := by
    rw [run_surfaceDtxConnection]
    split_ifs with hcid hconnected
    · simp [hcid]
      rintro rfl
      rfl
    · simp [hcid]
      rintro rfl
      rfl
    · simp [hcid]
  have hforwarded (hcid : a.event.cid = samEventDtxCidConnection) :
      isDtxForwarded a.event = true := by simp [isDtxForwarded, hcid]
  rw [run_surfaceDtxEvtDtx]
  unfold DtxArrival.asksMode
  obtain ⟨hrun, hnot⟩ | ⟨hrun, -, hlong⟩ | ⟨⟨e, hrun⟩, -, hshort⟩ :=
    run_surfaceDtxForward_cases a.event a.pld
  · have hcid : a.event.cid ≠ samEventDtxCidConnection := by
      intro hcid
      rw [hforwarded hcid] at hnot
      cases hnot
    simp [hrun, hsecond, hcid]
  · simp [hrun, hlong]
  · simp [hrun, hsecond, hshort]

lemma handleDtxEvents_log {as : List DtxArrival} {log log' : List HandlerOutput}
    (h : Machine.run handleDtxEvents log as = some log') :
    log' = log ++ as.flatMap fun a => ((surfaceDtxEvtDtx a.outcomes a.event).run a.pld).2 := by
  induction as generalizing log with
  | nil =>
    cases h
    exact (List.append_nil _).symm
  | cons a as ih =>
    have hrest := ih h
    rw [hrest, List.flatMap_cons, List.append_assoc]

/-- In a run over any events, all that user space is told about the mode is real exactly if every
query that is made in it is answered with a mode. -/
theorem dtxEvents_modeReal_iff (as : List DtxArrival) (log : List HandlerOutput)
    (hrun : Machine.run handleDtxEvents [] as = some log) :
    (∀ answer outputs, .updateOpmode answer outputs ∈ log → UpdateReal answer outputs) ↔
      ∀ a ∈ as, a.asksMode = true → ∃ mode, AnsweredWith a.outcomes.opmode mode := by
  rw [handleDtxEvents_log hrun, List.nil_append]
  constructor
  · intro hreal a ha hasks
    apply (updateReal_iff _).mp
    apply hreal
    exact List.mem_flatMap.mpr ⟨a, ha, updateOpmode_mem_iff.mpr ⟨hasks, rfl, rfl⟩⟩
  · intro hanswered answer outputs hmem
    obtain ⟨a, ha, hupdate⟩ := List.mem_flatMap.mp hmem
    obtain ⟨hasks, rfl, rfl⟩ := updateOpmode_mem_iff.mp hupdate
    exact (updateReal_iff _).mpr (hanswered a ha hasks)

/-- The base has been attached, in a message with two bytes of payload. -/
def attachedMessage : SshCmdMessage := ⟨0, 0, 0x11, 0, 1, 0, 0x11, 0, 0x0c, [1, 0], by decide⟩

/-- The event is handled, and the query for the mode gets the given answer. -/
def attachedAnswered (answer : ℤ × List UInt8) : DtxArrival :=
  ⟨attachedMessage.work.event, fun i => [1, 0].getD i 0, { HandlerOutcomes.good 0 with opmode := answer }⟩

/-- The EC answers twice, first with tablet mode. -/
theorem dtxEvents_modeReal_iff_answered :
    ∃ log, Machine.run handleDtxEvents []
        [attachedAnswered (0, [0]), attachedAnswered (0, [1])] = some log ∧
      ∀ answer outputs, .updateOpmode answer outputs ∈ log → UpdateReal answer outputs := by
  obtain ⟨log, hrun⟩ : ∃ log, Machine.run handleDtxEvents []
      [attachedAnswered (0, [0]), attachedAnswered (0, [1])] = some log := ⟨_, rfl⟩
  refine ⟨log, hrun, (dtxEvents_modeReal_iff _ log hrun).mpr fun a ha _ => ?_⟩
  simp at ha
  obtain rfl | rfl := ha
  · exact ⟨0, rfl⟩
  · exact ⟨1, rfl⟩

/-- The query times out. User space is told that the mode is 251, and not tablet mode. -/
theorem dtxEvents_modeReal_fails :
    ∃ log, Machine.run handleDtxEvents [] [attachedAnswered (-eio, [])] = some log ∧
      log = [.pushEvent ⟨0x11, 0x0C, 1, 0⟩, .msleep 1000, .updateOpmode (-eio, [])
        [.pushEvent ⟨0x11, 0x0D, 251, 0⟩, .reportTabletMode false]] ∧
      ¬∀ answer outputs, .updateOpmode answer outputs ∈ log → UpdateReal answer outputs := by
  refine ⟨_, rfl, rfl, fun hreal => ?_⟩
  have hupdate : UpdateReal (-eio, [])
      [.pushEvent ⟨0x11, 0x0D, 251, 0⟩, .reportTabletMode false] := hreal _ _ (by decide)
  have hanswered := hupdate.event _ List.mem_cons_self rfl
  cases hanswered

end SurfaceSam
