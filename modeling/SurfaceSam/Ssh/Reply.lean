import SurfaceSam.Ssh.Transaction

/-!
# What a request hands to its caller

The status and the result buffer of `surface_sam_ssh_rqst_unlocked`, for callers that go on
with them: an error is negative, and a response is stored from the start of the buffer on.
-/

namespace SurfaceSam

open Devlib

/-- A result buffer in which a response may have been stored. -/
def SurfaceSamSshBuf.FilledFrom (buf : SurfaceSamSshBuf) (res : Option SurfaceSamSshBuf) : Prop :=
  ∃ res', res = some res' ∧ (res' = buf ∨ ∃ bytes : List UInt8, bytes.length ≤ res'.len.toNat ∧
    res'.data = buf.data.memcpy 0 bytes)

lemma SurfaceSamSshBuf.filledFrom_self (buf : SurfaceSamSshBuf) : buf.FilledFrom (some buf) :=
  ⟨buf, rfl, .inl rfl⟩

lemma sshWriterFlush_returns : sshWriterFlush.Returns (fun status => status ≤ 0) := by
  intro v
  change (if 0 ≤ v then 0 else v) ≤ 0
  split_ifs
  · exact Int.le_refl 0
  · omega

lemma sshSendCommand_returns (tries : ℕ) (packet : SshFifoPacket) :
    (sshSendCommand tries packet).Returns (fun sent => ∀ status, sent = .failed status → status ≤ 0) := by
  induction tries generalizing packet with
  | zero =>
    intro status h
    cases h
  | succ tries ih =>
    unfold sshSendCommand
    refine Prog.Returns.bind sshWriterFlush_returns fun status hstatus => ?_
    split_ifs
    · intro status' h
      cases h
      exact hstatus
    · refine Prog.Returns.bind Prog.returns_true fun signalled _ => ?_
      cases signalled with
      | false => exact ih packet
      | true =>
        refine Prog.Returns.bind Prog.returns_true fun packet _ => ?_
        split_ifs
        · intro status' h
          cases h
        · exact ih packet

lemma sshGetResponse_returns (E : SshEnv) (buf : SurfaceSamSshBuf) (packet : SshFifoPacket) :
    (sshGetResponse E buf packet).Returns (fun r => r.1 ≤ 0 ∧ buf.FilledFrom (some r.2)) := by
  unfold sshGetResponse
  refine Prog.Returns.bind Prog.returns_true fun signalled _ => ?_
  cases signalled with
  | false => exact ⟨(by decide : -eio ≤ 0), buf.filledFrom_self⟩
  | true =>
    refine Prog.Returns.bind Prog.returns_true fun packet _ => ?_
    split_ifs
    · exact ⟨(by decide : -einval ≤ 0), buf.filledFrom_self⟩
    · refine Prog.Returns.bind (Q := fun res => buf.FilledFrom (some res)) ?_ fun res hres => ?_
      · exact fun ec => ⟨_, rfl, .inr ⟨_, List.length_take_le _ _, rfl⟩⟩
      · refine Prog.Returns.bind Prog.returns_true fun _ _ => ?_
        exact Prog.Returns.bind sshWriterFlush_returns fun status hstatus => ⟨hstatus, hres⟩

/-- What a request returns: no positive status, and its result buffer as it was or with a
response stored at its start; as it was, if no response is requested. -/
structure SshReturned (rqst : SurfaceSamSshRqst) (buf : SurfaceSamSshBuf)
    (r : ℤ × Option SurfaceSamSshBuf) : Prop where
  status : r.1 ≤ 0
  filled : buf.FilledFrom r.2
  silent : rqst.snc = 0 → r.2 = some buf

lemma SshReturned.unfilled {rqst : SurfaceSamSshRqst} {buf : SurfaceSamSshBuf} {status : ℤ}
    (h : status ≤ 0) : SshReturned rqst buf (status, some buf) :=
  ⟨h, buf.filledFrom_self, fun _ => rfl⟩

lemma sshTransact_returns (E : SshEnv) (rqst : SurfaceSamSshRqst) (buf : SurfaceSamSshBuf) :
    (sshTransact E rqst (some buf)).Returns (SshReturned rqst buf) := by
  unfold sshTransact
  refine Prog.Returns.bind (sshSendCommand_returns _ _) fun sent hsent => ?_
  cases sent with
  | failed status => exact .unfilled (hsent status rfl)
  | gaveUp => exact .unfilled (by decide)
  | acked packet =>
    refine Prog.Returns.bind Prog.returns_true fun _ _ => ?_
    dsimp only
    split_ifs with hsnc
    · refine Prog.Returns.bind (sshGetResponse_returns E buf packet) fun r hr => ?_
      exact ⟨hr.1, hr.2, fun h0 => absurd h0 hsnc⟩
    · exact .unfilled (Int.le_refl 0)

lemma surfaceSamSshRqstUnlocked_returns (E : SshEnv) (rqst : SurfaceSamSshRqst)
    (buf : SurfaceSamSshBuf) :
    (surfaceSamSshRqstUnlocked E rqst (some buf)).Returns (SshReturned rqst buf) := by
  unfold surfaceSamSshRqstUnlocked
  split_ifs
  · exact .unfilled (by decide)
  · refine Prog.Returns.bind Prog.returns_true fun _ _ =>
      Prog.Returns.bind Prog.returns_true fun _ _ => ?_
    refine Prog.Returns.bind (sshTransact_returns E rqst buf) fun r hr => ?_
    refine Prog.Returns.bind Prog.returns_true fun _ _ => ?_
    exact hr

section Run

variable {E : SshEnv} {rqst : SurfaceSamSshRqst} {acts : List (Act SshLine)} {ec ec' : SamSshEc}

theorem surfaceSamSshRqstUnlocked_returned {buf : SurfaceSamSshBuf}
    {r : ℤ × Option SurfaceSamSshBuf}
    (hrun : Prog.run (SshLine.step E) acts (surfaceSamSshRqstUnlocked E rqst (some buf)) ec =
      some (r, ec')) : SshReturned rqst buf r :=
  Prog.run_wp (Q := fun r _ => SshReturned rqst buf r)
    (surfaceSamSshRqstUnlocked_returns E rqst buf).wp hrun

/-- The result of a request that succeeds: a response that fits has been stored. -/
theorem surfaceSamSshRqstUnlocked_reply {cap : UInt8} {data : Memory UInt8}
    {res : Option SurfaceSamSshBuf} (hidle : ec.Idle)
    (hrun : Prog.run (SshLine.step E) acts
      (surfaceSamSshRqstUnlocked E rqst (some ⟨cap, 0, data⟩)) ec = some ((0, res), ec')) :
    ∃ response : List UInt8, response.length ≤ cap.toNat ∧
      res = some ⟨cap, UInt8.ofNat response.length, data.memcpy 0 response⟩ := by
  obtain ⟨-, ⟨res', hres', hfilled⟩, hsilent⟩ := surfaceSamSshRqstUnlocked_returned hrun
  by_cases hsnc : rqst.snc = 0
  · refine ⟨[], Nat.zero_le _, ?_⟩
    rw [Memory.memcpy_nil]
    exact hsilent hsnc
  obtain ⟨τ, hpost⟩ := Prog.run_wp (wp_surfaceSamSshRqstUnlocked _ hidle) hrun
  obtain ⟨res'', hres, hcap, hlen, _, _, _, _, pld, _, _, -, -, -, -, hlength, hslice, -⟩ :=
    hpost.answer rfl hsnc _ rfl
  cases hres'.symm.trans hres
  have hcap' : res'.cap = cap := hcap
  have hle : pld.length ≤ cap.toNat := by
    rw [← hlength, ← hcap']
    exact UInt8.le_iff_toNat_le.mp hlen
  have hdata : res'.data = data.memcpy 0 pld := by
    apply Memory.eq_memcpy_zero hslice
    intro i hi
    obtain rfl | ⟨bytes, hbytes, hcopy⟩ := hfilled
    · rfl
    · rw [hcopy, Memory.memcpy_zero_of_le data (by omega)]
  refine ⟨pld, hle, ?_⟩
  rw [← hlength, ← hdata, UInt8.ofNat_toNat, ← hcap']
  exact hres

end Run

end SurfaceSam
