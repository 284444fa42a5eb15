import SurfaceSam.Ssh.Bounds
import SurfaceSam.Ssh.Capacity

/-!
# One call of the receive callback

The evaluation loop of `ssh_receive_buf` ends for any bytes and any state of the receiver, and
it leaves nothing in the buffer that could be evaluated.
-/

namespace SurfaceSam

open Devlib

section Eval

variable {E : SshEnv} {ec : SamSshEc} {mem mem' : Memory UInt8} {size : ℕ}

/-- An evaluation that consumes nothing has no effect. -/
lemma sshEval_zero (h : (sshEval E ec mem size).1 = 0) : sshEval E ec mem size = (0, ec) :=
  sshEval_needMore ec (sshEval_eq_zero_iff.mp h)

/-- Whether more bytes are needed depends on the bytes that are there. -/
lemma sshEval_zero_congr (h : sshEval E ec mem size = (0, ec))
    (hsame : ∀ i < size, mem i = mem' i) : sshEval E ec mem' size = (0, ec) := by
  have hshort : ¬SshShortCmd E ec mem size := by
    rintro ⟨hcomplete, -⟩
    have hpos := congrArg Prod.fst h
    rw [sshEval_cmd ec hcomplete] at hpos
    obtain ⟨-, hres⟩ | ⟨-, ⟨d, -, hres⟩ | ⟨-, -, -, hres⟩ | ⟨-, -, -, hres⟩⟩ :=
      ec.onCmd_cases (E := E) (mem 3) (eventWorkAt mem) (mem.slice 16 (mem 3 - 8).toNat)
    all_goals
      rw [hres] at hpos
      dsimp only at hpos
      omega
  rw [← sshEval_congr hshort hsame]
  exact h

end Eval

/-- What one call does, with `r` as its return value and the state it leaves. -/
structure SshReceived (E : SshEnv) (p : SshPort) (buf : List UInt8) (r : ℕ × SshPort) : Prop where
  taken_le : r.1 ≤ buf.length
  /-- The loop ends. Each evaluation is given the rest of the buffer and consumes no more than
  that, and the 16-bit length is reduced by what has been consumed. -/
  loop : ∃ rounds offs, Drains (sshEval E) (p.evalBuf.filled (buf.take r.1))
      (p.evalBuf.len.toNat + r.1) 0 p.ec rounds (offs, r.2.ec) ∧
    (∀ round ∈ rounds, round.offs + round.size = p.evalBuf.len.toNat + r.1 ∧
      round.used ≤ round.size) ∧
    r.2.evalBuf.len.toNat + offs = p.evalBuf.len.toNat + r.1
  cap : r.2.evalBuf.cap = p.evalBuf.cap
  len_le : r.2.evalBuf.len ≤ r.2.evalBuf.cap
  left : r.2.evalBuf.pending <:+ p.evalBuf.pending ++ buf.take r.1
  needMore : r.2.evalBuf.len ≠ 0 →
    sshEval E r.2.ec r.2.evalBuf.ptr r.2.evalBuf.len.toNat = (0, r.2.ec)

/-- All calls on a buffer that is not over-full, whatever it holds and whatever comes in. -/
theorem sshReceiveBuf_received (E : SshEnv) (p : SshPort) (buf : List UInt8)
    (hlen : p.evalBuf.len ≤ p.evalBuf.cap) : SshReceived E p buf (sshReceiveBuf E p buf) := by
  obtain ⟨hused, hec, hcap, hpending, hle⟩ := sshReceiveBuf_spec E p buf (UInt16.le_iff_toNat_le.mp hlen)
  generalize sshReceiveBuf E p buf = res at hused hec hcap hpending hle
  have htake : buf.take res.1 = buf.take p.evalBuf.room := by
    rw [hused, List.length_take, ← List.take_eq_take_min]
  rw [← htake] at hused hec hpending
  generalize ht : buf.take res.1 = t at hused hec hpending
  obtain ⟨rounds, hrounds⟩ : ∃ rounds, Drains (sshEval E) (p.evalBuf.filled t)
      (p.evalBuf.len.toNat + t.length) 0 p.ec rounds (p.evaluate E t) :=
    exists_drains (sshEval E) _ p.ec (Nat.le_of_eq (Nat.zero_add _).symm)
  have hoffs := p.evaluate_le E t
  generalize hr : p.evaluate E t = r at hrounds hec hpending hoffs
  obtain ⟨offs, ec⟩ := r
  dsimp only at hec hpending hoffs
  subst hec
  have hrest : res.2.evalBuf.len.toNat + offs = p.evalBuf.len.toNat + res.1 := by
    have hlength := congrArg List.length hpending
    rw [EvalBuf.length_pending, List.length_drop, List.length_append, EvalBuf.length_pending]
      at hlength
    omega
  rw [← hused] at hrounds
  refine ⟨?_, ⟨rounds, offs, ht ▸ hrounds, hrounds.within (sshEval_le E), hrest⟩, hcap, ?_, ?_, ?_⟩
  · rw [hused, ← ht]
    exact List.length_take_le' _ _
  · rw [hcap]
    exact UInt16.le_iff_toNat_le.mpr hle
  · rw [hpending, ht]
    exact List.drop_suffix _ _
  · intro hne
    have hpos : 0 < res.2.evalBuf.len.toNat := by
      rw [Nat.pos_iff_ne_zero]
      exact fun hzero => hne (UInt16.toNat_inj.mp hzero)
    have hzero := hrounds.stuck (fun s mem size h => congrArg Prod.snd (sshEval_zero h))
      (by dsimp only; omega)
    have hsize : p.evalBuf.len.toNat + res.1 - offs = res.2.evalBuf.len.toNat := by omega
    dsimp only at hzero
    rw [hsize] at hzero
    have hslice : res.2.evalBuf.ptr.slice 0 res.2.evalBuf.len.toNat =
        ((p.evalBuf.filled t).shift offs).slice 0 res.2.evalBuf.len.toNat := by
      change res.2.evalBuf.pending = _
      rw [hpending, ← EvalBuf.slice_filled, Memory.drop_slice, Memory.slice_shift, ← hused, hsize,
        Nat.zero_add, Nat.add_zero]
    apply sshEval_zero_congr hzero
    intro i hi
    have hcell := Memory.eq_of_slice_eq hslice i (by rw [Memory.length_slice]; exact hi)
    rw [Memory.getElem_slice, Nat.zero_add] at hcell
    exact hcell.symm

/-- The buffer holds the first 12 bytes of an event message. The other 8 bytes and the beginning
of a second message are taken, and only that beginning is kept. -/
theorem sshReceiveBuf_received_second :
    let m : SshCmdMessage := ⟨0, 7, 2, 0, 1, 3, 0x11, 0, 4, [1, 2], by decide⟩
    let p := (sshReceiveBuf kernelEnv (initializeReceiver sshEc (fun _ => 0))
      ((m.bytes kernelEnv).take 12)).2
    let buf := (m.bytes kernelEnv).drop 12 ++ [0xaa, 0x55, 0x80]
    let r := sshReceiveBuf kernelEnv p buf
    SshReceived kernelEnv p buf r ∧ p.evalBuf.len = 12 ∧ r.1 = 11 ∧
      r.2.ec.events.queueAck.length = 1 ∧ r.2.evalBuf.pending = [0xaa, 0x55, 0x80] := by
  intro m p buf r
  have hlen : p.evalBuf.len ≤ p.evalBuf.cap := by decide +kernel
  exact ⟨sshReceiveBuf_received kernelEnv p buf hlen, by decide +kernel, by decide +kernel,
    by decide +kernel, by decide +kernel⟩

end SurfaceSam
