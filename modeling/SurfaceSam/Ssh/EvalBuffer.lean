import SurfaceSam.Ssh.Evaluation

/-!
# The evaluation buffer

What one call of the receive callback does to the buffer: it takes the bytes it has room
for, evaluates, and keeps exactly the bytes behind the last evaluated one. None of the
16-bit operations on the lengths wraps as long as the buffer is not over-full.
-/

namespace SurfaceSam

open Devlib

/-- The bytes waiting in the evaluation buffer. -/
def EvalBuf.pending (b : EvalBuf) : List UInt8 := b.ptr.slice 0 b.len.toNat

def EvalBuf.room (b : EvalBuf) : ℕ := b.cap.toNat - b.len.toNat

@[simp] lemma EvalBuf.length_pending (b : EvalBuf) : b.pending.length = b.len.toNat := by
  simp [EvalBuf.pending]

lemma sizeT_sub {a b : ℕ} (hle : b ≤ a) (hlt : a < 2 ^ 64) : sizeT ((a : ℤ) - (b : ℤ)) = a - b := by
  unfold sizeT
  omega

lemma sshEval_le (E : SshEnv) (ec : SamSshEc) (mem : Memory UInt8) (size : ℕ) :
    (sshEval E ec mem size).1 ≤ size := by
  rcases sshEval_cases E ec mem size with h | h | h | ⟨n, d, -, hn, -, h⟩
  · rw [sshEval_needMore ec h]
    exact Nat.zero_le _
  · rw [sshEval_ctrl ec h]
    exact h.le_size
  · have hmsg := h.msg_le
    rw [sshEval_cmd ec h]
    rcases ec.onCmd_cases (E := E) (mem 3) (eventWorkAt mem) (mem.slice 16 (mem 3 - 8).toNat) with
      ⟨-, h⟩ | ⟨-, ⟨d, -, h⟩ | ⟨-, -, -, h⟩ | ⟨-, -, -, h⟩⟩
    all_goals
      rw [h]
      dsimp only
      omega
  · rw [h]
    exact hn

/-- The memory the evaluation loop runs on once the bytes `t` are taken. -/
def EvalBuf.filled (b : EvalBuf) (t : List UInt8) : Memory UInt8 := b.ptr.memcpy b.len.toNat t

lemma EvalBuf.slice_filled (b : EvalBuf) (t : List UInt8) :
    (b.filled t).slice 0 (b.len.toNat + t.length) = b.pending ++ t :=
  Memory.slice_memcpy_append b.ptr b.len.toNat t

/-- The evaluation loop over the waiting bytes followed by `t`. -/
def SshPort.evaluate (E : SshEnv) (p : SshPort) (t : List UInt8) : ℕ × SamSshEc :=
  drain (sshEval E) (p.evalBuf.filled t) (p.evalBuf.len.toNat + t.length)
    (p.evalBuf.len.toNat + t.length) 0 p.ec

lemma SshPort.evaluate_le (E : SshEnv) (p : SshPort) (t : List UInt8) :
    (p.evaluate E t).1 ≤ p.evalBuf.len.toNat + t.length :=
  drain_le (sshEval_le E) _ _ _ _ _ (Nat.zero_le _)

/-- One call of the receive callback on a buffer that is not over-full. -/
theorem sshReceiveBuf_spec (E : SshEnv) (p : SshPort) (buf : List UInt8)
    (hlen : p.evalBuf.len.toNat ≤ p.evalBuf.cap.toNat) :
    let t := buf.take p.evalBuf.room
    let r := p.evaluate E t
    let res := sshReceiveBuf E p buf
    res.1 = t.length ∧ res.2.ec = r.2 ∧ res.2.evalBuf.cap = p.evalBuf.cap ∧
      res.2.evalBuf.pending = (p.evalBuf.pending ++ t).drop r.1 ∧
      res.2.evalBuf.len.toNat ≤ p.evalBuf.cap.toNat := by
  intro t r res
  have hcap := p.evalBuf.cap.toNat_lt
  have hroom : sizeT ((p.evalBuf.cap.toNat : ℤ) - (p.evalBuf.len.toNat : ℤ)) = p.evalBuf.room :=
    sizeT_sub hlen (by omega)
  have hused : min buf.length p.evalBuf.room = t.length := by
    rw [List.length_take, Nat.min_comm]
  have hfit : p.evalBuf.len.toNat + t.length ≤ p.evalBuf.cap.toNat := by
    rw [← hused]
    unfold EvalBuf.room
    omega
  have htake : buf.take t.length = t := by
    rw [← hused, Nat.min_comm, ← List.take_take, List.take_length]
  have hnew : (p.evalBuf.len + UInt16.ofNat t.length).toNat = p.evalBuf.len.toNat + t.length := by
    rw [UInt16.toNat_add, UInt16.toNat_ofNat']
    omega
  have hoffs : r.1 ≤ p.evalBuf.len.toNat + t.length := p.evaluate_le E t
  have hrest : (p.evalBuf.len + UInt16.ofNat t.length - UInt16.ofNat r.1).toNat =
      p.evalBuf.len.toNat + t.length - r.1 := by
    rw [UInt16.toNat_sub, hnew, UInt16.toNat_ofNat']
    omega
  have hres : res = (t.length, {
      ec := r.2
      evalBuf := {
        cap := p.evalBuf.cap
        len := p.evalBuf.len + UInt16.ofNat t.length - UInt16.ofNat r.1
        ptr := (p.evalBuf.filled t).memmove r.1
          (p.evalBuf.len + UInt16.ofNat t.length - UInt16.ofNat r.1).toNat } }) := by
    change sshReceiveBuf E p buf = _
    unfold sshReceiveBuf
    simp only [hroom, hused, htake, hnew]
    rfl
  rw [hres]
  refine ⟨rfl, rfl, rfl, ?_, ?_⟩
  · unfold EvalBuf.pending
    dsimp only
    rw [Memory.slice_memmove, hrest]
    change _ = (p.evalBuf.pending ++ t).drop r.1
    rw [← EvalBuf.slice_filled, Memory.drop_slice, Nat.zero_add]
  · dsimp only
    omega

end SurfaceSam
