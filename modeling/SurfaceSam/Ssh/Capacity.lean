import SurfaceSam.Ssh.EvalBuffer
import SurfaceSam.Ssh.Probe

/-!
# Room in the evaluation buffer

The evaluation buffer is as long as the longest request, but the length byte of a received
header can announce one or two bytes more. Such a message is waited for without end; all
other bytes are handled or thrown away before the buffer is full.
-/

namespace SurfaceSam

open Devlib

section NeedMore

variable {E : SshEnv} {ec : SamSshEc} {mem : Memory UInt8} {size : ℕ}

lemma sshEval_eq_zero_iff : (sshEval E ec mem size).1 = 0 ↔ SshNeedMore E mem size := by
  constructor
  · intro hzero
    rcases sshEval_cases E ec mem size with h | h | h | ⟨n, d, hn, -, -, h⟩
    · exact h
    · rw [sshEval_ctrl ec h] at hzero
      simp at hzero
    · rw [sshEval_cmd ec h] at hzero
      rcases ec.onCmd_cases (E := E) (mem 3) (eventWorkAt mem) (mem.slice 16 (mem 3 - 8).toNat)
        with ⟨-, h⟩ | ⟨-, ⟨d, -, h⟩ | ⟨-, -, -, h⟩ | ⟨-, -, -, h⟩⟩
      all_goals
        rw [h] at hzero
        dsimp only at hzero
        omega
    · rw [h] at hzero
      dsimp only at hzero
      omega
  · intro h
    rw [sshEval_needMore ec h]

/-- Once a buffer is long enough for a header, only a command message is waited for. -/
lemma needMore_iff_frame (hsize : 10 ≤ size) :
    SshNeedMore E mem size ↔ CmdHeader E mem size ∧ size < 10 + (mem 3).toNat := by
  constructor
  · intro h
    cases h with
    | start h => omega
    | ctrl h _ _ => omega
    | header h _ _ => omega
    | frame h header => exact ⟨header, h⟩
  · rintro ⟨header, h⟩
    exact .frame h header

end NeedMore

/-- The call fills the buffer up, and it then begins with a valid command header that
announces a message longer than the buffer. -/
def SshOverlong (E : SshEnv) (p : SshPort) (buf : List UInt8) : Prop :=
  p.evalBuf.room ≤ buf.length ∧
    CmdHeader E (p.evalBuf.filled (buf.take p.evalBuf.room)) sshEvalBufLen ∧
    sshEvalBufLen < sshMsgLenCmdBase + (p.evalBuf.filled (buf.take p.evalBuf.room) 3).toNat

section Call

variable {E : SshEnv} {p : SshPort} {buf : List UInt8}

/-- One call leaves room in the buffer unless it waits for an overlong message. -/
lemma sshReceiveBuf_full_iff (hcap : p.evalBuf.cap.toNat = sshEvalBufLen)
    (hlen : p.evalBuf.len.toNat ≤ p.evalBuf.cap.toNat) :
    (sshReceiveBuf E p buf).2.evalBuf.len.toNat = sshEvalBufLen ↔ SshOverlong E p buf := by
  obtain ⟨-, -, -, hbuf, -⟩ := sshReceiveBuf_spec E p buf hlen
  have hrest := congrArg List.length hbuf
  have hle := p.evaluate_le E (buf.take p.evalBuf.room)
  have hstuck := drain_stuck_iff (sshEval E) (p.evalBuf.filled (buf.take p.evalBuf.room))
    sshEvalBufLen sshEvalBufLen 0 p.ec (by decide) (by decide)
  rw [Memory.shift_zero, Nat.sub_zero, sshEval_eq_zero_iff, needMore_iff_frame (by decide)] at hstuck
  rw [EvalBuf.length_pending, List.length_drop, List.length_append, EvalBuf.length_pending,
    List.length_take] at hrest
  rw [List.length_take] at hle
  have hroom : p.evalBuf.room = sshEvalBufLen - p.evalBuf.len.toNat := by
    unfold EvalBuf.room
    rw [hcap]
  have hfull (h : p.evalBuf.room ≤ buf.length) :
      p.evalBuf.len.toNat + min p.evalBuf.room buf.length = sshEvalBufLen := by omega
  have heval (h : p.evalBuf.room ≤ buf.length) :
      (p.evaluate E (buf.take p.evalBuf.room)).1 = 0 ↔
        CmdHeader E (p.evalBuf.filled (buf.take p.evalBuf.room)) sshEvalBufLen ∧
          sshEvalBufLen < 10 + (p.evalBuf.filled (buf.take p.evalBuf.room) 3).toNat := by
    unfold SshPort.evaluate
    rw [List.length_take, hfull h]
    exact hstuck
  constructor
  · intro h
    have htaken : p.evalBuf.room ≤ buf.length := by omega
    exact ⟨htaken, (heval htaken).mp (by omega)⟩
  · rintro ⟨htaken, hover⟩
    have hzero := (heval htaken).mpr hover
    omega

/-- A buffer with room takes at least one byte of what it is offered. -/
lemma sshReceiveBuf_takes (hlen : p.evalBuf.len.toNat < p.evalBuf.cap.toNat) (hne : buf ≠ []) :
    0 < (sshReceiveBuf E p buf).1 := by
  obtain ⟨hused, -⟩ := sshReceiveBuf_spec E p buf (Nat.le_of_lt hlen)
  have hpos := List.length_pos_iff.mpr hne
  rw [hused, List.length_take]
  unfold EvalBuf.room
  omega

end Call

/-! ### Runs -/

/-- The chunks are given to the receive callback one after the other. -/
def receiveAll (E : SshEnv) (p : SshPort) (chunks : List (List UInt8)) : SshPort :=
  chunks.foldl (fun p buf => (sshReceiveBuf E p buf).2) p

section Runs

variable {E : SshEnv}

lemma receiveAll_take_succ (p : SshPort) (chunks : List (List UInt8)) (k : ℕ)
    (hk : k < chunks.length) : receiveAll E p (chunks.take (k + 1)) =
      (sshReceiveBuf E (receiveAll E p (chunks.take k)) chunks[k]).2 := by
  unfold receiveAll
  rw [List.take_succ_eq_append_getElem hk, List.foldl_append]
  rfl

/-- The length never exceeds the capacity, whatever is received. -/
lemma receiveAll_len_le (p : SshPort) (chunks : List (List UInt8))
    (hcap : p.evalBuf.cap.toNat = sshEvalBufLen) (hlen : p.evalBuf.len.toNat ≤ sshEvalBufLen) :
    (receiveAll E p chunks).evalBuf.cap.toNat = sshEvalBufLen ∧
      (receiveAll E p chunks).evalBuf.len.toNat ≤ sshEvalBufLen := by
  induction chunks generalizing p with
  | nil => exact ⟨hcap, hlen⟩
  | cons buf chunks ih =>
    obtain ⟨-, -, hcap', -, hlen'⟩ := sshReceiveBuf_spec E p buf (by rw [hcap]; exact hlen)
    rw [hcap] at hlen'
    exact ih _ (by rw [hcap', hcap]) hlen'

end Runs

/-- In the run over `chunks`, the buffer has room after every call, and therefore every
call that is offered something takes something. -/
def SshNeverFull (E : SshEnv) (p : SshPort) (chunks : List (List UInt8)) : Prop :=
  ∀ k ≤ chunks.length,
    let q := receiveAll E p (chunks.take k)
    q.evalBuf.len.toNat < q.evalBuf.cap.toNat ∧ ∀ buf ≠ [], 0 < (sshReceiveBuf E q buf).1

/-- The receiver keeps room for more exactly in the runs in which no call fills the buffer
with the beginning of an overlong message. -/
theorem sshNeverFull_iff (E : SshEnv) (ec : SamSshEc) (evalBuf : Memory UInt8)
    (chunks : List (List UInt8)) :
    SshNeverFull E (initializeReceiver ec evalBuf) chunks ↔
      ∀ k (hk : k < chunks.length),
        ¬SshOverlong E (receiveAll E (initializeReceiver ec evalBuf) (chunks.take k)) chunks[k] := by
  have hreach (k : ℕ) := receiveAll_len_le (E := E) (initializeReceiver ec evalBuf) (chunks.take k)
    (cap_initializeReceiver ec evalBuf) (Nat.zero_le _)
  have hstep (k : ℕ) (hk : k < chunks.length) :
      (receiveAll E (initializeReceiver ec evalBuf) (chunks.take (k + 1))).evalBuf.len.toNat =
        sshEvalBufLen ↔
      SshOverlong E (receiveAll E (initializeReceiver ec evalBuf) (chunks.take k)) chunks[k] := by
    obtain ⟨hcap, hlen⟩ := hreach k
    rw [receiveAll_take_succ _ _ k hk]
    exact sshReceiveBuf_full_iff hcap (by rw [hcap]; exact hlen)
  constructor
  · intro h k hk hover
    obtain ⟨hlt, -⟩ := h (k + 1) hk
    rw [(hreach (k + 1)).1, (hstep k hk).mpr hover] at hlt
    exact Nat.lt_irrefl _ hlt
  · intro h k hk
    have hlt : (receiveAll E (initializeReceiver ec evalBuf) (chunks.take k)).evalBuf.len.toNat <
        (receiveAll E (initializeReceiver ec evalBuf) (chunks.take k)).evalBuf.cap.toNat := by
      rw [(hreach k).1]
      cases k with
      | zero => exact Nat.zero_lt_succ _
      | succ k =>
        have hne := mt (hstep k hk).mp (h k hk)
        exact Nat.lt_of_le_of_ne (hreach (k + 1)).2 hne
    exact ⟨hlt, fun buf hne => sshReceiveBuf_takes hlt hne⟩

/-- A header with length byte 254 followed by 255 bytes fills the buffer for good. -/
theorem sshNeverFull_length_byte_254 :
    let ctrl : List UInt8 := [0x80, 0xfe, 0, 0]
    let chunk := [0xaa, 0x55] ++ ctrl ++ crcBytes kernelEnv ctrl ++ List.replicate 255 0
    ¬SshNeverFull kernelEnv (initializeReceiver sshEc (fun _ => 0)) [chunk] := by
  intro ctrl chunk h
  obtain ⟨hlt, -⟩ := h 1 (Nat.le_refl _)
  exact absurd hlt (by decide +kernel)

/-- Such a buffer takes nothing any more. -/
lemma sshReceiveBuf_wedged {E : SshEnv} {p : SshPort} (buf : List UInt8)
    (hcap : p.evalBuf.cap.toNat = sshEvalBufLen) (hlen : p.evalBuf.len.toNat = sshEvalBufLen)
    (header : CmdHeader E p.evalBuf.ptr sshEvalBufLen)
    (hover : sshEvalBufLen < sshMsgLenCmdBase + (p.evalBuf.ptr 3).toNat) :
    sshReceiveBuf E p buf = (0, p) := by
  have hroom : sizeT ((p.evalBuf.cap.toNat : ℤ) - (p.evalBuf.len.toNat : ℤ)) = 0 := by
    rw [hcap, hlen]
    rfl
  have hzero : UInt16.ofNat 0 = 0 := rfl
  have hdrain : drain (sshEval E) p.evalBuf.ptr p.evalBuf.len.toNat p.evalBuf.len.toNat 0 p.ec =
      (0, p.ec) := by
    apply drain_need_more
    rw [Memory.shift_zero, Nat.sub_zero, hlen]
    exact sshEval_needMore p.ec (.frame hover header)
  unfold sshReceiveBuf
  simp only [hroom, Nat.min_zero, List.take_zero, Memory.memcpy_nil, hzero, UInt16.add_zero,
    UInt16.sub_zero, hdrain, Memory.memmove_zero]

/-- A receiver that waits for an overlong message stays as it is, whatever it is offered:
only the start or the end of a request empties its buffer. -/
theorem receiveAll_wedged {E : SshEnv} {p : SshPort} (chunks : List (List UInt8))
    (hcap : p.evalBuf.cap.toNat = sshEvalBufLen) (hlen : p.evalBuf.len.toNat = sshEvalBufLen)
    (header : CmdHeader E p.evalBuf.ptr sshEvalBufLen)
    (hover : sshEvalBufLen < sshMsgLenCmdBase + (p.evalBuf.ptr 3).toNat) :
    receiveAll E p chunks = p := by
  induction chunks with
  | nil => rfl
  | cons buf chunks ih =>
    rw [receiveAll, List.foldl_cons, sshReceiveBuf_wedged buf hcap hlen header hover]
    exact ih

end SurfaceSam
