import SurfaceSam.Ssh.EvalBuffer
import SurfaceSam.Ssh.Message
import SurfaceSam.Ssh.Probe

/-!
# Stream reassembly

However the line cuts a stream of well-formed messages, the receiver ends in the state it
reaches by handling them one by one. The evaluator is shown to recognise the encodings of
messages; the rest is the general theory of framed streams.
-/

namespace SurfaceSam

open Devlib

/-! ### The log only grows -/

namespace SamSshEc

variable {E : SshEnv} (ec : SamSshEc)

/-- Messages dropped because the FIFO was full. -/
def fifoDrops (ec : SamSshEc) : ℕ := ec.log.count .fifoFull

lemma fifoDrops_diag (d : SshDiag) (h : d ≠ .fifoFull) :
    (ec.diag d).fifoDrops = ec.fifoDrops := by
  simp [fifoDrops, diag, List.count_append, h]

lemma fifoDrops_diag_full : (ec.diag .fifoFull).fifoDrops = ec.fifoDrops + 1 := by
  simp [fifoDrops, diag, List.count_append]

lemma fifoDrops_dispatch (work : SshEventWork) :
    (ec.dispatch E work).fifoDrops = ec.fifoDrops := by
  unfold dispatch queueEvent
  split_ifs
  · exact fifoDrops_diag _ _ (by simp)
  · rfl
  · rfl

lemma fifoDrops_onCtrl (type seq : UInt8) :
    (ec.onCtrl type seq).fifoDrops = ec.fifoDrops ∨
      ec.onCtrl type seq = ec.diag .fifoFull := by
  rcases ec.onCtrl_cases type seq with ⟨d, hd, h⟩ | ⟨-, ⟨-, h⟩ | ⟨-, h⟩⟩
  · exact .inl (by rw [h, fifoDrops_diag ec d hd])
  · exact .inr h
  · exact .inl (by rw [h]; rfl)

lemma fifoDrops_onCmd (len : UInt8) (work : SshEventWork) (pld : List UInt8) :
    ((ec.onCmd E len work pld).1 = 10 + len.toNat ∧
      (ec.onCmd E len work pld).2.fifoDrops = ec.fifoDrops) ∨
    (ec.onCmd E len work pld).2 = ec.diag .fifoFull := by
  rcases ec.onCmd_cases (E := E) len work pld with
    ⟨-, h⟩ | ⟨-, ⟨d, hd, h⟩ | ⟨-, -, -, h⟩ | ⟨-, -, -, h⟩⟩
  · exact .inl (by simp [h, fifoDrops_dispatch])
  · exact .inl (by simp [h, fifoDrops_diag ec d hd])
  · exact .inr (by rw [h])
  · exact .inl (by rw [h]; exact ⟨rfl, rfl⟩)

end SamSshEc

lemma fifoDrops_sshEval (E : SshEnv) (ec : SamSshEc) (mem : Memory UInt8) (size : ℕ) :
    ec.fifoDrops ≤ (sshEval E ec mem size).2.fifoDrops := by
  rcases sshEval_cases E ec mem size with h | h | h | ⟨n, d, -, -, hd, h⟩
  · exact Nat.le_of_eq (by rw [sshEval_needMore ec h])
  · rw [sshEval_ctrl ec h]
    rcases ec.fifoDrops_onCtrl (mem 2) (mem 5) with h | h
    · exact Nat.le_of_eq h.symm
    · rw [h, ec.fifoDrops_diag_full]
      omega
  · rw [sshEval_cmd ec h]
    rcases ec.fifoDrops_onCmd (E := E) (mem 3) (eventWorkAt mem) (mem.slice 16 (mem 3 - 8).toNat)
      with ⟨-, h⟩ | h
    · exact Nat.le_of_eq h.symm
    · rw [h, ec.fifoDrops_diag_full]
      omega
  · exact Nat.le_of_eq (by rw [h, ec.fifoDrops_diag d hd])

lemma fifoDrops_handle (E : SshEnv) (ec : SamSshEc) (m : SshMessage) :
    ec.fifoDrops ≤ (m.handle E ec).fifoDrops := by
  cases m with
  | ctrl m =>
    rcases ec.fifoDrops_onCtrl m.kind.type m.seq with h | h
    · exact Nat.le_of_eq h.symm
    · change ec.fifoDrops ≤ (ec.onCtrl m.kind.type m.seq).fifoDrops
      rw [h, ec.fifoDrops_diag_full]
      omega
  | cmd m =>
    rcases ec.fifoDrops_onCmd (E := E) m.len m.work m.pld with ⟨-, h⟩ | h
    · exact Nat.le_of_eq h.symm
    · change ec.fifoDrops ≤ (ec.onCmd E m.len m.work m.pld).2.fifoDrops
      rw [h, ec.fifoDrops_diag_full]
      omega

/-! ### The evaluator recognises messages -/

section Recognise

variable {E : SshEnv} {mem : Memory UInt8} {size : ℕ}

/-- A proper prefix of a message is left alone. -/
lemma SshMessage.needMore (m : SshMessage) (hsize : size < (m.bytes E).length)
    (hmem : mem.slice 0 size = (m.bytes E).take size) : SshNeedMore E mem size := by
  by_cases h6 : size < 6
  · exact .start h6
  have htake (k : ℕ) (hk : k ≤ size) : mem.slice 0 k = (m.bytes E).take k := by
    have h := congrArg (List.take k) hmem
    rwa [Memory.take_slice, List.take_take, Nat.min_eq_left hk] at h
  cases m with
  | ctrl m =>
    have hhead := htake 6 (by omega)
    obtain ⟨hsyn, hframe⟩ := Memory.slice_eq_append (a := [0xaa, 0x55]) (b := m.frame).mp hhead
    have htype : mem 2 = m.kind.type := Memory.eq_of_slice_eq hframe 0 (by simp)
    refine .ctrl hsize hsyn ?_
    rw [htype]
    cases m.kind with
    | ack => exact .inl rfl
    | retry => exact .inr rfl
  | cmd m =>
    have hhead := htake 6 (by omega)
    obtain ⟨hsyn, hframe⟩ := Memory.slice_eq_append (a := [0xaa, 0x55]) (b := m.ctrlFrame).mp hhead
    have htype : mem 2 = sshFrameTypeCmd := Memory.eq_of_slice_eq hframe 0 (by simp)
    have hlen : mem 3 = m.len := Memory.eq_of_slice_eq hframe 1 (by simp)
    by_cases h8 : size < 8
    · exact .header h8 hsyn htype
    · have hhead8 := htake 8 (by omega)
      obtain ⟨-, h⟩ := Memory.slice_eq_append (a := [0xaa, 0x55])
        (b := m.ctrlFrame ++ crcBytes E m.ctrlFrame).mp hhead8
      obtain ⟨hctrl, hcrc⟩ := Memory.slice_eq_append.mp h
      have hbytes := m.length_bytes E
      refine .frame ?_ ⟨by omega, hsyn, htype, ?_⟩
      · rw [hlen, ← hbytes]
        exact hsize
      · change mem.slice 6 2 = crcBytes E (mem.slice 2 4)
        rw [show mem.slice 2 4 = m.ctrlFrame from hctrl]
        exact hcrc

/-- A buffer that begins with a message: the evaluation handles it, and consumes its bytes
unless it is dropped for want of FIFO room. -/
lemma SshMessage.evaluated (m : SshMessage) (ec : SamSshEc) (hsize : (m.bytes E).length ≤ size)
    (hmem : mem.slice 0 (m.bytes E).length = m.bytes E) :
    (sshEval E ec mem size).2 = m.handle E ec ∧
      ((m.handle E ec).fifoDrops = ec.fifoDrops →
        (sshEval E ec mem size).1 = (m.bytes E).length) := by
  cases m with
  | ctrl m =>
    obtain ⟨hcomplete, htype, hseq⟩ := m.inMemory (E := E) hsize hmem
    rw [sshEval_ctrl ec hcomplete, htype, hseq]
    exact ⟨rfl, fun _ => rfl⟩
  | cmd m =>
    obtain ⟨hcomplete, hlen, hwork, hpld⟩ := m.inMemory hsize hmem
    rw [sshEval_cmd ec hcomplete, hpld, hlen, hwork]
    refine ⟨rfl, fun hkeep => ?_⟩
    change (ec.onCmd E m.len m.work m.pld).1 = (m.bytes E).length
    rcases ec.fifoDrops_onCmd (E := E) m.len m.work m.pld with ⟨h, -⟩ | h
    · rw [h, m.length_bytes]
    · change (ec.onCmd E m.len m.work m.pld).2.fifoDrops = ec.fifoDrops at hkeep
      rw [h, ec.fifoDrops_diag_full] at hkeep
      omega

end Recognise

theorem sshEval_framedBy (E : SshEnv) :
    FramedBy (sshEval E) (SshMessage.bytes E) (fun ec m => m.handle E ec) SamSshEc.fifoDrops where
  ne_nil := SshMessage.bytes_ne_nil E
  incomplete ec m mem size hsize hmem := sshEval_needMore ec (m.needMore hsize hmem)
  complete ec m mem size hsize hmem hkeep := by
    obtain ⟨hstate, hused⟩ := m.evaluated ec hsize hmem
    exact Prod.ext (hused hkeep) hstate
  overflow ec m mem size hsize hmem hlost := by
    rw [(m.evaluated ec hsize hmem).1]
    have hle := fifoDrops_handle E ec m
    omega
  eval_loss := fifoDrops_sshEval E
  handle_loss := fifoDrops_handle E

/-! ### Deliveries -/

section Delivery

variable (E : SshEnv)

/-- The line offers the stream `rest`: each call gets a prefix of the bytes not taken yet,
of the next length in the list, and what it does not take is offered again first. -/
def deliver : SshPort → List UInt8 → List ℕ → SshPort × List UInt8
  | p, rest, [] => (p, rest)
  | p, rest, n :: ns =>
    let r := sshReceiveBuf E p (rest.take n)
    deliver r.2 (rest.drop r.1) ns

/-- The messages are received one by one, each alone in the buffer. -/
def receiveAlone (p : SshPort) (msgs : List SshMessage) : SshPort :=
  msgs.foldl (fun p m => (sshReceiveBuf E p (m.bytes E)).2) p

end Delivery

/-- If the message is accepted for the request, the FIFO has room for its packet. -/
def SshMessage.Fits (ec : SamSshEc) : SshMessage → Prop
  | ctrl m =>
    ec.receiver.state = .control →
      (m.kind.type = sshFrameTypeAck → m.seq = ec.receiver.expect.seq) →
      3 ≤ ec.receiver.fifo.kfifoAvail
  | cmd m =>
    samRqidIsEvent m.rqid = false → ec.receiver.state = .command →
      ec.receiver.expect.rqid = m.rqid → 3 + m.pld.length ≤ ec.receiver.fifo.kfifoAvail

/-- Received one by one, every message that is accepted finds room in the FIFO. -/
def FifoRoom (E : SshEnv) (p : SshPort) : List SshMessage → Prop
  | [] => True
  | m :: ms => m.Fits p.ec ∧ FifoRoom E (sshReceiveBuf E p (m.bytes E)).2 ms

instance (ec : SamSshEc) : (m : SshMessage) → Decidable (m.Fits ec)
  | .ctrl _ => inferInstanceAs (Decidable (_ → _ → _))
  | .cmd _ => inferInstanceAs (Decidable (_ → _ → _ → _))

instance FifoRoom.decidable (E : SshEnv) : (p : SshPort) → (ms : List SshMessage) →
    Decidable (FifoRoom E p ms)
  | _, [] => inferInstanceAs (Decidable True)
  | p, m :: ms =>
    have := FifoRoom.decidable E (sshReceiveBuf E p (m.bytes E)).2 ms
    inferInstanceAs (Decidable (_ ∧ _))

lemma SshMessage.Fits.fifoDrops {E : SshEnv} {ec : SamSshEc} {m : SshMessage} (h : m.Fits ec) :
    (m.handle E ec).fifoDrops = ec.fifoDrops := by
  cases m with
  | ctrl m =>
    change (ec.onCtrl m.kind.type m.seq).fifoDrops = ec.fifoDrops
    rcases ec.onCtrl_cases m.kind.type m.seq with
      ⟨d, hd, hres⟩ | ⟨⟨hstate, hseq⟩, ⟨hfull, -⟩ | ⟨-, hres⟩⟩
    · rw [hres, ec.fifoDrops_diag d hd]
    · have hroom := h hstate hseq
      omega
    · rw [hres]
      rfl
  | cmd m =>
    change (ec.onCmd E m.len m.work m.pld).2.fifoDrops = ec.fifoDrops
    have hlen : (m.len - 8).toNat = m.pld.length := by
      rw [toNat_sub_eight (by rw [m.toNat_len]; omega), m.toNat_len]
      omega
    rcases ec.onCmd_cases (E := E) m.len m.work m.pld with
      ⟨-, hres⟩ | ⟨hevent, ⟨d, hd, hres⟩ | ⟨hstate, hrqid, hfull, -⟩ | ⟨-, -, -, hres⟩⟩
    · rw [hres, ec.fifoDrops_dispatch]
    · rw [hres, ec.fifoDrops_diag d hd]
    · have hroom := h hevent hstate hrqid
      omega
    · rw [hres]
      rfl

section Pending

variable {E : SshEnv} {p : SshPort} {rest : List UInt8} {ms : List SshMessage}

lemma len_lt_of_pending (hcap : p.evalBuf.cap.toNat = sshEvalBufLen)
    (hpend : Pending (SshMessage.bytes E) p.evalBuf.pending rest ms) (hrest : rest ≠ []) :
    p.evalBuf.len.toNat < p.evalBuf.cap.toNat := by
  have h := hpend.length_lt (SshMessage.length_bytes_le E) hrest
  rwa [p.evalBuf.length_pending, ← hcap] at h

lemma len_le_of_pending (hcap : p.evalBuf.cap.toNat = sshEvalBufLen)
    (hpend : Pending (SshMessage.bytes E) p.evalBuf.pending rest ms) :
    p.evalBuf.len.toNat ≤ p.evalBuf.cap.toNat := by
  by_cases hrest : rest = []
  · subst hrest
    have hnil := congrArg List.length hpend.finish.2
    rw [p.evalBuf.length_pending] at hnil
    simp [hnil]
  · exact Nat.le_of_lt (len_lt_of_pending hcap hpend hrest)

/-- One call on a prefix of a stream of messages: it handles the messages that are now
complete and keeps the rest. -/
theorem sshReceiveBuf_pending {chunk : List UInt8}
    (hcap : p.evalBuf.cap.toNat = sshEvalBufLen)
    (hpend : Pending (SshMessage.bytes E) p.evalBuf.pending (chunk ++ rest) ms)
    (hloss : (sshReceiveBuf E p chunk).2.ec.fifoDrops = p.ec.fifoDrops ∨
      (ms.foldl (fun ec m => m.handle E ec) p.ec).fifoDrops = p.ec.fifoDrops) :
    let r := sshReceiveBuf E p chunk
    ∃ done ms', ms = done ++ ms' ∧ r.2.ec = done.foldl (fun ec m => m.handle E ec) p.ec ∧
      r.2.evalBuf.cap = p.evalBuf.cap ∧
      Pending (SshMessage.bytes E) r.2.evalBuf.pending (chunk.drop r.1 ++ rest) ms' := by
  obtain ⟨hused, hec, hcap', hbuf, -⟩ :=
    sshReceiveBuf_spec E p chunk (len_le_of_pending hcap hpend)
  rw [hec] at hloss
  have hsplit : chunk ++ rest = chunk.take p.evalBuf.room ++
      (chunk.drop p.evalBuf.room ++ rest) := by
    rw [← List.append_assoc, List.take_append_drop]
  rw [hsplit] at hpend
  obtain ⟨done, ms', hms, hdone, -, hpend'⟩ := hpend.drain (sshEval_framedBy E)
    (by simp) (p.evalBuf.slice_filled _) p.ec hloss
  have hdrop : chunk.drop (chunk.take p.evalBuf.room).length = chunk.drop p.evalBuf.room := by
    rw [List.length_take, ← List.drop_eq_drop_min]
  refine ⟨done, ms', hms, by rw [hec]; exact hdone, hcap', ?_⟩
  rw [hused, hdrop, hbuf]
  exact hpend'

/-- While messages are to come, a call takes at least one byte. -/
lemma sshReceiveBuf_pos {chunk : List UInt8} (hcap : p.evalBuf.cap.toNat = sshEvalBufLen)
    (hpend : Pending (SshMessage.bytes E) p.evalBuf.pending (chunk ++ rest) ms)
    (hne : chunk ≠ []) : 0 < (sshReceiveBuf E p chunk).1 := by
  have hlt := len_lt_of_pending hcap hpend (by simp [hne])
  obtain ⟨hused, -⟩ := sshReceiveBuf_spec E p chunk (Nat.le_of_lt hlt)
  have hchunk := List.length_pos_iff.mpr hne
  rw [hused, List.length_take]
  unfold EvalBuf.room
  omega

/-- A message alone in the buffer is handled at once. -/
lemma sshReceiveBuf_alone {m : SshMessage} (hcap : p.evalBuf.cap.toNat = sshEvalBufLen)
    (hlen : p.evalBuf.len = 0) (hfits : m.Fits p.ec) :
    (sshReceiveBuf E p (m.bytes E)).2.ec = m.handle E p.ec ∧
      (sshReceiveBuf E p (m.bytes E)).2.evalBuf.cap = p.evalBuf.cap ∧
      (sshReceiveBuf E p (m.bytes E)).2.evalBuf.len = 0 := by
  have hlen' : p.evalBuf.len.toNat = 0 := by simp [hlen]
  have hnil : p.evalBuf.pending = [] := by
    unfold EvalBuf.pending
    rw [hlen', Memory.slice_zero]
  have hpend : Pending (SshMessage.bytes E) p.evalBuf.pending (m.bytes E ++ []) [m] := by
    rw [hnil]
    have h := Pending.start (SshMessage.bytes_ne_nil E) [m]
    simpa using h
  obtain ⟨hused, -⟩ := sshReceiveBuf_spec E p (m.bytes E) (by omega)
  have hroom : (m.bytes E).take p.evalBuf.room = m.bytes E := by
    have h := m.length_bytes_le E
    exact List.take_of_length_le (by unfold EvalBuf.room; omega)
  rw [hroom] at hused
  obtain ⟨done, ms, hms, hec, hcap', hrest⟩ :=
    sshReceiveBuf_pending hcap hpend (.inr hfits.fifoDrops)
  rw [hused, List.drop_length, List.nil_append] at hrest
  obtain ⟨rfl, hbuf⟩ := hrest.finish
  rw [List.append_nil] at hms
  rw [← hms] at hec
  refine ⟨hec, hcap', ?_⟩
  have h := congrArg List.length hbuf
  rw [EvalBuf.length_pending] at h
  exact UInt16.toNat_inj.mp h

end Pending

/-! ### Whole deliveries -/

section Runs

variable {E : SshEnv}

lemma receiveAlone_spec (msgs : List SshMessage) (p : SshPort)
    (hcap : p.evalBuf.cap.toNat = sshEvalBufLen) (hlen : p.evalBuf.len = 0)
    (hroom : FifoRoom E p msgs) :
    (receiveAlone E p msgs).ec = msgs.foldl (fun ec m => m.handle E ec) p.ec ∧
      (msgs.foldl (fun ec m => m.handle E ec) p.ec).fifoDrops = p.ec.fifoDrops := by
  induction msgs generalizing p with
  | nil => exact ⟨rfl, rfl⟩
  | cons m ms ih =>
    obtain ⟨hfits, hroom⟩ := hroom
    obtain ⟨hec, hcap', hlen'⟩ := sshReceiveBuf_alone (E := E) hcap hlen hfits
    obtain ⟨hrun, hdrops⟩ := ih _ (by rw [hcap', hcap]) hlen' hroom
    rw [hec] at hrun hdrops
    exact ⟨hrun, by rw [List.foldl_cons, hdrops, hfits.fifoDrops]⟩

lemma FifoRoom.left {a b : List SshMessage} {p : SshPort} (h : FifoRoom E p (a ++ b)) :
    FifoRoom E p a := by
  induction a generalizing p with
  | nil => trivial
  | cons m ms ih => exact ⟨h.1, ih h.2⟩

/-- One call on the next `n` bytes of a stream handles a prefix of the messages still to
come. -/
lemma sshReceiveBuf_stream (n : ℕ) {p : SshPort} {rest : List UInt8} {ms : List SshMessage}
    (hcap : p.evalBuf.cap.toNat = sshEvalBufLen)
    (hpend : Pending (SshMessage.bytes E) p.evalBuf.pending rest ms)
    (hloss : (sshReceiveBuf E p (rest.take n)).2.ec.fifoDrops = p.ec.fifoDrops ∨
      (ms.foldl (fun ec m => m.handle E ec) p.ec).fifoDrops = p.ec.fifoDrops) :
    let r := sshReceiveBuf E p (rest.take n)
    ∃ done ms', ms = done ++ ms' ∧ r.2.ec = done.foldl (fun ec m => m.handle E ec) p.ec ∧
      r.2.evalBuf.cap.toNat = sshEvalBufLen ∧
      Pending (SshMessage.bytes E) r.2.evalBuf.pending (rest.drop r.1) ms' := by
  intro r
  have hsplit : rest = rest.take n ++ rest.drop n := (List.take_append_drop n rest).symm
  rw [hsplit] at hpend
  obtain ⟨done, ms', hms, hec, hcap', hpend'⟩ := sshReceiveBuf_pending hcap hpend hloss
  have hle : r.1 ≤ (rest.take n).length := by
    obtain ⟨hused, -⟩ := sshReceiveBuf_spec E p (rest.take n) (len_le_of_pending hcap hpend)
    rw [hused, List.length_take]
    exact Nat.min_le_right _ _
  rw [← List.drop_append_of_le_length hle, ← hsplit] at hpend'
  exact ⟨done, ms', hms, hec, by rw [hcap', hcap], hpend'⟩

/-- One call of a delivery; the messages still to come lose nothing either. -/
lemma deliver_step (n : ℕ) {p : SshPort} {rest : List UInt8} {ms : List SshMessage}
    (hcap : p.evalBuf.cap.toNat = sshEvalBufLen)
    (hpend : Pending (SshMessage.bytes E) p.evalBuf.pending rest ms)
    (hloss : (ms.foldl (fun ec m => m.handle E ec) p.ec).fifoDrops = p.ec.fifoDrops) :
    let r := sshReceiveBuf E p (rest.take n)
    ∃ done ms', ms = done ++ ms' ∧ r.2.ec = done.foldl (fun ec m => m.handle E ec) p.ec ∧
      r.2.evalBuf.cap.toNat = sshEvalBufLen ∧
      Pending (SshMessage.bytes E) r.2.evalBuf.pending (rest.drop r.1) ms' ∧
      (ms'.foldl (fun ec m => m.handle E ec) r.2.ec).fifoDrops = r.2.ec.fifoDrops := by
  intro r
  obtain ⟨done, ms', hms, hec, hcap', hpend'⟩ := sshReceiveBuf_stream n hcap hpend (.inr hloss)
  refine ⟨done, ms', hms, hec, hcap', hpend', ?_⟩
  have hdone := (sshEval_framedBy E).foldl_loss done p.ec
  have hrest := (sshEval_framedBy E).foldl_loss ms' r.2.ec
  rw [hms, List.foldl_append, ← hec] at hloss
  rw [← hec] at hdone
  exact Nat.le_antisymm (Nat.le_trans (Nat.le_of_eq hloss) hdone) hrest

/-- What has been handled at any point of a delivery is a prefix of the messages, and the
bytes in the buffer and on the line are exactly the other ones. -/
lemma deliver_pending (ns : List ℕ) {p : SshPort} {rest : List UInt8} {ms : List SshMessage}
    (hcap : p.evalBuf.cap.toNat = sshEvalBufLen)
    (hpend : Pending (SshMessage.bytes E) p.evalBuf.pending rest ms)
    (hloss : (ms.foldl (fun ec m => m.handle E ec) p.ec).fifoDrops = p.ec.fifoDrops) :
    ∃ done ms', ms = done ++ ms' ∧
      (deliver E p rest ns).1.ec = done.foldl (fun ec m => m.handle E ec) p.ec ∧
      Pending (SshMessage.bytes E) (deliver E p rest ns).1.evalBuf.pending
        (deliver E p rest ns).2 ms' := by
  induction ns generalizing p rest ms with
  | nil => exact ⟨[], ms, rfl, rfl, hpend⟩
  | cons n ns ih =>
    obtain ⟨done, ms', hms, hec, hcap', hpend', hloss'⟩ := deliver_step n hcap hpend hloss
    obtain ⟨done', ms'', hms', hec', hpend''⟩ := ih hcap' hpend' hloss'
    refine ⟨done ++ done', ms'', by rw [hms, hms', List.append_assoc], ?_, hpend''⟩
    rw [deliver, hec', hec, List.foldl_append]

/-- Every offer of at least one byte is answered by taking at least one. -/
lemma deliver_progress (ns : List ℕ) {p : SshPort} {rest : List UInt8} {ms : List SshMessage}
    (hcap : p.evalBuf.cap.toNat = sshEvalBufLen)
    (hpend : Pending (SshMessage.bytes E) p.evalBuf.pending rest ms)
    (hloss : (ms.foldl (fun ec m => m.handle E ec) p.ec).fifoDrops = p.ec.fifoDrops)
    (hpos : ∀ n ∈ ns, 0 < n) :
    (deliver E p rest ns).2.length ≤ rest.length - ns.length := by
  induction ns generalizing p rest ms with
  | nil => exact Nat.le_refl _
  | cons n ns ih =>
    obtain ⟨-, ms', -, -, hcap', hpend', hloss'⟩ := deliver_step n hcap hpend hloss
    have hrun := ih hcap' hpend' hloss' (fun k hk => hpos k (List.mem_cons_of_mem n hk))
    rw [List.length_drop] at hrun
    rw [deliver, List.length_cons]
    by_cases hrest : rest = []
    · simp only [hrest, List.length_nil, Nat.zero_sub] at hrun ⊢
      exact hrun
    · have hne : rest.take n ≠ [] := by
        have hn := hpos n List.mem_cons_self
        simp [hrest]
        omega
      have htaken : 0 < (sshReceiveBuf E p (rest.take n)).1 := by
        rw [← List.take_append_drop n rest] at hpend
        exact sshReceiveBuf_pos hcap hpend hne
      omega

end Runs

/-- However a stream of well-formed messages is cut into non-empty chunks, it ends with an
empty buffer and in the state that receiving the messages one by one ends with. At any
point before, exactly the messages that have come in completely have been handled. -/
theorem stream_reassembly (E : SshEnv) (p : SshPort) (msgs : List SshMessage) (ns : List ℕ)
    (hcap : p.evalBuf.cap.toNat = sshEvalBufLen) (hlen : p.evalBuf.len = 0)
    (hroom : FifoRoom E p msgs) (hpos : ∀ n ∈ ns, 0 < n) :
    let out := deliver E p (msgs.flatMap (SshMessage.bytes E)) ns
    (out.2 = [] → out.1.ec = (receiveAlone E p msgs).ec ∧ out.1.evalBuf.len = 0) ∧
    ((msgs.flatMap (SshMessage.bytes E)).length ≤ ns.length → out.2 = []) ∧
    ∃ done rest, msgs = done ++ rest ∧ out.1.ec = (receiveAlone E p done).ec ∧
      out.1.evalBuf.pending ++ out.2 = rest.flatMap (SshMessage.bytes E) ∧
      ∀ m ∈ rest.head?, out.1.evalBuf.pending.length < (m.bytes E).length := by
  intro out
  obtain ⟨hseq, hloss⟩ := receiveAlone_spec msgs p hcap hlen hroom
  have hpend : Pending (SshMessage.bytes E) p.evalBuf.pending
      (msgs.flatMap (SshMessage.bytes E)) msgs := by
    unfold EvalBuf.pending
    rw [hlen]
    exact Pending.start (SshMessage.bytes_ne_nil E) msgs
  obtain ⟨done, rest, hsplit, hec, hout⟩ := deliver_pending ns hcap hpend hloss
  have hdone : out.1.ec = (receiveAlone E p done).ec := by
    rw [hsplit] at hroom
    rw [(receiveAlone_spec done p hcap hlen hroom.left).1]
    exact hec
  refine ⟨?_, ?_, done, rest, hsplit, hdone, hout⟩
  · intro hend
    have hfin : Pending (SshMessage.bytes E) out.1.evalBuf.pending out.2 rest := hout
    rw [hend] at hfin
    obtain ⟨hrest, hbuf⟩ := hfin.finish
    refine ⟨by rw [hdone, hsplit, hrest, List.append_nil], ?_⟩
    have h := congrArg List.length hbuf
    rw [EvalBuf.length_pending] at h
    exact UInt16.toNat_inj.mp h
  · intro hns
    have hprog : out.2.length ≤ _ := deliver_progress ns hcap hpend hloss hpos
    exact List.length_eq_zero_iff.mp (by omega)

/-- A request waits for its ACK while an event and the ACK come in, cut inside both. -/
theorem stream_reassembly_cut :
    let p : SshPort := {
      initializeReceiver sshEc (fun _ => 0) with
      ec := { sshEc with receiver := ⟨.control, 0, ⟨512, []⟩, ⟨true, 5, 0x20⟩⟩ } }
    let msgs : List SshMessage := [
      .cmd ⟨0, 7, 2, 0, 1, 3, 0x11, 0, 4, [0xaa, 0x55], by decide⟩,
      .ctrl ⟨.ack, 0, 0, 5⟩]
    (deliver kernelEnv p (msgs.flatMap (SshMessage.bytes kernelEnv)) [11, 5, 9, 40]).1.ec =
      (receiveAlone kernelEnv p msgs).ec := by
  intro p msgs
  have hcap : p.evalBuf.cap.toNat = sshEvalBufLen := by decide +kernel
  have hroom : FifoRoom kernelEnv p msgs := by decide +kernel
  have hend : (deliver kernelEnv p (msgs.flatMap (SshMessage.bytes kernelEnv))
      [11, 5, 9, 40]).2 = [] := by decide +kernel
  obtain ⟨h, -, -⟩ := stream_reassembly kernelEnv p msgs [11, 5, 9, 40] hcap rfl hroom (by decide)
  exact (h hend).1

end SurfaceSam
