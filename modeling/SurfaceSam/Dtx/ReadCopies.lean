import SurfaceSam.Dtx.Rings

/-!
# What a read copies

A whole call of `surface_dtx_read`, while nothing else happens. It takes as many events from
the ring as there are and as fit, but copies each of them to the start of the user's buffer.
-/

namespace SurfaceSam

open Devlib

/-- The bytes of events one after the other. -/
def eventBytes (evs : List SurfaceDtxEvent) : List UInt8 := evs.flatMap SurfaceDtxEvent.bytes

/-- The events that a read of `count` bytes takes from the ring. -/
def readEvents (ring : DtxRing) (count : ℕ) : List SurfaceDtxEvent := ring.toList.take (count / 4)

/-- The buffer after the copies, the last copy being the one that stays. -/
def copyEvents (buf : Memory UInt8) (evs : List SurfaceDtxEvent) : Memory UInt8 :=
  evs.foldl (fun buf e => buf.memcpy 0 e.bytes) buf

lemma SurfaceDtxEvent.bytes_inj {e e' : SurfaceDtxEvent} : e.bytes = e'.bytes ↔ e = e' := by
  cases e
  cases e'
  simp [bytes]

@[simp] lemma length_eventBytes (evs : List SurfaceDtxEvent) :
    (eventBytes evs).length = 4 * evs.length := by
  induction evs with
  | nil => rfl
  | cons e evs ih =>
    simp only [eventBytes, List.flatMap_cons, List.length_append] at ih ⊢
    simp [ih]
    omega

/-! ### The buffer after the copies -/

/-- A copy of an event leaves what lies behind it. -/
lemma memcpy_event_beyond (buf : Memory UInt8) (e : SurfaceDtxEvent) {i : ℕ} (hi : 4 ≤ i) :
    buf.memcpy 0 e.bytes i = buf i := Memory.memcpy_zero_of_le buf hi

lemma copyEvents_beyond (buf : Memory UInt8) (evs : List SurfaceDtxEvent) {i : ℕ} (hi : 4 ≤ i) :
    copyEvents buf evs i = buf i := by
  induction evs generalizing buf with
  | nil => rfl
  | cons e evs ih => exact (ih _).trans (memcpy_event_beyond buf e hi)

/-- The start of the buffer holds the last event. -/
lemma slice_copyEvents {evs : List SurfaceDtxEvent} {last : SurfaceDtxEvent}
    (hlast : evs.getLast? = some last) (buf : Memory UInt8) :
    (copyEvents buf evs).slice 0 4 = last.bytes := by
  obtain ⟨init, rfl⟩ := List.getLast?_eq_some_iff.mp hlast
  unfold copyEvents
  rw [List.foldl_append]
  exact Memory.slice_memcpy_same _ 0 last.bytes

/-- The copies add up to the events only by chance, unless there is a single one. -/
def CopiesCoincide (buf : Memory UInt8) (evs : List SurfaceDtxEvent) : Prop :=
  evs.getLast? = evs.head? ∧ buf.slice 4 (4 * evs.tail.length) = eventBytes evs.tail

instance (buf : Memory UInt8) (evs : List SurfaceDtxEvent) : Decidable (CopiesCoincide buf evs) :=
  inferInstanceAs (Decidable (_ ∧ _))

lemma copiesCoincide_singleton (buf : Memory UInt8) (e : SurfaceDtxEvent) :
    CopiesCoincide buf [e] := ⟨rfl, rfl⟩

lemma slice_copyEvents_iff {evs : List SurfaceDtxEvent} (hevs : evs ≠ []) (buf : Memory UInt8) :
    (copyEvents buf evs).slice 0 (4 * evs.length) = eventBytes evs ↔ CopiesCoincide buf evs := by
  obtain ⟨first, rest, rfl⟩ := List.exists_cons_of_ne_nil hevs
  have hlast := List.getLast?_eq_some_getLast hevs
  generalize (first :: rest).getLast hevs = last at hlast
  have hlen : 4 * (first :: rest).length = 4 + 4 * rest.length := by
    rw [List.length_cons]
    omega
  have hbeyond : (copyEvents buf (first :: rest)).slice 4 (4 * rest.length) =
      buf.slice 4 (4 * rest.length) :=
    Memory.slice_congr fun i _ => copyEvents_beyond buf _ (Nat.le_add_right 4 i)
  have hbytes : eventBytes (first :: rest) = first.bytes ++ eventBytes rest := List.flatMap_cons
  rw [hlen, Memory.slice_add, slice_copyEvents hlast, Nat.zero_add, hbeyond, hbytes]
  unfold CopiesCoincide
  rw [hlast, List.head?_cons, List.tail_cons, Option.some_inj]
  constructor
  · intro h
    obtain ⟨hfirst, hrest⟩ := List.append_inj h rfl
    exact ⟨SurfaceDtxEvent.bytes_inj.mp hfirst, hrest⟩
  · rintro ⟨rfl, hrest⟩
    rw [hrest]

/-! ### The call -/

namespace DtxSystem

/-- `n` steps of the read `r`, with copies that succeed. -/
def readAlone (r n : ℕ) (s : DtxSystem) : Option DtxSystem :=
  Machine.run step s (List.replicate n (.readStep r 0 true))

/-- The read has returned the number of bytes of the oldest events that fit; these are gone
from the ring and stand in the buffer in order, behind which nothing has been written. -/
structure ReadOk (s t : DtxSystem) (call call' : ReadCall) : Prop where
  returned : call'.stage = .returned (4 * min (s.ring call.client).toList.length (call.count / 4) : ℕ)
  copied : call'.buf.slice 0 (4 * min (s.ring call.client).toList.length (call.count / 4)) =
    eventBytes (readEvents (s.ring call.client) call.count)
  beyond : ∀ i, 4 * min (s.ring call.client).toList.length (call.count / 4) ≤ i →
    call'.buf i = call.buf i
  removed : (t.ring call.client).toList = (s.ring call.client).toList.drop (call.count / 4)

variable {s t : DtxSystem} {r n : ℕ} {call : ReadCall}

lemma readAlone_succ {t : DtxSystem} (h : s.readStep r 0 true = some t) :
    readAlone r (n + 1) s = readAlone r n t := by
  unfold readAlone
  rw [List.replicate_succ]
  change (s.readStep r 0 true).bind _ = _
  rw [h]
  rfl

/-- The loop takes an event and copies it. -/
lemma readStep_copies {k : ℕ} (hcall : s.reads r = some call) (hstage : call.stage = .copying k)
    (hfit : k + 4 ≤ call.count) (hnonempty : (s.ring call.client).isEmpty = false) :
    s.readStep r 0 true = some ((s.popBuffer call.client).setRead r { call with
      stage := .copying (k + 4), buf := call.buf.memcpy 0 (s.ring call.client).front.bytes }) := by
  simp only [readStep, hcall, Option.bind_eq_bind, Option.bind_some, hstage]
  rw [if_pos hfit, if_neg (by rw [hnonempty]; exact Bool.false_ne_true)]
  rfl

lemma reads_setRead : (s.setRead r call).reads r = some call := Function.update_self ..

/-- The oldest event goes from the ring to the buffer. -/
lemma exists_readStep_pop {k : ℕ} {e : SurfaceDtxEvent} {evs : List SurfaceDtxEvent}
    (hcall : s.reads r = some call) (hstage : call.stage = .copying k) (hfit : k + 4 ≤ call.count)
    (hvalid : (s.ring call.client).Valid) (hlist : (s.ring call.client).toList = e :: evs) :
    ∃ t, s.readStep r 0 true = some t ∧ t.reads r = some { call with
        stage := .copying (k + 4), buf := call.buf.memcpy 0 e.bytes } ∧
      (t.ring call.client).Valid ∧ (t.ring call.client).toList = evs := by
  have hne : (s.ring call.client).head ≠ (s.ring call.client).tail := by
    intro heq
    rw [(Ring.toList_eq_nil hvalid).mpr heq] at hlist
    cases hlist
  have hpop := Ring.toList_pop hvalid hne
  rw [hlist] at hpop
  obtain ⟨hfront, hrest⟩ := List.cons_eq_cons.mp hpop
  have hstep := readStep_copies hcall hstage hfit (beq_eq_false_iff_ne.mpr hne)
  rw [← hfront] at hstep
  have hring : (((s.popBuffer call.client).setRead r { call with
      stage := .copying (k + 4), buf := call.buf.memcpy 0 e.bytes }).ring call.client) =
        (s.ring call.client).pop := Function.update_self ..
  refine ⟨_, hstep, reads_setRead, ?_, ?_⟩
  · rw [hring]
    exact Ring.valid_pop hvalid
  · rw [hring]
    exact hrest.symm

/-- The loop, from the point on where `k` bytes have been copied. -/
lemma readAlone_copying {k : ℕ} {evs : List SurfaceDtxEvent} (hcall : s.reads r = some call)
    (hstage : call.stage = .copying k) (hvalid : (s.ring call.client).Valid)
    (hlist : (s.ring call.client).toList = evs) :
    ∃ n t, readAlone r n s = some t ∧
      t.reads r = some { call with
        stage := .returned (k + 4 * min evs.length ((call.count - k) / 4) : ℕ)
        buf := copyEvents call.buf (evs.take ((call.count - k) / 4)) } ∧
      (t.ring call.client).toList = evs.drop ((call.count - k) / 4) := by
  induction evs generalizing s call k with
  | nil =>
    have hempty : (s.ring call.client).isEmpty = true :=
      beq_iff_eq.mpr ((Ring.toList_eq_nil hvalid).mp hlist)
    refine ⟨1, _, readAlone_succ (readStep_ends hcall hstage (.inr hempty)), ?_, ?_⟩
    · rw [reads_setRead, List.take_nil, List.length_nil, Nat.zero_min]
      rfl
    · rw [List.drop_nil]
      exact hlist
  | cons e evs ih =>
    by_cases hfit : k + 4 ≤ call.count
    · obtain ⟨s', hstep, hreads, hpopped, hevs⟩ :=
        exists_readStep_pop hcall hstage hfit hvalid hlist
      obtain ⟨n, t, hrun, hread, hleft⟩ := ih hreads rfl hpopped hevs
      dsimp only at hread hleft
      have hdiv : (call.count - k) / 4 = (call.count - (k + 4)) / 4 + 1 := by omega
      refine ⟨n + 1, t, (readAlone_succ hstep).trans hrun, ?_, ?_⟩
      · have hsum (m : ℕ) : k + 4 + 4 * m = k + 4 * (m + 1) := by omega
        rw [hread, hdiv, List.take_succ_cons, List.length_cons, Nat.succ_min_succ, hsum]
        rfl
      · rw [hdiv, List.drop_succ_cons, hleft]
    · have hdiv : (call.count - k) / 4 = 0 := by omega
      refine ⟨1, _, readAlone_succ (readStep_ends hcall hstage (.inl (by omega))), ?_, ?_⟩
      · rw [reads_setRead, hdiv, Nat.min_zero]
        rfl
      · rw [hdiv]
        exact hlist

/-- The checks before the loop. -/
lemma readAlone_enter (hcall : s.reads r = some call) (hstage : call.stage = .entered)
    (hactive : s.dev.active = true) (hcount : 4 ≤ call.count)
    (hnonempty : (s.ring call.client).isEmpty = false) (n : ℕ) :
    readAlone r (n + 2) s = readAlone r n (s.setRead r { call with stage := .copying 0 }) := by
  have hentered : s.readStep r 0 true = some (s.setRead r { call with stage := .checking }) := by
    have hroom : ¬(call.count ≠ 0 ∧ call.count < 4) := by omega
    simp only [readStep, hcall, Option.bind_eq_bind, Option.bind_some, hstage, if_neg hroom, hactive]
    rfl
  have hchecked : (s.setRead r { call with stage := .checking }).readStep r 0 true =
      some (s.setRead r { call with stage := .copying 0 }) := by
    have hring : ((s.setRead r { call with stage := .checking }).ring call.client).isEmpty =
      false := hnonempty
    simp only [readStep, reads_setRead, Option.bind_eq_bind, Option.bind_some, hring]
    simp [setRead]
  rw [readAlone_succ hentered, readAlone_succ hchecked]

end DtxSystem

open DtxSystem

/-- A read of a ring with events returns, and is right exactly when the copies, all of them to
the start of the buffer, happen to add up to the events. -/
theorem surfaceDtxRead_ok_iff {s : DtxSystem} {r : ℕ} {call : ReadCall}
    (hcall : s.reads r = some call) (hstage : call.stage = .entered)
    (hactive : s.dev.active = true) (hvalid : (s.ring call.client).Valid)
    (hnonempty : (s.ring call.client).isEmpty = false) (hcount : 4 ≤ call.count) :
    ∃ n t call', readAlone r n s = some t ∧ t.reads r = some call' ∧
      call'.stage.isReturned = true ∧ (ReadOk s t call call' ↔
        CopiesCoincide call.buf (readEvents (s.ring call.client) call.count)) := by
  have hentered : (s.setRead r { call with stage := .copying 0 }).reads r =
      some { call with stage := .copying 0 } := reads_setRead
  obtain ⟨n, t, hrun, hread, hleft⟩ := readAlone_copying hentered rfl hvalid rfl
  refine ⟨n + 2, t, _, (readAlone_enter hcall hstage hactive hcount hnonempty n).trans hrun, hread,
    rfl, ?_⟩
  have hlength : (readEvents (s.ring call.client) call.count).length =
      min (s.ring call.client).toList.length (call.count / 4) := by
    unfold readEvents
    rw [List.length_take, Nat.min_comm]
  have hevs : readEvents (s.ring call.client) call.count ≠ [] := by
    have hne : (s.ring call.client).toList ≠ [] :=
      fun hnil => beq_eq_false_iff_ne.mp hnonempty ((Ring.toList_eq_nil hvalid).mp hnil)
    have hpos := List.length_pos_of_ne_nil hne
    apply List.ne_nil_of_length_pos
    rw [hlength]
    omega
  have hpos := List.length_pos_of_ne_nil hevs
  rw [← slice_copyEvents_iff hevs, hlength]
  constructor
  · intro hok
    exact hok.copied
  · intro hcopied
    refine ⟨?_, hcopied, ?_, hleft⟩
    · dsimp only
      rw [Nat.zero_add]
      rfl
    · intro i hi
      exact copyEvents_beyond _ _ (by omega)

/-- A single event is read as it should be, also by a call with room for more. -/
theorem surfaceDtxRead_ok_iff_single :
    ∃ s call, Machine.run step .static [.probe goodDtxProbe, .open true, .push laptopMode,
        .pushStep 0, .read 0 64 true (fun _ => 0)] = some s ∧ s.reads 0 = some call ∧
      ∃ n t call', readAlone 0 n s = some t ∧ t.reads 0 = some call' ∧ ReadOk s t call call' := by
  obtain ⟨s, hs⟩ : ∃ s, Machine.run step .static [.probe goodDtxProbe, .open true,
      .push laptopMode, .pushStep 0, .read 0 64 true (fun _ => 0)] = some s := ⟨_, rfl⟩
  obtain ⟨call, hcall⟩ : ∃ call, s.reads 0 = some call := by
    cases hs
    exact ⟨_, rfl⟩
  have hread : readEvents (s.ring call.client) call.count = [laptopMode] := by
    cases hs
    cases hcall
    rfl
  obtain ⟨n, t, call', hrun, hcall', -, hok⟩ : ∃ n t call', readAlone 0 n s = some t ∧
      t.reads 0 = some call' ∧ call'.stage.isReturned = true ∧ (ReadOk s t call call' ↔
        CopiesCoincide call.buf (readEvents (s.ring call.client) call.count)) := by
    apply surfaceDtxRead_ok_iff hcall
    all_goals
      cases hs
      cases hcall
    · rfl
    · rfl
    · exact ⟨by decide, by decide⟩
    · rfl
    · decide
  rw [hread] at hok
  exact ⟨s, call, hs, hcall, n, t, call', hrun, hcall', hok.mpr (copiesCoincide_singleton _ _)⟩

/-- The connection to the base has changed. -/
def baseConnected : SurfaceDtxEvent := ⟨0x11, 0x0C, 0, 1⟩

/-- Of two events that are read at once the second takes the place of the first, while the call
returns the size of both. -/
theorem surfaceDtxRead_loses :
    ∃ s t call call', Machine.run step .static [.probe goodDtxProbe, .open true,
        .push baseConnected, .pushStep 0, .push laptopMode, .pushStep 1,
        .read 0 8 true (fun _ => 0)] = some s ∧
      s.reads 0 = some call ∧ call.stage = .entered ∧ s.dev.active = true ∧
      (s.ring call.client).Valid ∧ (s.ring call.client).isEmpty = false ∧ 4 ≤ call.count ∧
      readAlone 0 5 s = some t ∧ t.reads 0 = some call' ∧ call'.stage = .returned 8 ∧
      call'.buf.slice 0 8 = laptopMode.bytes ++ [0, 0, 0, 0] ∧ ¬ReadOk s t call call' := by
  obtain ⟨s, hs⟩ : ∃ s, Machine.run step .static [.probe goodDtxProbe, .open true,
      .push baseConnected, .pushStep 0, .push laptopMode, .pushStep 1,
      .read 0 8 true (fun _ => 0)] = some s := ⟨_, rfl⟩
  obtain ⟨t, ht⟩ : ∃ t, readAlone 0 5 s = some t := by
    cases hs
    exact ⟨_, rfl⟩
  obtain ⟨call, hcall⟩ : ∃ call, s.reads 0 = some call := by
    cases hs
    exact ⟨_, rfl⟩
  obtain ⟨call', hcall'⟩ : ∃ call', t.reads 0 = some call' := by
    cases hs
    cases ht
    exact ⟨_, rfl⟩
  have hbuf : call'.buf.slice 0 8 = laptopMode.bytes ++ [0, 0, 0, 0] := by
    cases hs
    cases ht
    cases hcall'
    decide
  refine ⟨s, t, call, call', hs, hcall, ?_, ?_, ?_, ?_, ?_, ht, hcall', ?_, hbuf, ?_⟩
  all_goals
    cases hs
    cases hcall
  · rfl
  · rfl
  · exact ⟨by decide, by decide⟩
  · rfl
  · decide
  · cases ht
    cases hcall'
    rfl
  · intro hok
    have hcopied := hok.copied
    cases ht
    cases hcall'
    revert hcopied
    decide

end SurfaceSam
