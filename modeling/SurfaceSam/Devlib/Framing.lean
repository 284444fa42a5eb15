import SurfaceSam.Devlib.Memory

/-!
# Reassembling framed streams

A receiver keeps the bytes it could not evaluate yet in a buffer and calls an evaluator on
it again and again until the evaluator asks for more bytes. This file proves, for any
evaluator that recognises the encodings of a message type, that such a receiver handles
exactly the messages of the stream, wherever the stream was cut.
-/

namespace Devlib

variable {σ β μ : Type}

/-- An evaluator looks at a window of a given size and returns how many cells it has
consumed, zero if it needs more, and its new state. -/
abbrev Evaluator (σ β : Type) := σ → Memory β → ℕ → ℕ × σ

/-- Evaluates the first `len` cells from offset `offs` on until the evaluator needs more
cells or none are left. Every round consumes a cell, so `len` rounds are enough. -/
def drain (eval : Evaluator σ β) (mem : Memory β) (len : ℕ) : ℕ → ℕ → σ → ℕ × σ
  | 0, offs, s => (offs, s)
  | fuel + 1, offs, s =>
    if offs < len then
      let r := eval s (mem.shift offs) (len - offs)
      if r.1 = 0 then (offs, r.2) else drain eval mem len fuel (offs + r.1) r.2
    else (offs, s)

lemma drain_of_le (eval : Evaluator σ β) (mem : Memory β) {len offs : ℕ} (h : len ≤ offs)
    (fuel : ℕ) (s : σ) : drain eval mem len fuel offs s = (offs, s) := by
  cases fuel with
  | zero => rfl
  | succ fuel => simp [drain, Nat.not_lt.mpr h]

lemma drain_need_more (eval : Evaluator σ β) (mem : Memory β) (len offs : ℕ) (fuel : ℕ) (s : σ)
    (h : eval s (mem.shift offs) (len - offs) = (0, s)) :
    drain eval mem len fuel offs s = (offs, s) := by
  cases fuel with
  | zero => rfl
  | succ fuel => simp [drain, h]

lemma drain_consume (eval : Evaluator σ β) (mem : Memory β) (len offs fuel n : ℕ) (s s' : σ)
    (hoffs : offs < len) (hn : n ≠ 0)
    (h : eval s (mem.shift offs) (len - offs) = (n, s')) :
    drain eval mem len (fuel + 1) offs s = drain eval mem len fuel (offs + n) s' := by
  simp [drain, hoffs, h, hn]

/-- What every evaluation keeps, the whole loop keeps. -/
lemma drain_invariant {eval : Evaluator σ β} {P : σ → Prop}
    (hstep : ∀ s mem size, P s → P (eval s mem size).2) (mem : Memory β) (len fuel offs : ℕ)
    (s : σ) (hs : P s) : P (drain eval mem len fuel offs s).2 := by
  induction fuel generalizing offs s with
  | zero => exact hs
  | succ fuel ih =>
    simp only [drain]
    have hs' := hstep s (mem.shift offs) (len - offs) hs
    split_ifs
    · exact hs'
    · exact ih _ _ hs'
    · exact hs

/-- An evaluator that never consumes more than it is given never leaves the window. -/
lemma drain_le {eval : Evaluator σ β} (hle : ∀ s mem size, (eval s mem size).1 ≤ size)
    (mem : Memory β) (len fuel offs : ℕ) (s : σ) (hoffs : offs ≤ len) :
    (drain eval mem len fuel offs s).1 ≤ len := by
  induction fuel generalizing offs s with
  | zero => exact hoffs
  | succ fuel ih =>
    simp only [drain]
    have hn := hle s (mem.shift offs) (len - offs)
    split_ifs
    · exact hoffs
    · exact ih _ _ (by omega)
    · exact hoffs

lemma le_drain (eval : Evaluator σ β) (mem : Memory β) (len fuel offs : ℕ) (s : σ) :
    offs ≤ (drain eval mem len fuel offs s).1 := by
  induction fuel generalizing offs s with
  | zero => exact Nat.le_refl _
  | succ fuel ih =>
    simp only [drain]
    split_ifs
    · exact Nat.le_refl _
    · exact Nat.le_trans (Nat.le_add_right _ _) (ih _ _)
    · exact Nat.le_refl _

/-- The loop gets nowhere exactly if the first evaluation consumes nothing. -/
lemma drain_stuck_iff (eval : Evaluator σ β) (mem : Memory β) (len fuel offs : ℕ) (s : σ)
    (hoffs : offs < len) (hfuel : fuel ≠ 0) : (drain eval mem len fuel offs s).1 = offs ↔
      (eval s (mem.shift offs) (len - offs)).1 = 0 := by
  obtain ⟨f, rfl⟩ := Nat.exists_eq_succ_of_ne_zero hfuel
  have hle := le_drain eval mem len f (offs + (eval s (mem.shift offs) (len - offs)).1)
    (eval s (mem.shift offs) (len - offs)).2
  simp only [drain, if_pos hoffs]
  split_ifs with h
  · simp [h]
  · constructor
    · intro heq
      omega
    · intro hzero
      exact absurd hzero h

/-- A call of the evaluator in the loop: its window and what it has consumed. -/
structure DrainRound where
  offs : ℕ
  size : ℕ
  used : ℕ

/-- The loop without a bound on its rounds, from an offset and a state on. -/
inductive Drains (eval : Evaluator σ β) (mem : Memory β) (len : ℕ) :
    ℕ → σ → List DrainRound → ℕ × σ → Prop
  | empty {offs : ℕ} {s : σ} (le : len ≤ offs) : Drains eval mem len offs s [] (offs, s)
  | needMore {offs : ℕ} {s s' : σ} (lt : offs < len)
    (zero : eval s (mem.shift offs) (len - offs) = (0, s')) :
    Drains eval mem len offs s [⟨offs, len - offs, 0⟩] (offs, s')
  | consume {offs n : ℕ} {s s' : σ} {rounds : List DrainRound} {r : ℕ × σ} (lt : offs < len)
    (used : eval s (mem.shift offs) (len - offs) = (n, s')) (pos : n ≠ 0)
    (rest : Drains eval mem len (offs + n) s' rounds r) :
    Drains eval mem len offs s (⟨offs, len - offs, n⟩ :: rounds) r

/-- The loop ends, and `drain` gives its result: a round for each cell is enough. -/
lemma exists_drains (eval : Evaluator σ β) (mem : Memory β) {len fuel offs : ℕ} (s : σ)
    (hfuel : len ≤ offs + fuel) :
    ∃ rounds, Drains eval mem len offs s rounds (drain eval mem len fuel offs s) := by
  induction fuel generalizing offs s with
  | zero => exact ⟨[], .empty hfuel⟩
  | succ fuel ih =>
    by_cases hoffs : offs < len
    · cases heval : eval s (mem.shift offs) (len - offs) with
      | mk n s' =>
        by_cases hn : n = 0
        · subst hn
          refine ⟨[⟨offs, len - offs, 0⟩], ?_⟩
          simp only [drain, if_pos hoffs, heval, if_true]
          exact .needMore hoffs heval
        · have hrest : len ≤ offs + n + fuel := by omega
          obtain ⟨rounds, hrounds⟩ := ih s' hrest
          rw [drain_consume eval mem len offs fuel n s s' hoffs hn heval]
          exact ⟨_, .consume hoffs heval hn hrounds⟩
    · rw [drain_of_le eval mem (Nat.le_of_not_lt hoffs)]
      exact ⟨[], .empty (Nat.le_of_not_lt hoffs)⟩

namespace Drains

variable {eval : Evaluator σ β} {mem : Memory β} {len offs : ℕ} {s : σ} {rounds : List DrainRound}
  {r : ℕ × σ}

/-- Every round is given the rest of the window and stays within it. -/
lemma within (h : Drains eval mem len offs s rounds r)
    (hle : ∀ s mem size, (eval s mem size).1 ≤ size) :
    ∀ round ∈ rounds, round.offs + round.size = len ∧ round.used ≤ round.size := by
  induction h with
  | empty _ => exact List.forall_mem_nil _
  | needMore hlt _ =>
    exact List.forall_mem_singleton.mpr ⟨Nat.add_sub_cancel' (Nat.le_of_lt hlt), Nat.zero_le _⟩
  | @consume offs n s s' _ _ hlt hused _ _ ih =>
    have hn := hle s (mem.shift offs) (len - offs)
    rw [hused] at hn
    exact List.forall_mem_cons.mpr ⟨⟨Nat.add_sub_cancel' (Nat.le_of_lt hlt), hn⟩, ih⟩

/-- The loop stops only where the evaluator needs more cells, or at the end of the window. -/
lemma stuck (h : Drains eval mem len offs s rounds r)
    (hkeep : ∀ s mem size, (eval s mem size).1 = 0 → (eval s mem size).2 = s) (hlt : r.1 < len) :
    eval r.2 (mem.shift r.1) (len - r.1) = (0, r.2) := by
  induction h with
  | empty hle => exact absurd hlt (Nat.not_lt.mpr hle)
  | needMore _ hzero =>
    have hsame := hkeep _ _ _ (congrArg Prod.fst hzero)
    rw [hzero] at hsame
    cases hsame
    exact hzero
  | consume _ _ _ _ ih => exact ih hlt

end Drains

/-- The evaluator recognises the encodings of messages and handles each as `handle` does.
`loss` counts messages given up for want of room; such a message may be treated in any way
that counts it. -/
structure FramedBy (eval : Evaluator σ β) (enc : μ → List β) (handle : σ → μ → σ)
    (loss : σ → ℕ) : Prop where
  ne_nil : ∀ m, enc m ≠ []
  incomplete : ∀ s m mem size, size < (enc m).length → mem.slice 0 size = (enc m).take size →
    eval s mem size = (0, s)
  complete : ∀ s m mem size, (enc m).length ≤ size → mem.slice 0 (enc m).length = enc m →
    loss (handle s m) = loss s → eval s mem size = ((enc m).length, handle s m)
  overflow : ∀ s m mem size, (enc m).length ≤ size → mem.slice 0 (enc m).length = enc m →
    loss (handle s m) ≠ loss s → loss s < loss (eval s mem size).2
  eval_loss : ∀ s mem size, loss s ≤ loss (eval s mem size).2
  handle_loss : ∀ s m, loss s ≤ loss (handle s m)

namespace FramedBy

variable {eval : Evaluator σ β} {enc : μ → List β} {handle : σ → μ → σ} {loss : σ → ℕ}

lemma foldl_loss (H : FramedBy eval enc handle loss) (ms : List μ) (s : σ) :
    loss s ≤ loss (ms.foldl handle s) := by
  induction ms generalizing s with
  | nil => exact Nat.le_refl _
  | cons m ms ih => exact Nat.le_trans (H.handle_loss s m) (ih _)

lemma drain_loss (H : FramedBy eval enc handle loss) (mem : Memory β) (len fuel offs : ℕ)
    (s : σ) : loss s ≤ loss (drain eval mem len fuel offs s).2 := by
  have hstep (s' : σ) (mem' : Memory β) (size : ℕ) (h : loss s ≤ loss s') :
      loss s ≤ loss (eval s' mem' size).2 := Nat.le_trans h (H.eval_loss s' mem' size)
  exact drain_invariant hstep mem len fuel offs s (Nat.le_refl _)

/-- The loop handles the messages that lie completely in the window, in order, and stops
in front of the first that does not, provided that none is lost. -/
theorem drain_frames (H : FramedBy eval enc handle loss) (mem : Memory β) (len : ℕ) (ms : List μ)
    (fuel offs : ℕ) (s : σ) (hfuel : len - offs ≤ fuel) (hoffs : offs ≤ len)
    (hlen : len - offs ≤ (ms.flatMap enc).length)
    (hmem : mem.slice offs (len - offs) = (ms.flatMap enc).take (len - offs))
    (hloss : loss (drain eval mem len fuel offs s).2 = loss s ∨
      loss (ms.foldl handle s) = loss s) :
    ∃ done rest, ms = done ++ rest ∧
      drain eval mem len fuel offs s =
        (offs + (done.flatMap enc).length, done.foldl handle s) ∧
      offs + (done.flatMap enc).length ≤ len ∧
      ∀ m ∈ rest.head?, len - (offs + (done.flatMap enc).length) < (enc m).length := by
  induction ms generalizing fuel offs s with
  | nil =>
    have hend : len ≤ offs := by simpa [Nat.sub_eq_zero_iff_le] using hlen
    exact ⟨[], [], rfl, by simp [drain_of_le eval mem hend], by simpa using hoffs, by simp⟩
  | cons m ms ih =>
    simp only [List.flatMap_cons, List.length_append] at hlen hmem
    by_cases hfit : (enc m).length ≤ len - offs
    · have hpos : 0 < (enc m).length := List.length_pos_iff.mpr (H.ne_nil m)
      obtain ⟨f, rfl⟩ : ∃ f, fuel = f + 1 := ⟨fuel - 1, by omega⟩
      have hhead : (mem.shift offs).slice 0 (enc m).length = enc m := by
        have h := congrArg (List.take (enc m).length) hmem
        rw [Memory.take_slice, List.take_take, Nat.min_eq_left hfit, List.take_left'] at h
        · simpa using h
        · rfl
      have hkeep : loss (handle s m) = loss s := by
        by_contra hne
        rcases hloss with h | h
        · have hev := H.overflow s m _ _ hfit hhead hne
          have hmono := H.drain_loss mem len f (offs + (eval s (mem.shift offs) (len - offs)).1)
            (eval s (mem.shift offs) (len - offs)).2
          simp only [drain, if_pos (show offs < len by omega)] at h
          split_ifs at h
          · exact Nat.ne_of_gt hev h
          · omega
        · have hle := H.handle_loss s m
          have hfold := H.foldl_loss ms (handle s m)
          simp only [List.foldl_cons] at h
          omega
      have heval := H.complete s m _ _ hfit hhead hkeep
      have hdrain := drain_consume eval mem len offs f _ s _ (by omega) (by omega) heval
      have htail : mem.slice (offs + (enc m).length) (len - (offs + (enc m).length)) =
          (ms.flatMap enc).take (len - (offs + (enc m).length)) := by
        have h := congrArg (List.drop (enc m).length) hmem
        rw [Memory.drop_slice, List.drop_take, List.drop_left' rfl] at h
        rwa [Nat.sub_sub] at h
      rw [hdrain] at hloss ⊢
      rw [← hkeep] at hloss
      obtain ⟨done, rest, hsplit, hres, hle, hrest⟩ := ih f (offs + (enc m).length) (handle s m)
        (by omega) (by omega) (by omega) htail hloss
      refine ⟨m :: done, rest, by rw [hsplit]; rfl, ?_, ?_, ?_⟩
      · rw [hres]
        simp [Nat.add_assoc]
      · simpa [Nat.add_assoc] using hle
      · simpa [Nat.add_assoc] using hrest
    · have hpart : (mem.shift offs).slice 0 (len - offs) = (enc m).take (len - offs) := by
        rw [Memory.slice_shift, Nat.add_zero, hmem, List.take_append_of_le_length (by omega)]
      have heval := H.incomplete s m _ _ (by omega) hpart
      exact ⟨[], m :: ms, rfl, by simp [drain_need_more eval mem len offs fuel s heval],
        by simpa using hoffs, by simpa using hfit⟩

end FramedBy

/-- The buffer `buf` followed by the bytes `rest` still to come is the encoding of the
messages `ms`, none of which lies completely in the buffer. -/
def Pending (enc : μ → List β) (buf rest : List β) (ms : List μ) : Prop :=
  buf ++ rest = ms.flatMap enc ∧ ∀ m ∈ ms.head?, buf.length < (enc m).length

namespace Pending

variable {enc : μ → List β} {buf rest : List β} {ms : List μ}

lemma start (hne : ∀ m, enc m ≠ []) (ms : List μ) : Pending enc [] (ms.flatMap enc) ms :=
  ⟨rfl, fun m _ => List.length_pos_iff.mpr (hne m)⟩

/-- When the whole stream has come in, nothing is left in the buffer. -/
lemma finish (h : Pending enc buf [] ms) : ms = [] ∧ buf = [] := by
  obtain ⟨heq, hhead⟩ := h
  cases ms with
  | nil => simpa using heq
  | cons m ms =>
    have hlen := hhead m rfl
    have htot := congrArg List.length heq
    simp at htot
    omega

/-- While messages are to come, the buffer has room for a cell. -/
lemma length_lt {cap : ℕ} (h : Pending enc buf rest ms) (hcap : ∀ m, (enc m).length ≤ cap)
    (hrest : rest ≠ []) : buf.length < cap := by
  obtain ⟨heq, hhead⟩ := h
  cases ms with
  | nil => simp_all
  | cons m ms => exact Nat.lt_of_lt_of_le (hhead m rfl) (hcap m)

/-- One round of the receiver: `t` joins the buffer, the loop runs, and the evaluated cells
are thrown away. -/
theorem drain {eval : Evaluator σ β} {handle : σ → μ → σ} {loss : σ → ℕ}
    (H : FramedBy eval enc handle loss) {t : List β} (h : Pending enc buf (t ++ rest) ms)
    {mem : Memory β} {len : ℕ} (hlen : len = (buf ++ t).length)
    (hmem : mem.slice 0 len = buf ++ t) (s : σ)
    (hloss : loss (Devlib.drain eval mem len len 0 s).2 = loss s ∨
      loss (ms.foldl handle s) = loss s) :
    ∃ done ms', ms = done ++ ms' ∧
      (Devlib.drain eval mem len len 0 s).2 = done.foldl handle s ∧
      (Devlib.drain eval mem len len 0 s).1 ≤ len ∧
      Pending enc ((buf ++ t).drop (Devlib.drain eval mem len len 0 s).1) rest ms' := by
  obtain ⟨heq, -⟩ := h
  rw [← List.append_assoc] at heq
  have htake : mem.slice 0 (len - 0) = (ms.flatMap enc).take (len - 0) := by
    rw [Nat.sub_zero, hmem, ← heq, hlen, List.take_left' rfl]
  have hle : len - 0 ≤ (ms.flatMap enc).length := by
    rw [← heq, List.length_append]
    omega
  obtain ⟨done, ms', hsplit, hres, hused, hhead⟩ :=
    H.drain_frames mem len ms len 0 s (Nat.sub_le _ _) (Nat.zero_le _) hle htake hloss
  rw [Nat.zero_add] at hres hused hhead
  have hdone : (Devlib.drain eval mem len len 0 s).1 = (done.flatMap enc).length := by rw [hres]
  refine ⟨done, ms', hsplit, by rw [hres], by rw [hdone]; exact hused, ?_, ?_⟩
  · rw [hdone, ← List.drop_append_of_le_length (by omega), heq, hsplit, List.flatMap_append,
      List.drop_left' rfl]
  · intro m hm
    rw [hdone, List.length_drop, ← hlen]
    exact hhead m hm

end Pending

end Devlib
