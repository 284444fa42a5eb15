import Mathlib.Order.Monotone.Basic
import SurfaceSam.Devlib.Machine

/-!
# Infinite runs

A trace is an infinite run of a machine in which nothing may happen at some instants. A
quantity that never grows tells apart the instants at which it falls from a given value, and
one that falls along a well-founded order at every action of a kind that keeps coming has
to come to an end.
-/

namespace Devlib.Machine

variable {σ α : Type}

/-- What may happen at one instant. -/
inductive Moves (step : Machine σ α) (C : σ → α → Prop) (s : σ) : Option α → σ → Prop
  | idle : Moves step C s none s
  | act {a : α} {t : σ} (hC : C s a) (hstep : step s a = some t) : Moves step C s (some a) t

/-- An infinite run, all of whose steps meet the condition. -/
structure Trace (step : Machine σ α) (C : σ → α → Prop) (s₀ : σ) where
  st : ℕ → σ
  act : ℕ → Option α
  start : st 0 = s₀
  moves : ∀ n, Moves step C (st n) (act n) (st (n + 1))

namespace Trace

variable {step : Machine σ α} {C : σ → α → Prop} {s₀ : σ} (r : Trace step C s₀)

lemma step_eq {n : ℕ} {a : α} (h : r.act n = some a) : step (r.st n) a = some (r.st (n + 1)) := by
  have hmoves := r.moves n
  rw [h] at hmoves
  cases hmoves with
  | act hC hstep => exact hstep

lemma meets {n : ℕ} {a : α} (h : r.act n = some a) : C (r.st n) a := by
  have hmoves := r.moves n
  rw [h] at hmoves
  cases hmoves with
  | act hC hstep => exact hC

/-- What every action keeps, every instant keeps. -/
lemma rel_succ {R : σ → σ → Prop} (n : ℕ) (hrefl : R (r.st n) (r.st n))
    (hstep : ∀ a, r.act n = some a → R (r.st n) (r.st (n + 1))) : R (r.st n) (r.st (n + 1)) := by
  have hmoves := r.moves n
  generalize ht : r.st (n + 1) = t at hmoves hstep
  cases hact : r.act n with
  | none =>
    rw [hact] at hmoves
    cases hmoves
    exact hrefl
  | some a => exact hstep a hact

lemma invariant {I : σ → Prop} (h₀ : I s₀)
    (hstep : ∀ s a t, I s → C s a → step s a = some t → I t) (n : ℕ) : I (r.st n) := by
  induction n with
  | zero =>
    rw [r.start]
    exact h₀
  | succ n ih =>
    exact r.rel_succ (R := fun _ t => I t) n ih fun a ha => hstep _ a _ ih (r.meets ha) (r.step_eq ha)

/-- What one instant keeps is kept forever. -/
lemma stable {P : σ → Prop} (h : ∀ n, P (r.st n) → P (r.st (n + 1))) {m n : ℕ} (hmn : m ≤ n)
    (hm : P (r.st m)) : P (r.st n) := by
  induction hmn with
  | refl => exact hm
  | step _ ih => exact h _ ih

/-- A quantity that never grows falls from a value once. -/
lemma eq_of_falls (f : σ → ℕ) (hf : ∀ n, f (r.st (n + 1)) ≤ f (r.st n)) {m n k : ℕ}
    (hm : f (r.st m) = k) (hm' : f (r.st (m + 1)) < k) (hn : f (r.st n) = k)
    (hn' : f (r.st (n + 1)) < k) : m = n := by
  have hanti : Antitone fun n => f (r.st n) := antitone_nat_of_succ_le hf
  apply Nat.le_antisymm
  · by_contra hlt
    have : f (r.st m) ≤ f (r.st (n + 1)) := hanti (Nat.succ_le_of_lt (Nat.lt_of_not_le hlt))
    omega
  · by_contra hlt
    have : f (r.st n) ≤ f (r.st (m + 1)) := hanti (Nat.succ_le_of_lt (Nat.lt_of_not_le hlt))
    omega

/-- Where `P` comes to hold, there is an instant that makes it hold. -/
lemma exists_switch {P : σ → Prop} {m n : ℕ} (hmn : m ≤ n) (hm : ¬P (r.st m)) (hn : P (r.st n)) :
    ∃ k, m ≤ k ∧ k < n ∧ ¬P (r.st k) ∧ P (r.st (k + 1)) := by
  induction hmn with
  | refl => exact absurd hn hm
  | @step n hmn ih =>
    by_cases hP : P (r.st n)
    · obtain ⟨k, hmk, hkn, hk⟩ := ih hP
      exact ⟨k, hmk, Nat.lt_succ_of_lt hkn, hk⟩
    · exact ⟨n, hmn, Nat.lt_succ_self n, hP, hn⟩

/-- What holds now, and was not so at the start, has come about at some instant before. -/
lemma exists_before {P : σ → Prop} {O : ℕ → Prop} (h₀ : ¬P s₀)
    (hstep : ∀ n, P (r.st (n + 1)) → P (r.st n) ∨ O n) {n : ℕ} (hn : P (r.st n)) :
    ∃ m, m < n ∧ O m := by
  rw [← r.start] at h₀
  obtain ⟨m, -, hmn, hm, hm'⟩ := r.exists_switch (Nat.zero_le n) h₀ hn
  exact ⟨m, hmn, (hstep m hm').resolve_left hm⟩

/-- The action at an instant shows `o`. -/
def Shows {ω : Type} (obs : σ → α → Option ω) (n : ℕ) (o : ω) : Prop :=
  ∃ a, r.act n = some a ∧ obs (r.st n) a = some o

/-! ### What has to happen -/

/-- Where `P` holds, `Q` holds then or later. -/
def LeadsTo (P Q : σ → Prop) : Prop := ∀ n, P (r.st n) → ∃ m, n ≤ m ∧ Q (r.st m)

/-- Where `P` holds, an action `A` is taken then or later. -/
def Recurs (P : σ → Prop) (A : α → Prop) : Prop :=
  ∀ n, P (r.st n) → ∃ m, n ≤ m ∧ ∃ a, r.act m = some a ∧ A a

variable {r} {P Q R : σ → Prop} {A : α → Prop}

lemma LeadsTo.trans (h : r.LeadsTo P Q) (h' : r.LeadsTo Q R) : r.LeadsTo P R := by
  intro n hn
  obtain ⟨m, hle, hQ⟩ := h n hn
  obtain ⟨k, hle', hR⟩ := h' m hQ
  exact ⟨k, hle.trans hle', hR⟩

/-- The first action of the kind finds what other instants have kept, unless `Q` holds
before. -/
lemma Recurs.first {β : Type} {f : σ → β} (hrecurs : r.Recurs P A)
    (hother : ∀ n, P (r.st n) → (∀ a, r.act n = some a → ¬A a) →
      Q (r.st (n + 1)) ∨ P (r.st (n + 1)) ∧ f (r.st (n + 1)) = f (r.st n)) {n : ℕ}
    (hn : P (r.st n)) :
    ∃ m, n ≤ m ∧ (Q (r.st m) ∨
      (∃ a, r.act m = some a ∧ A a) ∧ P (r.st m) ∧ f (r.st m) = f (r.st n)) := by
  obtain ⟨m, hnm, hm⟩ := hrecurs n hn
  obtain ⟨d, rfl⟩ := Nat.exists_eq_add_of_le hnm
  clear hnm
  induction d generalizing n with
  | zero => exact ⟨n, Nat.le_refl n, .inr ⟨hm, hn, rfl⟩⟩
  | succ d ih =>
    by_cases hnow : ∃ a, r.act n = some a ∧ A a
    · exact ⟨n, Nat.le_refl n, .inr ⟨hnow, hn, rfl⟩⟩
    · cases hother n hn fun a ha hA => hnow ⟨a, ha, hA⟩ with
      | inl hQ => exact ⟨n + 1, Nat.le_succ n, .inl hQ⟩
      | inr hkept =>
        rw [← Nat.succ_add_eq_add_succ] at hm
        obtain ⟨m, hnm, hfound⟩ := ih hkept.1 hm
        rw [hkept.2] at hfound
        exact ⟨m, Nat.le_of_succ_le hnm, hfound⟩

/-- An action that keeps coming, and that leads down a well-founded order, ends. -/
lemma Recurs.leadsTo {β : Type} {lt : β → β → Prop} (hwf : WellFounded lt) (f : σ → β)
    (hrecurs : r.Recurs P A)
    (hother : ∀ n, P (r.st n) → (∀ a, r.act n = some a → ¬A a) →
      Q (r.st (n + 1)) ∨ P (r.st (n + 1)) ∧ f (r.st (n + 1)) = f (r.st n))
    (hact : ∀ n a, P (r.st n) → r.act n = some a → A a →
      Q (r.st (n + 1)) ∨ P (r.st (n + 1)) ∧ lt (f (r.st (n + 1))) (f (r.st n))) :
    r.LeadsTo P Q := by
  intro n hn
  generalize hb : f (r.st n) = b
  induction b using hwf.induction generalizing n with
  | _ b ih =>
    obtain ⟨m, hnm, hQ | ⟨⟨a, ha, hA⟩, hPm, hfm⟩⟩ := hrecurs.first hother hn
    · exact ⟨m, hnm, hQ⟩
    · cases hact m a hPm ha hA with
      | inl hQ => exact ⟨m + 1, Nat.le_succ_of_le hnm, hQ⟩
      | inr hdown =>
        rw [hfm, hb] at hdown
        obtain ⟨k, hk, hQ⟩ := ih _ hdown.2 (m + 1) hdown.1 rfl
        exact ⟨k, by omega, hQ⟩

/-! ### Traces that come to rest -/

section OfRun

variable {s t : σ} {as : List α}

lemma run_take (hrun : run step s as = some t) (n : ℕ) : ∃ u, run step s (as.take n) = some u := by
  rw [← List.take_append_drop n as, run_append] at hrun
  obtain ⟨u, hu, -⟩ := Option.bind_eq_some_iff.mp hrun
  exact ⟨u, hu⟩

lemma meets_at {n : ℕ} {u : σ} {a : α} (hC : Meets step C s as) (ha : as[n]? = some a)
    (hrun : run step s (as.take n) = some u) : C u a := by
  induction n generalizing s as with
  | zero =>
    cases as with
    | nil => cases ha
    | cons b bs =>
      cases hrun
      cases ha
      exact hC.1
  | succ n ih =>
    cases as with
    | nil => cases ha
    | cons b bs =>
      obtain ⟨v, hv, hrest⟩ := Option.bind_eq_some_iff.mp hrun
      exact ih (hC.2 v hv) ha hrest

/-- A run meets a condition on its actions. -/
lemma meets_of_forall {D : α → Prop} (h : ∀ a ∈ as, D a) : Meets step (fun _ a => D a) s as := by
  induction as generalizing s with
  | nil => trivial
  | cons a as ih =>
    rw [List.forall_mem_cons] at h
    exact ⟨h.1, fun u _ => ih h.2⟩

/-- The trace that makes a finite run and then rests. -/
def ofRun (hrun : run step s as = some t) (hC : Meets step C s as) : Trace step C s where
  st n := (run step s (as.take n)).getD t
  act n := as[n]?
  start := rfl
  moves n := by
    obtain ⟨u, hu⟩ := run_take hrun n
    rw [hu, Option.getD_some]
    cases ha : as[n]? with
    | none =>
      have hlen : as.length ≤ n := List.getElem?_eq_none_iff.mp ha
      rw [List.take_of_length_le hlen] at hu
      rw [List.take_of_length_le (Nat.le_succ_of_le hlen), hu]
      exact .idle
    | some a =>
      obtain ⟨v, hv⟩ := run_take hrun (n + 1)
      have htake : as.take (n + 1) = as.take n ++ [a] := by rw [List.take_add_one, ha]; rfl
      rw [hv, Option.getD_some]
      rw [htake, run_append, hu, Option.bind_some] at hv
      obtain ⟨w, hw, hrest⟩ := Option.bind_eq_some_iff.mp hv
      have hwv : w = v := Option.some.inj hrest
      rw [← hwv]
      exact .act (meets_at hC ha hu) hw

variable (hrun : run step s as = some t) (hC : Meets step C s as)

lemma run_take_ofRun (n : ℕ) : run step s (as.take n) = some ((ofRun hrun hC).st n) := by
  change _ = some ((run step s (as.take n)).getD t)
  obtain ⟨u, hu⟩ := run_take hrun n
  rw [hu, Option.getD_some]

lemma ofRun_rests {n : ℕ} (hn : as.length ≤ n) :
    (ofRun hrun hC).st n = (ofRun hrun hC).st as.length := by
  have hend := run_take_ofRun hrun hC as.length
  have hlong := run_take_ofRun hrun hC n
  rw [List.take_of_length_le (Nat.le_refl _)] at hend
  rw [List.take_of_length_le hn, hend] at hlong
  exact (Option.some.inj hlong).symm

/-- What holds in every state of the finite run holds forever. -/
lemma ofRun_forall {p : σ → Bool} (h : ∀ n, n ≤ as.length → (run step s (as.take n)).any p = true)
    (n : ℕ) : p ((ofRun hrun hC).st n) = true := by
  have hrun' (m : ℕ) (hm : m ≤ as.length) : p ((ofRun hrun hC).st m) = true := by
    have hany := h m hm
    rw [run_take_ofRun hrun hC m] at hany
    exact hany
  by_cases hn : n ≤ as.length
  · exact hrun' n hn
  · rw [ofRun_rests hrun hC (Nat.le_of_not_le hn)]
    exact hrun' as.length (Nat.le_refl _)

/-- An action recurs if it comes after the last state of the run that asks for it. -/
lemma recurs_ofRun {P : σ → Prop} [DecidablePred P] {A : α → Prop} {k : ℕ} {a : α}
    (hk : as[k]? = some a) (hA : A a)
    (h : ∀ n, n ≤ as.length →
      (run step s (as.take n)).any (fun u => decide (P u → n ≤ k)) = true) :
    (ofRun hrun hC).Recurs P A := by
  intro n hn
  have hlast (m : ℕ) (hm : m ≤ as.length) (hP : P ((ofRun hrun hC).st m)) : m ≤ k := by
    have hany := h m hm
    rw [run_take_ofRun hrun hC m] at hany
    exact of_decide_eq_true hany hP
  have hnk : n ≤ k := by
    by_cases hlen : n ≤ as.length
    · exact hlast n hlen hn
    · rw [ofRun_rests hrun hC (Nat.le_of_not_le hlen)] at hn
      have hlate := hlast as.length (Nat.le_refl _) hn
      rw [List.getElem?_eq_none hlate] at hk
      cases hk
  exact ⟨k, hnk, a, hk, hA⟩

lemma shows_ofRun {ω : Type} {obs : σ → α → Option ω} {n : ℕ} {a : α} {o : ω} (ha : as[n]? = some a)
    (h : (run step s (as.take n)).map (fun u => obs u a) = some (some o)) :
    (ofRun hrun hC).Shows obs n o := by
  rw [run_take_ofRun hrun hC n] at h
  exact ⟨a, ha, Option.some.inj h⟩

end OfRun

end Trace

end Devlib.Machine
