import Mathlib.Data.List.Basic
import Mathlib.Tactic.Common

/-!
# Machines

A machine has a partial step function on states and actions. `Reaches step C` are the runs
all of whose steps meet a condition on the state before and the action; safety properties
are proved by invariants that such steps keep.
-/

namespace Devlib

variable {σ α : Type}

/-- `step s a` is the state after the action, or `none` where it is not possible. -/
abbrev Machine (σ α : Type) := σ → α → Option σ

namespace Machine

/-- The state after a list of actions. -/
def run (step : Machine σ α) : σ → List α → Option σ
  | s, [] => some s
  | s, a :: as => (step s a).bind fun t => run step t as

/-- What every step keeps, a run keeps. -/
lemma run_invariant {step : Machine σ α} {I : σ → Prop} {s t : σ} {as : List α}
    (hrun : run step s as = some t) (hs : I s)
    (hstep : ∀ t a u, I t → step t a = some u → I u) : I t := by
  induction as generalizing s with
  | nil =>
    cases hrun
    exact hs
  | cons a as ih =>
    obtain ⟨u, hu, hrest⟩ := Option.bind_eq_some_iff.mp hrun
    exact ih hrest (hstep s a u hs hu)

/-- `t` can be reached from `s` by steps that meet `C`. -/
inductive Reaches (step : Machine σ α) (C : σ → α → Prop) (s : σ) : σ → Prop
  | refl : Reaches step C s s
  | tail {t u : σ} {a : α} : Reaches step C s t → C t a → step t a = some u → Reaches step C s u

variable {step : Machine σ α} {C : σ → α → Prop} {s t : σ}

lemma run_append (as bs : List α) :
    run step s (as ++ bs) = (run step s as).bind fun t => run step t bs := by
  induction as generalizing s with
  | nil => rfl
  | cons a as ih =>
    rw [List.cons_append, run, run, Option.bind_assoc]
    simp only [ih]

/-- What holds at the start and is kept by every step holds in every state reached. -/
lemma Reaches.invariant {I : σ → Prop} (h : Reaches step C s t) (hs : I s)
    (hstep : ∀ t a u, I t → C t a → step t a = some u → I u) : I t := by
  induction h with
  | refl => exact hs
  | tail _ hc hu ih => exact hstep _ _ _ ih hc hu

lemma Reaches.trans {u : σ} (h : Reaches step C s t) (h' : Reaches step C t u) :
    Reaches step C s u := by
  induction h' with
  | refl => exact h
  | tail _ hc hu ih => exact ih.tail hc hu

/-- All steps of a run meet the condition. -/
def Meets (step : Machine σ α) (C : σ → α → Prop) : σ → List α → Prop
  | _, [] => True
  | s, a :: as => C s a ∧ ∀ t ∈ step s a, Meets step C t as

instance decidableMeets (step : Machine σ α) (C : σ → α → Prop) [∀ s a, Decidable (C s a)] :
    (s : σ) → (as : List α) → Decidable (Meets step C s as)
  | _, [] => inferInstanceAs (Decidable True)
  | s, a :: as =>
    have := fun t => decidableMeets step C t as
    inferInstanceAs (Decidable (C s a ∧ ∀ t ∈ step s a, Meets step C t as))

lemma reaches_of_run {as : List α} (hrun : run step s as = some t) (hC : Meets step C s as) :
    Reaches step C s t := by
  induction as generalizing s with
  | nil =>
    cases hrun
    exact .refl
  | cons a as ih =>
    obtain ⟨u, hu, hrest⟩ := Option.bind_eq_some_iff.mp hrun
    exact (Reaches.refl.tail hC.1 hu).trans (ih hrest (hC.2 u hu))

/-- The property holds in every state of a run. -/
def Always (step : Machine σ α) (P : σ → Prop) : σ → List α → Prop
  | s, [] => P s
  | s, a :: as => P s ∧ ∀ t ∈ step s a, Always step P t as

section Always

variable {P : σ → Prop} {as : List α}

lemma Always.head (h : Always step P s as) : P s := by
  cases as with
  | nil => exact h
  | cons a as => exact h.1

/-- The end of a run is one of its states. -/
lemma Always.last (h : Always step P s as) (hrun : run step s as = some t) : P t := by
  induction as generalizing s with
  | nil =>
    cases hrun
    exact h
  | cons a as ih =>
    obtain ⟨u, hu, hrest⟩ := Option.bind_eq_some_iff.mp hrun
    exact ih (h.2 u hu) hrest

/-- An invariant of the steps that meet a condition holds throughout a run of them. -/
lemma Meets.always {I : σ → Prop} {D : α → Prop} (hC : Meets step C s as) (hD : ∀ a ∈ as, D a)
    (hs : I s) (hstep : ∀ t a u, I t → D a → C t a → step t a = some u → I u) :
    Always step I s as := by
  induction as generalizing s with
  | nil => exact hs
  | cons a as ih =>
    rw [List.forall_mem_cons] at hD
    exact ⟨hs, fun t ht => ih (hC.2 t ht) hD.2 (hstep s a t hs hD.1 hC.1 ht)⟩

lemma Always.imp {Q : σ → Prop} (h : Always step P s as) (hPQ : ∀ t, P t → Q t) :
    Always step Q s as := by
  induction as generalizing s with
  | nil => exact hPQ s h
  | cons a as ih => exact ⟨hPQ s h.1, fun t ht => ih (h.2 t ht)⟩

/-- Where the states of a run all have the property, its steps meet what follows from it. -/
lemma Always.meets (h : Always step P s as) (hPC : ∀ t a, P t → C t a) : Meets step C s as := by
  induction as generalizing s with
  | nil => trivial
  | cons a as ih => exact ⟨hPC s a h.1, fun t ht => ih (h.2 t ht)⟩

end Always

end Machine

end Devlib
