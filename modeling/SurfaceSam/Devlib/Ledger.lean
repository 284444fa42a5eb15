import Mathlib.Data.List.Count
import Mathlib.Logic.Function.Basic
import Mathlib.Tactic.Common

/-!
# Ledgers of resources

Resources are numbered in the order they are allocated, and a ledger counts how often each
has been released. `Owns ledger owned` says in one equation that the resources in `owned` are
allocated, different and not released, and that every other allocated one has been released
exactly once.
-/

namespace Devlib

structure Ledger where
  next : ℕ
  released : ℕ → ℕ

namespace Ledger

def empty : Ledger := ⟨0, fun _ => 0⟩

/-- The resource allocated next, and the ledger with it. -/
def alloc (l : Ledger) : ℕ × Ledger := (l.next, { l with next := l.next + 1 })

def release (l : Ledger) (r : ℕ) : Ledger :=
  { l with released := Function.update l.released r (l.released r + 1) }

/-- Releasing through a pointer; a null pointer is ignored. -/
def releasePtr (l : Ledger) : Option ℕ → Ledger
  | none => l
  | some r => l.release r

/-- Releasing several, the first of the list first. -/
def releaseAll (l : Ledger) (rs : List ℕ) : Ledger := rs.foldl release l

def Owns (l : Ledger) (owned : List ℕ) : Prop :=
  ∀ r, owned.count r + l.released r = if r < l.next then 1 else 0

variable {l : Ledger} {owned owned' : List ℕ} {r : ℕ}

lemma owns_empty : empty.Owns [] := by
  intro r
  rfl

/-- Who owns what does not matter, only what is owned. -/
lemma Owns.congr (h : l.Owns owned) (hcount : ∀ r, owned'.count r = owned.count r) :
    l.Owns owned' := by
  intro r
  rw [hcount]
  exact h r

lemma Owns.alloc (h : l.Owns owned) : l.alloc.2.Owns (l.alloc.1 :: owned) := by
  intro r
  have hr := h r
  unfold Ledger.alloc
  rw [List.count_cons]
  dsimp only
  by_cases heq : l.next = r
  · subst heq
    rw [if_neg (Nat.lt_irrefl _)] at hr
    simp
    omega
  · rw [if_neg (by simpa using heq)]
    split_ifs at hr ⊢
    · omega
    · omega
    · omega
    · omega

lemma Owns.release (h : l.Owns (r :: owned)) : (l.release r).Owns owned := by
  intro x
  have hx := h x
  unfold Ledger.release
  dsimp only
  rw [List.count_cons] at hx
  by_cases heq : x = r
  · subst heq
    rw [Function.update_self]
    simp only [beq_self_eq_true, if_true] at hx
    omega
  · rw [Function.update_of_ne heq]
    rw [if_neg (by simpa using fun h => heq h.symm)] at hx
    omega

lemma Owns.perm (h : l.Owns owned) (hperm : owned.Perm owned') : l.Owns owned' :=
  h.congr fun r => (hperm.count_eq r).symm

lemma Owns.releaseAll {rs : List ℕ} (h : l.Owns (rs ++ owned)) : (l.releaseAll rs).Owns owned := by
  induction rs generalizing l with
  | nil => exact h
  | cons r rs ih => exact ih (Owns.release h)

lemma Owns.live (h : l.Owns owned) (hr : r ∈ owned) : r < l.next ∧ l.released r = 0 := by
  have hcount := List.count_pos_iff.mpr hr
  have heq := h r
  split_ifs at heq with hlt
  · exact ⟨hlt, by omega⟩
  · omega

/-- When nothing is owned, everything has been released exactly once. -/
lemma Owns.all_released (h : l.Owns []) (hr : r < l.next) : l.released r = 1 := by
  have heq := h r
  rw [if_pos hr] at heq
  simpa using heq

end Ledger

end Devlib
