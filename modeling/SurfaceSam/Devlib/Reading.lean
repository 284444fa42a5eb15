import SurfaceSam.Devlib.Memory

/-!
# Programs that read a memory

A `Reading β α` is a program that reads cells one by one and ends with a value; which cell
it reads next may depend on the ones read before. It has two meanings over a memory: the
value it ends with, and the offsets it has read on the way. A parser written once in this
form is executed by the first and checked for its bounds by the second.
-/

namespace Devlib

/-- A program that reads cells of type `β` and ends with a value of type `α`. -/
inductive Reading (β α : Type) where
  | done (a : α)
  | read (off : ℕ) (k : β → Reading β α)

namespace Reading

variable {β α γ : Type}

def bind : Reading β α → (α → Reading β γ) → Reading β γ
  | done a, f => f a
  | read off k, f => read off (fun b => bind (k b) f)

instance : Monad (Reading β) where
  pure := done
  bind := bind

/-- The value the program ends with. -/
def run (mem : Memory β) : Reading β α → α
  | done a => a
  | read off k => run mem (k (mem off))

/-- The offsets the program reads, in order. -/
def offsets (mem : Memory β) : Reading β α → List ℕ
  | done _ => []
  | read off k => off :: offsets mem (k (mem off))

/-- Reads one cell. -/
def cell (off : ℕ) : Reading β β := read off done

/-- Reads `n` cells in a row. -/
def block (off : ℕ) : ℕ → Reading β (List β)
  | 0 => pure []
  | n + 1 => do
    let b ← cell off
    let bs ← block (off + 1) n
    pure (b :: bs)

@[simp] lemma run_pure (mem : Memory β) (a : α) : (pure a : Reading β α).run mem = a := rfl

@[simp] lemma run_cell (mem : Memory β) (off : ℕ) : (cell off).run mem = mem off := by
  rw [cell, run, run]

@[simp] lemma run_bind (mem : Memory β) (p : Reading β α) (f : α → Reading β γ) :
    (p >>= f).run mem = (f (p.run mem)).run mem := by
  change (bind p f).run mem = _
  induction p with
  | done a => rfl
  | read off k ih => exact ih (mem off)

@[simp] lemma run_ite (mem : Memory β) (c : Prop) {_ : Decidable c} (p q : Reading β α) :
    (if c then p else q).run mem = if c then p.run mem else q.run mem := by
  split <;> rfl

@[simp] lemma run_block (mem : Memory β) (off n : ℕ) :
    (block off n).run mem = mem.slice off n := by
  induction n generalizing off with
  | zero => rfl
  | succ n ih => simp only [block, run_bind, run_cell, run_pure, ih, Memory.slice_succ]

@[simp] lemma offsets_pure (mem : Memory β) (a : α) :
    (pure a : Reading β α).offsets mem = [] := rfl

@[simp] lemma offsets_cell (mem : Memory β) (off : ℕ) : (cell off).offsets mem = [off] := by
  rw [cell, offsets, offsets]

@[simp] lemma offsets_bind (mem : Memory β) (p : Reading β α) (f : α → Reading β γ) :
    (p >>= f).offsets mem = p.offsets mem ++ (f (p.run mem)).offsets mem := by
  change (bind p f).offsets mem = _
  induction p with
  | done a => rfl
  | read off k ih => exact congrArg (off :: ·) (ih (mem off))

@[simp] lemma mem_offsets_block (mem : Memory β) (off n i : ℕ) :
    i ∈ (block off n).offsets mem ↔ off ≤ i ∧ i < off + n := by
  induction n generalizing off with
  | zero => simp [block]
  | succ n ih =>
    simp only [block, offsets_bind, offsets_cell, offsets_pure, List.append_nil,
      List.mem_append, List.mem_singleton, ih]
    omega

/-- A program sees nothing of a memory but the cells it reads. -/
theorem run_congr {mem mem' : Memory β} (p : Reading β α)
    (h : ∀ i ∈ p.offsets mem, mem i = mem' i) :
    p.run mem = p.run mem' ∧ p.offsets mem = p.offsets mem' := by
  induction p with
  | done a => exact ⟨rfl, rfl⟩
  | read off k ih =>
    have hoff : mem off = mem' off := h off (by simp [offsets])
    have hk := ih (mem off) (fun i hi => h i (by simp [offsets, hi]))
    simp only [run, offsets, ← hoff]
    exact ⟨hk.1, congrArg (off :: ·) hk.2⟩

/-- All cells the program reads lie below `n`. -/
def Within (n : ℕ) (mem : Memory β) (p : Reading β α) : Prop :=
  ∀ i ∈ p.offsets mem, i < n

section Within

variable {n : ℕ} {mem : Memory β}

@[simp] lemma within_pure (a : α) : Within n mem (pure a) := by
  intro i hi
  cases hi

@[simp] lemma within_cell (off : ℕ) : Within n mem (cell off) ↔ off < n := by
  simp [Within]

@[simp] lemma within_bind (p : Reading β α) (f : α → Reading β γ) :
    Within n mem (p >>= f) ↔ Within n mem p ∧ Within n mem (f (p.run mem)) := by
  simp [Within, or_imp, forall_and]

@[simp] lemma within_ite (c : Prop) {_ : Decidable c} (p q : Reading β α) :
    Within n mem (if c then p else q) ↔ (c → Within n mem p) ∧ (¬c → Within n mem q) := by
  by_cases h : c
  · simp [h]
  · simp [h]

@[simp] lemma within_block (off k : ℕ) :
    Within n mem (block off k) ↔ k = 0 ∨ off + k ≤ n := by
  simp only [Within, mem_offsets_block]
  constructor
  · intro h
    by_contra hne
    have hlast := h (off + (k - 1)) (by omega)
    omega
  · intro h i hi
    omega

lemma Within.min {m : ℕ} {p : Reading β α} (hn : Within n mem p) (hm : Within m mem p) :
    Within (min n m) mem p := by
  intro i hi
  exact Nat.lt_min.mpr ⟨hn i hi, hm i hi⟩

end Within

end Reading

end Devlib
